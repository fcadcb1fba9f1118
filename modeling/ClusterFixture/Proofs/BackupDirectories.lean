/-
Two tours of the backup directories.

Cleaning up and checking both ask for the hosts, ask for the directories of each host when its turn
comes, and run a command for each directory; they end at the first command that does not satisfy
them. A tour is a list of stops, where the catalog is asked or a directory is visited, and what is
proved of a run along such a list holds of both. What they differ in is an `Inspection`: the command
for a visit, the outputs that satisfy, and the fault that is reported of any other.
-/

import ClusterFixture.Operation.Hosts
import ClusterFixture.Proofs.ProcessListings
import ClusterFixture.Proofs.RemoteCommands

set_option autoImplicit false

namespace ClusterFixture.Op

variable {σ : Type}

/-! ## Catalogs -/

/-- The hosts of a cluster, and the backup directories of each of them. -/
structure BackupCatalog where
  hosts : List String
  directories : String → List String

/-- The pairs of a host and one of its directories, host by host. -/
def BackupCatalog.pairs (c : BackupCatalog) : List (String × String) :=
  c.hosts.flatMap fun host => (c.directories host).map fun directory => (host, directory)

/-- A query answers rows with these texts in their first column, blanks around them aside, whatever
state the server is in. -/
def AnswersTexts (site : Site σ) (database statement : String) (texts : List String) : Prop :=
  ∀ state, ∃ rows, ((site.services.query { database } statement).run state).1 = .ok rows ∧
    rows.map (fun row => (row.text? 0).map Text.trim) = texts.map some

/-- A server answers from a catalog, and always from the same one. -/
structure AnswersBackups (site : Site σ) (database : String) (c : BackupCatalog) : Prop where
  hosts : AnswersTexts site database Sql.Statement.primaryHosts c.hosts
  directories : ∀ host ∈ c.hosts,
    AnswersTexts site database (Sql.Statement.directoriesOfHost host) (c.directories host)

/-! ## Stops -/

/-- A tour asks the catalog, or visits a directory of a host. -/
inductive Stop where
  | ask (statement : String)
  | visit (pair : String × String)

/-- The stops of a tour of all directories of all hosts. -/
def BackupCatalog.stops (c : BackupCatalog) : List Stop :=
  .ask Sql.Statement.primaryHosts :: c.hosts.flatMap fun host =>
    .ask (Sql.Statement.directoriesOfHost host) ::
      (c.directories host).map fun directory => .visit (host, directory)

/-- The pair that is visited at a stop. -/
def Stop.pair? : Stop → Option (String × String)
  | .ask _ => none
  | .visit pair => some pair

theorem filterMap_pair?_stops (c : BackupCatalog) : c.stops.filterMap Stop.pair? = c.pairs := by
  rw [BackupCatalog.stops, BackupCatalog.pairs, List.filterMap_cons_none rfl,
    List.filterMap_flatMap]
  refine congrArg (List.flatMap · c.hosts) (funext fun host => ?_)
  rw [List.filterMap_cons_none rfl, List.filterMap_map]
  exact congrFun List.filterMap_eq_map' _

/-! ## Inspections -/

/-- What a tour does about a pair: a command, the outputs that satisfy it, and what it reports of an
output that does not. -/
structure Inspection where
  command : String × String → Command
  Satisfied : CommandOutput → Prop
  blame : String × String → CommandOutput → Fault

namespace Inspection

variable (v : Inspection)

/-- A command could be started, and its output satisfies. -/
def Passes (answer : Checked CommandOutput) : Prop :=
  ∃ output, answer = .ok output ∧ v.Satisfied output

/-- The fault that is reported of an answer that does not pass. -/
def fault (pair : String × String) : Checked CommandOutput → Fault
  | .ok output => v.blame pair output
  | .error f => f

theorem not_passes_error (f : Fault) : ¬v.Passes (.error f) := by
  rintro ⟨output, houtput, -⟩
  cases houtput

theorem passes_ok_iff (output : CommandOutput) : v.Passes (.ok output) ↔ v.Satisfied output :=
  ⟨fun ⟨_, hsame, h⟩ => Except.ok.inj hsame ▸ h, fun h => ⟨output, rfl, h⟩⟩

/-- An operation on pairs inspects them: it runs the command, and fails unless the answer passes. -/
def DoneBy (site : Site σ) (act : String → String → Op σ Unit) : Prop :=
  ∀ pair w, ∃ w',
    let answer := (site.services.run (v.command pair)).run (w.server, w.files)
    Went w [.run (v.command pair)] answer.2 w' ∧
      (v.Passes answer.1 ∧ runAt (act pair.1 pair.2) site w = (.ok (), w') ∨
        ¬v.Passes answer.1 ∧
          runAt (act pair.1 pair.2) site w = (.error (v.fault pair answer.1), w'))

end Inspection

/-! ## Answers along a tour -/

section

variable (site : Site σ) (database : String) (v : Inspection)

/-- The call that is made at a stop. -/
def Stop.call : Stop → Call
  | .ask statement => .query { database } statement
  | .visit pair => .run (v.command pair)

/-- The state that a stop leaves. -/
def Stop.leaves (state : σ × FileTree) : Stop → σ × FileTree
  | .ask statement => ((site.services.query { database } statement).run state).2
  | .visit pair => ((site.services.run (v.command pair)).run state).2

/-- The pair that is visited at a stop, with what comes of the command. -/
def Stop.visit? (state : σ × FileTree) : Stop → Option ((String × String) × Checked CommandOutput)
  | .ask _ => none
  | .visit pair => some (pair, ((site.services.run (v.command pair)).run state).1)

/-- The visits if nothing ends the tour, in order. -/
def visits : σ × FileTree → List Stop → List ((String × String) × Checked CommandOutput)
  | _, [] => []
  | state, stop :: rest =>
    (stop.visit? site v state).toList ++ visits (stop.leaves site database v state) rest

theorem map_fst_visits (state : σ × FileTree) (stops : List Stop) :
    (visits site database v state stops).map Prod.fst = stops.filterMap Stop.pair? := by
  induction stops generalizing state with
  | nil => rfl
  | cons stop rest ih =>
    rw [visits, List.map_append, ih]
    cases stop <;> rfl

/-- What a stop is in an operation: a query whose answer is not used again, or the operation on the
pair. -/
def Stop.perform (act : String → String → Op σ Unit) : Stop → Op σ Unit
  | .ask statement => discard (query database statement)
  | .visit pair => act pair.1 pair.2

end

/-! ## Runs along stops -/

section

variable {site : Site σ} {database : String} {v : Inspection} {act : String → String → Op σ Unit}

/-- A query at a stop is answered. -/
def Stop.Answered (site : Site σ) (database : String) : Stop → Prop
  | .ask statement => ∀ state, ∃ rows,
      ((site.services.query { database } statement).run state).1 = .ok rows
  | .visit _ => True

/-- At a stop that is answered and passes, the call is all that happens. -/
theorem went_stop (hact : v.DoneBy site act) {stop : Stop} {w : World σ}
    (hask : stop.Answered site database)
    (hpass : ∀ visit ∈ (stop.visit? site v (w.server, w.files)).toList, v.Passes visit.2) :
    ∃ w', runAt (stop.perform database act) site w = (.ok (), w') ∧
      Went w [stop.call database v] (stop.leaves site database v (w.server, w.files)) w' := by
  cases stop with
  | ask statement =>
    obtain ⟨rows, hrows⟩ := hask (w.server, w.files)
    obtain ⟨w', hrun, hwent⟩ := went_queryAt { database } statement site w
    refine ⟨w', ?_, hwent⟩
    rw [hrows] at hrun
    rw [Stop.perform, runAt_discard, query, hrun]
    rfl
  | visit pair =>
    obtain ⟨w', hwent, ⟨-, hok⟩ | ⟨hfails, -⟩⟩ := hact pair w
    · exact ⟨w', hok, hwent⟩
    · exact absurd (hpass _ (List.mem_singleton.mpr rfl)) hfails

/-- If all that is visited passes, the run goes through all stops. -/
theorem went_stops_of_passes (hact : v.DoneBy site act) {stops : List Stop} {w : World σ}
    (hasks : ∀ stop ∈ stops, stop.Answered site database)
    (hpass : ∀ visit ∈ visits site database v (w.server, w.files) stops, v.Passes visit.2) :
    ∃ w', runAt (stops.forM (Stop.perform database act)) site w = (.ok (), w') ∧
      w'.calls = w.calls ++ stops.map (Stop.call database v) := by
  induction stops generalizing w with
  | nil => exact ⟨w, rfl, (List.append_nil _).symm⟩
  | cons stop rest ih =>
    obtain ⟨hask, hasks⟩ := List.forall_mem_cons.mp hasks
    obtain ⟨hfirst, hrest⟩ := List.forall_mem_append.mp hpass
    obtain ⟨w₁, hrun₁, hwent₁⟩ := went_stop hact hask hfirst
    rw [← hwent₁.left] at hrest
    obtain ⟨w₂, hrun₂, hcalls₂⟩ := ih hasks hrest
    refine ⟨w₂, ?_, ?_⟩
    · rw [runAt_forM_cons, hrun₁]
      exact hrun₂
    · rw [hcalls₂, hwent₁.calls, List.append_assoc]
      rfl

/-- The commands among some calls. -/
def commandsIn (calls : List Call) : List Command :=
  calls.filterMap fun call => match call with
    | .run c => some c
    | _ => none

/-- Otherwise it ends at the first visit that does not pass: the fault of that visit is reported,
and its command is the last. -/
theorem went_stops_of_fails (hact : v.DoneBy site act) {stops : List Stop} {w : World σ}
    (hasks : ∀ stop ∈ stops, stop.Answered site database)
    {before after : List ((String × String) × Checked CommandOutput)} {pair : String × String}
    {answer : Checked CommandOutput}
    (hsplit : visits site database v (w.server, w.files) stops = before ++ (pair, answer) :: after)
    (hpass : ∀ visit ∈ before, v.Passes visit.2) (hfail : ¬v.Passes answer) :
    ∃ w' made, runAt (stops.forM (Stop.perform database act)) site w =
        (.error (v.fault pair answer), w') ∧
      w'.calls = w.calls ++ made ∧
      commandsIn made = (before.map Prod.fst ++ [pair]).map v.command := by
  -- on the stops, where what has passed before the failing visit shrinks with them
  induction stops generalizing w before with
  | nil => simp [visits] at hsplit
  | cons stop rest ih =>
    obtain ⟨hask, hasks⟩ := List.forall_mem_cons.mp hasks
    -- past a stop that passes, the rest of the run ends there
    have hgoes : ∀ {before},
        (∀ visit ∈ (stop.visit? site v (w.server, w.files)).toList, v.Passes visit.2) →
        visits site database v (stop.leaves site database v (w.server, w.files)) rest =
          before ++ (pair, answer) :: after →
        (∀ visit ∈ before, v.Passes visit.2) →
        ∃ w' made, runAt ((stop :: rest).forM (Stop.perform database act)) site w =
            (.error (v.fault pair answer), w') ∧
          w'.calls = w.calls ++ stop.call database v :: made ∧
          commandsIn made = (before.map Prod.fst ++ [pair]).map v.command := by
      intro before hfirst hsplit hpass
      obtain ⟨w₁, hrun₁, hwent₁⟩ := went_stop hact hask hfirst
      rw [← hwent₁.left] at hsplit
      obtain ⟨w₂, made, hrun₂, hcalls₂, hmade⟩ := ih hasks hsplit hpass
      refine ⟨w₂, made, ?_, ?_, hmade⟩
      · rw [runAt_forM_cons, hrun₁]
        exact hrun₂
      · rw [hcalls₂, hwent₁.calls, List.append_assoc]
        rfl
    cases stop with
    | ask statement =>
      obtain ⟨w', made, hrun, hcalls, hmade⟩ := hgoes (by simp [Stop.visit?]) hsplit hpass
      exact ⟨w', _, hrun, hcalls, hmade⟩
    | visit first =>
      rcases before with _ | ⟨visit, before⟩
      -- with nothing before it, this visit is the one that fails, and the run ends here
      · obtain ⟨hvisit, -⟩ := List.cons.inj hsplit
        obtain ⟨rfl, rfl⟩ := Prod.mk.inj hvisit
        obtain ⟨w', hwent, ⟨hpasses, -⟩ | ⟨-, hends⟩⟩ := hact first w
        · exact absurd hpasses hfail
        · refine ⟨w', _, ?_, hwent.calls, rfl⟩
          have hrun : runAt ((Stop.visit first).perform database act) site w = _ := hends
          rw [runAt_forM_cons, hrun]
      · obtain ⟨rfl, hmore⟩ := List.cons.inj hsplit
        obtain ⟨hfirst, hpass⟩ := List.forall_mem_cons.mp hpass
        obtain ⟨w', made, hrun, hcalls, hmade⟩ :=
          hgoes (List.forall_mem_singleton.mpr hfirst) hmore hpass
        refine ⟨w', _, hrun, hcalls, ?_⟩
        rw [List.map_cons, List.cons_append, List.map_cons, ← hmade]
        rfl

/-- Where not all visits pass, there is a first that does not. -/
theorem exists_first_fails {visited : List ((String × String) × Checked CommandOutput)}
    (h : ¬∀ visit ∈ visited, v.Passes visit.2) :
    ∃ before pair answer after, visited = before ++ (pair, answer) :: after ∧
      (∀ visit ∈ before, v.Passes visit.2) ∧ ¬v.Passes answer := by
  classical
  rcases hfind : visited.find? (fun visit => ¬v.Passes visit.2) with _ | ⟨pair, answer⟩
  · exact absurd (by simpa using List.find?_eq_none.mp hfind) h
  · obtain ⟨hfails, before, after, hsplit, hbefore⟩ := List.find?_eq_some_iff_append.mp hfind
    exact ⟨before, pair, answer, after, hsplit, by simpa using hbefore, by simpa using hfails⟩

end

/-! ## Tours -/

section

variable {site : Site σ} {database : String}

/-- An operation on all directories of all hosts. -/
def tour (database : String) (act : String → String → Op σ Unit) : Op σ Unit := do
  (← primaryHosts database).forM fun host => do
    (← directoriesOfHost host database).forM fun directory => act host directory

theorem cleanAllDumps_eq (database : String) :
    (cleanAllDumps database none : Op σ Unit) = tour database cleanDumps := rfl

theorem checkAllDumpsGone_eq (database : String) :
    (checkAllDumpsGone database : Op σ Unit) = tour database checkDumpsGone := rfl

theorem AnswersTexts.answered {statement : String} {texts : List String}
    (h : AnswersTexts site database statement texts) :
    (Stop.ask statement).Answered site database :=
  fun state => (h state).imp fun _ hrows => hrows.1

/-- The texts of a column that has them are read, blanks around them aside. -/
theorem mapM_text {rows : List Sql.Row} {texts : List String}
    (h : rows.map (fun row => (row.text? 0).map Text.trim) = texts.map some) :
    (rows.mapM fun row => do return Text.trim (← row.text 0) : Checked (List String)) =
      .ok texts := by
  induction rows generalizing texts with
  | nil =>
    obtain rfl := List.map_eq_nil_iff.mp h.symm
    rfl
  | cons row rest ih =>
    rcases texts with _ | ⟨text, more⟩
    · cases h
    · obtain ⟨hrow, hrest⟩ := List.cons.inj h
      obtain ⟨raw, hraw, rfl⟩ := Option.map_eq_some_iff.mp hrow
      have hread : row.text 0 = .ok raw := by
        rw [Sql.Row.text, Option.join_eq_some_iff.mp hraw]
      rw [List.mapM_cons, ih hrest, hread]
      rfl

/-- So what follows a query for texts goes on with these texts, as it would from a stop. -/
theorem runAt_column_bind {statement : String} {texts : List String}
    (h : AnswersTexts site database statement texts) (act : String → String → Op σ Unit)
    (next : List String → Op σ Unit) (w : World σ) :
    runAt (column database statement 0 >>= next) site w =
      runAt ((Stop.ask statement).perform database act >>= fun _ => next texts) site w := by
  obtain ⟨rows, hrows, htexts⟩ := h (w.server, w.files)
  obtain ⟨w', hrun, -⟩ := went_queryAt { database } statement site w
  rw [hrows] at hrun
  have hcolumn : runAt (column database statement 0) site w = (.ok texts, w') := by
    rw [column, query, runAt_bind_ok hrun, mapM_text htexts, runAt_check]
  have hstop : runAt ((Stop.ask statement).perform database act) site w = (.ok (), w') := by
    rw [Stop.perform, runAt_discard, query, hrun]
    rfl
  rw [runAt_bind_ok hcolumn, runAt_bind_ok hstop]

/-- Runs for the members of a list that are runs for lists of their own are a run for all of
these. -/
theorem runAt_forM_flatMap {α β : Type} {f : α → Op σ Unit} {g : β → Op σ Unit} {parts : α → List β}
    {as : List α} (h : ∀ a ∈ as, ∀ w, runAt (f a) site w = runAt ((parts a).forM g) site w)
    (w : World σ) : runAt (as.forM f) site w = runAt ((as.flatMap parts).forM g) site w := by
  induction as generalizing w with
  | nil => rfl
  | cons a rest ih =>
    obtain ⟨ha, hrest⟩ := List.forall_mem_cons.mp h
    have hcons : (a :: rest).forM f = f a >>= fun _ => rest.forM f := rfl
    have happend : (parts a ++ rest.flatMap parts).forM g =
        (parts a).forM g >>= fun _ => (rest.flatMap parts).forM g :=
      List.forM_append
    rw [List.flatMap_cons, happend, hcons, runAt_bind, runAt_bind, ha]
    rcases runAt ((parts a).forM g) site w with ⟨f | _, w'⟩
    · rfl
    · exact ih hrest w'

/-- A tour is a run along the stops of the catalog. -/
theorem runAt_tour {c : BackupCatalog} (h : AnswersBackups site database c)
    (act : String → String → Op σ Unit) (w : World σ) :
    runAt (tour database act) site w =
      runAt (c.stops.forM (Stop.perform database act)) site w := by
  have hcons : c.stops.forM (Stop.perform database act) =
      (Stop.ask Sql.Statement.primaryHosts).perform database act >>= fun _ =>
        (c.hosts.flatMap fun host => .ask (Sql.Statement.directoriesOfHost host) ::
          (c.directories host).map fun directory => .visit (host, directory)).forM
            (Stop.perform database act) := rfl
  rw [hcons, tour, primaryHosts, runAt_column_bind h.hosts act, runAt_bind, runAt_bind]
  rcases runAt ((Stop.ask Sql.Statement.primaryHosts).perform database act) site w
    with ⟨f | _, w'⟩
  · rfl
  · refine runAt_forM_flatMap (fun host hhost w => ?_) w'
    have hvisits : ((c.directories host).map fun directory => Stop.visit (host, directory)).forM
        (Stop.perform database act) =
          (c.directories host).forM fun directory => act host directory := by
      rw [List.forM_eq_forM, List.forM_map]
      rfl
    rw [directoriesOfHost, runAt_column_bind (h.directories host hhost) act, ← hvisits]
    rfl

theorem answered_stops {c : BackupCatalog} (h : AnswersBackups site database c) :
    ∀ stop ∈ c.stops, stop.Answered site database := by
  intro stop hstop
  rcases List.mem_cons.mp hstop with rfl | hstop
  · exact h.hosts.answered
  · obtain ⟨host, hhost, hstop⟩ := List.mem_flatMap.mp hstop
    rcases List.mem_cons.mp hstop with rfl | hvisit
    · exact (h.directories host hhost).answered
    · obtain ⟨directory, -, rfl⟩ := List.mem_map.mp hvisit
      exact trivial

/-- What a run comes to that inspects the pairs of a catalog: it visits all of them in order, or it
ends at the first that does not pass. -/
structure Inspects (site : Site σ) (database : String) (c : BackupCatalog) (v : Inspection)
    (w : World σ) (run : Checked Unit × World σ) : Prop where
  /-- Each pair is visited, unless the run ends before. -/
  pairs : (visits site database v (w.server, w.files) c.stops).map Prod.fst = c.pairs
  ok_iff : run.1 = .ok () ↔
    ∀ visit ∈ visits site database v (w.server, w.files) c.stops, v.Passes visit.2
  all : run.1 = .ok () →
    commandsIn run.2.calls = commandsIn w.calls ++ c.pairs.map v.command
  first : run.1 ≠ .ok () → ∃ before pair answer after,
    visits site database v (w.server, w.files) c.stops = before ++ (pair, answer) :: after ∧
      (∀ visit ∈ before, v.Passes visit.2) ∧ ¬v.Passes answer ∧
      run.1 = .error (v.fault pair answer) ∧
      commandsIn run.2.calls = commandsIn w.calls ++ (before.map Prod.fst ++ [pair]).map v.command

theorem commandsIn_append (a b : List Call) : commandsIn (a ++ b) = commandsIn a ++ commandsIn b :=
  List.filterMap_append

theorem commandsIn_stops (v : Inspection) (stops : List Stop) :
    commandsIn (stops.map (Stop.call database v)) =
      (stops.filterMap Stop.pair?).map v.command := by
  rw [commandsIn, List.filterMap_map, List.map_filterMap]
  refine List.filterMap_congr fun stop _ => ?_
  cases stop <;> rfl

/-- A tour inspects the pairs of the catalog. -/
theorem inspects_tour {c : BackupCatalog} (h : AnswersBackups site database c) {v : Inspection}
    {act : String → String → Op σ Unit} (hact : v.DoneBy site act) (w : World σ) :
    Inspects site database c v w (runAt (tour database act) site w) := by
  rw [runAt_tour h]
  have hpairs : (visits site database v (w.server, w.files) c.stops).map Prod.fst = c.pairs := by
    rw [map_fst_visits, filterMap_pair?_stops]
  by_cases hpass : ∀ visit ∈ visits site database v (w.server, w.files) c.stops, v.Passes visit.2
  · obtain ⟨w', hrun, hcalls⟩ := went_stops_of_passes hact (answered_stops h) hpass
    rw [hrun]
    refine ⟨hpairs, iff_of_true rfl hpass, fun _ => ?_, fun hbad => absurd rfl hbad⟩
    rw [hcalls, commandsIn_append, commandsIn_stops, filterMap_pair?_stops]
  · obtain ⟨before, pair, answer, after, hsplit, hbefore, hfails⟩ := exists_first_fails hpass
    obtain ⟨w', made, hrun, hcalls, hmade⟩ :=
      went_stops_of_fails hact (answered_stops h) hsplit hbefore hfails
    rw [hrun]
    refine ⟨hpairs, iff_of_false (by simp) hpass, fun hok => by simp at hok, fun _ => ?_⟩
    refine ⟨before, pair, answer, after, hsplit, hbefore, hfails, rfl, ?_⟩
    rw [hcalls, commandsIn_append, hmade]

end

/-! ## Cleaning up -/

/-- The text that takes the dumps below a directory away. -/
def removalText (directory : String) : String :=
  "rm -rf " ++ directory ++ "/db_dumps " ++ directory ++ "/gpcrondump.pid"

/-- The command that has a host take its dumps away. -/
def removalCommand (s : Settings.Harness) (pair : String × String) : Command :=
  commandOf s "cleanup dump dir" (Shell.quotedLine pair.1 (removalText pair.2))

/-- Cleaning up is satisfied with a command that ended with zero. -/
def removal (s : Settings.Harness) : Inspection where
  command := removalCommand s
  Satisfied output := output.status = 0
  blame pair output := output.failure (removalCommand s pair)

theorem runAt_cleanDumps (host directory : String) (site : Site σ) (w : World σ) :
    runAt (cleanDumps host directory) site w =
      runAt (discard (run ((removal site.settings).command (host, directory)))) site w := by
  have hline : "gpssh -h " ++ host ++ " -e 'rm -rf " ++ directory ++ "/db_dumps " ++ directory
      ++ "/gpcrondump.pid'" = Shell.quotedLine host (removalText directory) := by
    have hopen : " -e 'rm -rf " = " -e '" ++ "rm -rf " := rfl
    have hclose : "/gpcrondump.pid'" = "/gpcrondump.pid" ++ "'" := rfl
    simp only [Shell.quotedLine, removalText, hopen, hclose, String.append_assoc]
  rw [cleanDumps, hline]
  exact runAt_bind_ok (runAt_localCommand _ _ site w) _

theorem removal_doneBy (site : Site σ) : (removal site.settings).DoneBy site cleanDumps := by
  intro pair w
  obtain ⟨w', hwent, hcases⟩ := went_run_cases ((removal site.settings).command pair) site w
  refine ⟨w', hwent, ?_⟩
  rw [runAt_cleanDumps, runAt_discard]
  rcases hcases with ⟨f, hanswer, hrun⟩ | ⟨output, hanswer, ⟨hstatus, hrun⟩ | ⟨hstatus, hrun⟩⟩ <;>
    rw [hanswer, hrun]
  · exact .inr ⟨Inspection.not_passes_error _ f, rfl⟩
  · exact .inr ⟨mt (Inspection.passes_ok_iff _ output).mp hstatus, rfl⟩
  · exact .inl ⟨(Inspection.passes_ok_iff _ output).mpr hstatus, rfl⟩

/-- Neither a host nor a directory has a character that a shell acts on. -/
structure PlainPair (pair : String × String) : Prop where
  host : Shell.IsHostName pair.1
  directory : ∀ c ∈ pair.2.toList, Shell.isPlain c = true

/-- Then the host is handed a text that its shell reads as the removal of the dumps below the
directory. -/
theorem plainWords?_removal (s : Settings.Harness) {pair : String × String} (h : PlainPair pair) :
    Shell.plainWords? ((removal s).command pair).line =
        some ["gpssh", "-h", pair.1, "-e", removalText pair.2] ∧
      Shell.plainWords? (removalText pair.2) =
        some ["rm", "-rf", pair.2 ++ "/db_dumps", pair.2 ++ "/gpcrondump.pid"] := by
  have hbelow : ∀ name ∈ ["/db_dumps", "/gpcrondump.pid"],
      ∀ c ∈ (pair.2 ++ name).toList, Shell.isPlain c = true := by
    intro name hname c hc
    have hplain : ∀ name ∈ ["/db_dumps", "/gpcrondump.pid"],
        name.toList.all Shell.isPlain = true := by
      decide
    rw [String.toList_append] at hc
    rcases List.mem_append.mp hc with hc | hc
    · exact h.directory c hc
    · exact List.all_eq_true.mp (hplain name hname) c hc
  have htext : (removalText pair.2).toList = "rm".toList ++ ' ' :: ("-rf".toList ++ ' ' ::
      ((pair.2 ++ "/db_dumps").toList ++ ' ' :: (pair.2 ++ "/gpcrondump.pid").toList)) := by
    have hopen : "rm -rf ".toList = "rm".toList ++ ' ' :: ("-rf".toList ++ [' ']) := rfl
    have hfirst : "/db_dumps ".toList = "/db_dumps".toList ++ [' '] := rfl
    simp only [removalText, String.toList_append, hopen, hfirst, List.append_assoc,
      List.cons_append, List.nil_append]
  refine ⟨Shell.plainWords?_quotedLine h.host ?_, ?_⟩
  · have hquote : '\'' ∉ pair.2.toList := fun hmem => by cases h.directory _ hmem
    have hopen : '\'' ∉ "rm -rf ".toList := by decide
    have hfirst : '\'' ∉ "/db_dumps ".toList := by decide
    have hsecond : '\'' ∉ "/gpcrondump.pid".toList := by decide
    simp only [removalText, String.toList_append, List.mem_append, not_or]
    exact ⟨⟨⟨⟨hopen, hquote⟩, hfirst⟩, hquote⟩, hsecond⟩
  · rw [Shell.plainWords?, htext,
      Shell.Splitting.words?_plain_blank (by decide) (List.all_eq_true.mp (by decide)),
      Shell.Splitting.words?_plain_blank (by decide) (List.all_eq_true.mp (by decide)),
      Shell.Splitting.words?_plain_blank (by simp) (hbelow _ (by simp)),
      Shell.Splitting.words?_plain (by simp) (hbelow _ (by simp))]
    simp

/-! ## Checking -/

/-- The text that looks for dumps below a directory. -/
def probeText (directory : String) : String :=
  "if [ -d " ++ directory ++ "/db_dumps/ ]; then echo EXISTS; else echo NOT FOUND; fi"

/-- A line of output reports a directory: without the blanks behind it, it ends in these
characters. -/
def Reports (line : String) : Prop := "] EXISTS".toList <:+ (Text.trimEnd line).toList

theorem reportsPresence_iff (line : String) : reportsPresence line = true ↔ Reports line :=
  List.isSuffixOf_iff_suffix

/-- The fault that names a directory with dumps. -/
def dumpsLeft (pair : String × String) : Fault :=
  .detailed .assertionFailed "db_dumps directory is present in master/segments."
    (pair.1 ++ ":" ++ pair.2 ++ "/db_dumps")

/-- The command that has a host look for dumps. -/
def probeCommand (s : Settings.Harness) (pair : String × String) : Command :=
  commandOf s "check dump dir" ("gpssh -h " ++ pair.1 ++ " '" ++ probeText pair.2 ++ "'")

/-- Checking is satisfied with a command that ended with zero and reported nothing. -/
def probing (s : Settings.Harness) : Inspection where
  command := probeCommand s
  Satisfied output := output.status = 0 ∧ ∀ line ∈ Text.lines output.stdout, ¬Reports line
  blame pair output :=
    if output.status = 0 then dumpsLeft pair else output.failure (probeCommand s pair)

theorem fault_probing (s : Settings.Harness) (pair : String × String) (output : CommandOutput) :
    (probing s).fault pair (.ok output) =
      if output.status = 0 then dumpsLeft pair else output.failure ((probing s).command pair) := rfl

theorem passes_probing_iff (s : Settings.Harness) {output : CommandOutput}
    (hstatus : output.status = 0) :
    (probing s).Passes (.ok output) ↔ (Text.lines output.stdout).any reportsPresence = false := by
  rw [Inspection.passes_ok_iff, List.any_eq_false]
  simp only [reportsPresence_iff]
  exact and_iff_right hstatus

theorem runAt_checkDumpsGone (pair : String × String) (site : Site σ) (w : World σ) :
    runAt (checkDumpsGone pair.1 pair.2) site w =
      runAt (run ((probing site.settings).command pair) >>= fun output =>
        if (Text.lines output.stdout).any reportsPresence then throw (dumpsLeft pair)
        else pure ()) site w := by
  have hline : "gpssh -h " ++ pair.1 ++ " 'if [ -d " ++ pair.2
      ++ "/db_dumps/ ]; then echo EXISTS; else echo NOT FOUND; fi'" =
      "gpssh -h " ++ pair.1 ++ " '" ++ probeText pair.2 ++ "'" := by
    have hopen : " 'if [ -d " = " '" ++ "if [ -d " := rfl
    have hclose : "/db_dumps/ ]; then echo EXISTS; else echo NOT FOUND; fi'" =
        "/db_dumps/ ]; then echo EXISTS; else echo NOT FOUND; fi" ++ "'" := rfl
    simp only [probeText, hopen, hclose, String.append_assoc]
  rw [checkDumpsGone, hline]
  exact runAt_bind_ok (runAt_localCommand _ _ site w) _

theorem probing_doneBy (site : Site σ) : (probing site.settings).DoneBy site checkDumpsGone := by
  intro pair w
  obtain ⟨w', hwent, hcases⟩ := went_run_cases ((probing site.settings).command pair) site w
  refine ⟨w', hwent, ?_⟩
  rw [runAt_checkDumpsGone]
  rcases hcases with ⟨f, hanswer, hrun⟩ | ⟨output, hanswer, ⟨hstatus, hrun⟩ | ⟨hstatus, hrun⟩⟩ <;>
    rw [hanswer]
  · exact .inr ⟨Inspection.not_passes_error _ f, runAt_bind_error hrun _⟩
  · refine .inr ⟨fun h => hstatus ((Inspection.passes_ok_iff _ output).mp h).1, ?_⟩
    rw [fault_probing, if_neg hstatus]
    exact runAt_bind_error hrun _
  · rw [passes_probing_iff _ hstatus, runAt_bind_ok hrun, fault_probing, if_pos hstatus]
    cases (Text.lines output.stdout).any reportsPresence with
    | false => exact .inl ⟨rfl, rfl⟩
    | true => exact .inr ⟨by simp, rfl⟩

/-! ## Echoes -/

/-- A text repeats the command that looks below a directory: anything may stand in front of the
command, only blanks and its closing quote behind it, and all of it is on one line. -/
structure Echoes (directory text : String) : Prop where
  repeats : ∃ front back, text = front ++ probeText directory ++ back ∧
    ∀ c ∈ back.toList, c = '\'' ∨ Text.isBlank c = true
  oneLine : '\n' ∉ text.toList

/-- A line that repeats the command reports nothing: what is left of it when it is trimmed ends in
the last letter of the command or in a quote. -/
theorem not_reports_of_echoes {directory text : String} (h : Echoes directory text) {line : String}
    (hline : Text.Trims line.toList text.toList) : ¬Reports line := by
  intro hreports
  obtain ⟨front, back, rfl, hback⟩ := h.repeats
  obtain ⟨start, hstart⟩ : ∃ start, (front ++ probeText directory).toList = start ++ ['i'] :=
    ⟨(front ++ ("if [ -d " ++ directory ++
      "/db_dumps/ ]; then echo EXISTS; else echo NOT FOUND; f")).toList, by
        have hlast : "/db_dumps/ ]; then echo EXISTS; else echo NOT FOUND; fi".toList =
          "/db_dumps/ ]; then echo EXISTS; else echo NOT FOUND; f".toList ++ ['i'] := rfl
        simp only [probeText, String.toList_append, hlast, List.append_assoc]⟩
  have hne : Text.trimEndChars ('i' :: back.toList) ≠ [] :=
    Text.Begins.trimEndChars_ne_nil ⟨'i', back.toList, rfl, by decide⟩
  have htrimmed : (Text.trimEnd line).toList = start ++ Text.trimEndChars ('i' :: back.toList) := by
    rw [Text.trimEnd, String.toList_ofList, ← hline.trimEndChars_eq, String.toList_append,
      hstart, List.append_assoc, List.singleton_append, Text.trimEndChars_append hne]
  rw [Reports, htrimmed] at hreports
  -- the last letter of a report stands among the last letter of the command and what follows it
  obtain ⟨before, hends⟩ := hreports
  have hS : 'S' ∈ Text.trimEndChars ('i' :: back.toList) := by
    have hlast := congrArg List.getLast? hends
    rw [List.getLast?_append_of_ne_nil _ hne, List.getLast?_append_of_ne_nil _ (by decide)] at hlast
    exact List.mem_of_getLast? hlast.symm
  obtain ⟨blanks, -, hsplit⟩ := Text.trims_trimEndChars ('i' :: back.toList)
  have hmem : 'S' ∈ 'i' :: back.toList := hsplit ▸ List.mem_append_left blanks hS
  rcases List.mem_cons.mp hmem with hsame | hmem
  · exact absurd hsame (by decide)
  · rcases hback 'S' hmem with hsame | hblank
    · exact absurd hsame (by decide)
    · exact absurd hblank (by decide)

/-- An output with a line that repeats the command has the reports that it has without it. -/
theorem satisfied_of_echoes (s : Settings.Harness) {directory echo : String}
    (h : Echoes directory echo) (before : List String) (after stderr : String) (status : Int) :
    (probing s).Satisfied ⟨status, Text.endedLines (before ++ [echo]) ++ after, stderr⟩ ↔
      (probing s).Satisfied ⟨status, Text.endedLines before ++ after, stderr⟩ := by
  have hone : Text.lines (Text.endedLines [echo]) =
      [String.ofList (Text.dropReturn echo.toList)] := by
    rw [Text.lines, Text.toList_endedLines, Text.lineChars, Text.unlines, List.map_singleton,
      List.flatMap_singleton, Text.linesFrom_append_feed h.oneLine]
    rfl
  have hnone : ¬Reports (String.ofList (Text.dropReturn echo.toList)) :=
    not_reports_of_echoes h (by rw [String.toList_ofList]; exact Text.trims_dropReturn _)
  have hlines : Text.lines (Text.endedLines (before ++ [echo]) ++ after) =
      Text.lines (Text.endedLines before) ++
        (String.ofList (Text.dropReturn echo.toList) :: Text.lines after) := by
    have hsplit : Text.endedLines (before ++ [echo]) =
        Text.endedLines before ++ Text.endedLines [echo] := by
      simp [Text.endedLines, String.join_append]
    rw [hsplit, String.append_assoc, Text.lines_endedLines_append, Text.lines_endedLines_append,
      hone, List.singleton_append]
  -- the echo is one more line between the others, and it is not a report
  simp only [probing, hlines, Text.lines_endedLines_append, List.forall_mem_append,
    List.forall_mem_cons, hnone, not_false_eq_true, true_and]

/-! ## Both tours -/

/-- Where a server answers from a catalog, cleaning up and checking go through the pairs of the
catalog in the same order. Either succeeds exactly if the command of every pair passes, and then it
has run the commands of all pairs; otherwise it ends with the fault of the first pair whose command
does not. Passing a check takes an output without a report, and a line that repeats the command is
no report, wherever it stands. -/
theorem dumpTours_outcome {site : Site σ} {database : String} {c : BackupCatalog}
    (h : AnswersBackups site database c) :
    (∀ w, Inspects site database c (removal site.settings) w
        (runAt (cleanAllDumps database none) site w)) ∧
      (∀ w, Inspects site database c (probing site.settings) w
        (runAt (checkAllDumpsGone database) site w)) ∧
      (∀ pair ∈ c.pairs, PlainPair pair →
        Shell.plainWords? ((removal site.settings).command pair).line =
            some ["gpssh", "-h", pair.1, "-e", removalText pair.2] ∧
          Shell.plainWords? (removalText pair.2) =
            some ["rm", "-rf", pair.2 ++ "/db_dumps", pair.2 ++ "/gpcrondump.pid"]) ∧
      ∀ directory echo, Echoes directory echo → ¬Reports echo ∧ ∀ before after stderr status,
        (probing site.settings).Satisfied
            ⟨status, Text.endedLines (before ++ [echo]) ++ after, stderr⟩ ↔
          (probing site.settings).Satisfied ⟨status, Text.endedLines before ++ after, stderr⟩ := by
  refine ⟨fun w => ?_, fun w => ?_, fun pair _ hplain => plainWords?_removal _ hplain, ?_⟩
  · rw [cleanAllDumps_eq]
    exact inspects_tour h (removal_doneBy site) w
  · rw [checkAllDumpsGone_eq]
    exact inspects_tour h (probing_doneBy site) w
  · intro directory echo hecho
    exact ⟨not_reports_of_echoes hecho ⟨[], by simp, (List.append_nil _).symm⟩,
      satisfied_of_echoes site.settings hecho⟩

/-- Two hosts, one of which has two directories. -/
def twoHosts : BackupCatalog where
  hosts := ["sdw1", "sdw2"]
  directories host := if host = "sdw1" then ["/data/gpseg0", "/data/gpseg1"] else ["/data/gpseg2"]

/-- What a host prints that repeats the command and finds nothing. -/
def nothingFound : CommandOutput where
  status := 0
  stdout := Text.endedLines ["[sdw1] " ++ probeText "/data/gpseg0"] ++ "[sdw1] NOT FOUND\n"
  stderr := ""

/-- What the catalog has for a statement. -/
def twoHostsTexts (statement : String) : List String :=
  if statement = Sql.Statement.primaryHosts then twoHosts.hosts
  else if statement = Sql.Statement.directoriesOfHost "sdw1" then twoHosts.directories "sdw1"
  else twoHosts.directories "sdw2"

/-- A server with this catalog, on hosts that print this. -/
def twoHostsServer : Services Unit where
  query _ statement := fun state =>
    (.ok ((twoHostsTexts statement).map fun text => .ofTexts [text]), state)
  execute _ _ := fun state => (.ok (), state)
  run _ := fun state => (.ok nothingFound, state)

theorem answersTexts_twoHosts {statement : String} {texts : List String}
    (htexts : twoHostsTexts statement = texts) (htrim : ∀ text ∈ texts, Text.trim text = text) :
    AnswersTexts (dataSite twoHostsServer) "db" statement texts := by
  intro state
  refine ⟨_, rfl, ?_⟩
  rw [htexts, List.map_map]
  refine List.map_congr_left fun text htext => ?_
  exact congrArg some (htrim text htext)

theorem answersBackups_twoHosts : AnswersBackups (dataSite twoHostsServer) "db" twoHosts := by
  have htrim : ∀ texts ∈ [twoHosts.hosts, twoHosts.directories "sdw1", twoHosts.directories "sdw2"],
      ∀ text ∈ texts, Text.trim text = text := by
    decide
  have hfirst : Sql.Statement.directoriesOfHost "sdw1" ≠ Sql.Statement.primaryHosts := by
    decide +kernel
  have hsecond : Sql.Statement.directoriesOfHost "sdw2" ≠ Sql.Statement.primaryHosts ∧
      Sql.Statement.directoriesOfHost "sdw2" ≠ Sql.Statement.directoriesOfHost "sdw1" := by
    decide +kernel
  refine ⟨answersTexts_twoHosts (if_pos rfl) (htrim _ (by simp)), fun host hhost => ?_⟩
  rcases List.mem_cons.mp hhost with rfl | hhost
  · refine answersTexts_twoHosts ?_ (htrim _ (by simp))
    rw [twoHostsTexts, if_neg hfirst, if_pos rfl]
  · obtain rfl := List.mem_singleton.mp hhost
    refine answersTexts_twoHosts ?_ (htrim _ (by simp))
    rw [twoHostsTexts, if_neg hsecond.1, if_neg hsecond.2]

theorem echoes_nothingFound : Echoes "/data/gpseg0" ("[sdw1] " ++ probeText "/data/gpseg0") :=
  ⟨⟨"[sdw1] ", "", (String.append_empty).symm, by simp⟩, by decide⟩

theorem visit_twoHostsServer (v : Inspection) {state : Unit × FileTree} {stops : List Stop}
    {visit : (String × String) × Checked CommandOutput}
    (h : visit ∈ visits (dataSite twoHostsServer) "db" v state stops) :
    visit.2 = .ok nothingFound := by
  induction stops generalizing state with
  | nil => cases h
  | cons stop rest ih =>
    rcases List.mem_append.mp h with h | h
    · cases stop with
      | ask => cases h
      | visit pair =>
        rw [List.mem_singleton.mp h]
        rfl
    · exact ih h

/-- A tour of these hosts. -/
def touring (op : Op Unit Unit) : Checked Unit × World Unit :=
  runAt op (dataSite twoHostsServer) ⟨(), ⟨[]⟩, [], []⟩

/-- Both tours pass there, and go through the three directories in one order. -/
theorem dumpTours_outcome_twoHosts :
    AnswersBackups (dataSite twoHostsServer) "db" twoHosts ∧
      (touring (cleanAllDumps "db" none)).1 = .ok () ∧
      (touring (checkAllDumpsGone "db")).1 = .ok () ∧
      (commandsIn (touring (cleanAllDumps "db" none)).2.calls).map Command.line =
        ["gpssh -h sdw1 -e 'rm -rf /data/gpseg0/db_dumps /data/gpseg0/gpcrondump.pid'",
          "gpssh -h sdw1 -e 'rm -rf /data/gpseg1/db_dumps /data/gpseg1/gpcrondump.pid'",
          "gpssh -h sdw2 -e 'rm -rf /data/gpseg2/db_dumps /data/gpseg2/gpcrondump.pid'"] ∧
      commandsIn (touring (checkAllDumpsGone "db")).2.calls =
        twoHosts.pairs.map (probing (dataSite twoHostsServer).settings).command := by
  obtain ⟨hcleaning, hchecking, -, hechoes⟩ := dumpTours_outcome answersBackups_twoHosts
  have hcleaned := hcleaning ⟨(), ⟨[]⟩, [], []⟩
  have hchecked := hchecking ⟨(), ⟨[]⟩, [], []⟩
  rw [← touring] at hcleaned hchecked
  have hclean : (touring (cleanAllDumps "db" none)).1 = .ok () := by
    refine hcleaned.ok_iff.mpr fun visit hvisit => ?_
    rw [visit_twoHostsServer _ hvisit]
    exact (Inspection.passes_ok_iff _ _).mpr rfl
  have hcheck : (touring (checkAllDumpsGone "db")).1 = .ok () := by
    refine hchecked.ok_iff.mpr fun visit hvisit => ?_
    rw [visit_twoHostsServer _ hvisit, Inspection.passes_ok_iff]
    refine ((hechoes _ _ echoes_nothingFound).2 [] _ _ _).mpr ?_
    exact (Inspection.passes_ok_iff _ _).mp ((passes_probing_iff _ rfl).mpr (by decide))
  refine ⟨answersBackups_twoHosts, hclean, hcheck, ?_, hchecked.all hcheck⟩
  have hlines : (twoHosts.pairs.map
      (removal (dataSite twoHostsServer).settings).command).map Command.line =
      ["gpssh -h sdw1 -e 'rm -rf /data/gpseg0/db_dumps /data/gpseg0/gpcrondump.pid'",
        "gpssh -h sdw1 -e 'rm -rf /data/gpseg1/db_dumps /data/gpseg1/gpcrondump.pid'",
        "gpssh -h sdw2 -e 'rm -rf /data/gpseg2/db_dumps /data/gpseg2/gpcrondump.pid'"] := by
    decide +kernel
  exact (congrArg (List.map Command.line) (hcleaned.all hclean)).trans hlines

end ClusterFixture.Op
