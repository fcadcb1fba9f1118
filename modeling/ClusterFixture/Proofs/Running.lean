/-
What the steps of an operation do to the world.

An operation is run at a site and from a world; it answers a value or a fault, and leaves a world.
Each primitive has one equation here that says so, and later files cite these equations instead of
opening the layers of the operation. Records of the log come with every call; `World.noted` and
`World.served` keep them out of sight, and their projections are simp lemmas.
-/

import ClusterFixture.Operation.Basic

set_option autoImplicit false

namespace ClusterFixture

variable {σ : Type}

/-! ## Worlds -/

namespace World

/-- The world with one more record in its log. -/
def noted (w : World σ) (r : Telemetry.Record) : World σ := { w with log := w.log ++ [r] }

/-- The world after a call, with what the call made of the server and of the files. -/
def served (w : World σ) (call : Call) (after : σ × FileTree) : World σ :=
  { w with server := after.1, files := after.2, calls := w.calls ++ [call] }

/-- The same world after something happened to the server. -/
def withServer (w : World σ) (server : σ) : World σ := { w with server }

@[simp] theorem noted_server (w : World σ) (r : Telemetry.Record) :
    (w.noted r).server = w.server := rfl

@[simp] theorem noted_files (w : World σ) (r : Telemetry.Record) :
    (w.noted r).files = w.files := rfl

@[simp] theorem noted_calls (w : World σ) (r : Telemetry.Record) :
    (w.noted r).calls = w.calls := rfl

@[simp] theorem served_server (w : World σ) (call : Call) (after : σ × FileTree) :
    (w.served call after).server = after.1 := rfl

@[simp] theorem served_files (w : World σ) (call : Call) (after : σ × FileTree) :
    (w.served call after).files = after.2 := rfl

@[simp] theorem served_calls (w : World σ) (call : Call) (after : σ × FileTree) :
    (w.served call after).calls = w.calls ++ [call] := rfl

@[simp] theorem withServer_server (w : World σ) (server : σ) :
    (w.withServer server).server = server := rfl

@[simp] theorem withServer_files (w : World σ) (server : σ) :
    (w.withServer server).files = w.files := rfl

@[simp] theorem withServer_calls (w : World σ) (server : σ) :
    (w.withServer server).calls = w.calls := rfl

end World

namespace Op

variable {α β : Type}

/-! ## Sequences -/

@[simp] theorem runAt_pure (a : α) (site : Site σ) (w : World σ) :
    runAt (pure a) site w = (.ok a, w) := rfl

@[simp] theorem runAt_throw (f : Fault) (site : Site σ) (w : World σ) :
    runAt (throw f : Op σ α) site w = (.error f, w) := rfl

/-- A sequence goes on with the value of its first part, from the world that part left. -/
theorem runAt_bind (op : Op σ α) (next : α → Op σ β) (site : Site σ) (w : World σ) :
    runAt (op >>= next) site w =
      match runAt op site w with
      | (.ok a, w') => runAt (next a) site w'
      | (.error f, w') => (.error f, w') := by
  simp only [runAt, bind, ReaderT.bind, ExceptT.bind, ExceptT.run, ExceptT.mk, StateT.bind]
  rcases (op site) w with ⟨_ | _, _⟩ <;> rfl

theorem runAt_bind_ok {op : Op σ α} {site : Site σ} {w w' : World σ} {a : α}
    (h : runAt op site w = (.ok a, w')) (next : α → Op σ β) :
    runAt (op >>= next) site w = runAt (next a) site w' := by
  rw [runAt_bind, h]

theorem runAt_bind_error {op : Op σ α} {site : Site σ} {w w' : World σ} {f : Fault}
    (h : runAt op site w = (.error f, w')) (next : α → Op σ β) :
    runAt (op >>= next) site w = (.error f, w') := by
  rw [runAt_bind, h]

/-- A sequence answers a value exactly when both of its parts do. -/
theorem runAt_bind_eq_ok {op : Op σ α} {next : α → Op σ β} {site : Site σ} {w w'' : World σ}
    {b : β} :
    runAt (op >>= next) site w = (.ok b, w'') ↔
      ∃ a w', runAt op site w = (.ok a, w') ∧ runAt (next a) site w' = (.ok b, w'') := by
  rw [runAt_bind]
  constructor
  · intro h
    rcases hop : runAt op site w with ⟨_ | a, w'⟩
    · rw [hop] at h
      cases h
    · rw [hop] at h
      exact ⟨a, w', rfl, h⟩
  · rintro ⟨a, w', hop, hnext⟩
    rw [hop]
    exact hnext

/-- Discarding a value keeps the fault and the world. -/
@[simp] theorem runAt_discard (op : Op σ α) (site : Site σ) (w : World σ) :
    runAt (discard op) site w =
      ((runAt op site w).1.map fun _ => (), (runAt op site w).2) := by
  simp only [discard, Functor.discard, Functor.mapConst, runAt, ExceptT.run, ExceptT.map,
    ExceptT.mk, bind, StateT.bind, Function.comp]
  rcases (op site) w with ⟨_ | _, _⟩ <;> rfl

@[simp] theorem runAt_mapM_nil (f : α → Op σ β) (site : Site σ) (w : World σ) :
    runAt ([].mapM f) site w = (.ok [], w) := rfl

/-- An operation for each member of a list: the first member first, and no other one after a
fault. -/
theorem runAt_mapM_cons (f : α → Op σ β) (a : α) (rest : List α) (site : Site σ) (w : World σ) :
    runAt ((a :: rest).mapM f) site w =
      match runAt (f a) site w with
      | (.error e, w') => (.error e, w')
      | (.ok b, w') =>
        match runAt (rest.mapM f) site w' with
        | (.error e, w'') => (.error e, w'')
        | (.ok bs, w'') => (.ok (b :: bs), w'') := by
  rw [List.mapM_cons, runAt_bind]
  rcases runAt (f a) site w with ⟨_ | b, w'⟩
  · rfl
  · simp only []
    rw [runAt_bind]
    rcases runAt (rest.mapM f) site w' with ⟨_ | bs, w''⟩ <;> rfl

/-- The same without answers. -/
theorem runAt_forM_cons (f : α → Op σ Unit) (a : α) (rest : List α) (site : Site σ)
    (w : World σ) :
    runAt ((a :: rest).forM f) site w =
      match runAt (f a) site w with
      | (.error e, w') => (.error e, w')
      | (.ok _, w') => runAt (rest.forM f) site w' := by
  have hcons : (a :: rest).forM f = f a >>= fun _ => rest.forM f := rfl
  rw [hcons, runAt_bind]
  rcases runAt (f a) site w with ⟨_ | _, w'⟩ <;> rfl

/-! ## Primitives -/

@[simp] theorem runAt_read (site : Site σ) (w : World σ) :
    runAt read site w = (.ok site, w) := rfl

@[simp] theorem runAt_get (site : Site σ) (w : World σ) :
    runAt get site w = (.ok w, w) := rfl

@[simp] theorem runAt_settings (site : Site σ) (w : World σ) :
    runAt settings site w = (.ok site.settings, w) := rfl

/-- An attempt never fails: it answers how the operation ended. -/
@[simp] theorem runAt_attempt (op : Op σ α) (site : Site σ) (w : World σ) :
    runAt (attempt op) site w = (.ok (runAt op site w).1, (runAt op site w).2) := rfl

@[simp] theorem runAt_check (c : Checked α) (site : Site σ) (w : World σ) :
    runAt (check c) site w = (c, w) := by
  cases c <;> rfl

@[simp] theorem runAt_log (level : Telemetry.Level) (source : Telemetry.Source)
    (message : String) (fields : List (String × Json)) (site : Site σ) (w : World σ) :
    runAt (log level source message fields) site w =
      (.ok (), w.noted ⟨level, source, message, fields⟩) := rfl

/-- The record of a statement that is about to be sent. -/
def sending (message : String) (target : Sql.Target) (statement : String) : Telemetry.Record :=
  ⟨.debug, .database, message,
    [("dbname", .string target.database), ("utility", .bool target.utility),
      ("sql", .string statement)]⟩

/-- A query answers what the server answers, and the server may change itself and the files. -/
theorem runAt_queryAt (target : Sql.Target) (statement : String) (site : Site σ)
    (w : World σ) :
    runAt (queryAt target statement) site w =
      (((site.services.query target statement).run (w.server, w.files)).1,
        (w.noted (sending "querying" target statement)).served (.query target statement)
          ((site.services.query target statement).run (w.server, w.files)).2) := rfl

theorem runAt_executeAt (target : Sql.Target) (statement : String) (site : Site σ)
    (w : World σ) :
    runAt (executeAt target statement) site w =
      (((site.services.execute target statement).run (w.server, w.files)).1,
        (w.noted (sending "executing sql" target statement)).served (.execute target statement)
          ((site.services.execute target statement).run (w.server, w.files)).2) := rfl

/-- What the server makes of a statement, from a state. -/
def executed (site : Site σ) (database statement : String) (state : σ × FileTree) :
    Checked Unit × (σ × FileTree) :=
  (site.services.execute { database } statement).run state

/-- Looking at the files changes nothing. -/
theorem runAt_onFiles (f : FileTree → Place → Except FileFault α) (site : Site σ)
    (w : World σ) :
    runAt (onFiles f) site w =
      ((f w.files site.place).mapError (fun e => .io e.message), w) := by
  rw [onFiles, runAt_bind_ok (runAt_get site w), runAt_bind_ok (runAt_read site w)]
  cases f w.files site.place <;> rfl

theorem runAt_onFiles_ok {f : FileTree → Place → Except FileFault α} {site : Site σ} {w : World σ}
    {a : α} (h : f w.files site.place = .ok a) : runAt (onFiles f) site w = (.ok a, w) := by
  rw [runAt_onFiles, h]
  rfl

theorem runAt_onFiles_error {f : FileTree → Place → Except FileFault α} {site : Site σ}
    {w : World σ} {e : FileFault} (h : f w.files site.place = .error e) :
    runAt (onFiles f) site w = (.error (.io e.message), w) := by
  rw [runAt_onFiles, h]
  rfl

/-- A change to the files is all that happens, or nothing does. -/
theorem runAt_changeFiles (f : FileTree → Place → Except FileFault FileTree) (site : Site σ)
    (w : World σ) :
    runAt (changeFiles f) site w =
      match f w.files site.place with
      | .ok files => (.ok (), { w with files })
      | .error e => (.error (.io e.message), w) := by
  rw [changeFiles, runAt_bind, runAt_onFiles]
  rcases f w.files site.place with e | files
  · rfl
  · rfl

/-- The world after a pause. -/
def waited (site : Site σ) (ms : Nat) (w : World σ) : World σ :=
  w.served (.pause ms) (site.services.pause ms w.server, w.files)

/-- A command that is started answers what the server makes of it. -/
theorem runAt_start (c : Command) (site : Site σ) (w : World σ) :
    runAt (start c) site w =
      (((site.services.run c).run (w.server, w.files)).1,
        w.served (.run c) ((site.services.run c).run (w.server, w.files)).2) := rfl

/-- The same with the outcome judged by the status. -/
theorem runAt_outcome (c : Command) (site : Site σ) (w : World σ) :
    runAt (outcome c) site w =
      (((site.services.run c).run (w.server, w.files)).1.map (CommandOutcome.of c),
        w.served (.run c) ((site.services.run c).run (w.server, w.files)).2) := by
  rw [outcome, runAt_bind, runAt_start]
  rcases (site.services.run c).run (w.server, w.files) with ⟨_ | _, _⟩ <;> rfl

/-- The command that a line becomes on this host. -/
def commandOf (s : Settings.Harness) (name line : String) : Command where
  name := name
  line := line
  bindings := [
      ("PGHOST", s.connection.host), ("PGPORT", s.connection.port.repr),
      ("PGUSER", s.connection.user), ("MASTER_DATA_DIRECTORY", s.masterDirectory)]
      ++ (if s.home.isEmpty then [] else [("GPHOME", s.home)])

theorem runAt_localCommand (name line : String) (site : Site σ) (w : World σ) :
    runAt (localCommand name line) site w = (.ok (commandOf site.settings name line), w) := rfl

/-- What comes of a line that is run on this host in a state, and the state after it. -/
def lineAnswer (site : Site σ) (line : String) (state : σ × FileTree) :
    Checked CommandOutput × (σ × FileTree) :=
  (site.services.run (commandOf site.settings ("run " ++ line) line)).run state

/-- A line that is run loosely is one command; its output is the answer, however it ended. -/
theorem runAt_runLoosely (line : String) (site : Site σ) (w : World σ) :
    runAt (runLoosely line) site w =
      ((lineAnswer site line (w.server, w.files)).1,
        w.served (.run (commandOf site.settings ("run " ++ line) line))
          (lineAnswer site line (w.server, w.files)).2) := by
  have hline : runAt (runLine line) site w =
      runAt (outcome (commandOf site.settings ("run " ++ line) line)) site w := rfl
  rw [runLoosely, runAt_bind, hline, runAt_outcome, lineAnswer]
  rcases (site.services.run (commandOf site.settings ("run " ++ line) line)).run
    (w.server, w.files) with ⟨_ | _, _⟩ <;> rfl

/-! ## What has happened to a world -/

/-- A world was left by so many calls, with its server and its files in a state. Records of the log
do not count. -/
structure Went (w : World σ) (made : List Call) (state : σ × FileTree) (w' : World σ) : Prop where
  calls : w'.calls = w.calls ++ made
  server : w'.server = state.1
  files : w'.files = state.2

theorem Went.refl (w : World σ) : Went w [] (w.server, w.files) w :=
  ⟨(List.append_nil _).symm, rfl, rfl⟩

theorem Went.served (w : World σ) (call : Call) (state : σ × FileTree) :
    Went w [call] state (w.served call state) :=
  ⟨rfl, rfl, rfl⟩

theorem Went.noted {w w' : World σ} {made : List Call} {state : σ × FileTree}
    (h : Went w made state w') (r : Telemetry.Record) : Went w made state (w'.noted r) :=
  ⟨h.calls, h.server, h.files⟩

theorem Went.trans {w w' w'' : World σ} {made more : List Call} {state state' : σ × FileTree}
    (h : Went w made state w') (h' : Went w' more state' w'') :
    Went w (made ++ more) state' w'' := by
  refine ⟨?_, h'.server, h'.files⟩
  rw [h'.calls, h.calls, List.append_assoc]

theorem Went.left {w w' : World σ} {made : List Call} {state : σ × FileTree}
    (h : Went w made state w') : (w'.server, w'.files) = state := by
  rw [h.server, h.files]

/-- A query makes one call, and the server answers from the state that it is in. -/
theorem went_queryAt (target : Sql.Target) (statement : String) (site : Site σ) (w : World σ) :
    ∃ w', runAt (queryAt target statement) site w =
        (((site.services.query target statement).run (w.server, w.files)).1, w') ∧
      Went w [.query target statement]
        ((site.services.query target statement).run (w.server, w.files)).2 w' :=
  ⟨_, runAt_queryAt target statement site w, rfl, rfl, rfl⟩

/-- So does a statement. -/
theorem went_executeAt (target : Sql.Target) (statement : String) (site : Site σ) (w : World σ) :
    ∃ w', runAt (executeAt target statement) site w =
        (((site.services.execute target statement).run (w.server, w.files)).1, w') ∧
      Went w [.execute target statement]
        ((site.services.execute target statement).run (w.server, w.files)).2 w' :=
  ⟨_, runAt_executeAt target statement site w, rfl, rfl, rfl⟩

/-- So does a command that must end well; its output is judged by the status. -/
theorem went_run (c : Command) (site : Site σ) (w : World σ) :
    ∃ w', runAt (run c) site w =
        (((site.services.run c).run (w.server, w.files)).1 >>= (·.checked c), w') ∧
      Went w [.run c] ((site.services.run c).run (w.server, w.files)).2 w' := by
  refine ⟨_, ?_, .served w (.run c) _⟩
  rw [run, runAt_bind, runAt_start]
  rcases ((site.services.run c).run (w.server, w.files)).1 with f | output
  · rfl
  · exact runAt_check _ _ _

/-- Such a command cannot be started, ends otherwise, or ends well. -/
theorem went_run_cases (c : Command) (site : Site σ) (w : World σ) :
    ∃ w', Went w [.run c] ((site.services.run c).run (w.server, w.files)).2 w' ∧
      ((∃ f, ((site.services.run c).run (w.server, w.files)).1 = .error f ∧
          runAt (run c) site w = (.error f, w')) ∨
        ∃ output, ((site.services.run c).run (w.server, w.files)).1 = .ok output ∧
          (output.status ≠ 0 ∧ runAt (run c) site w = (.error (output.failure c), w') ∨
            output.status = 0 ∧ runAt (run c) site w = (.ok output, w'))) := by
  obtain ⟨w', hrun, hwent⟩ := went_run c site w
  refine ⟨w', hwent, ?_⟩
  rw [hrun]
  rcases ((site.services.run c).run (w.server, w.files)).1 with f | output
  · exact .inl ⟨f, rfl, rfl⟩
  · have hchecked : (.ok output >>= (·.checked c) : Checked CommandOutput) =
        if output.status = 0 then .ok output else .error (output.failure c) := by
      simp [bind, Except.bind, CommandOutput.checked, CommandOutput.succeeded]
    rw [hchecked]
    refine .inr ⟨output, rfl, ?_⟩
    by_cases hstatus : output.status = 0
    · exact .inr ⟨hstatus, by rw [if_pos hstatus]⟩
    · exact .inl ⟨hstatus, by rw [if_neg hstatus]⟩

/-- Files that can be changed are changed, and nothing is called. -/
theorem went_changeFiles (f : FileTree → Place → Except FileFault FileTree) {site : Site σ}
    {w : World σ} {files : FileTree} (h : f w.files site.place = .ok files) :
    ∃ w', runAt (changeFiles f) site w = (.ok (), w') ∧ Went w [] (w.server, files) w' := by
  refine ⟨{ w with files }, ?_, (List.append_nil _).symm, rfl, rfl⟩
  rw [runAt_changeFiles, h]

end Op

end ClusterFixture
