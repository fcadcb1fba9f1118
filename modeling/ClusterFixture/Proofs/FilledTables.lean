/-
Two checks of a restore: one that compares all tables, and one that passes the empty ones over.

The first compares the number of tables before it looks at any of them, the second when it has
looked at all. Both compare tables one after the other, and each comparison leaves the file of a new
dump to the next ones. Where the server answers by the text of a statement alone, and only copies
change the files, what a comparison answers and leaves depends on the files alone. So the counts
that the second check asks for in between do not matter, and both checks are one run of
comparisons.
-/

import ClusterFixture.Proofs.RoundTrip

set_option autoImplicit false

namespace ClusterFixture.Op

open ClusterFixture.Sql (Row TableName)

variable {σ : Type}

/-! ## Answers by the text -/

/-- A statement that copies. -/
def IsCopy (statement : String) : Prop := "COPY".toList <+: statement.toList

instance (statement : String) : Decidable (IsCopy statement) :=
  inferInstanceAs (Decidable ("COPY".toList <+: statement.toList))

/-- What begins with a small letter is no copy. -/
theorem not_isCopy_of_head? {statement : String} (h : statement.toList.head? = some 's') :
    ¬IsCopy statement := by
  rintro ⟨more, hmore⟩
  rw [← hmore] at h
  cases h

theorem head?_append {start : String} {c : Char} (h : start.toList.head? = some c) (rest : String) :
    (start ++ rest).toList.head? = some c := by
  rw [String.toList_append, List.head?_append, h]
  rfl

theorem not_isCopy_rowCount (table : String) : ¬IsCopy (Sql.Statement.rowCount table) :=
  not_isCopy_of_head? (head?_append (by decide) table)

theorem not_isCopy_columnOrder (table : String) : ¬IsCopy (Sql.Statement.columnOrder table) :=
  not_isCopy_of_head?
    (head?_append (head?_append (head?_append (head?_append (by decide) _) _) _) _)

theorem not_isCopy_userTables : ¬IsCopy Sql.Statement.userTables :=
  not_isCopy_of_head?
    (head?_append (head?_append (head?_append (head?_append (head?_append (by decide) _) _) _) _) _)

/-- A server whose answers to the queries of a database depend on their texts alone, and where a
statement that is no copy changes no file. What a copy makes of the files depends on its text and on
the files that it finds. -/
structure Textual (site : Site σ) (database : String) (rows : String → Checked (List Row))
    (written : String → FileTree → FileTree) : Prop where
  answers : ∀ statement state,
    ((site.services.query { database } statement).run state).1 = rows statement
  queried : ∀ statement state,
    ((site.services.query { database } statement).run state).2.2 = written statement state.2
  executed : ∀ statement state,
    ((site.services.execute { database } statement).run state).2.2 = written statement state.2
  copies : ∀ statement files, ¬IsCopy statement → written statement files = files

/-- The tables of a listing. -/
def listedTables (answer : Checked (List Row)) : Checked (List TableName) :=
  answer >>= List.mapM fun row => (do return ⟨← row.text 0, ← row.text 1⟩ : Checked TableName)

theorem went_tableNames (database : String) (site : Site σ) (w : World σ) :
    ∃ w', runAt (tableNames database) site w =
        (listedTables ((site.services.query { database } Sql.Statement.userTables).run
          (w.server, w.files)).1, w') ∧
      Went w [.query { database } Sql.Statement.userTables]
        ((site.services.query { database } Sql.Statement.userTables).run
          (w.server, w.files)).2 w' := by
  obtain ⟨w', hquery, hwent⟩ := went_queryAt { database } Sql.Statement.userTables site w
  refine ⟨w', ?_, hwent⟩
  rw [tableNames, query, runAt_bind, hquery]
  rcases ((site.services.query { database } Sql.Statement.userTables).run
    (w.server, w.files)).1 with f | rows
  · rfl
  · exact runAt_check _ _ _

/-- The number that the answer to a count holds. -/
def counted (statement : String) (answer : Checked (List Row)) : Checked Int :=
  singleOf statement answer >>= fun text => (Row.ofTexts [text]).integer 0

theorem went_count (database statement : String) (site : Site σ) (w : World σ) :
    ∃ w', runAt (count database statement) site w =
        (counted statement ((site.services.query { database } statement).run
          (w.server, w.files)).1, w') ∧
      Went w [.query { database } statement]
        ((site.services.query { database } statement).run (w.server, w.files)).2 w' := by
  refine ⟨(w.noted (sending "querying" { database } statement)).served
    (.query { database } statement)
    ((site.services.query { database } statement).run (w.server, w.files)).2, ?_, rfl, rfl, rfl⟩
  rw [count, runAt_bind, runAt_single, counted]
  rcases singleOf statement ((site.services.query { database } statement).run
    (w.server, w.files)).1 with f | text
  · rfl
  · simp only [runAt_check, bind, Except.bind]

/-! ## One table -/

section

variable (site : Site σ) (database : String) (rows : String → Checked (List Row))
  (written : String → FileTree → FileTree)

/-- The number of rows that a table is said to have. -/
def rowsOf (t : TableName) : Checked Int :=
  counted (Sql.Statement.rowCount t.quoted) (rows (Sql.Statement.rowCount t.quoted))

/-- A table is said to have rows. -/
def isFilled (t : TableName) : Bool :=
  match rowsOf rows t with
  | .ok n => n ≠ 0
  | .error _ => false

/-- The order of the columns of a table. -/
def orderOf (t : TableName) : Checked String :=
  singleOf (Sql.Statement.columnOrder (Text.trim t.qualified))
    (rows (Sql.Statement.columnOrder (Text.trim t.qualified)))

/-- The new dump of a table in an order of its columns. -/
def redump (t : TableName) (order : String) : String :=
  Sql.Statement.copyTable (Text.trim t.qualified) order
    (site.dataPath (Text.trim t.qualified ++ restoreEnding))

/-- The calls that dump a table anew. -/
def redumpCalls (t : TableName) : List Call :=
  .query { database } (Sql.Statement.columnOrder (Text.trim t.qualified)) ::
    match orderOf rows t with
    | .error _ => []
    | .ok order => [.execute { database } (redump site t order)]

/-- The files after a new dump of a table. -/
def redumped (t : TableName) (files : FileTree) : FileTree :=
  match orderOf rows t with
  | .error _ => files
  | .ok order => written (redump site t order) files

/-- What a comparison of the two dumps of a table answers. -/
def compared (t : TableName) (files : FileTree) : Checked Unit :=
  let backup := site.dataPath (Text.trim t.qualified ++ backupEnding)
  let restore := site.dataPath (Text.trim t.qualified ++ restoreEnding)
  match files.read site.place backup, files.read site.place restore with
  | .error e, _ => .error (.io e.message)
  | .ok _, .error e => .error (.io e.message)
  | .ok before, .ok after => if before = after then .ok () else .error (differing backup restore)

theorem compared_eq_ok_iff {t : TableName} {files : FileTree} :
    compared site t files = .ok () ↔ DumpsAgree site files t.qualified := by
  rw [compared, DumpsAgree, SameContent]
  rcases files.read site.place (site.dataPath (Text.trim t.qualified ++ backupEnding)) with
    e | before
  · simp
  · rcases files.read site.place (site.dataPath (Text.trim t.qualified ++ restoreEnding)) with
      e | after
    · simp
    · by_cases hsame : before = after
      · simp [hsame]
      · simp [hsame, eq_comm]

/-- Dumping and comparing tables one after the other, up to the first that differs. -/
def comparedAll : List TableName → FileTree → Checked Unit × FileTree
  | [], files => (.ok (), files)
  | t :: rest, files =>
    match compared site t (redumped site rows written t files) with
    | .error f => (.error f, redumped site rows written t files)
    | .ok _ => comparedAll rest (redumped site rows written t files)

/-- The calls about a table: its rows are counted, and if it has any it is dumped. -/
def visitCalls (t : TableName) : List Call :=
  .query { database } (Sql.Statement.rowCount t.quoted) ::
    if isFilled rows t then redumpCalls site database rows t else []

end

section

variable {site : Site σ} {database : String} {rows : String → Checked (List Row)}
  {written : String → FileTree → FileTree}

theorem exists_rowsOf_of_isFilled {t : TableName} (h : isFilled rows t = true) :
    ∃ n, rowsOf rows t = .ok n := by
  unfold isFilled at h
  split at h
  · next n hcount => exact ⟨n, hcount⟩
  · cases h

/-- A query that selects is one call, and the files stay as they are. -/
theorem Textual.went_query (h : Textual site database rows written) {statement : String}
    (hselects : ¬IsCopy statement) {w w' : World σ}
    (hwent : Went w [.query { database } statement]
      ((site.services.query { database } statement).run (w.server, w.files)).2 w') :
    Went w [.query { database } statement] (w'.server, w.files) w' := by
  refine ⟨hwent.calls, rfl, ?_⟩
  rw [hwent.files, h.queried, h.copies _ _ hselects]

/-- A comparison answers and leaves what the files tell. -/
theorem Textual.went_validateTable (h : Textual site database rows written) (t : TableName)
    (w : World σ) :
    ∃ w', runAt (validateTable t.qualified database) site w =
        (compared site t (redumped site rows written t w.files), w') ∧
      Went w (redumpCalls site database rows t)
        (w'.server, redumped site rows written t w.files) w' := by
  obtain ⟨w', hwent, hrun⟩ := Op.went_validateTable t.qualified database site w
  have horder : (orderAnswer site w (Text.trim t.qualified) database).1 = orderOf rows t := by
    rw [orderAnswer, orderOf, ← h.answers _ (w.server, w.files)]
  have hasked : (orderAnswer site w (Text.trim t.qualified) database).2.2 = w.files := by
    rw [orderAnswer, h.queried, h.copies _ _ (not_isCopy_columnOrder _)]
  have hcalls : dumpCalls site w (Text.trim t.qualified ++ restoreEnding) (Text.trim t.qualified)
      database = redumpCalls site database rows t := by
    rw [dumpCalls, redumpCalls, horder]
    rfl
  have hfiles : w'.files = redumped site rows written t w.files := by
    rw [hwent.files, dumpLeaves, redumped, horder]
    rcases orderOf rows t with f | order
    · exact hasked
    · simp only [copyAnswer, h.executed, hasked]
      rfl
  rw [hcalls] at hwent
  refine ⟨w', ?_, hwent.calls, rfl, hfiles⟩
  rw [hrun, runAt_compareFiles, hfiles]
  rfl

/-! ## All tables -/

theorem Textual.went_validateTables (h : Textual site database rows written)
    (tables : List TableName) (w : World σ) :
    ∃ w', runAt (tables.forM fun t => validateTable t.qualified database) site w =
        ((comparedAll site rows written tables w.files).1, w') ∧
      w'.files = (comparedAll site rows written tables w.files).2 := by
  induction tables generalizing w with
  | nil => exact ⟨w, rfl, rfl⟩
  | cons t rest ih =>
    obtain ⟨w₁, hfirst, hwent⟩ := h.went_validateTable t w
    rw [runAt_forM_cons, hfirst, comparedAll]
    rcases compared site t (redumped site rows written t w.files) with f | _
    · exact ⟨w₁, rfl, hwent.files⟩
    · obtain ⟨w₂, hrest, hfiles⟩ := ih w₁
      rw [hwent.files] at hrest hfiles
      exact ⟨w₂, hrest, hfiles⟩

/-! ## Filled tables -/

/-- A count that cannot be read ends the check. -/
theorem Textual.validateFilled_uncounted (h : Textual site database rows written) {t : TableName}
    {f : Fault} (hcount : rowsOf rows t = .error f) (rest : List TableName) (w : World σ) :
    ∃ w', runAt (validateFilled database (t :: rest)) site w = (.error f, w') ∧
      Went w (visitCalls site database rows t) (w'.server, w.files) w' := by
  obtain ⟨w', hrun, hwent⟩ := went_count database (Sql.Statement.rowCount t.quoted) site w
  rw [h.answers, ← rowsOf, hcount] at hrun
  refine ⟨w', ?_, ?_⟩
  · rw [validateFilled, runAt_bind_error hrun]
  · rw [visitCalls, isFilled, hcount]
    exact h.went_query (not_isCopy_rowCount _) hwent

/-- An empty table is passed over. -/
theorem Textual.validateFilled_empty (h : Textual site database rows written) {t : TableName}
    (hcount : rowsOf rows t = .ok 0) (rest : List TableName) (w : World σ) :
    ∃ w', runAt (validateFilled database (t :: rest)) site w =
        runAt (validateFilled database rest) site w' ∧
      Went w (visitCalls site database rows t) (w'.server, w.files) w' := by
  obtain ⟨w', hrun, hwent⟩ := went_count database (Sql.Statement.rowCount t.quoted) site w
  rw [h.answers, ← rowsOf, hcount] at hrun
  refine ⟨w', ?_, ?_⟩
  · rw [validateFilled, runAt_bind_ok hrun]
    rfl
  · rw [visitCalls, isFilled, hcount]
    exact h.went_query (not_isCopy_rowCount _) hwent

/-- Any other table is compared. -/
theorem Textual.validateFilled_filled (h : Textual site database rows written) {t : TableName}
    {n : Int} (hcount : rowsOf rows t = .ok n) (hn : n ≠ 0) (rest : List TableName) (w : World σ) :
    ∃ w', runAt (validateFilled database (t :: rest)) site w =
        (match compared site t (redumped site rows written t w.files) with
        | .error f => (.error f, w')
        | .ok _ =>
          ((runAt (validateFilled database rest) site w').1.map (· + 1),
            (runAt (validateFilled database rest) site w').2)) ∧
      Went w (visitCalls site database rows t)
        (w'.server, redumped site rows written t w.files) w' := by
  obtain ⟨w₁, hrun, hwent⟩ := went_count database (Sql.Statement.rowCount t.quoted) site w
  rw [h.answers, ← rowsOf, hcount] at hrun
  have hasked := h.went_query (not_isCopy_rowCount _) hwent
  obtain ⟨w₂, hvalidate, hwent'⟩ := h.went_validateTable t w₁
  rw [hasked.files] at hvalidate hwent'
  have hzero : (n == 0) = false := by simpa using hn
  have hfilled : isFilled rows t = true := by
    rw [isFilled, hcount]
    simpa using hn
  refine ⟨w₂, ?_, ?_⟩
  · rw [validateFilled, runAt_bind_ok hrun, hzero, if_neg (by simp), runAt_bind, hvalidate]
    rcases compared site t (redumped site rows written t w.files) with f | _
    · rfl
    · simp only []
      rw [runAt_bind]
      rcases runAt (validateFilled database rest) site w₂ with ⟨f | k, w₃⟩
      · rfl
      · rfl
  · rw [visitCalls, if_pos hfilled]
    exact hasked.trans hwent'

/-- The check visits tables up to the first that stops it. -/
theorem Textual.calls_validateFilled (h : Textual site database rows written)
    (tables : List TableName) (w : World σ) :
    ∃ done, done <+: tables ∧ (runAt (validateFilled database tables) site w).2.calls =
      w.calls ++ done.flatMap (visitCalls site database rows) := by
  induction tables generalizing w with
  | nil => exact ⟨[], List.nil_prefix, (List.append_nil _).symm⟩
  | cons t rest ih =>
    -- The first table is visited in any case, and the others if it does not stop the check.
    have hgoes : ∀ {w' : World σ} {state : σ × FileTree},
        Went w (visitCalls site database rows t) state w' →
        ∃ done, done <+: t :: rest ∧ (runAt (validateFilled database rest) site w').2.calls =
          w.calls ++ done.flatMap (visitCalls site database rows) := by
      intro w' state hwent
      obtain ⟨done, hdone, hcalls⟩ := ih w'
      refine ⟨t :: done, (List.prefix_cons_inj t).mpr hdone, ?_⟩
      rw [hcalls, hwent.calls, List.append_assoc, List.flatMap_cons]
    have hstops : ∀ {w' : World σ} {state : σ × FileTree},
        Went w (visitCalls site database rows t) state w' →
        ∃ done, done <+: t :: rest ∧ w'.calls =
          w.calls ++ done.flatMap (visitCalls site database rows) := fun hwent =>
      ⟨[t], by simp, by simpa using hwent.calls⟩
    rcases hcount : rowsOf rows t with f | n
    · obtain ⟨w', hrun, hwent⟩ := h.validateFilled_uncounted hcount rest w
      rw [hrun]
      exact hstops hwent
    by_cases hn : n = 0
    · subst hn
      obtain ⟨w', hrun, hwent⟩ := h.validateFilled_empty hcount rest w
      rw [hrun]
      exact hgoes hwent
    · obtain ⟨w', hrun, hwent⟩ := h.validateFilled_filled hcount hn rest w
      rw [hrun]
      rcases compared site t (redumped site rows written t w.files) with f | _
      · exact hstops hwent
      · exact hgoes hwent

/-- Where all counts can be read the check is the comparison of the filled tables. -/
theorem Textual.validateFilled_counted (h : Textual site database rows written)
    {tables : List TableName} (hcounts : ∀ t ∈ tables, ∃ n, rowsOf rows t = .ok n) (w : World σ) :
    ∃ w', runAt (validateFilled database tables) site w =
        ((comparedAll site rows written (tables.filter (isFilled rows)) w.files).1.map fun _ =>
          (tables.filter (isFilled rows)).length, w') ∧
      w'.files = (comparedAll site rows written (tables.filter (isFilled rows)) w.files).2 := by
  induction tables generalizing w with
  | nil => exact ⟨w, rfl, rfl⟩
  | cons t rest ih =>
    obtain ⟨⟨n, hcount⟩, hrest⟩ := List.forall_mem_cons.mp hcounts
    by_cases hn : n = 0
    · subst hn
      have hempty : isFilled rows t = false := by rw [isFilled, hcount]; rfl
      obtain ⟨w₁, hrun, hwent⟩ := h.validateFilled_empty hcount rest w
      obtain ⟨w₂, hrun', hfiles⟩ := ih hrest w₁
      -- The count left the files, so the comparisons begin where they would without it.
      rw [hwent.files] at hrun' hfiles
      rw [List.filter_cons_of_neg (by simp [hempty])]
      exact ⟨w₂, hrun.trans hrun', hfiles⟩
    · have hfilled : isFilled rows t = true := by
        rw [isFilled, hcount]
        simpa using hn
      obtain ⟨w₁, hrun, hwent⟩ := h.validateFilled_filled hcount hn rest w
      rw [List.filter_cons_of_pos hfilled, comparedAll, hrun]
      rcases compared site t (redumped site rows written t w.files) with f | _
      · exact ⟨w₁, rfl, hwent.files⟩
      · obtain ⟨w₂, hrun', hfiles⟩ := ih hrest w₁
        rw [hwent.files] at hrun' hfiles
        refine ⟨w₂, ?_, hfiles⟩
        simp only []
        rw [hrun']
        rcases (comparedAll site rows written (rest.filter (isFilled rows))
          (redumped site rows written t w.files)).1 with f | _
        · rfl
        · rfl

/-- Where some count cannot be read the check fails. -/
theorem Textual.validateFilled_error (h : Textual site database rows written)
    {tables : List TableName} {t : TableName} {f : Fault} (ht : t ∈ tables)
    (hcount : rowsOf rows t = .error f) (w : World σ) :
    ∃ f', (runAt (validateFilled database tables) site w).1 = .error f' := by
  induction tables generalizing w with
  | nil => cases ht
  | cons u rest ih =>
    rcases hu : rowsOf rows u with e | n
    · obtain ⟨w', hrun, -⟩ := h.validateFilled_uncounted hu rest w
      exact ⟨e, by rw [hrun]⟩
    have hrest : t ∈ rest := by
      rcases List.mem_cons.mp ht with rfl | hrest
      · rw [hcount] at hu
        cases hu
      · exact hrest
    by_cases hn : n = 0
    · subst hn
      obtain ⟨w', hrun, -⟩ := h.validateFilled_empty hu rest w
      rw [hrun]
      exact ih hrest w'
    · obtain ⟨w', hrun, -⟩ := h.validateFilled_filled hu hn rest w
      rw [hrun]
      rcases compared site u (redumped site rows written u w.files) with e | _
      · exact ⟨e, rfl⟩
      · obtain ⟨f', hf'⟩ := ih hrest w'
        exact ⟨f', by simp only [hf']; rfl⟩

/-! ## Both checks -/

/-- The fault of a check that found another number of filled tables. -/
def miscounted (expected validated : Nat) : Fault :=
  .detailed .assertionFailed "Invalid number of tables were restored"
    ("Expected \"" ++ expected.repr ++ "\", Actual \"" ++ validated.repr ++ "\"")

/-- The listing is one query, and the files stay as they are. -/
theorem Textual.went_tableNames (h : Textual site database rows written) (w : World σ) :
    ∃ w', runAt (tableNames database) site w = (listedTables (rows Sql.Statement.userTables), w') ∧
      Went w [.query { database } Sql.Statement.userTables] (w'.server, w.files) w' := by
  obtain ⟨w', hrun, hwent⟩ := Op.went_tableNames database site w
  rw [h.answers] at hrun
  exact ⟨w', hrun, h.went_query not_isCopy_userTables hwent⟩

/-- After a listing the check visits the tables and then looks at their number. -/
theorem runAt_validateRestoredTables {tables : List TableName} {w w₁ : World σ}
    (hlisted : runAt (tableNames database) site w = (.ok tables, w₁)) (expected : Nat) :
    runAt (validateRestoredTables expected database) site w =
      (((runAt (validateFilled database tables) site w₁).1 >>= fun validated =>
        if validated = expected then .ok () else .error (miscounted expected validated)),
        (runAt (validateFilled database tables) site w₁).2) := by
  rw [validateRestoredTables, runAt_bind_ok hlisted, runAt_bind]
  rcases runAt (validateFilled database tables) site w₁ with ⟨f | validated, w₂⟩
  · rfl
  · by_cases hsame : validated = expected
    · simp [hsame, bind, Except.bind]
    · simp [hsame, bind, Except.bind, miscounted]

/-- Where all counts can be read, the check compares the filled tables, and there must be as many as
expected. -/
theorem Textual.validateRestoredTables_counted (h : Textual site database rows written)
    {tables : List TableName} (hlisting : listedTables (rows Sql.Statement.userTables) = .ok tables)
    (hcounts : ∀ t ∈ tables, ∃ n, rowsOf rows t = .ok n) (expected : Nat) (w : World σ) :
    let filled := tables.filter (isFilled rows)
    let restored := runAt (validateRestoredTables expected database) site w
    restored.2.files = (comparedAll site rows written filled w.files).2 ∧
      (filled.length = expected →
        restored.1 = (comparedAll site rows written filled w.files).1) ∧
      (filled.length ≠ expected → ∃ f, restored.1 = .error f) := by
  intro filled restored
  obtain ⟨w₁, hlisted, hasked⟩ := h.went_tableNames w
  rw [hlisting] at hlisted
  obtain ⟨w₂, hrun, hfiles⟩ := h.validateFilled_counted hcounts w₁
  rw [hasked.files] at hrun hfiles
  have hrestored : restored = _ := runAt_validateRestoredTables hlisted expected
  rw [hrun] at hrestored
  rw [hrestored]
  refine ⟨hfiles, fun hsame => ?_, fun hother => ?_⟩
  · rcases (comparedAll site rows written filled w.files).1 with f | _
    · rfl
    · exact if_pos hsame
  · rcases (comparedAll site rows written filled w.files).1 with f | _
    · exact ⟨f, rfl⟩
    · exact ⟨_, if_neg hother⟩

/-- The other check compares all tables, where there are as many as expected. -/
theorem Textual.validateDatabase_listed (h : Textual site database rows written)
    {tables : List TableName} (hlisting : listedTables (rows Sql.Statement.userTables) = .ok tables)
    (expected : Nat) (w : World σ) :
    let all := runAt (validateDatabase database expected) site w
    (tables.length = expected →
      all.1 = (comparedAll site rows written tables w.files).1 ∧
      all.2.files = (comparedAll site rows written tables w.files).2) ∧
    (tables.length ≠ expected → ∃ f, all.1 = .error f) := by
  obtain ⟨w₁, hlisted, hasked⟩ := h.went_tableNames w
  rw [hlisting] at hlisted
  obtain ⟨w₂, hrun, hfiles⟩ := h.went_validateTables tables w₁
  rw [hasked.files] at hrun hfiles
  rw [validateDatabase, runAt_bind_ok hlisted]
  constructor
  · intro hsame
    have hnext : (tables.length != expected) = false := by simpa using hsame
    rw [hnext, if_neg (by simp)]
    rw [List.forM_eq_forM] at hrun
    exact ⟨congrArg Prod.fst hrun, (congrArg (fun r => r.2.files) hrun).trans hfiles⟩
  · intro hother
    have hnext : (tables.length != expected) = true := by simpa using hother
    rw [hnext, if_pos rfl]
    exact ⟨_, rfl⟩

/-- The check of a restore succeeds exactly where the listing and all counts can be read, as many
tables as expected have rows, and these pass the comparison one after the other. It visits tables in
the order of the listing, and of one without rows it only asks for the count. Where all tables have
rows it succeeds exactly where the other check does, and then both leave the same files; with the
right number of tables they answer and leave the same in any case. -/
theorem validateRestoredTables_outcome (h : Textual site database rows written) (expected : Nat)
    (w : World σ) :
    let asking := Call.query { database } Sql.Statement.userTables
    let restored := runAt (validateRestoredTables expected database) site w
    let all := runAt (validateDatabase database expected) site w
    (restored.1 = .ok () ↔
      ∃ tables, listedTables (rows Sql.Statement.userTables) = .ok tables ∧
        (∀ t ∈ tables, ∃ n, rowsOf rows t = .ok n) ∧
        (tables.filter (isFilled rows)).length = expected ∧
        (runAt ((tables.filter (isFilled rows)).forM fun t => validateTable t.qualified database)
          site w).1 = .ok ()) ∧
    (∀ tables, listedTables (rows Sql.Statement.userTables) = .ok tables →
      ∃ done, done <+: tables ∧
        restored.2.calls = w.calls ++ asking :: done.flatMap (visitCalls site database rows)) ∧
    ((∀ tables, listedTables (rows Sql.Statement.userTables) = .ok tables →
        ∀ t ∈ tables, isFilled rows t = true) →
      (restored.1 = .ok () ↔ all.1 = .ok ()) ∧
      (restored.1 = .ok () → restored.2.files = all.2.files) ∧
      ∀ tables, listedTables (rows Sql.Statement.userTables) = .ok tables →
        tables.length = expected → restored.1 = all.1 ∧ restored.2.files = all.2.files) := by
  intro asking restored all
  obtain ⟨w₁, hlisted, hasked⟩ := h.went_tableNames w
  rcases hlisting : listedTables (rows Sql.Statement.userTables) with f | tables
  · -- Without a listing both checks fail with the fault of the listing.
    rw [hlisting] at hlisted
    have hrestored : restored = (.error f, w₁) := runAt_bind_error hlisted _
    have hall : all = (.error f, w₁) := runAt_bind_error hlisted _
    rw [hrestored, hall]
    simp
  -- Comparisons answer the same here, where nothing is counted in between.
  have hcomparisons : ∀ ts, (runAt (ts.forM fun t => validateTable t.qualified database) site w).1 =
      (comparedAll site rows written ts w.files).1 := by
    intro ts
    obtain ⟨w', hrun, -⟩ := h.went_validateTables ts w
    rw [hrun]
  have hexpected : ∀ {n : Nat} {r : Checked Unit}, (n ≠ expected → ∃ f, r = .error f) →
      r = .ok () → n = expected := by
    intro n r hfails hok
    refine Decidable.byContradiction fun hne => ?_
    obtain ⟨f, hf⟩ := hfails hne
    cases hok.symm.trans hf
  rw [hlisting] at hlisted
  have hrestored := runAt_validateRestoredTables hlisted expected
  refine ⟨⟨fun hok => ?_, ?_⟩, ?_, fun hfilled => ?_⟩
  · have hcounts : ∀ t ∈ tables, ∃ n, rowsOf rows t = .ok n := by
      intro t ht
      rcases hcount : rowsOf rows t with f | n
      · obtain ⟨f', hf'⟩ := h.validateFilled_error ht hcount w₁
        rw [hf'] at hrestored
        have herror := hok.symm.trans (congrArg Prod.fst hrestored)
        cases herror
      · exact ⟨n, rfl⟩
    obtain ⟨-, hsame, hother⟩ := h.validateRestoredTables_counted hlisting hcounts expected w
    have hlength := hexpected hother hok
    exact ⟨tables, rfl, hcounts, hlength, (hcomparisons _).trans ((hsame hlength).symm.trans hok)⟩
  · rintro ⟨tables', htables, hcounts, hlength, hpass⟩
    cases htables
    obtain ⟨-, hsame, -⟩ := h.validateRestoredTables_counted hlisting hcounts expected w
    exact (hsame hlength).trans ((hcomparisons _).symm.trans hpass)
  · intro tables' htables
    cases htables
    obtain ⟨done, hdone, hcalls⟩ := h.calls_validateFilled tables w₁
    refine ⟨done, hdone, ?_⟩
    rw [congrArg (fun r => r.2.calls) hrestored, hcalls, hasked.calls, List.append_assoc]
    rfl
  · have hall := hfilled tables rfl
    have hcounts : ∀ t ∈ tables, ∃ n, rowsOf rows t = .ok n := fun t ht =>
      exists_rowsOf_of_isFilled (hall t ht)
    obtain ⟨hfiles, hsame, hother⟩ :=
      h.validateRestoredTables_counted hlisting hcounts expected w
    obtain ⟨hsame', hother'⟩ := h.validateDatabase_listed hlisting expected w
    rw [List.filter_eq_self.mpr hall] at hfiles hsame hother
    -- With the right number of tables both checks are the same comparisons.
    have hagree : tables.length = expected →
        restored.1 = all.1 ∧ restored.2.files = all.2.files := fun hlength =>
      ⟨(hsame hlength).trans (hsame' hlength).1.symm, hfiles.trans (hsame' hlength).2.symm⟩
    refine ⟨⟨fun hok => ?_, fun hok => ?_⟩, fun hok => ?_, ?_⟩
    · exact (hagree (hexpected hother hok)).1.symm.trans hok
    · exact (hagree (hexpected hother' hok)).1.trans hok
    · exact (hagree (hexpected hother hok)).2
    · rintro tables' htables
      cases htables
      exact hagree

end

/-! ## A table with rows and one without -/

/-- A table with a row. -/
def filledTable : TableName := ⟨"public", "t"⟩

/-- A table without rows. -/
def emptyTable : TableName := ⟨"public", "e"⟩

/-- The answers of a server with these tables. -/
def filledAndEmptyRows (statement : String) : Checked (List Row) :=
  if statement = Sql.Statement.userTables then .ok ([filledTable, emptyTable].map listingRow)
  else if statement = Sql.Statement.rowCount filledTable.quoted then .ok [.ofTexts ["1"]]
  else if statement = Sql.Statement.rowCount emptyTable.quoted then .ok [.ofTexts ["0"]]
  else .ok [.ofTexts ["1,2"]]

/-- What its copies make of the files. -/
def filledAndEmptyWritten (statement : String) (files : FileTree) : FileTree :=
  if IsCopy statement then
    files.put ["data", "public.t_restore"] (.file [48, 9, 49, 10] newFileMode)
  else files

/-- The server. -/
def filledAndEmptyServer : Services Unit where
  query _ statement := fun state =>
    (filledAndEmptyRows statement, (state.1, filledAndEmptyWritten statement state.2))
  execute _ statement := fun state =>
    (.ok (), (state.1, filledAndEmptyWritten statement state.2))
  run _ := fun state => (.error (.plain .commandFailed "no commands"), state)

theorem textual_filledAndEmpty :
    Textual (dataSite filledAndEmptyServer) "db" filledAndEmptyRows filledAndEmptyWritten :=
  ⟨fun _ _ => rfl, fun _ _ => rfl, fun _ _ => rfl, fun _ _ hselects => if_neg hselects⟩

theorem filledAndEmptyWritten_staleFiles (statement : String) :
    filledAndEmptyWritten statement staleFiles = staleFiles := by
  unfold filledAndEmptyWritten
  split
  · rfl
  · rfl

/-- The new dump of the table with a row is what its backup is. -/
theorem compared_filledTable :
    compared (dataSite filledAndEmptyServer) filledTable (redumped (dataSite filledAndEmptyServer)
      filledAndEmptyRows filledAndEmptyWritten filledTable staleFiles) = .ok () := by
  have hfiles : redumped (dataSite filledAndEmptyServer) filledAndEmptyRows filledAndEmptyWritten
      filledTable staleFiles = staleFiles := by
    rw [redumped]
    rcases orderOf filledAndEmptyRows filledTable with f | order
    · rfl
    · exact filledAndEmptyWritten_staleFiles _
  rw [hfiles, compared_eq_ok_iff]
  exact dumpsAgree_staleFiles

/-- One table is expected, and the other one does not count. -/
theorem validateRestoredTables_filledAndEmpty :
    (runAt (validateRestoredTables 1 "db") (dataSite filledAndEmptyServer) staleWorld).1 =
      .ok () := by
  have hlisting : listedTables (filledAndEmptyRows Sql.Statement.userTables) =
      .ok [filledTable, emptyTable] := by
    rw [filledAndEmptyRows, if_pos rfl]
    rfl
  have hone : rowsOf filledAndEmptyRows filledTable = .ok 1 := by
    rw [rowsOf, filledAndEmptyRows, if_neg (by decide), if_pos rfl]
    rfl
  have hnone : rowsOf filledAndEmptyRows emptyTable = .ok 0 := by
    rw [rowsOf, filledAndEmptyRows, if_neg (by decide), if_neg (by decide), if_pos rfl]
    rfl
  have hfilled :
      [filledTable, emptyTable].filter (isFilled filledAndEmptyRows) = [filledTable] := by
    rw [List.filter_cons_of_pos (by rw [isFilled, hone]; rfl),
      List.filter_cons_of_neg (by rw [isFilled, hnone]; decide)]
    rfl
  have hpass : (runAt ([filledTable].forM fun t => validateTable t.qualified "db")
      (dataSite filledAndEmptyServer) staleWorld).1 = .ok () := by
    obtain ⟨w', hrun, -⟩ := textual_filledAndEmpty.went_validateTable filledTable staleWorld
    rw [runAt_forM_cons, hrun]
    simp only [staleWorld, compared_filledTable]
    rfl
  obtain ⟨hok, -, -⟩ := validateRestoredTables_outcome textual_filledAndEmpty 1 staleWorld
  refine hok.mpr ⟨_, hlisting, fun t ht => ?_, ?_, ?_⟩
  · rcases List.mem_pair.mp ht with rfl | rfl
    · exact ⟨1, hone⟩
    · exact ⟨0, hnone⟩
  · rw [hfilled]
    rfl
  · rw [hfilled]
    exact hpass

end ClusterFixture.Op
