/-
When the estimate of a table's rows is found to be right.

The rows of a table are counted in the table itself, which is called by its schema and its name. Its
estimate is looked up by the name alone, so the answer is about all relations of that name. The file
says for every catalog what comes of it: the two are compared where there is one such relation, and
where there are more the estimate counts as wrong, whatever it is.
-/

import ClusterFixture.Operation.Checks
import ClusterFixture.Proofs.ManyPartitions
import ClusterFixture.Proofs.Numerals

set_option autoImplicit false

namespace ClusterFixture

open Number (Binary64 Digits Numeral Sign)
open Sql (Row TableName)

variable {σ : Type}

/-! ## Tables in a statement -/

namespace Sql

/-- The table whose rows a statement counts, all of them. -/
def countedTable? (statement : String) : Option TableName := do
  let cs ← "select count(*) from ".toList.isPrefixOf? statement.toList
  let (schema, rest) ← readName refusedWords cs
  let rest ← readDot rest
  let (name, rest) ← readName [] rest
  if isOver rest then some ⟨schema, name⟩ else none

/-- A table whose names are bare is called by the two. -/
theorem countedTable?_rowCount {t : TableName} (h : t.IsBare) :
    countedTable? (Statement.rowCount t.qualified) = some t := by
  have hself : ∀ name : String, String.ofList name.toList = name := fun _ => String.ofList_toList
  have hallowed : String.ofList t.schema.toList ∉ refusedWords := by
    rw [hself]
    exact h.allowed
  have hschema : readName refusedWords (t.schema.toList ++ '.' :: (t.name.toList ++ [])) =
      some (t.schema, '.' :: (t.name.toList ++ [])) := by
    rw [readName_bare h.schema hallowed (endsWord_cons (by decide) _), hself]
  have hname : readName [] (t.name.toList ++ []) = some (t.name, []) := by
    have hends : EndsWord [] := rfl
    rw [readName_bare h.name List.not_mem_nil hends, hself]
  have hdot : readDot ('.' :: (t.name.toList ++ [])) = some (t.name.toList ++ []) := rfl
  have htext : (Statement.rowCount t.qualified).toList =
      "select count(*) from ".toList ++ (t.schema.toList ++ '.' :: (t.name.toList ++ [])) := by
    rw [List.append_nil, ← toList_qualified]
    exact String.toList_append
  rw [countedTable?, htext, isPrefixOf?_append]
  simp only [bind, Option.bind_some, hschema, hdot, hname]
  rfl

end Sql

/-- What stands in front of a mark and behind it, if there is no mark before it. -/
theorem Text.cutAt_append {mark : Char} {before : List Char} (h : mark ∉ before)
    (after : List Char) : Text.cutAt mark (before ++ mark :: after) = some (before, after) := by
  induction before with
  | nil => rw [List.nil_append, Text.cutAt, if_pos rfl]
  | cons c rest ih =>
    rw [List.mem_cons, not_or] at h
    rw [List.cons_append, Text.cutAt, if_neg (Ne.symm h.1), ih h.2]
    rfl

/-! ## Statistics -/

/-- What a server keeps about the relations of a database: how many rows each has, and how many it
was estimated to have, which is a number of the format binary64. -/
structure Statistics where
  relations : List TableName
  rows : TableName → Nat
  tuples : TableName → ℚ
  distinct : relations.Nodup
  few : ∀ t ∈ relations, rows t < 2 ^ 53
  estimated : ∀ t ∈ relations, Binary64.IsOfFormat (tuples t)

/-- The relations with a name, whatever their schemas are. -/
def Statistics.called (s : Statistics) (name : String) : List TableName :=
  s.relations.filter fun t => t.name == name

theorem Statistics.isOfFormat_rows (s : Statistics) {t : TableName} (ht : t ∈ s.relations) :
    Binary64.IsOfFormat (s.rows t) := by
  refine Binary64.isOfFormat_of_le (n := s.rows t) ?_
  rw [Nat.abs_cast]
  exact_mod_cast (s.few t ht).le

/-- The first column of a row holds a numeral of a value, with blanks around it or without. -/
def Sql.Row.Writes (row : Row) (q : ℚ) : Prop :=
  ∃ (text : String) (l : Numeral),
    row.columns[0]? = some (some text) ∧ Text.trim text = l.text ∧ l.value = q

/-- A number of the format is read from where it is written. -/
theorem Sql.Row.exists_number_of_writes {row : Row} {q : ℚ} (h : row.Writes q)
    (hq : Binary64.IsOfFormat q) : ∃ x, row.number 0 = .ok x ∧ x.value? = some q := by
  obtain ⟨text, l, hcolumn, htext, rfl⟩ := h
  refine ⟨l.nearest, ?_, l.roundsTo_nearest.value?_of_isOfFormat hq⟩
  have hread : row.text 0 = .ok text := by rw [Row.text, hcolumn]
  simp only [Row.number, hread, bind, Except.bind, htext, l.readDecimal_text]

namespace Op

/-- A server answers what it keeps: the count of a table's rows, and the estimates of all relations
with a name, in any order. -/
structure KeepsStatistics (site : Site σ) (database : String) (statistics : σ → Statistics) :
    Prop where
  counts : ∀ {statement t} state, Sql.countedTable? statement = some t →
    t ∈ (statistics state.1).relations →
      ∃ row, ((site.services.query { database } statement).run state).1 = .ok [row] ∧
        row.Writes ((statistics state.1).rows t)
  estimates : ∀ name state, ∃ relations rows,
    ((site.services.query { database } (Sql.Statement.estimatedRows name)).run state).1 = .ok rows ∧
      relations.Perm ((statistics state.1).called name) ∧
      List.Forall₂ (fun row t => row.Writes ((statistics state.1).tuples t)) rows relations
  kept : ∀ statement state,
    statistics ((site.services.query { database } statement).run state).2.1 = statistics state.1

/-! ## Comparing two answers -/

/-- The name under which the estimate of a table is looked up: what stands behind the first dot. -/
def soughtName (table : String) : String :=
  match Text.cutAt '.' table.toList with
  | some (_, name) => String.ofList name
  | none => table

/-- Two rows have the same number where they write the same one. -/
theorem sameNumbers_singleton {a b : Row} {p q : ℚ} (ha : a.Writes p) (hb : b.Writes q)
    (hp : Binary64.IsOfFormat p) (hq : Binary64.IsOfFormat q) :
    ∃ same, sameNumbers [a] [b] = .ok same ∧ (same = true ↔ p = q) := by
  obtain ⟨x, hx, hxvalue⟩ := Row.exists_number_of_writes ha hp
  obtain ⟨y, hy, hyvalue⟩ := Row.exists_number_of_writes hb hq
  refine ⟨x.same y, ?_, Binary64.same_iff hxvalue hyvalue⟩
  simp only [sameNumbers, hx, hy, bind, Except.bind]
  cases x.same y <;> rfl

/-- One count and the estimates of all relations with a name: a single one must be that count. -/
theorem exists_verdict {s : Statistics} {t : TableName} (ht : t ∈ s.relations) {row : Row}
    (hrow : row.Writes (s.rows t)) {name : String} {relations : List TableName} {rows : List Row}
    (hperm : relations.Perm (s.called name))
    (hrows : List.Forall₂ (fun row u => row.Writes (s.tuples u)) rows relations) :
    ∃ right, (if [row].length != rows.length then .ok false else sameNumbers [row] rows) =
        Except.ok right ∧
      (right = true ↔ ∃ u, s.called name = [u] ∧ s.tuples u = s.rows t) := by
  have hlength : rows.length = (s.called name).length := hrows.length_eq.trans hperm.length_eq
  by_cases hone : rows.length = 1
  · -- One row, and so one relation.
    obtain ⟨estimate, rfl⟩ := List.length_eq_one_iff.mp hone
    obtain ⟨u, hu⟩ := List.length_eq_one_iff.mp (hlength.symm.trans hone)
    rw [hu, List.perm_singleton] at hperm
    rw [hperm, List.forall₂_cons] at hrows
    have hmem : u ∈ s.called name := by
      rw [hu]
      exact List.mem_singleton_self u
    obtain ⟨right, hsame, hright⟩ := sameNumbers_singleton hrow hrows.1 (s.isOfFormat_rows ht)
      (s.estimated u (List.mem_of_mem_filter hmem))
    refine ⟨right, by rw [if_neg (by simp), hsame], ?_⟩
    rw [hright, hu]
    constructor
    · intro hequal
      exact ⟨u, rfl, hequal.symm⟩
    · rintro ⟨u', hu', hequal⟩
      rw [(List.cons.inj hu').1, hequal]
  · refine ⟨false, by rw [if_pos (by simpa using Ne.symm hone)], ?_⟩
    refine iff_of_false Bool.false_ne_true ?_
    rintro ⟨u, hu, -⟩
    rw [hu] at hlength
    exact hone hlength

variable {site : Site σ} {database : String} {statistics : σ → Statistics}

/-- The check compares what the two statements answer, one after the other. -/
theorem runAt_isAnalyzed_of_answers {table : String} {w : World σ} {counts estimates : List Row}
    {after : σ × FileTree}
    (hcounts : (site.services.query { database } (Sql.Statement.rowCount table)).run
      (w.server, w.files) = (.ok counts, after))
    (hestimates : ((site.services.query { database }
      (Sql.Statement.estimatedRows (soughtName table))).run after).1 = .ok estimates) :
    (runAt (isAnalyzed table database) site w).1 =
      if counts.length != estimates.length then .ok false else sameNumbers counts estimates := by
  obtain ⟨w₁, hcount, hwent⟩ := went_queryAt { database } (Sql.Statement.rowCount table) site w
  obtain ⟨w₂, hestimate, -⟩ :=
    went_queryAt { database } (Sql.Statement.estimatedRows (soughtName table)) site w₁
  rw [hcounts] at hcount hwent
  rw [hwent.server, hwent.files, hestimates] at hestimate
  have hrun : runAt (isAnalyzed table database) site w =
      runAt (if counts.length != estimates.length then pure false
        else check (sameNumbers counts estimates)) site w₂ := by
    unfold isAnalyzed
    rw [runAt_bind_ok (show runAt (query database _) site w = _ from hcount)]
    exact runAt_bind_ok (show runAt (query database _) site w₁ = _ from hestimate) _
  rw [hrun]
  split
  · rfl
  · rw [runAt_check]

/-- The check answers, and says that the estimate is right exactly where a single relation has the
name that is looked up, and its estimate is the number of rows. -/
theorem runAt_isAnalyzed (hserver : KeepsStatistics site database statistics) {table : String}
    {t : TableName} (htable : Sql.countedTable? (Sql.Statement.rowCount table) = some t)
    (w : World σ) (ht : t ∈ (statistics w.server).relations) :
    ∃ right, (runAt (isAnalyzed table database) site w).1 = .ok right ∧
      (right = true ↔ ∃ u, (statistics w.server).called (soughtName table) = [u] ∧
        (statistics w.server).tuples u = (statistics w.server).rows t) := by
  obtain ⟨row, hcounted, hrow⟩ := hserver.counts (w.server, w.files) htable ht
  have hkept := hserver.kept (Sql.Statement.rowCount table) (w.server, w.files)
  rcases hfirst : (site.services.query { database } (Sql.Statement.rowCount table)).run
    (w.server, w.files) with ⟨answer, after⟩
  rw [hfirst] at hcounted hkept
  obtain ⟨relations, rows, hestimated, hperm, hrows⟩ :=
    hserver.estimates (soughtName table) after
  rw [hkept] at hperm hrows
  rw [show answer = .ok [row] from hcounted] at hfirst
  rw [runAt_isAnalyzed_of_answers hfirst hestimated]
  exact exists_verdict ht hrow hperm hrows

/-- No dot stands in a bare schema, so a table is looked up by its name. -/
theorem soughtName_qualified {t : TableName} (h : t.IsBare) : soughtName t.qualified = t.name := by
  have hdot : '.' ∉ t.schema.toList := by
    intro hmem
    have hall := h.schema
    rw [Sql.isBareWord, Bool.and_eq_true, List.all_eq_true] at hall
    exact absurd (hall.2 _ hmem) (by decide)
  rw [soughtName, Sql.toList_qualified, Text.cutAt_append hdot]
  exact String.ofList_toList

/-- What is said of the estimate of a table, for every catalog and all that the server keeps. The
check answers. It says that the estimate is right exactly where one relation alone has the name that
stands behind the first dot, and the estimate of this one is the number of rows. For a table whose
names are bare this means that its own estimate is right and that no other schema has a relation of
its name; so the answer tells about the estimate of the table exactly where a right one is that of
the only relation of the name. -/
theorem isAnalyzed_decides_iff (hserver : KeepsStatistics site database statistics)
    (w : World σ) :
    let kept := statistics w.server
    (∀ table t, Sql.countedTable? (Sql.Statement.rowCount table) = some t → t ∈ kept.relations →
        ∃ right, (runAt (isAnalyzed table database) site w).1 = .ok right ∧
          (right = true ↔
            ∃ u, kept.called (soughtName table) = [u] ∧ kept.tuples u = kept.rows t)) ∧
      ∀ t ∈ kept.relations, t.IsBare →
        ∃ right, (runAt (isAnalyzed t.qualified database) site w).1 = .ok right ∧
          (right = true ↔ kept.tuples t = kept.rows t ∧
            ∀ u ∈ kept.relations, u.name = t.name → u = t) ∧
          ((right = true ↔ kept.tuples t = kept.rows t) ↔
            (kept.tuples t = kept.rows t → ∀ u ∈ kept.relations, u.name = t.name → u = t)) := by
  intro kept
  refine ⟨fun table t htable ht => runAt_isAnalyzed hserver htable w ht, fun t ht hbare => ?_⟩
  obtain ⟨right, hrun, hright⟩ :=
    runAt_isAnalyzed hserver (Sql.countedTable?_rowCount hbare) w ht
  have hdecides : right = true ↔ kept.tuples t = kept.rows t ∧
      ∀ u ∈ kept.relations, u.name = t.name → u = t := by
    rw [hright, soughtName_qualified hbare,
      ← Sql.filter_name_eq_singleton_iff kept.distinct ht]
    constructor
    · rintro ⟨u, hu, hequal⟩
      -- The table has its own name, so it is the one relation.
      have hmem : t ∈ kept.called t.name := List.mem_filter.mpr ⟨ht, beq_self_eq_true _⟩
      have hsame : t = u := by
        rw [hu] at hmem
        exact List.mem_singleton.mp hmem
      rw [← hsame] at hu hequal
      exact ⟨hequal, hu⟩
    · rintro ⟨hequal, halone⟩
      exact ⟨t, halone, hequal⟩
  refine ⟨right, hrun, hdecides, ?_⟩
  rw [hdecides, and_iff_left_iff_imp]

end Op

/-! ## Counts as numerals -/

/-- A natural number in decimal, as a numeral. -/
def Number.Numeral.ofNat (n : Nat) : Numeral where
  sign := none
  whole := .ofNat n
  fraction := none
  power := none
  nonempty := .inl (Digits.ofNat_ne_nil n)

theorem Number.Numeral.text_ofNat (n : Nat) : (Numeral.ofNat n).text = n.repr := by
  rw [← String.toList_inj, Numeral.text, String.toList_ofList, Nat.toList_repr]
  simp [Numeral.chars, Numeral.pointChars, Numeral.powerChars, Numeral.ofNat, Sign.chars,
    Digits.ofNat]

theorem Number.Numeral.value_ofNat (n : Nat) : (Numeral.ofNat n).value = n := by
  have hwhole : (Numeral.ofNat n).whole.value = n := Digits.value_ofNat n
  rw [Numeral.value, hwhole]
  norm_num [Numeral.ofNat, Numeral.places, Numeral.exponent, Binary64.signed, Sign.isMinus]

/-- A row with a count writes it. -/
theorem Sql.Row.writes_ofCount (n : Nat) : (Row.ofCount n).Writes n :=
  ⟨n.repr, .ofNat n, rfl, by rw [Text.trim_repr, Numeral.text_ofNat], Numeral.value_ofNat n⟩

/-! ## A server of statistics -/

namespace Op

/-- A server that keeps counts and estimates, all of them integers. -/
def statistician (relations : List TableName) (rows tuples : TableName → Nat) : Services Unit where
  query _ statement := fun state =>
    match Sql.countedTable? statement with
    | some t => (.ok [Row.ofCount (rows t)], state)
    | none =>
      let found := relations.filter fun t => Sql.Statement.estimatedRows t.name == statement
      (.ok (found.map fun t => Row.ofCount (tuples t)), state)
  execute _ _ := fun state => (.ok (), state)
  run _ := fun state => (.error (.plain .commandFailed "no commands"), state)

theorem countedTable?_estimatedRows (name : String) :
    Sql.countedTable? (Sql.Statement.estimatedRows name) = none := by
  have htext : (Sql.Statement.estimatedRows name).toList =
      "SELECT reltuples FROM pg_class WHERE relname = ".toList ++ (Sql.literal name).toList := by
    simp [Sql.Statement.estimatedRows, Sql.render, Sql.Piece.render]
  rw [Sql.countedTable?, htext]
  rfl

/-- It keeps the statistics of these numbers. -/
theorem keepsStatistics_statistician (s : Statistics) {tuples : TableName → Nat}
    (htuples : ∀ t, s.tuples t = tuples t) (database : String) :
    KeepsStatistics (dataSite (statistician s.relations s.rows tuples)) database fun _ => s where
  counts {statement t} state hcounts _ := by
    refine ⟨Row.ofCount (s.rows t), ?_, Row.writes_ofCount _⟩
    simp only [dataSite, statistician, StateT.run, hcounts]
  estimates name state := by
    have hsame : ∀ t : TableName, (Sql.Statement.estimatedRows t.name ==
        Sql.Statement.estimatedRows name) = (t.name == name) := by
      intro t
      rw [Bool.eq_iff_iff, beq_iff_eq, beq_iff_eq]
      exact Sql.render_value_inj [.text _] []
    refine ⟨s.called name, (s.called name).map fun t => Row.ofCount (tuples t), ?_,
      List.Perm.refl _, ?_⟩
    · simp only [dataSite, statistician, StateT.run, countedTable?_estimatedRows, hsame]
      rfl
    · rw [List.forall₂_map_left_iff, List.forall₂_same]
      intro t _
      rw [htuples]
      exact Row.writes_ofCount _
  kept statement state := rfl

/-- The table of the samples. -/
def salesTable : TableName := ⟨"public", "sales"⟩

theorem isBare_salesTable : salesTable.IsBare where
  schema := by decide
  allowed := by decide
  name := by decide
  untrimmed := by decide

/-- As many rows as were estimated, five in the archive and three elsewhere. -/
def salesRows (t : TableName) : Nat := if t.schema = "archive" then 5 else 3

/-- Statistics that are right. -/
def rightStatistics (relations : List TableName) (distinct : relations.Nodup) : Statistics where
  relations := relations
  rows := salesRows
  tuples t := salesRows t
  distinct := distinct
  few t _ := by
    unfold salesRows
    split <;> norm_num
  estimated t _ := by
    refine Binary64.isOfFormat_of_le (n := salesRows t) ?_
    unfold salesRows
    split <;> norm_num

/-- The estimate of the only relation of its name is found to be right. -/
theorem isAnalyzed_decides_iff_alone :
    (runAt (isAnalyzed "public.sales" "db") (dataSite (statistician [salesTable] salesRows
      salesRows)) ⟨(), ⟨[]⟩, [], []⟩).1 = .ok true := by
  have hserver := keepsStatistics_statistician
    (rightStatistics [salesTable] (List.nodup_singleton _)) (fun _ => rfl) "db"
  obtain ⟨right, hrun, hright, -⟩ := (isAnalyzed_decides_iff hserver ⟨(), ⟨[]⟩, [], []⟩).2
    salesTable (List.mem_singleton_self _) isBare_salesTable
  rw [hright.mpr ⟨rfl, fun u hu _ => List.mem_singleton.mp hu⟩] at hrun
  exact hrun

/-- A table of the same name in another schema. -/
def archivedSales : TableName := ⟨"archive", "sales"⟩

theorem isBare_archivedSales : archivedSales.IsBare where
  schema := by decide
  allowed := by decide
  name := by decide
  untrimmed := by decide

/-- Of two tables of the same name with right estimates, neither is found to have one. -/
theorem isAnalyzed_misses_namesake :
    ∃ kept : Statistics, kept.relations = [salesTable, archivedSales] ∧
      KeepsStatistics (dataSite (statistician kept.relations salesRows salesRows)) "db"
        (fun _ => kept) ∧
      ∀ t ∈ kept.relations, t.IsBare ∧ kept.tuples t = kept.rows t ∧
        (runAt (isAnalyzed t.qualified "db")
          (dataSite (statistician kept.relations salesRows salesRows))
          ⟨(), ⟨[]⟩, [], []⟩).1 = .ok false := by
  have hserver := keepsStatistics_statistician
    (rightStatistics [salesTable, archivedSales] (by decide)) (fun _ => rfl) "db"
  refine ⟨rightStatistics _ _, rfl, hserver, fun t ht => ?_⟩
  have hnamed : t.IsBare ∧ t.name = "sales" := by
    rcases List.mem_cons.mp ht with rfl | hlast
    · exact ⟨isBare_salesTable, rfl⟩
    · rw [List.mem_singleton.mp hlast]
      exact ⟨isBare_archivedSales, rfl⟩
  refine ⟨hnamed.1, rfl, ?_⟩
  obtain ⟨right, hrun, hright⟩ := runAt_isAnalyzed hserver
    (Sql.countedTable?_rowCount hnamed.1) ⟨(), ⟨[]⟩, [], []⟩ ht
  rw [soughtName_qualified hnamed.1, hnamed.2] at hright
  have hwrong : ¬ right = true := by
    rw [hright]
    rintro ⟨u, hu, -⟩
    -- Both tables have the name.
    cases hu
  rw [Bool.not_eq_true] at hwrong
  rw [← hwrong]
  exact hrun

end Op

end ClusterFixture
