/-
How the check of mixed storage hangs on the order in which a server lists partitions.

The listing has no order of its own, so a server may answer its rows in any. The check expects a
storage at each place of the answer, and not of each partition: a row fits at a place if the
partition that it names has the storage of that place. So one server may pass in one order and fail
in another. `passes_iff` says what an order needs; that the first two places ask for different
storages is all it takes to turn a success into a failure by moving one row.
-/

import ClusterFixture.Operation.Checks
import ClusterFixture.Proofs.Comparison
import ClusterFixture.Proofs.Literals
import Mathlib.Data.List.Basic

set_option autoImplicit false

namespace ClusterFixture

open ClusterFixture.Sql (Row)

variable {σ : Type}

/-- A site where a statement is answered by these rows; all else is answered as before. -/
def Site.answering (site : Site σ) (target : Sql.Target) (statement : String) (rows : List Row) :
    Site σ :=
  { site with
    services := { site.services with
      query := fun t s =>
        if t = target ∧ s = statement then fun state => (.ok rows, state)
        else site.services.query t s } }

namespace Op

/-! ## The storage of one partition -/

/-- What a server says of the storage of a partition fits: each row that it answers, if any, tells
this storage. -/
def Tells (answer : Checked (List Row)) (storage : String) : Prop :=
  ∃ rows, answer = .ok rows ∧
    ∀ row ∈ rows, ∃ actual, row.text 1 = .ok actual ∧ Text.trim actual = Text.trim storage

theorem checkStorageRows_eq_ok_iff (partition storage : String) (rows : List Row) :
    checkStorageRows partition storage rows = .ok () ↔
      ∀ row ∈ rows, ∃ actual, row.text 1 = .ok actual ∧ Text.trim actual = Text.trim storage := by
  induction rows with
  | nil => simp [checkStorageRows]
  | cons row rest ih =>
    rw [checkStorageRows, bind_eq_ok_iff, List.forall_mem_cons, ← ih]
    constructor
    · rintro ⟨actual, hactual, h⟩
      by_cases hsame : Text.trim actual = Text.trim storage
      · simp only [hsame, bne_self_eq_false, Bool.false_eq_true, if_false] at h
        exact ⟨⟨actual, hactual, hsame⟩, h⟩
      · rw [if_pos (by simpa using hsame)] at h
        cases h
    · rintro ⟨⟨actual, hactual, hsame⟩, h⟩
      refine ⟨actual, hactual, ?_⟩
      simp only [hsame, bne_self_eq_false, Bool.false_eq_true, if_false]
      exact h

/-- The storage that a server tells is one, if it tells any. -/
theorem Tells.unique {answer : Checked (List Row)} {storage other : String}
    (h : Tells answer storage) (h' : Tells answer other) :
    answer = .ok [] ∨ Text.trim storage = Text.trim other := by
  obtain ⟨rows, rfl, hall⟩ := h
  obtain ⟨rows', hrows, hall'⟩ := h'
  cases hrows
  rcases rows with _ | ⟨row, rest⟩
  · exact .inl rfl
  · obtain ⟨actual, hactual, hsame⟩ := hall row (by simp)
    obtain ⟨actual', hactual', hsame'⟩ := hall' row (by simp)
    rw [hactual] at hactual'
    cases hactual'
    exact .inr (hsame.symm.trans hsame')

/-! ## The partitions of a listing -/

section

variable {site : Site σ} {database : String} {storage : String → Checked (List Row)}

/-- A server answers for the storage of a partition by its name, whatever state it is in. -/
def AnswersStorage (site : Site σ) (database : String) (storage : String → Checked (List Row)) :
    Prop :=
  ∀ partition state,
    ((site.services.query { database } (Sql.Statement.relationStorage partition)).run state).1 =
      storage partition

theorem runAt_checkStorage (hstorage : AnswersStorage site database storage)
    (partition expected : String) (w : World σ) :
    (runAt (checkStorage partition expected database) site w).1 = .ok () ↔
      Tells (storage partition) expected := by
  rw [checkStorage, query, runAt_bind, runAt_queryAt]
  have hanswer := hstorage partition (w.server, w.files)
  rcases hrun : (site.services.query { database }
    (Sql.Statement.relationStorage partition)).run (w.server, w.files) with ⟨f | rows, after⟩
  · rw [hrun] at hanswer
    simp only [Tells, ← hanswer]
    refine iff_of_false (fun h => ?_) (by simp)
    cases h
  · rw [hrun] at hanswer
    simp only [runAt_check, checkStorageRows_eq_ok_iff, Tells, ← hanswer, Except.ok.injEq,
      exists_eq_left']

/-- From a position on, the check passes when each partition has the storage of its place. -/
theorem runAt_checkMixedFrom (hstorage : AnswersStorage site database storage)
    (position : Nat) (partitions : List String) (w : World σ) :
    (runAt (checkMixedFrom database position partitions) site w).1 = .ok () ↔
      ∀ k partition, partitions[k]? = some partition →
        Tells (storage partition) (mixedStorage (position + k)) := by
  induction partitions generalizing position w with
  | nil => simp [checkMixedFrom]
  | cons first rest ih =>
    have hfirst := runAt_checkStorage hstorage first (mixedStorage position) w
    rw [checkMixedFrom, runAt_bind]
    rcases hrun : runAt (checkStorage first (mixedStorage position) database) site w
      with ⟨f | ⟨⟩, w'⟩
    · rw [hrun] at hfirst
      refine iff_of_false nofun fun h => ?_
      cases hfirst.mpr (h 0 first rfl)
    · rw [hrun] at hfirst
      simp only [ih]
      constructor
      · rintro h (_ | k) partition hpartition
        · cases hpartition
          exact hfirst.mp rfl
        · rw [show position + (k + 1) = position + 1 + k by omega]
          exact h k partition hpartition
      · intro h k partition hpartition
        rw [show position + 1 + k = position + (k + 1) by omega]
        exact h (k + 1) partition hpartition

/-! ## Rows at their places -/

/-- The name of the partition in a row of the listing. -/
def partitionName (row : Row) : Checked String := do return Text.trim (← row.text 0)

/-- A row names a partition that has the storage of a place. -/
def Fits (storage : String → Checked (List Row)) (place : Nat) (row : Row) : Prop :=
  ∃ partition, partitionName row = .ok partition ∧
    Tells (storage partition) (mixedStorage place)

theorem exists_names_iff (fits : Nat → String → Prop) (rows : List Row) :
    (∃ partitions, rows.mapM partitionName = .ok partitions ∧
        ∀ k partition, partitions[k]? = some partition → fits k partition) ↔
      ∀ k row, rows[k]? = some row →
        ∃ partition, partitionName row = .ok partition ∧ fits k partition := by
  induction rows generalizing fits with
  | nil => simp [List.mapM_nil, pure, Except.pure]
  | cons row rest ih =>
    have hrest := ih fun k => fits (k + 1)
    constructor
    · rintro ⟨partitions, hnames, hfits⟩ k r hr
      rw [List.mapM_cons, bind_eq_ok_iff] at hnames
      obtain ⟨first, hfirst, hnames⟩ := hnames
      obtain ⟨more, hmore, hnames⟩ := bind_eq_ok_iff.mp hnames
      cases hnames
      rcases k with _ | k
      · cases hr
        exact ⟨first, hfirst, hfits 0 first rfl⟩
      · exact hrest.mp ⟨more, hmore, fun k => hfits (k + 1)⟩ k r hr
    · intro h
      obtain ⟨first, hfirst, hfit⟩ := h 0 row rfl
      obtain ⟨more, hmore, hfits⟩ := hrest.mpr fun k => h (k + 1)
      refine ⟨first :: more, ?_, ?_⟩
      · rw [List.mapM_cons, hfirst]
        simp only [bind, Except.bind, hmore, pure, Except.pure]
      · rintro (_ | k) partition hpartition
        · cases hpartition
          exact hfit
        · exact hfits k partition hpartition

/-- The statement of the listing asks for no storage. -/
theorem partitionTables_ne_relationStorage (table partition : String) (level : Nat) :
    Sql.Statement.relationStorage partition ≠ Sql.Statement.partitionTables table level := by
  intro h
  have hchars := congrArg (fun s => s.toList.take 8) h
  simp only [Sql.Statement.relationStorage, Sql.Statement.partitionTables,
    Sql.toList_render_cons, Sql.Piece.render] at hchars
  revert hchars
  simp

/-- A site where a server lists the partitions of a table in these rows. -/
def listing (site : Site σ) (table database : String) (rows : List Row) : Site σ :=
  site.answering { database } (Sql.Statement.partitionTables table 1) rows

theorem AnswersStorage.listing (hstorage : AnswersStorage site database storage) (table : String)
    (rows : List Row) : AnswersStorage (listing site table database rows) database storage := by
  intro partition state
  have hother := partitionTables_ne_relationStorage table partition 1
  simp only [Op.listing, Site.answering, hother, and_false, if_false]
  exact hstorage partition state

theorem runAt_partitionTables (site : Site σ) (table database : String) (rows : List Row)
    (w : World σ) :
    (runAt (partitionTables table database 1) (listing site table database rows) w).1 =
      rows.mapM partitionName := by
  rw [partitionTables, column, query, runAt_bind, runAt_queryAt]
  simp only [listing, Site.answering, and_self, if_true, StateT.run, runAt_check]
  rfl

/-- The check passes on an answer exactly when each of its rows fits at its place. -/
theorem passes_iff (hstorage : AnswersStorage site database storage) (table : String)
    (rows : List Row) (w : World σ) :
    (runAt (checkMixedStorage table database) (listing site table database rows) w).1 = .ok () ↔
      ∀ k row, rows[k]? = some row → Fits storage k row := by
  rw [checkMixedStorage, runAt_bind]
  have hnames := runAt_partitionTables site table database rows w
  have hfits := exists_names_iff
    (fun place partition => Tells (storage partition) (mixedStorage place)) rows
  rcases hrun : runAt (partitionTables table database 1) (listing site table database rows) w
    with ⟨f | partitions, w'⟩
  · rw [hrun] at hnames
    refine iff_of_false nofun fun h => ?_
    obtain ⟨partitions, hpartitions, _⟩ := hfits.mpr h
    rw [← hnames] at hpartitions
    cases hpartitions
  · rw [hrun] at hnames
    simp only [runAt_checkMixedFrom (hstorage.listing table rows), Nat.zero_add]
    rw [show (∀ k row, rows[k]? = some row → Fits storage k row) ↔ _ from hfits.symm, ← hnames]
    simp

/-! ## Orders -/

/-- The check passes on an answer of the listing. -/
def Passes (site : Site σ) (table database : String) (w : World σ) (rows : List Row) : Prop :=
  (runAt (checkMixedStorage table database) (listing site table database rows) w).1 = .ok ()

/-- Where every order of an answer passes and there are two rows, a row fits at the first place and
at the second one, so its partition has no storage. -/
theorem storage_eq_nil_of_all_pass (hstorage : AnswersStorage site database storage)
    {table : String} {w : World σ} {rows : List Row} (hlength : 2 ≤ rows.length)
    (hall : ∀ rows', rows'.Perm rows → Passes site table database w rows') {row : Row}
    (hrow : row ∈ rows) {partition : String} (hname : partitionName row = .ok partition) :
    storage partition = .ok [] := by
  obtain ⟨other, rest, hother⟩ : ∃ other rest, rows.erase row = other :: rest := by
    rcases hcase : rows.erase row with _ | ⟨other, rest⟩
    · have hcount := List.length_erase_of_mem hrow
      rw [hcase, List.length_nil] at hcount
      omega
    · exact ⟨other, rest, rfl⟩
  have hperm : (row :: other :: rest).Perm rows := by
    rw [← hother]
    exact (List.perm_cons_erase hrow).symm
  have hfirst := (passes_iff hstorage table _ w).mp (hall _ hperm) 0 row rfl
  have hsecond := (passes_iff hstorage table _ w).mp
    (hall _ ((List.Perm.swap row other rest).trans hperm)) 1 row rfl
  obtain ⟨name, hname', htells⟩ := hfirst
  obtain ⟨name', hname'', htells'⟩ := hsecond
  rw [hname] at hname' hname''
  cases hname'
  cases hname''
  rcases htells.unique htells' with hnone | hsame
  · exact hnone
  · exact absurd hsame (by decide)

/-- The check passes on an answer exactly when each row fits at its place. So its verdict is the same
for all orders of an answer in three cases only: there is but one order, or no order passes, or the
server tells no storage of any partition. -/
theorem checkMixedStorage_order_iff (hstorage : AnswersStorage site database storage)
    (table : String) (w : World σ) :
    (∀ rows, Passes site table database w rows ↔
        ∀ k row, rows[k]? = some row → Fits storage k row) ∧
      ∀ rows, (∀ rows', rows'.Perm rows →
          (Passes site table database w rows' ↔ Passes site table database w rows)) ↔
        rows.length ≤ 1 ∨ (∀ rows', rows'.Perm rows → ¬Passes site table database w rows') ∨
          ∀ row ∈ rows, ∃ partition, partitionName row = .ok partition ∧
            storage partition = .ok [] := by
  have hpasses := fun rows => passes_iff hstorage table rows w
  refine ⟨hpasses, fun rows => ⟨fun hsame => ?_, ?_⟩⟩
  · by_cases hshort : rows.length ≤ 1
    · exact .inl hshort
    by_cases hsome : Passes site table database w rows
    · have hall : ∀ rows', rows'.Perm rows → Passes site table database w rows' :=
        fun rows' hperm => (hsame rows' hperm).mpr hsome
      refine .inr (.inr fun row hrow => ?_)
      obtain ⟨k, hk⟩ := List.mem_iff_getElem?.mp hrow
      obtain ⟨partition, hname, _⟩ := (hpasses rows).mp hsome k row hk
      exact ⟨partition, hname,
        storage_eq_nil_of_all_pass hstorage (by omega) hall hrow hname⟩
    · exact .inr (.inl fun rows' hperm h => hsome ((hsame rows' hperm).mp h))
  · rintro (hshort | hnone | hempty) rows' hperm
    · have hsame : rows' = rows := by
        match rows, hshort with
        | [], _ => exact hperm.eq_nil
        | [row], _ => exact List.perm_singleton.mp hperm
      rw [hsame]
    · exact iff_of_false (hnone rows' hperm) (hnone rows (.refl rows))
    · -- Without any storage told, every row fits everywhere.
      have hfits : ∀ k, ∀ row ∈ rows, Fits storage k row := by
        intro k row hrow
        obtain ⟨partition, hname, hnil⟩ := hempty row hrow
        exact ⟨partition, hname, [], hnil, by simp⟩
      refine iff_of_true ((hpasses rows').mpr fun k row hk => ?_)
        ((hpasses rows).mpr fun k row hk => ?_)
      · exact hfits k row (hperm.mem_iff.mp (List.mem_of_getElem? hk))
      · exact hfits k row (List.mem_of_getElem? hk)

end

/-! ## A success that fails in another order -/

/-- What a server tells about a table with a column-oriented and an append-only partition. -/
def twoStorages (statement : String) : List Row :=
  if statement = Sql.Statement.relationStorage "sales_1_prt_p1" then
    [.ofTexts ["sales_1_prt_p1", "c"]]
  else if statement = Sql.Statement.relationStorage "sales_1_prt_p2" then
    [.ofTexts ["sales_1_prt_p2", "a"]]
  else []

/-- A server with this table. -/
def twoPartitions : Services Unit where
  query _ statement := fun state => (.ok (twoStorages statement), state)
  execute _ _ := fun state => (.ok (), state)
  run _ := fun state => (.error (.plain .commandFailed "no commands"), state)

/-- The rows of its listing, in the order of the partitions. -/
def twoRows : List Row := [.ofTexts ["sales_1_prt_p1"], .ofTexts ["sales_1_prt_p2"]]

theorem answersStorage_twoPartitions :
    AnswersStorage (dataSite twoPartitions) "db"
      fun partition => .ok (twoStorages (Sql.Statement.relationStorage partition)) :=
  fun _ _ => rfl

/-- On such a server the verdict is not the same for all orders. -/
theorem checkMixedStorage_order_iff_twoPartitions :
    AnswersStorage (dataSite twoPartitions) "db"
        (fun partition => .ok (twoStorages (Sql.Statement.relationStorage partition))) ∧
      ¬∀ rows', rows'.Perm twoRows →
        (Passes (dataSite twoPartitions) "sales" "db" ⟨(), ⟨[]⟩, [], []⟩ rows' ↔
          Passes (dataSite twoPartitions) "sales" "db" ⟨(), ⟨[]⟩, [], []⟩ twoRows) := by
  obtain ⟨-, hsame⟩ := checkMixedStorage_order_iff answersStorage_twoPartitions "sales"
    ⟨(), ⟨[]⟩, [], []⟩
  refine ⟨answersStorage_twoPartitions, fun h => ?_⟩
  rcases (hsame twoRows).mp h with hshort | hnone | hempty
  · exact absurd hshort (by decide)
  · exact hnone twoRows (.refl _) rfl
  · obtain ⟨partition, hname, hnil⟩ := hempty (.ofTexts ["sales_1_prt_p1"]) (by simp [twoRows])
    cases hname
    exact absurd (Except.ok.inj hnil) (by decide)

/-- In the order of the partitions the check passes; when the server lists them the other way round,
it finds the storage of the second one where it expects that of the first. -/
theorem checkMixedStorage_reversed :
    twoRows.reverse.Perm twoRows ∧
      Passes (dataSite twoPartitions) "sales" "db" ⟨(), ⟨[]⟩, [], []⟩ twoRows ∧
      (runAt (checkMixedStorage "sales" "db")
          (listing (dataSite twoPartitions) "sales" "db" twoRows.reverse) ⟨(), ⟨[]⟩, [], []⟩).1 =
        .error (.detailed .assertionFailed "The storage type of the partition is not as expected"
          "sales_1_prt_p2 has a, expected c") :=
  ⟨List.reverse_perm _, rfl, rfl⟩

end Op

end ClusterFixture
