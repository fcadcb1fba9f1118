/-
What a passing check of mixed storage vouches for, and what it does not.

The check goes through the partitions that the catalog lists and through the rows that it has for
each of them, and fails at the first row that contradicts. It counts nothing. So a table that is
missing, a partition that is not listed and a partition without a row all pass, because there is
nothing to contradict. `reportsBuilt_iff` says what is left to ask: that ten partitions are listed,
and that none of them is without a row.
-/

import ClusterFixture.Proofs.PartitionOrder
import Mathlib.Data.List.Forall2

set_option autoImplicit false

namespace ClusterFixture.Op

open ClusterFixture.Sql (Row)

variable {σ : Type}

/-! ## The table that is built -/

/-- The storages of the template, one for each range of dates. -/
def templateStorages : List String := ["c", "a", "c", "a", "h"]

/-- The storages of all partitions of the table, in order: the template is used under each of the
two values of the list. -/
def builtStorages : List String := templateStorages ++ templateStorages

example : builtStorages.length = 10 := rfl

/-- The check expects at each place the storage that is built there. -/
theorem mixedStorage_eq {place : Nat} (hplace : place < builtStorages.length) :
    mixedStorage place = builtStorages[place] := by
  have hall : ∀ k : Fin 10, mixedStorage k = builtStorages[k] := by decide
  exact hall ⟨place, hplace⟩

/-- The catalog has a row for a partition, and each row tells this storage. -/
def HasStorage (storage : String → Checked (List Row)) (partition expected : String) : Prop :=
  storage partition ≠ .ok [] ∧ Tells (storage partition) expected

/-- The catalog lists these partitions. -/
def Lists (listed : Checked (List Row)) (partitions : List String) : Prop :=
  ∃ rows, listed = .ok rows ∧ rows.mapM partitionName = .ok partitions

/-- The catalog reports the table as it is built: each partition in its place, with a row that
tells its storage, and no other partition. -/
def ReportsBuilt (listed : Checked (List Row)) (storage : String → Checked (List Row)) : Prop :=
  ∃ partitions, Lists listed partitions ∧
    List.Forall₂ (HasStorage storage) partitions builtStorages

/-- The catalog lists as many partitions as are built, and has a row for each of them. -/
def IsComplete (listed : Checked (List Row)) (storage : String → Checked (List Row)) : Prop :=
  ∃ partitions, Lists listed partitions ∧ partitions.length = builtStorages.length ∧
    ∀ partition ∈ partitions, storage partition ≠ .ok []

/-- Nothing that the catalog reports contradicts the table. -/
def Agrees (listed : Checked (List Row)) (storage : String → Checked (List Row)) : Prop :=
  ∃ partitions, Lists listed partitions ∧
    ∀ k partition, partitions[k]? = some partition → Tells (storage partition) (mixedStorage k)

theorem Lists.unique {listed : Checked (List Row)} {partitions others : List String}
    (h : Lists listed partitions) (h' : Lists listed others) : partitions = others := by
  obtain ⟨rows, rfl, hnames⟩ := h
  obtain ⟨rows', hrows, hnames'⟩ := h'
  rw [← Except.ok.inj hrows, hnames] at hnames'
  exact Except.ok.inj hnames'

/-- Of the partitions that are listed, those built are reported when there are ten of them, each has
a row, and no row contradicts. -/
theorem forall₂_hasStorage_iff (storage : String → Checked (List Row)) (partitions : List String) :
    List.Forall₂ (HasStorage storage) partitions builtStorages ↔
      (∀ k partition, partitions[k]? = some partition →
        Tells (storage partition) (mixedStorage k)) ∧
      partitions.length = builtStorages.length ∧
      ∀ partition ∈ partitions, storage partition ≠ .ok [] := by
  rw [List.forall₂_iff_get]
  constructor
  · rintro ⟨hlength, hall⟩
    refine ⟨?_, hlength, ?_⟩
    · intro k partition hk
      obtain ⟨hbound, rfl⟩ := List.getElem?_eq_some_iff.mp hk
      have hplace : k < builtStorages.length := by omega
      rw [mixedStorage_eq hplace]
      exact (hall k hbound hplace).2
    · intro partition hmem
      obtain ⟨k, hbound, rfl⟩ := List.getElem_of_mem hmem
      exact (hall k hbound (by omega)).1
  · rintro ⟨htells, hlength, hrows⟩
    refine ⟨hlength, ?_⟩
    intro k hbound hplace
    have hk : partitions[k]? = some partitions[k] := List.getElem?_eq_getElem hbound
    have htell := htells k partitions[k] hk
    rw [mixedStorage_eq hplace] at htell
    exact ⟨hrows partitions[k] (List.getElem_mem hbound), htell⟩

/-- The table is reported as it is built exactly when nothing contradicts and nothing is missing. -/
theorem reportsBuilt_iff (listed : Checked (List Row)) (storage : String → Checked (List Row)) :
    ReportsBuilt listed storage ↔ Agrees listed storage ∧ IsComplete listed storage := by
  constructor
  · rintro ⟨partitions, hlists, hbuilt⟩
    obtain ⟨htells, hlength, hrows⟩ := (forall₂_hasStorage_iff storage partitions).mp hbuilt
    exact ⟨⟨partitions, hlists, htells⟩, ⟨partitions, hlists, hlength, hrows⟩⟩
  · rintro ⟨⟨partitions, hlists, htells⟩, ⟨others, hlists', hlength, hrows⟩⟩
    -- Both speak of the one list that the catalog answers.
    have hsame : others = partitions := hlists'.unique hlists
    subst hsame
    exact ⟨others, hlists, (forall₂_hasStorage_iff storage others).mpr ⟨htells, hlength, hrows⟩⟩

/-! ## The check -/

section

variable {site : Site σ} {table database : String} {listed : Checked (List Row)}
  {storage : String → Checked (List Row)}

/-- A server lists the partitions of a table in this way, whatever state it is in. -/
def AnswersListing (site : Site σ) (table database : String) (listed : Checked (List Row)) :
    Prop :=
  ∀ state,
    ((site.services.query { database } (Sql.Statement.partitionTables table 1)).run state).1 =
      listed

theorem runAt_partitionTables_eq_ok_iff (hlisted : AnswersListing site table database listed)
    (w : World σ) (partitions : List String) :
    (runAt (partitionTables table database 1) site w).1 = .ok partitions ↔
      Lists listed partitions := by
  unfold partitionTables column query
  rw [runAt_bind, runAt_queryAt]
  have hanswer := hlisted (w.server, w.files)
  rcases hrun : (site.services.query { database }
    (Sql.Statement.partitionTables table 1)).run (w.server, w.files) with ⟨f | rows, after⟩
  · rw [hrun] at hanswer
    simp only [Lists, ← hanswer]
    simp
  · rw [hrun] at hanswer
    simp only [Lists, ← hanswer, runAt_check, Except.ok.injEq, exists_eq_left']
    exact Iff.rfl

/-- The check passes exactly when nothing that the catalog reports contradicts the table. -/
theorem checkMixedStorage_eq_ok_iff (hlisted : AnswersListing site table database listed)
    (hstorage : AnswersStorage site database storage) (w : World σ) :
    (runAt (checkMixedStorage table database) site w).1 = .ok () ↔ Agrees listed storage := by
  have hnames := runAt_partitionTables_eq_ok_iff hlisted w
  unfold checkMixedStorage Agrees
  rw [runAt_bind]
  rcases hrun : runAt (partitionTables table database 1) site w with ⟨f | partitions, w'⟩
  · rw [hrun] at hnames
    simp only [← hnames]
    simp
  · rw [hrun] at hnames
    simp only [← hnames, Except.ok.injEq, exists_eq_left', runAt_checkMixedFrom hstorage,
      Nat.zero_add]

/-- The check of mixed storage passes exactly when nothing that the catalog reports contradicts the
table that is built. That table passes. In the other direction a pass vouches for the table exactly
when the catalog lists ten partitions and has a row for each of them, or when the check does not
pass anyway. -/
theorem checkMixedStorage_vouches_iff (hlisted : AnswersListing site table database listed)
    (hstorage : AnswersStorage site database storage) (w : World σ) :
    let passes := (runAt (checkMixedStorage table database) site w).1 = .ok ()
    (passes ↔ Agrees listed storage) ∧
      (ReportsBuilt listed storage → passes) ∧
      ((passes → ReportsBuilt listed storage) ↔ (passes → IsComplete listed storage)) := by
  intro passes
  have hpasses : passes ↔ Agrees listed storage :=
    checkMixedStorage_eq_ok_iff hlisted hstorage w
  have hbuilt := reportsBuilt_iff listed storage
  refine ⟨hpasses, ?_, ?_⟩
  · intro h
    exact hpasses.mpr (hbuilt.mp h).1
  · constructor
    · intro h hpass
      exact (hbuilt.mp (h hpass)).2
    · intro h hpass
      exact hbuilt.mpr ⟨hpasses.mp hpass, h hpass⟩

end

/-! ## Catalogs that pass -/

/-- The answer of a catalog that lists partitions by these names. -/
def listedAs (partitions : List String) : Checked (List Row) :=
  .ok (partitions.map fun partition => .ofTexts [partition])

/-- The answers of a catalog with these storages of partitions. -/
def storedAs (stored : List (String × String)) (partition : String) : Checked (List Row) :=
  .ok ((stored.filter fun entry => entry.1 = partition).map fun entry =>
    .ofTexts [entry.1, entry.2])

/-- A server with such a catalog of the table `sales`. -/
def catalogServer (partitions : List String) (stored : List (String × String)) :
    Services Unit where
  query _ statement := fun state =>
    (if statement = Sql.Statement.partitionTables "sales" 1 then listedAs partitions
      else .ok ((stored.filter fun entry =>
        Sql.Statement.relationStorage entry.1 = statement).map fun entry =>
          .ofTexts [entry.1, entry.2]), state)
  execute _ _ := fun state => (.ok (), state)
  run _ := fun state => (.error (.plain .commandFailed "no commands"), state)

/-- The partitions of the table as it is built, with their storages. -/
def builtPartitions : List (String × String) :=
  ["p1", "p2"].flatMap fun value =>
    (["s_1", "s_2", "s_3", "s_4", "s_5"].zip templateStorages).map fun (range, storage) =>
      ("sales_1_prt_" ++ value ++ "_2_prt_" ++ range, storage)

theorem answersListing_catalogServer (partitions : List String) (stored : List (String × String)) :
    AnswersListing (dataSite (catalogServer partitions stored)) "sales" "db"
      (listedAs partitions) := by
  intro state
  simp only [dataSite, catalogServer, if_true, StateT.run]

theorem answersStorage_catalogServer (partitions : List String) (stored : List (String × String)) :
    AnswersStorage (dataSite (catalogServer partitions stored)) "db" (storedAs stored) := by
  intro partition state
  have hother := partitionTables_ne_relationStorage "sales" partition 1
  have hsame : ∀ name, (Sql.Statement.relationStorage name =
      Sql.Statement.relationStorage partition) = (name = partition) := by
    intro name
    exact propext (Sql.render_value_inj [.text _] [.text _])
  simp only [dataSite, catalogServer, hother, if_false, StateT.run, hsame, storedAs]

/-- A catalog with exactly one storage of a partition has it. -/
theorem hasStorage_storedAs {stored : List (String × String)} {partition storage : String}
    (hmem : (partition, storage) ∈ stored)
    (honly : ∀ entry ∈ stored, entry.1 = partition → entry.2 = storage) :
    HasStorage (storedAs stored) partition storage := by
  unfold HasStorage storedAs
  constructor
  · intro hnone
    have hempty := List.map_eq_nil_iff.mp (Except.ok.inj hnone)
    have hfound := List.filter_eq_nil_iff.mp hempty (partition, storage) hmem
    simp at hfound
  · refine ⟨_, rfl, ?_⟩
    intro row hrow
    obtain ⟨entry, hentry, rfl⟩ := List.mem_map.mp hrow
    obtain ⟨hin, hname⟩ := List.mem_filter.mp hentry
    have hstorage := honly entry hin (by simpa using hname)
    exact ⟨entry.2, rfl, by rw [hstorage]⟩

/-- A catalog with the table as it is built reports it, so the check passes and may be believed. -/
theorem checkMixedStorage_vouches_iff_built :
    let names := builtPartitions.map Prod.fst
    let site := dataSite (catalogServer names builtPartitions)
    AnswersListing site "sales" "db" (listedAs names) ∧
      AnswersStorage site "db" (storedAs builtPartitions) ∧
      ReportsBuilt (listedAs names) (storedAs builtPartitions) ∧
      (runAt (checkMixedStorage "sales" "db") site ⟨(), ⟨[]⟩, [], []⟩).1 = .ok () := by
  intro names site
  have hlisted := answersListing_catalogServer names builtPartitions
  have hstorage := answersStorage_catalogServer names builtPartitions
  have hone : ∀ entry ∈ builtPartitions, ∀ other ∈ builtPartitions,
      other.1 = entry.1 → other.2 = entry.2 := by decide
  have hstorages : builtStorages = builtPartitions.map Prod.snd := by decide
  have hbuilt : ReportsBuilt (listedAs names) (storedAs builtPartitions) := by
    refine ⟨names, ⟨_, rfl, rfl⟩, ?_⟩
    rw [hstorages, List.forall₂_map_left_iff, List.forall₂_map_right_iff, List.forall₂_same]
    intro entry hentry
    exact hasStorage_storedAs hentry (hone entry hentry)
  obtain ⟨-, hpass, -⟩ := checkMixedStorage_vouches_iff hlisted hstorage ⟨(), ⟨[]⟩, [], []⟩
  exact ⟨hlisted, hstorage, hbuilt, hpass hbuilt⟩

/-- A table that is not there passes, and so do a table with only one of its partitions and a table
of whose partitions the catalog has no row. None of these is the table that is built. -/
theorem checkMixedStorage_nothing_listed :
    let check := fun partitions stored =>
      (runAt (checkMixedStorage "sales" "db") (dataSite (catalogServer partitions stored))
        ⟨(), ⟨[]⟩, [], []⟩).1
    check [] [] = .ok () ∧ ¬ReportsBuilt (listedAs []) (storedAs []) ∧
      check ["sales_1_prt_p1"] [("sales_1_prt_p1", "c")] = .ok () ∧
      ¬ReportsBuilt (listedAs ["sales_1_prt_p1"]) (storedAs [("sales_1_prt_p1", "c")]) ∧
      check (builtPartitions.map Prod.fst) [] = .ok () ∧
      ¬ReportsBuilt (listedAs (builtPartitions.map Prod.fst)) (storedAs []) := by
  intro check
  have hrowless : check (builtPartitions.map Prod.fst) [] = .ok () := by
    apply (checkMixedStorage_eq_ok_iff (answersListing_catalogServer _ _)
      (answersStorage_catalogServer _ _) _).mpr
    refine ⟨builtPartitions.map Prod.fst, ⟨_, rfl, rfl⟩, ?_⟩
    intro k partition _
    exact ⟨[], rfl, by simp⟩
  refine ⟨rfl, ?_, rfl, ?_, hrowless, ?_⟩
  · rintro ⟨partitions, hlists, hbuilt⟩
    have hnone : partitions = [] := hlists.unique ⟨_, rfl, rfl⟩
    rw [hnone] at hbuilt
    exact absurd hbuilt.length_eq (by decide)
  · rintro ⟨partitions, hlists, hbuilt⟩
    have hone : partitions = ["sales_1_prt_p1"] := hlists.unique ⟨_, rfl, rfl⟩
    rw [hone] at hbuilt
    exact absurd hbuilt.length_eq (by decide)
  · intro hreports
    -- Already the first of the partitions is without a row.
    obtain ⟨partitions, hlists, _, hrows⟩ := ((reportsBuilt_iff _ _).mp hreports).2
    have hten : partitions = builtPartitions.map Prod.fst := hlists.unique ⟨_, rfl, rfl⟩
    rw [hten] at hrows
    exact hrows "sales_1_prt_p1_2_prt_s_1" (by decide) rfl

end ClusterFixture.Op
