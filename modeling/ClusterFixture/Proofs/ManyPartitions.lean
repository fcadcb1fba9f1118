/-
Whether the check behind a table with very many partitions finds that table.

The statement names the table as a scenario spells it: with its schema or without, and in letters
that the server folds. The check counts the relations whose bare name is this text. The one it
counts is the table that was created exactly when the table is called by its name alone, without a
capital letter. Any other spelling is the name of no relation, or of one that has nothing to do with
the table.
-/

import ClusterFixture.Operation.Tables
import ClusterFixture.Proofs.Comparison
import ClusterFixture.Proofs.DefinedNames
import ClusterFixture.Proofs.IntegerColumns
import ClusterFixture.Proofs.Literals

set_option autoImplicit false

namespace ClusterFixture

open Sql (TableName Storage Spelling IsPlainName createdTable? folded)

variable {σ : Type}

/-! ## Catalogs -/

/-- Among distinct relations one is alone with its name exactly if every relation of the name is
this one. -/
theorem Sql.filter_name_eq_singleton_iff {relations : List TableName}
    (hdistinct : relations.Nodup) {t : TableName} (ht : t ∈ relations) :
    relations.filter (fun u => u.name == t.name) = [t] ↔
      ∀ u ∈ relations, u.name = t.name → u = t := by
  rw [← List.perm_singleton,
    List.perm_ext_iff_of_nodup (hdistinct.filter _) (List.nodup_singleton t)]
  simp only [List.mem_filter, beq_iff_eq, List.mem_singleton]
  constructor
  · exact fun hsame u hu hname => (hsame u).mp ⟨hu, hname⟩
  · refine fun halone u => ⟨fun h => halone u h.1 h.2, ?_⟩
    rintro rfl
    exact ⟨ht, rfl⟩

/-- The relations of a database. There are not more of them than a count can tell. -/
structure Catalog where
  relations : List TableName := []
  distinct : relations.Nodup := by simp
  few : relations.length < Number.twoTo 63 := by decide

namespace Catalog

/-- The relations with a name, whatever their schemas are. -/
def called (c : Catalog) (name : String) : List TableName :=
  c.relations.filter fun t => t.name == name

theorem mem_called {c : Catalog} {name : String} {t : TableName} :
    t ∈ c.called name ↔ t ∈ c.relations ∧ t.name = name := by
  rw [called, List.mem_filter, beq_iff_eq]

theorem length_called_lt (c : Catalog) (name : String) :
    (c.called name).length < Number.twoTo 63 :=
  Nat.lt_of_le_of_lt (List.length_filter_le _ _) c.few

/-- A relation that shares its name with no other one is the only one with the name. -/
theorem called_eq_singleton {c : Catalog} {t : TableName} (ht : t ∈ c.relations)
    (halone : ∀ u ∈ c.relations, u.name = t.name → u = t) : c.called t.name = [t] :=
  (Sql.filter_name_eq_singleton_iff c.distinct ht).mpr halone

/-- The catalog with one more relation, unless it has that already or is full. -/
def add? (c : Catalog) (t : TableName) : Option Catalog :=
  if h : t ∉ c.relations ∧ (t :: c.relations).length < Number.twoTo 63 then
    some ⟨t :: c.relations, List.nodup_cons.mpr ⟨h.1, c.distinct⟩, h.2⟩
  else none

theorem mem_of_add? {c after : Catalog} {t : TableName} (h : c.add? t = some after) :
    t ∈ after.relations := by
  unfold add? at h
  split at h
  · rw [← Option.some.inj h]
    exact List.mem_cons_self
  · cases h

end Catalog

namespace Op

/-! ## A server with relations -/

/-- A server keeps the relations of a database, where new ones without a schema go into `home`. A
table that it creates is among its relations, and it counts relations by their exact names. -/
structure KeepsRelations (site : Site σ) (database home : String) (catalog : σ → Catalog) :
    Prop where
  created : ∀ {statement t} state, createdTable? home statement = some t →
    (executed site database statement state).1 = .ok () →
      t ∈ (catalog (executed site database statement state).2.1).relations
  counts : ∀ name state,
    ((site.services.query { database } (Sql.Statement.relationCount name)).run state).1 =
      .ok [Sql.Row.ofCount ((catalog state.1).called name).length]

variable {site : Site σ} {database home : String} {catalog : σ → Catalog}

/-- The table that a statement created is there. -/
theorem mem_relations_of_execute (hserver : KeepsRelations site database home catalog)
    {statement : String} {t : TableName} (hcreates : createdTable? home statement = some t)
    {w w₁ : World σ} (hrun : runAt (execute database statement) site w = (.ok (), w₁)) :
    t ∈ (catalog w₁.server).relations := by
  obtain ⟨w', hrun', hwent⟩ := went_executeAt { database } statement site w
  unfold execute at hrun
  rw [hrun] at hrun'
  obtain ⟨hok, hworld⟩ := Prod.mk.inj hrun'
  rw [hworld, hwent.server]
  exact hserver.created _ hcreates hok.symm

/-- After the table was created, the operation succeeds where the count is one. -/
theorem createManyPartitions_eq_ok_iff (hserver : KeepsRelations site database home catalog)
    (storage : Storage) (table : String) (partitions : Option Nat) {w w₁ : World σ}
    (hcreate : runAt (execute database
      (Sql.Statement.createManyPartitions storage table partitions)) site w = (.ok (), w₁)) :
    (runAt (createManyPartitions storage table database partitions) site w).1 = .ok () ↔
      ((catalog w₁.server).called table).length = 1 := by
  have hanswer : (runAt (single database (Sql.Statement.relationCount table)) site w₁).1 =
      .ok (Number.decimal ((catalog w₁.server).called table).length) := by
    rw [runAt_single, hserver.counts table (w₁.server, w₁.files)]
    rfl
  unfold createManyPartitions
  rw [runAt_bind_ok hcreate, runAt_count_compare hanswer]
  have hread := Sql.Row.integer_ofCount _ ((catalog w₁.server).length_called_lt table)
  unfold Sql.Row.ofCount at hread
  rw [hread, Except.ok.injEq]
  omega

/-- Where the table was created and no other schema has a relation of its name, the operation
succeeds if one relation is called just as the table is spelled. That this one is the table that was
created is the case exactly if the spelling is a name alone, without a capital letter. -/
theorem createManyPartitions_finds_iff (hserver : KeepsRelations site database home catalog)
    {s : Spelling} (hplain : s.IsPlain) (storage : Storage) (partitions : Option Nat)
    {w w₁ : World σ}
    (hcreate : runAt (execute database
      (Sql.Statement.createManyPartitions storage s.text partitions)) site w = (.ok (), w₁))
    (halone : ∀ t ∈ (catalog w₁.server).relations, t.name = (s.meant home).name →
      t.schema = (s.meant home).schema) :
    ((runAt (createManyPartitions storage s.text database partitions) site w).1 = .ok () ↔
        ((catalog w₁.server).called s.text).length = 1) ∧
      ((runAt (createManyPartitions storage s.text database partitions) site w).1 = .ok () ∧
          (catalog w₁.server).called s.text = [s.meant home] ↔
        s.schema = none ∧ ∀ c ∈ s.name.toList, c.isUpper = false) := by
  have hok := createManyPartitions_eq_ok_iff hserver storage s.text partitions hcreate
  refine ⟨hok, ?_⟩
  rw [hok, ← Sql.folded_eq_self_iff]
  constructor
  · -- The table that is counted has the text of the spelling for its folded name.
    rintro ⟨-, hfound⟩
    have htext : folded s.name = s.text :=
      (Catalog.mem_called.mp (by rw [hfound]; exact List.mem_singleton.mpr rfl)).2
    rcases hschema : s.schema with _ | schema
    · refine ⟨rfl, ?_⟩
      rw [htext, Spelling.text, hschema]
    · exact absurd htext (Spelling.folded_ne_text hplain.name hschema)
  · -- A name alone in small letters is its own folded name.
    rintro ⟨hschema, hsmall⟩
    have htext : s.text = (s.meant home).name := by
      rw [Spelling.text, hschema]
      exact hsmall.symm
    have hthere : s.meant home ∈ (catalog w₁.server).relations :=
      mem_relations_of_execute hserver
        (Spelling.createdTable?_createManyPartitions home hplain storage partitions) hcreate
    have hfound : (catalog w₁.server).called s.text = [s.meant home] := by
      rw [htext]
      refine Catalog.called_eq_singleton hthere fun u hu hname => ?_
      calc u = ⟨u.schema, u.name⟩ := rfl
        _ = s.meant home := by rw [halone u hu hname, hname]
    exact ⟨by rw [hfound]; rfl, hfound⟩

/-! ## A server of tables -/

/-- A server whose state is its catalog, and which creates tables without a schema in `public`. -/
def tableKeeper : Services Catalog where
  query _ statement := fun (c, files) =>
    let counted := c.relations.filter fun t => Sql.Statement.relationCount t.name == statement
    (.ok [Sql.Row.ofCount counted.length], (c, files))
  execute _ statement := fun (c, files) =>
    match (createdTable? "public" statement).bind c.add? with
    | some after => (.ok (), (after, files))
    | none => (.error (.plain .queryFailed "refused"), (c, files))
  run _ := fun state => (.error (.plain .commandFailed "no commands"), state)

theorem keepsRelations_tableKeeper (database : String) :
    KeepsRelations (dataSite tableKeeper) database "public" id where
  created {statement t} state hcreates hok := by
    simp only [executed, dataSite, tableKeeper, StateT.run, hcreates, Option.bind_some,
      id_eq] at hok ⊢
    rcases hafter : state.1.add? t with _ | after
    · rw [hafter] at hok
      cases hok
    · exact Catalog.mem_of_add? hafter
  counts name state := by
    have hsame : ∀ t : TableName, (Sql.Statement.relationCount t.name ==
        Sql.Statement.relationCount name) = (t.name == name) := by
      intro t
      rw [Bool.eq_iff_iff, beq_iff_eq, beq_iff_eq]
      exact Sql.render_value_inj [.text _] []
    simp only [dataSite, tableKeeper, StateT.run, hsame]
    rfl

/-- It creates the table that the spelling means. -/
theorem execute_tableKeeper {s : Spelling} (hplain : s.IsPlain) (storage : Storage)
    (partitions : Option Nat) (database : String) {w : World Catalog} {after : Catalog}
    (hadd : w.server.add? (s.meant "public") = some after) :
    ∃ w₁, runAt (execute database (Sql.Statement.createManyPartitions storage s.text partitions))
      (dataSite tableKeeper) w = (.ok (), w₁) ∧ w₁.server = after := by
  have hcreates := Spelling.createdTable?_createManyPartitions "public" hplain storage partitions
  obtain ⟨w₁, hrun, hwent⟩ := went_executeAt { database }
    (Sql.Statement.createManyPartitions storage s.text partitions) (dataSite tableKeeper) w
  simp only [dataSite, tableKeeper, StateT.run, hcreates, Option.bind_some, hadd] at hrun hwent
  exact ⟨w₁, hrun, hwent.server⟩

/-- A table called by its name alone. -/
def bareSpelling : Spelling := { name := "big" }

/-- The same table called with its schema. -/
def fullSpelling : Spelling := { schema := "public", name := "big" }

/-- The catalog with this table. -/
def bigCatalog : Catalog := { relations := [⟨"public", "big"⟩] }

theorem isPlainName_big : IsPlainName "big" where
  word := by decide
  allowed := by decide

theorem isPlain_fullSpelling : fullSpelling.IsPlain where
  schema schema h := by
    rw [← Option.some.inj h]
    exact ⟨by decide, by decide⟩
  name := isPlainName_big

/-- Called by its name alone, the table is found. -/
theorem createManyPartitions_finds_iff_bare :
    ∃ w₁, runAt (execute "db" (Sql.Statement.createManyPartitions .heap bareSpelling.text none))
        (dataSite tableKeeper) ⟨{}, ⟨[]⟩, [], []⟩ = (.ok (), w₁) ∧
      (runAt (createManyPartitions .heap "big" "db" none) (dataSite tableKeeper)
        ⟨{}, ⟨[]⟩, [], []⟩).1 = .ok () ∧
      w₁.server.called "big" = [⟨"public", "big"⟩] := by
  have hplain : bareSpelling.IsPlain := ⟨nofun, isPlainName_big⟩
  have hadd : Catalog.add? {} (bareSpelling.meant "public") = some bigCatalog := rfl
  obtain ⟨w₁, hcreate, hcatalog⟩ := execute_tableKeeper hplain .heap none "db"
    (w := ⟨{}, ⟨[]⟩, [], []⟩) hadd
  have halone : ∀ t ∈ w₁.server.relations, t.name = (bareSpelling.meant "public").name →
      t.schema = (bareSpelling.meant "public").schema := by
    rw [hcatalog]
    decide
  have hfinds := createManyPartitions_finds_iff (keepsRelations_tableKeeper "db") hplain .heap
    none hcreate halone
  exact ⟨w₁, hcreate, hfinds.2.mpr ⟨rfl, (Sql.folded_eq_self_iff "big").mp (by decide)⟩⟩

/-- Called with its schema, the same table is created, but it is not found. -/
theorem createManyPartitions_misses_full :
    KeepsRelations (dataSite tableKeeper) "db" "public" id ∧ fullSpelling.IsPlain ∧
      ∃ w₁, runAt (execute "db" (Sql.Statement.createManyPartitions .heap "public.big" none))
          (dataSite tableKeeper) ⟨{}, ⟨[]⟩, [], []⟩ = (.ok (), w₁) ∧
        w₁.server.relations = [⟨"public", "big"⟩] ∧
        (runAt (createManyPartitions .heap "public.big" "db" none) (dataSite tableKeeper)
          ⟨{}, ⟨[]⟩, [], []⟩).1 ≠ .ok () := by
  have hadd : Catalog.add? {} (fullSpelling.meant "public") = some bigCatalog := rfl
  obtain ⟨w₁, hcreate, hcatalog⟩ := execute_tableKeeper isPlain_fullSpelling .heap none "db"
    (w := ⟨{}, ⟨[]⟩, [], []⟩) hadd
  refine ⟨keepsRelations_tableKeeper "db", isPlain_fullSpelling, w₁, hcreate, by rw [hcatalog]; rfl,
    ?_⟩
  have hok := createManyPartitions_eq_ok_iff (keepsRelations_tableKeeper "db") .heap
    fullSpelling.text none hcreate
  intro hrun
  have hone := hok.mp hrun
  rw [id_eq, hcatalog] at hone
  exact absurd hone (by decide)

end Op

end ClusterFixture
