/-
When a schema that was created is found again.

A statement names a schema without quotes, so the server folds the name to small letters. The query
for the schema compares the name as it is spelled. The two mean the same schema exactly when the
name has no capital letter. Then creating the schema again does nothing, and dropping it leaves
nothing behind. With a capital letter one of the two always goes wrong: either the schema is not
found and the statement is refused the second time, or there is a schema of just this spelling,
which no statement of the fixture reaches.
-/

import ClusterFixture.Operation.Databases
import ClusterFixture.Proofs.Calls
import ClusterFixture.Proofs.Comparison
import ClusterFixture.Proofs.DefinedNames
import ClusterFixture.Proofs.Literals

set_option autoImplicit false

namespace ClusterFixture.Op

open ClusterFixture.Sql (IsPlainName createdSchema? droppedSchema? folded)

variable {σ : Type}

/-! ## A server with schemas -/

/-- A server keeps the schemas of a database. It finds a schema under its exact name, creates none
twice, and dropping one schema is the end of that one and of no other. -/
structure KeepsSchemas (site : Site σ) (database : String) (schemas : σ → List String) :
    Prop where
  find : ∀ schema state, ∃ rows after,
    (site.services.query { database } (Sql.Statement.schemaExists schema)).run state =
      (.ok rows, after) ∧ (rows ≠ [] ↔ schema ∈ schemas state.1) ∧
        schemas after.1 = schemas state.1
  taken : ∀ {statement name} state, createdSchema? statement = some name →
    name ∈ schemas state.1 → (executed site database statement state).1 ≠ .ok ()
  created : ∀ {statement name} state, createdSchema? statement = some name →
    (executed site database statement state).1 = .ok () →
      name ∈ schemas (executed site database statement state).2.1
  dropped : ∀ {statement name} state, droppedSchema? statement = some name →
    (executed site database statement state).1 = .ok () →
      name ∉ schemas (executed site database statement state).2.1
  others : ∀ {statement name} state, droppedSchema? statement = some name →
    ∀ other ≠ name, other ∈ schemas (executed site database statement state).2.1 ↔
      other ∈ schemas state.1

/-- The server does not refuse to drop a schema that is there. -/
def MayDrop (site : Site σ) (database : String) (schemas : σ → List String) (schema : String) :
    Prop :=
  ∀ state, folded schema ∈ schemas state.1 →
    (executed site database (Sql.Statement.dropSchema schema) state).1 = .ok ()

/-- A call that only asks. -/
def IsQuery (call : Call) : Prop := ∃ target statement, call = .query target statement

/-! ## Looking for a schema -/

section

variable {site : Site σ} {database : String} {schemas : σ → List String}

/-- A schema is looked for under the name as it is spelled, and the lookup changes no schema. -/
theorem found_schemaExists (hserver : KeepsSchemas site database schemas) (schema : String)
    (w : World σ) :
    ∃ found w', runAt (schemaExists schema database) site w = (.ok found, w') ∧
      (found = true ↔ schema ∈ schemas w.server) ∧ schemas w'.server = schemas w.server ∧
        Adds IsQuery w w' := by
  obtain ⟨rows, after, hquery, hrows, hafter⟩ := hserver.find schema (w.server, w.files)
  obtain ⟨w', hrun, hwent⟩ :=
    went_queryAt { database } (Sql.Statement.schemaExists schema) site w
  rw [hquery] at hrun hwent
  refine ⟨!rows.isEmpty, w', ?_, ?_, ?_, ?_⟩
  · unfold schemaExists query
    rw [runAt_bind_ok hrun, runAt_pure]
  · rw [← hrows]
    simp
  · rw [hwent.server, hafter]
  · exact ⟨_, hwent.calls, by simp [IsQuery]⟩

/-! ## Creating a schema -/

/-- A schema that is found is not created. -/
theorem createSchema_of_mem (hserver : KeepsSchemas site database schemas) {schema : String}
    {w : World σ} (hmem : schema ∈ schemas w.server) :
    ∃ w', runAt (createSchema schema database) site w = (.ok (), w') ∧
      schemas w'.server = schemas w.server ∧ Adds IsQuery w w' := by
  obtain ⟨found, w', hrun, hfound, hsame, hadds⟩ := found_schemaExists hserver schema w
  refine ⟨w', ?_, hsame, hadds⟩
  unfold createSchema
  rw [runAt_bind_ok hrun, hfound.mpr hmem]
  rfl

/-- One that is not found is created under its folded name, unless the server has that already. -/
theorem createSchema_of_not_mem (hserver : KeepsSchemas site database schemas) {schema : String}
    (hplain : IsPlainName schema) {w : World σ} (hmem : schema ∉ schemas w.server)
    (hok : (runAt (createSchema schema database) site w).1 = .ok ()) :
    folded schema ∉ schemas w.server ∧
      folded schema ∈ schemas (runAt (createSchema schema database) site w).2.server := by
  have hcreated := Sql.createdSchema?_createSchema hplain
  obtain ⟨found, w', hrun, hfound, hsame, -⟩ := found_schemaExists hserver schema w
  have hnot : found = false := by
    rw [← Bool.not_eq_true, hfound]
    exact hmem
  have hexecute : runAt (createSchema schema database) site w =
      runAt (executeAt { database } (Sql.Statement.createSchema schema)) site w' := by
    unfold createSchema
    rw [runAt_bind_ok hrun, hnot]
    rfl
  rw [hexecute, runAt_executeAt] at hok ⊢
  refine ⟨?_, hserver.created _ hcreated hok⟩
  intro htaken
  rw [← hsame] at htaken
  exact hserver.taken (w'.server, w'.files) hcreated htaken hok

/-! ## Dropping a schema -/

/-- For a schema that is found, the statement is sent. What it leaves of the schemas is left at the
end, and it is a success if the schema is not found any more. -/
theorem dropSchemaIfPresent_of_mem (hserver : KeepsSchemas site database schemas)
    {schema : String} {w : World σ} (hmem : schema ∈ schemas w.server) :
    ∃ state, schemas state.1 = schemas w.server ∧
      schemas (runAt (dropSchemaIfPresent schema database) site w).2.server =
        schemas (executed site database (Sql.Statement.dropSchema schema) state).2.1 ∧
      ((executed site database (Sql.Statement.dropSchema schema) state).1 = .ok () →
        schema ∉ schemas (executed site database (Sql.Statement.dropSchema schema) state).2.1 →
          (runAt (dropSchemaIfPresent schema database) site w).1 = .ok ()) := by
  obtain ⟨found, w', hrun, hfound, hsame, -⟩ := found_schemaExists hserver schema w
  obtain ⟨w'', hsent, hwent⟩ :=
    went_executeAt { database } (Sql.Statement.dropSchema schema) site w'
  have hsend : runAt (dropSchemaIfPresent schema database) site w =
      runAt (dropSchema schema database) site w' := by
    unfold dropSchemaIfPresent
    rw [runAt_bind_ok hrun, hfound.mpr hmem]
    rfl
  refine ⟨(w'.server, w'.files), hsame, ?_⟩
  rw [hsend]
  unfold dropSchema execute
  rcases hanswer : executed site database (Sql.Statement.dropSchema schema)
    (w'.server, w'.files) with ⟨_ | _, after⟩
  · -- A refused statement ends the operation.
    unfold executed at hanswer
    rw [hanswer] at hsent hwent
    rw [runAt_bind_error hsent, hwent.server]
    exact ⟨rfl, nofun⟩
  · unfold executed at hanswer
    rw [hanswer] at hsent hwent
    obtain ⟨again, w₃, hcheck, hagain, hkept, -⟩ := found_schemaExists hserver schema w''
    rw [runAt_bind_ok hsent, runAt_bind_ok hcheck]
    rw [hwent.server] at hagain hkept
    by_cases hleft : again = true
    · rw [if_pos hleft, runAt_throw]
      exact ⟨hkept, fun _ hgone => absurd (hagain.mp hleft) hgone⟩
    · rw [if_neg hleft, runAt_pure]
      exact ⟨hkept, fun _ _ => rfl⟩

/-! ## Creating it again -/

/-- A schema that was created is not created again, and nothing of it is left when it has been
dropped. -/
structure IsSettled (site : Site σ) (database : String) (schemas : σ → List String)
    (schema : String) (w : World σ) : Prop where
  again : (runAt (createSchema schema database) site w).1 = .ok ()
  silent : Adds IsQuery w (runAt (createSchema schema database) site w).2
  gone : ∀ name ∈ schemas (runAt (dropSchemaIfPresent schema database) site
    (runAt (createSchema schema database) site w).2).2.server,
      name ≠ schema ∧ name ≠ folded schema

/-- A schema of a small name is there after it was created, and then all goes well. -/
theorem isSettled_of_mem (hserver : KeepsSchemas site database schemas) {schema : String}
    (hplain : IsPlainName schema) (hdrop : MayDrop site database schemas schema)
    (hsame : folded schema = schema) {w : World σ} (hmem : schema ∈ schemas w.server) :
    IsSettled site database schemas schema w ∧
      (runAt (dropSchemaIfPresent schema database) site
        (runAt (createSchema schema database) site w).2).1 = .ok () := by
  obtain ⟨w', hagain, hkept, hsilent⟩ := createSchema_of_mem hserver hmem
  have hmem' : schema ∈ schemas w'.server := by
    rw [hkept]
    exact hmem
  obtain ⟨state, hstate, hleft, hok⟩ := dropSchemaIfPresent_of_mem hserver hmem'
  have hsent := hdrop state (by rw [hsame, hstate]; exact hmem')
  have hgone := hserver.dropped state (Sql.droppedSchema?_dropSchema hplain) hsent
  rw [hsame] at hgone
  have hrest : ∀ name ∈ schemas (runAt (dropSchemaIfPresent schema database) site w').2.server,
      name ≠ schema := by
    intro name hname heq
    rw [hleft, heq] at hname
    exact hgone hname
  constructor
  · refine ⟨by rw [hagain], by rw [hagain]; exact hsilent, ?_⟩
    rw [hagain, hsame]
    exact fun name hname => ⟨hrest name hname, hrest name hname⟩
  · rw [hagain]
    exact hok hsent hgone

/-- If a name has a capital letter, then the schema of this very spelling cannot be dropped, and
the one that the server took the name for is not found. -/
theorem not_isSettled (hserver : KeepsSchemas site database schemas) {schema : String}
    (hplain : IsPlainName schema) (hother : folded schema ≠ schema) {w : World σ}
    (hmem : schema ∈ schemas w.server ∨ folded schema ∈ schemas w.server) :
    ¬IsSettled site database schemas schema w := by
  intro hsettled
  by_cases hspelled : schema ∈ schemas w.server
  · -- The statement is sent, but is about another schema.
    obtain ⟨w', hagain, hkept, -⟩ := createSchema_of_mem hserver hspelled
    obtain ⟨state, hstate, hleft, -⟩ :=
      dropSchemaIfPresent_of_mem hserver (w := w') (by rw [hkept]; exact hspelled)
    have hgone := hsettled.gone schema
    rw [hagain, hleft, hserver.others state (Sql.droppedSchema?_dropSchema hplain) schema
      hother.symm, hstate, hkept] at hgone
    exact (hgone hspelled).1 rfl
  · -- The statement is sent again, and the server has the schema already.
    have hnew := createSchema_of_not_mem hserver hplain hspelled hsettled.again
    exact hnew.1 (hmem.resolve_left hspelled)

/-- After a schema of a plain name was created, creating it again does nothing and dropping it
leaves nothing behind, exactly when the name has no capital letter. Then the dropping succeeds. -/
theorem createSchema_settles_iff (hserver : KeepsSchemas site database schemas) {schema : String}
    (hplain : IsPlainName schema) (hdrop : MayDrop site database schemas schema) {w w₁ : World σ}
    (hfirst : runAt (createSchema schema database) site w = (.ok (), w₁)) :
    (IsSettled site database schemas schema w₁ ↔ ∀ c ∈ schema.toList, c.isUpper = false) ∧
      ((∀ c ∈ schema.toList, c.isUpper = false) →
        (runAt (dropSchemaIfPresent schema database) site
          (runAt (createSchema schema database) site w₁).2).1 = .ok ()) := by
  rw [← Sql.folded_eq_self_iff]
  -- After the first time the schema is there, under the one name or under the other.
  have hthere : schema ∈ schemas w₁.server ∨ folded schema ∈ schemas w₁.server := by
    by_cases hmem : schema ∈ schemas w.server
    · obtain ⟨w', hrun, hsame, -⟩ := createSchema_of_mem hserver hmem
      rw [hfirst] at hrun
      rw [(Prod.mk.inj hrun).2, hsame]
      exact .inl hmem
    · have hnew := createSchema_of_not_mem hserver hplain hmem (by rw [hfirst])
      rw [hfirst] at hnew
      exact .inr hnew.2
  by_cases hsame : folded schema = schema
  · rw [hsame, or_self] at hthere
    have hall := isSettled_of_mem hserver hplain hdrop hsame hthere
    exact ⟨iff_of_true hall.1 hsame, fun _ => hall.2⟩
  · exact ⟨iff_of_false (not_isSettled hserver hplain hsame hthere) hsame,
      fun h => absurd h hsame⟩

end

/-! ## A server of schemas -/

/-- A server whose state is the list of its schemas. -/
def schemaKeeper : Services (List String) where
  query _ statement := fun (schemas, files) =>
    let rows := (schemas.filter fun s => Sql.Statement.schemaExists s == statement).map fun s =>
      Sql.Row.ofTexts [s]
    (.ok rows, (schemas, files))
  execute _ statement := fun (schemas, files) =>
    let refused : Checked Unit := .error (.plain .queryFailed "refused")
    match createdSchema? statement, droppedSchema? statement with
    | some name, _ =>
      if name ∈ schemas then (refused, (schemas, files)) else (.ok (), (name :: schemas, files))
    | none, some name =>
      if name ∈ schemas then (.ok (), (schemas.filter (· ≠ name), files))
      else (refused, (schemas, files))
    | none, none => (refused, (schemas, files))
  run _ := fun state => (.error (.plain .commandFailed "no commands"), state)

/-- No statement that drops a schema creates one. -/
theorem createdSchema?_of_droppedSchema? {statement name : String}
    (h : droppedSchema? statement = some name) : createdSchema? statement = none := by
  unfold droppedSchema? at h
  unfold createdSchema?
  rcases hchars : statement.toList with _ | ⟨c, rest⟩
  · rfl
  · rw [hchars] at h
    by_cases hc : c = 'd'
    · rw [hc]
      rfl
    · have hnone : "drop schema ".toList.isPrefixOf? (c :: rest) = none := by
        have hne : ('d' == c) = false := beq_eq_false_iff_ne.mpr (Ne.symm hc)
        have hlist : "drop schema ".toList = 'd' :: "rop schema ".toList := by decide
        rw [hlist, List.isPrefixOf?, hne]
        rfl
      rw [hnone] at h
      cases h

theorem keepsSchemas_schemaKeeper (database : String) :
    KeepsSchemas (dataSite schemaKeeper) database id where
  find schema state := by
    have hsame : ∀ s, Sql.Statement.schemaExists s = Sql.Statement.schemaExists schema ↔
        s = schema := fun s => Sql.render_value_inj [.text _] []
    refine ⟨_, _, rfl, ?_, rfl⟩
    simp [hsame]
  taken state hcreated hmem := by
    simp only [id_eq] at hmem
    simp [executed, dataSite, schemaKeeper, StateT.run, hcreated, hmem]
  created {statement name} state hcreated := by
    by_cases hmem : name ∈ state.1
    · simp [executed, dataSite, schemaKeeper, StateT.run, hcreated, hmem]
    · simp [executed, dataSite, schemaKeeper, StateT.run, hcreated, hmem]
  dropped {statement name} state hdropped := by
    have hcreated := createdSchema?_of_droppedSchema? hdropped
    by_cases hmem : name ∈ state.1
    · simp [executed, dataSite, schemaKeeper, StateT.run, hcreated, hdropped, hmem]
    · simp [executed, dataSite, schemaKeeper, StateT.run, hcreated, hdropped, hmem]
  others {statement name} state hdropped := by
    have hcreated := createdSchema?_of_droppedSchema? hdropped
    intro other hother
    by_cases hmem : name ∈ state.1
    · simp [executed, dataSite, schemaKeeper, StateT.run, hcreated, hdropped, hmem, hother]
    · simp [executed, dataSite, schemaKeeper, StateT.run, hcreated, hdropped, hmem]

/-- It drops every schema that it has. -/
theorem mayDrop_schemaKeeper (database : String) {schema : String} (hplain : IsPlainName schema) :
    MayDrop (dataSite schemaKeeper) database id schema := by
  intro state hmem
  have hdropped := Sql.droppedSchema?_dropSchema hplain
  have hcreated := createdSchema?_of_droppedSchema? hdropped
  simp only [id_eq] at hmem
  simp [executed, dataSite, schemaKeeper, StateT.run, hcreated, hdropped, hmem]

/-- What creating a schema first leaves of a world without schemas. -/
def firstSchema (schema : String) : World (List String) :=
  (runAt (createSchema schema "db") (dataSite schemaKeeper) ⟨[], ⟨[]⟩, [], []⟩).2

theorem isPlainName_small : IsPlainName "sales" where
  word := by decide
  allowed := by decide

theorem isPlainName_capital : IsPlainName "Sales" where
  word := by decide
  allowed := by decide

/-- A schema of a small name is created, is there, and is gone when it has been dropped. -/
theorem createSchema_settles_iff_small :
    (firstSchema "sales").server = ["sales"] ∧
      IsSettled (dataSite schemaKeeper) "db" id "sales" (firstSchema "sales") ∧
      (runAt (dropSchemaIfPresent "sales" "db") (dataSite schemaKeeper)
        (runAt (createSchema "sales" "db") (dataSite schemaKeeper)
          (firstSchema "sales")).2).1 = .ok () := by
  have hfirst : runAt (createSchema "sales" "db") (dataSite schemaKeeper)
      ⟨[], ⟨[]⟩, [], []⟩ = (.ok (), firstSchema "sales") := rfl
  have hsmall : ∀ c ∈ "sales".toList, c.isUpper = false :=
    (Sql.folded_eq_self_iff "sales").mp (by decide)
  have hall := createSchema_settles_iff (keepsSchemas_schemaKeeper "db") isPlainName_small
    (mayDrop_schemaKeeper "db" isPlainName_small) hfirst
  exact ⟨rfl, hall.1.mpr hsmall, hall.2 hsmall⟩

/-- A schema of a name with a capital letter is created as well, but under another name. It is not
found, and the statement that is sent a second time is refused. -/
theorem createSchema_again_capital :
    KeepsSchemas (dataSite schemaKeeper) "db" id ∧ IsPlainName "Sales" ∧
      runAt (createSchema "Sales" "db") (dataSite schemaKeeper) ⟨[], ⟨[]⟩, [], []⟩ =
        (.ok (), firstSchema "Sales") ∧
      (firstSchema "Sales").server = ["sales"] ∧
      (runAt (createSchema "Sales" "db") (dataSite schemaKeeper) (firstSchema "Sales")).1 ≠
        .ok () ∧
      (runAt (createSchema "Sales" "db") (dataSite schemaKeeper) (firstSchema "Sales")).2.calls =
        (firstSchema "Sales").calls ++
          [.query { database := "db" } "select * from pg_namespace where nspname = 'Sales'",
            .execute { database := "db" } "create schema Sales"] :=
  ⟨keepsSchemas_schemaKeeper "db", isPlainName_capital, rfl, rfl, nofun, rfl⟩

end ClusterFixture.Op
