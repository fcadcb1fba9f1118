/-
From which relations the statements about listed tables select.

A backup and a comparison copy a table under the two names of the listing, as they are, and a count
of its rows calls it by its quoted names. The count selects from the table whatever it is called.
The copies select from it exactly when both names are bare words; of a table with a capital letter
in its name they copy another one, or none.
-/

import ClusterFixture.Proofs.Calls
import ClusterFixture.Proofs.Comparison
import ClusterFixture.Proofs.DumpPlaces
import ClusterFixture.Proofs.Spelling

set_option autoImplicit false

namespace ClusterFixture.Op

open ClusterFixture.Sql (TableName selectedRelation?)

variable {σ : Type}

/-! ## Calls about a table -/

/-- A call about a table: a count of its rows, a query for the order of its columns, or a copy. -/
inductive TableCall (database : String) (t : TableName) : Call → Prop where
  | count : TableCall database t (.query { database } (Sql.Statement.rowCount t.quoted))
  | order : TableCall database t (.query { database } (Sql.Statement.columnOrder t.qualified))
  | copy (order path : String) :
    TableCall database t (.execute { database } (Sql.Statement.copyTable t.qualified order path))

section

variable {site : Site σ} {database : String}

theorem makes_dumpTable {file : String} (hfile : file ≠ "") {t : TableName} {table : String}
    (htable : Text.trim table = Text.trim t.qualified) :
    Makes (TableCall database t) site (dumpTable file table database) := by
  refine .dumpTable hfile ?_ fun order => ?_
  · rw [Sql.Statement.columnOrder_congr htable]
    exact .order
  · rw [Sql.Statement.copyTable_congr htable]
    exact .copy order _

theorem makes_validateTable (t : TableName) :
    Makes (TableCall database t) site (validateTable t.qualified database) := by
  unfold validateTable
  exact .bind (makes_dumpTable (append_restoreEnding_ne_empty _) (Text.trim_trim t.qualified))
    fun _ => .bind (.dataFile _) fun backup => .bind (.dataFile _) fun restore =>
      .compareFiles backup restore

/-! ## Calls about listed tables -/

/-- A call about one of the tables. -/
def ListedCall (database : String) (tables : List TableName) (call : Call) : Prop :=
  ∃ t ∈ tables, TableCall database t call

theorem makes_backups (tables : List TableName) :
    Makes (ListedCall database tables) site
      (tables.forM fun t => backupTable t.qualified database) :=
  .forM fun t ht => (makes_dumpTable (append_backupEnding_ne_empty _) rfl).mono fun _ hcall =>
    ⟨t, ht, hcall⟩

theorem makes_validateFilled (tables : List TableName) :
    Makes (ListedCall database tables) site (validateFilled database tables) := by
  induction tables with
  | nil => exact .pure 0
  | cons t rest ih =>
    have hhead : ∀ call, TableCall database t call → ListedCall database (t :: rest) call :=
      fun _ hcall => ⟨t, by simp, hcall⟩
    have htail : Makes (ListedCall database (t :: rest)) site (validateFilled database rest) := by
      refine ih.mono fun call hcall => ?_
      obtain ⟨u, hu, hcall⟩ := hcall
      exact ⟨u, by simp [hu], hcall⟩
    unfold validateFilled
    refine .bind (.count (hhead _ .count)) fun rows => ?_
    split
    · exact htail
    · exact .bind ((makes_validateTable t).mono hhead) fun _ => .bind htail fun _ => .pure _

end

/-! ## What is selected -/

/-- Of whatever tables a server lists, a backup makes calls about these alone, and so does the check
of a restore. Their counts select from the table that they are about. Their copies, and those of any
comparison, do so exactly when both names of the table are bare. -/
theorem copies_select_listed_iff {site : Site σ} {w w₁ : World σ} {database : String}
    {tables : List TableName} (hlisted : runAt (tableNames database) site w = (.ok tables, w₁)) :
    Adds (ListedCall database tables) w₁ (runAt (backupDatabase database) site w).2 ∧
      (∀ expected, Adds (ListedCall database tables) w₁
        (runAt (validateRestoredTables expected database) site w).2) ∧
      ∀ t ∈ tables, Makes (TableCall database t) site (validateTable t.qualified database) ∧
        (t.schema ≠ "" → t.name ≠ "" →
          selectedRelation? (Sql.Statement.rowCount t.quoted) = some t) ∧
        ∀ order path, selectedRelation? (Sql.Statement.copyTable t.qualified order path) = some t ↔
          t.IsBare := by
  refine ⟨?_, fun expected => ?_, fun t _ => ⟨makes_validateTable t, ?_, ?_⟩⟩
  · rw [backupDatabase, runAt_bind_ok hlisted]
    have hlog : Makes (ListedCall database tables) site (log .info .dumps "backing up table data"
        [("dbname", .string database), ("tables", .integer tables.length)]) := .log _ _ _ _
    exact Makes.bind hlog (fun _ => makes_backups tables) w₁
  · rw [validateRestoredTables, runAt_bind_ok hlisted]
    refine Makes.bind (makes_validateFilled tables) (fun validated => ?_) w₁
    split
    · exact .throw _
    · exact .pure ()
  · exact fun hschema hname => Sql.selectedRelation?_rowCount hschema hname
  · exact Sql.selectedRelation?_copyTable_iff t

/-- A server that gives these answers to queries, one after the other, and does what it is told. -/
def replaying : Services (List (List Sql.Row)) where
  query _ _ := fun (answers, files) => (.ok (answers.headD []), (answers.tail, files))
  execute _ _ := fun state => (.ok (), state)
  run _ := fun state => (.error (.plain .commandFailed "no commands"), state)

/-- A table with a capital letter in its name. -/
def capitalTable : TableName := ⟨"public", "Sales"⟩

/-- A world whose server lists this table, and then tells the order of two columns. -/
def capitalWorld : World (List (List Sql.Row)) where
  server := [[.ofTexts ["public", "Sales"]], [.ofTexts ["1,2"]]]
  files := ⟨[]⟩
  calls := []
  log := []

/-- The copies of this table do not select from it. -/
theorem copies_select_listed_capital :
    (runAt (tableNames "db") (dataSite replaying) capitalWorld).1 = .ok [capitalTable] ∧
      ∀ order path,
        selectedRelation? (Sql.Statement.copyTable capitalTable.qualified order path) ≠
          some capitalTable := by
  have hlisted : runAt (tableNames "db") (dataSite replaying) capitalWorld =
      (.ok [capitalTable], (runAt (tableNames "db") (dataSite replaying) capitalWorld).2) := rfl
  have hbare : ¬capitalTable.IsBare := fun h => absurd h.name (by decide)
  refine ⟨rfl, fun order path hselected => ?_⟩
  have htable := (copies_select_listed_iff hlisted).2.2 capitalTable (by simp)
  exact hbare ((htable.2.2 order path).mp hselected)

/-- A backup copies the table in small letters instead, whereas a count of the rows of the listed
table selects from that one. -/
theorem backupDatabase_capital :
    (runAt (backupDatabase "db") (dataSite replaying) capitalWorld).2.calls =
        [.query { database := "db" } Sql.Statement.userTables,
          .query { database := "db" } (Sql.Statement.columnOrder "public.Sales"),
          .execute { database := "db" }
            (Sql.Statement.copyTable "public.Sales" "1,2" "/data/public.Sales_backup")] ∧
      selectedRelation? (Sql.Statement.copyTable "public.Sales" "1,2"
        "/data/public.Sales_backup") = some ⟨"public", "sales"⟩ ∧
      selectedRelation? (Sql.Statement.rowCount capitalTable.quoted) = some capitalTable := by
  refine ⟨rfl, ?_, ?_⟩
  · decide
  · decide

end ClusterFixture.Op
