/-
Names of tables with their schemas.
-/

import ClusterFixture.Sql.Quote

set_option autoImplicit false

namespace ClusterFixture.Sql

/-- The name of a table and of its schema, as the catalog spells them. -/
structure TableName where
  schema : String
  name : String
  deriving DecidableEq, Repr

namespace TableName

/-- Both names as a scenario writes them, and as files of dumps are called. -/
def qualified (t : TableName) : String := t.schema ++ "." ++ t.name

/-- Both names as a statement writes them. -/
def quoted (t : TableName) : String := identifier t.schema ++ "." ++ identifier t.name

end TableName

/-- A leaf table with append-only storage, and the relation that keeps its tuple counts. -/
structure AppendOnlyTable where
  oid : Nat
  schema : String
  table : String
  tupleTable : String
  deriving DecidableEq, Repr

end ClusterFixture.Sql
