/-
Where a statement runs: a database, and what overrides the configured server.
-/

set_option autoImplicit false

namespace ClusterFixture.Sql

/-- The database that every cluster has. -/
def templateDatabase : String := "template1"

/-- The place of a statement. -/
structure Target where
  database : String
  /-- The host to ask instead of the configured one. -/
  host : Option String := none
  /-- The port to ask instead of the configured one. -/
  port : Option Nat := none
  /-- The role to take instead of the configured one. -/
  user : Option String := none
  /-- Whether the session talks to a single segment directly. -/
  utility : Bool := false
  deriving DecidableEq, Repr, Inhabited

namespace Target

/-- The template database of the configured server. -/
def template : Target := ⟨templateDatabase, none, none, none, false⟩

/-- The target on another server. -/
def onHost (t : Target) (host : String) (port : Nat) : Target :=
  ⟨t.database, some host, some port, t.user, t.utility⟩

/-- The target under another role. -/
def asUser (t : Target) (user : String) : Target :=
  ⟨t.database, t.host, t.port, some user, t.utility⟩

/-- The target in utility mode. -/
def inUtilityMode (t : Target) : Target := ⟨t.database, t.host, t.port, t.user, true⟩

end Target

end ClusterFixture.Sql
