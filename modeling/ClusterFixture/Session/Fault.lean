/-
Why a session with a server fails.

A server gives a state code of five characters with its refusals; the code decides what kind of
fault it is. A session that fails before the server has said anything counts as a failed connection.
-/

import ClusterFixture.Fault

set_option autoImplicit false

namespace ClusterFixture.Session

/-- Why a session fails. -/
inductive SessionFault where
  | unreachable
  /-- Protection is required, and the server offers none. -/
  | unprotected
  /-- The server asks for a password, and there is none. -/
  | noPassword
  /-- A statement cannot be sent. -/
  | unsendable
  /-- The server refuses, with the given state code. -/
  | refused (code : String)
  deriving DecidableEq, Repr

/-- Codes of a connection that is impossible or lost. -/
def connectionCodes : List String :=
  ["08000", "08003", "08006", "08001", "08004", "57P03", "53300", "57P01"]

/-- Codes of a user who is not let in. -/
def authorizationCodes : List String := ["28000", "28P01"]

/-- The code of a database that does not exist. -/
def databaseCode : String := "3D000"

/-- Codes of tables, columns, functions, schemas and other objects that do not exist. -/
def objectCodes : List String := ["42P01", "42703", "42883", "3F000", "42704"]

/-- Codes of values that do not fit their types. -/
def conversionCodes : List String := ["22000", "22P02", "22007", "22003"]

/-- The kind of a refusal, and its description. -/
def refusal (code : String) : FaultKind × String :=
  if connectionCodes.contains code then (.connectionFailed, "Greenplum connection error")
  else if authorizationCodes.contains code then
    (.connectionFailed, "Greenplum authentication failed")
  else if code = databaseCode then (.queryFailed, "Greenplum database does not exist")
  else if objectCodes.contains code then (.queryFailed, "Greenplum schema object not found")
  else if conversionCodes.contains code then
    (.conversionError, "Greenplum data conversion error")
  else (.queryFailed, "Greenplum query failed")

/-- The wording of a fault. -/
def SessionFault.detail : SessionFault → String
  | .unreachable => "error connecting to server"
  | .unprotected => "error performing TLS handshake"
  | .noPassword => "invalid configuration"
  | .unsendable => "error encoding message to server"
  | .refused _ => "db error"

/-- The fault of the operation whose session failed. -/
def SessionFault.toFault (f : SessionFault) : Fault :=
  let (kind, description) := match f with
    | .refused code => refusal code
    | _ => (.connectionFailed, "Greenplum client error")
  .detailed kind description f.detail

end ClusterFixture.Session
