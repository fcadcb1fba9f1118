/-
Settings as JSON.

A number is taken for a member only if it is an integer of the member's range, and nothing but a
text is taken for a text. What is written is read back as it was.
-/

import ClusterFixture.Json.Print
import ClusterFixture.Settings.Document
import ClusterFixture.Text.Quoted

set_option autoImplicit false

namespace ClusterFixture.Settings

open ClusterFixture.Number

/-! ## Reading -/

/-- Why a JSON value holds no settings. -/
inductive JsonFault where
  /-- A value of the wrong kind. -/
  | kind (found : Json) (wanted : String)
  /-- An integer outside its range. -/
  | range (found : Int) (wanted : String)
  | missing (name : String)
  | tooShort (place : Nat) (title : String) (members : Nat)
  | tooLong (given : Nat)
  deriving Repr

namespace JsonFault

/-- The word for what a value is. -/
def found : Json → String
  | .null => "null"
  | .bool b => "boolean `" ++ (if b then "true" else "false") ++ "`"
  | .integer n => "integer `" ++ decimal n ++ "`"
  | .float x => "floating point `" ++ String.ofList (Json.floatChars x) ++ "`"
  | .string s => "string " ++ Text.quoted s
  | .array _ => "sequence"
  | .object _ => "map"

/-- What is said of it. -/
def message : JsonFault → String
  | .kind value wanted => "invalid type: " ++ found value ++ ", expected " ++ wanted
  | .range n wanted => "invalid value: " ++ found (.integer n) ++ ", expected " ++ wanted
  | .missing name => "missing field `" ++ name ++ "`"
  | .tooShort place title members =>
    "invalid length " ++ place.repr ++ ", expected struct " ++ title ++ " with " ++ members.repr
      ++ " elements"
  | .tooLong given => "invalid length " ++ given.repr ++ ", expected fewer elements in array"

end JsonFault

/-- A number without a sign. -/
def jsonUnsigned (bits : Nat) : Json → Except JsonFault Nat
  | .integer n =>
    if (unsignedRange bits).holds n then .ok n.toNat else .error (.range n ("u" ++ bits.repr))
  | j => .error (.kind j ("u" ++ bits.repr))

/-- Settings in JSON. -/
def jsonForm : Form Json JsonFault where
  record title
    | .object members => .ok (.members members)
    | .array items => .ok (.items items)
    | j => .error (.kind j ("struct " ++ title))
  text
    | .string s => .ok s
    | j => .error (.kind j "a string")
  path
    | .string s => .ok s
    | j => .error (.kind j "path string")
  flag
    | .bool b => .ok b
    | j => .error (.kind j "a boolean")
  unsigned := jsonUnsigned
  isNone
    | .null => true
    | _ => false
  missing := .missing
  tooShort := .tooShort
  tooLong? given := some (.tooLong given)

/-- The settings that a JSON value holds. -/
def Harness.ofJson (j : Json) : Except JsonFault Harness := jsonForm.harness j

/-- The connection that a JSON value holds. -/
def Connection.ofJson (j : Json) : Except JsonFault Connection := jsonForm.connection j

/-! ## Writing

The members of a record are written in the order of the record. What an object makes of them is left
open: as a text it keeps that order, as a value it keeps them by key. -/

section Writing

variable (object : List (String × Json) → Json)

/-- Writes how a connection is protected. -/
def Tls.write (t : Tls) : Json :=
  object [("trusted_root_certs", .string t.trustedRoots), ("enabled", .bool t.enabled)]

/-- Writes a connection, its password in the open. -/
def Connection.write (c : Connection) : Json :=
  object [("host", .string c.host), ("port", .integer c.port), ("name", .string c.database),
    ("username", .string c.user),
    ("password", match c.password with
      | some secret => .string secret
      | none => .null),
    ("tls", c.tls.write object)]

/-- Writes a polling policy. -/
def writePolicy (p : PollPolicy) : Json :=
  object [("interval_ms", .integer p.interval), ("max_attempts", .integer p.attempts)]

/-- Writes a package. -/
def Package.write (p : Package) : Json :=
  object [("path", .string p.directory), ("name", .string p.name)]

/-- Writes a transfer source. -/
def TransferSource.write (t : TransferSource) : Json :=
  object [("host", .string t.host), ("port", .integer t.port), ("user", .string t.user)]

/-- Writes settings; a package and a transfer source appear only where there is one. -/
def Harness.write (s : Harness) : Json :=
  object ([("connection", s.connection.write object),
      ("master_data_directory", .string s.masterDirectory), ("gphome", .string s.home),
      ("data_dir", .string s.dataDirectory),
      ("transition_poll", writePolicy object s.transitionPoll),
      ("database_retry", writePolicy object s.databaseRetry)]
    ++ (s.package.toList.map fun p => ("gppkg", p.write object))
    ++ (s.transferSource.toList.map fun t => ("transfer_source", t.write object))
    ++ [("postgis_data_dir", .string s.sampleDirectory)])

end Writing

/-- A polling policy as a JSON value. -/
def policyToJson (p : PollPolicy) : Json := writePolicy .ofMembers p

/-- Settings as a JSON value. -/
def Harness.toJson (s : Harness) : Json := s.write .ofMembers

end ClusterFixture.Settings
