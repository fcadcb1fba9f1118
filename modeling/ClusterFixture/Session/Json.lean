/-
Networks of servers described in JSON, and what the servers saw, as JSON.
-/

import ClusterFixture.Session.Network

set_option autoImplicit false

namespace ClusterFixture.Session

/-! ## Reading -/

/-- The text of a member, if it is one. -/
def textMember? (j : Json) (name : String) : Option String :=
  match j.member? name with
  | some (.string s) => some s
  | _ => none

/-- The items of a member that is a list, and none of any other. -/
def itemsMember (j : Json) (name : String) : List Json :=
  match j.member? name with
  | some (.array items) => items
  | _ => []

/-- The items of a list, and none of anything else. -/
def itemsOf : Json → List Json
  | .array items => items
  | _ => []

/-- A row: texts, and null for what is missing. -/
def rowOfJson (j : Json) : Sql.Row :=
  ⟨(itemsOf j).map fun
    | .string s => some s
    | _ => none⟩

/-- The code of a refusal. -/
def codeMember? (j : Json) (name : String) : Option String :=
  (j.member? name).bind fun refusal => textMember? refusal "code"

/-- What a server answers. -/
def Reply.ofJson (j : Json) : Reply where
  pattern := (textMember? j "match").getD ""
  sets := (itemsMember j "sets").map fun set => (itemsOf set).map rowOfJson
  refusal? := codeMember? j "error"

/-- A server. -/
def Server.ofJson (j : Json) : Server where
  directory := (textMember? j "host").getD ""
  port := match j.member? "port" with
    | some (.integer n) => n.toNat
    | _ => 0
  replies := (itemsMember j "rules").map Reply.ofJson
  wantsPassword := match j.member? "password" with
    | some (.bool b) => b
    | _ => false
  refusal? := codeMember? j "startup_error"

/-- The network of the servers that a member lists. -/
def Network.ofJson (j : Json) (name : String) : Network :=
  { servers := (itemsMember j name).map Server.ofJson }

/-! ## Writing -/

/-- What a server saw of a session. -/
def Visit.toJson : Visit → Json
  | .protection directory port =>
    .ofMembers [("host", .string directory), ("port", .integer port), ("ssl_request", .bool true)]
  | .session directory port parameters password? statements =>
    .ofMembers ([("host", .string directory), ("port", .integer port),
        ("startup", .ofMembers (parameters.map fun (name, value) => (name, .string value))),
        ("queries", .array (statements.map .string))]
      ++ (password?.toList.map fun secret => ("password", .string secret)))

/-- What the servers of a network saw. -/
def Network.visitsToJson (n : Network) : Json := .array (n.visits.map Visit.toJson)

end ClusterFixture.Session
