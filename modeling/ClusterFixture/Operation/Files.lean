/-
Checks on files, and a change to one kind of them.
-/

import ClusterFixture.Operation.Basic
import ClusterFixture.Text.Address

set_option autoImplicit false

namespace ClusterFixture.Op

variable {σ : Type}

/-! ## Permissions -/

/-- What an owner may be allowed to do with a file. -/
inductive AccessMode where
  | read
  | write
  | execute
  deriving DecidableEq, Repr

namespace AccessMode

/-- The name of a mode, as reports show it. -/
def name : AccessMode → String
  | .read => "Read"
  | .write => "Write"
  | .execute => "Execute"

/-- The permission that a mode asks for. -/
def bit : AccessMode → Nat
  | .read => ownerRead
  | .write => ownerWrite
  | .execute => ownerExecute

/-- The mode that a word names. -/
def ofWord (text : String) : Checked AccessMode :=
  match text with
  | "read" => .ok .read
  | "write" => .ok .write
  | "execute" => .ok .execute
  | other => .error (.detailed .invalidInput
      "Invalid mode specified, should be read, write or execute only" other)

end AccessMode

/-- Whether the owner of a file is allowed what a word names. -/
def ownerMay (file mode : String) : Op σ Bool := do
  let mode ← check (AccessMode.ofWord mode)
  let node ← onFiles fun files here => files.stat here file
  return permits node.mode mode.bit

/-! ## Tuple counts -/

/-- The text after the last comma of a line, without the blanks around it. -/
def lastField (line : String) : String := Text.trim ((Text.split line ',').getLastD "")

/-- Fails when the last field of a line of a file is a decimal fraction. -/
def checkIntegerFields (file : String) : Op σ Unit := do
  let text ← onFiles fun files here => files.readText here file
  if (Text.lines text).any fun line => Text.isPlainFraction (lastField line).toList then
    throw (.detailed .dataMismatch "Expected an integer tuplecount found float" file)

/-! ## Addresses -/

/-- A line with its addresses replaced, where it speaks of a file server. -/
def readdressedLine (address line : String) : String :=
  if Text.contains line "gpfdist" then
    String.ofList (Text.replaceAddresses address.toList line.toList)
  else line

/-- A text with the addresses of file servers replaced, every line ended by a line feed. -/
def readdressed (address text : String) : String :=
  String.join ((Text.lines text).map fun line => readdressedLine address line ++ "\n")

/-- Replaces the addresses of file servers in a file; what is no file is left alone. -/
def readdressFile (file address : String) : Op σ Unit := do
  match ← attempt (onFiles fun files here => files.stat here file) with
  | .ok (.file _ _) =>
    let text ← onFiles fun files here => files.readText here file
    changeFiles fun files here => files.write here file (Text.utf8 (readdressed address text))
  | _ => pure ()

end ClusterFixture.Op
