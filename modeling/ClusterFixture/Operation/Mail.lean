/-
Files that say how reports about databases are mailed.

Such a file holds a list of entries, each with some of three texts under known names, in any letter
case. Where an entry names one of them twice, the later counts.
-/

import ClusterFixture.Operation.Basic
import ClusterFixture.Settings.Loading

set_option autoImplicit false

namespace ClusterFixture.Op

open ClusterFixture.Settings (Located ValueFault Sources)

/-! ## Entries -/

/-- How the reports about a database are mailed. -/
structure MailEntry where
  database : Option String := none
  sender : Option String := none
  subject : Option String := none
  deriving DecidableEq, Repr

namespace MailEntry

/-- The entry with one more text, if its name is known. -/
def put? (e : MailEntry) (name value : String) : Option MailEntry :=
  match Text.upperAscii name with
  | "DBNAME" => some { e with database := some value }
  | "FROM" => some { e with sender := some value }
  | "SUBJECT" => some { e with subject := some value }
  | _ => none

/-- The entry that named texts make up, in their order. -/
def ofTexts? (texts : List (String × String)) : Option MailEntry :=
  texts.foldlM (fun e (name, value) => e.put? name value) {}

end MailEntry

/-! ## Files -/

/-- What is wrong with a file. -/
inductive MailFault where
  | missing
  | wrongEnding
  | empty
  | malformed
  deriving DecidableEq, Repr

/-- The fault of a file. -/
def MailFault.toFault (file : String) : MailFault → Fault
  | .missing => .detailed .invalidInput "Email file does not exist"
      ("'" ++ file ++ "' file does not exist.")
  | .wrongEnding => .detailed .invalidInput "Email file is not a yaml file"
      ("'" ++ file ++ "' is not '.yaml' file. File containing email details should be '.yaml' file.")
  | .empty => .detailed .invalidInput "Email file is empty" ("'" ++ file ++ "' file is empty.")
  | .malformed => .detailed .invalidInput "Email file is not formatted properly"
      ("'" ++ file ++ "' file is not formatted properly.")

/-- The member with the entries. -/
def mailMember : String := "email_details"

/-- Reads the named texts of all entries, if there are any. -/
def readMailTexts : Located → Except ValueFault (Option (List (List (String × String)))) :=
  let entries := Settings.layeredForm.orNone (Located.listOf (Located.tableOf Located.text))
  Settings.layeredForm.readRecord "EmailFile" [Settings.Form.member mailMember entries]
    fun r => r.withDefault mailMember none entries

/-- The entries of a file. -/
def mailEntries (files : FileTree) (directory file : String) :
    Except MailFault (List MailEntry) :=
  match files.stat (Path.parts directory) file with
  | .ok (.file content _) =>
    if Path.extension? file ≠ some "yaml" then .error .wrongEnding
    else if content.isEmpty then .error .empty
    else
      let sources : Sources := { files, directory }
      match sources.loadFile file readMailTexts with
      | .ok (some texts) =>
        match texts.mapM MailEntry.ofTexts? with
        | some entries => .ok entries
        | none => .error .malformed
      | _ => .error .malformed
  | _ => .error .missing

variable {σ : Type}

/-- Reads how reports about databases are mailed. -/
def readMailFile (file : String) : Op σ (List MailEntry) := do
  check ((mailEntries (← get).files (← read).directory file).mapError (MailFault.toFault file))

end ClusterFixture.Op
