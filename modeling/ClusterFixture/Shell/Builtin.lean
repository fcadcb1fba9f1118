/-
The commands that a shell knows by itself, and a few utilities.

A command gets its arguments and its input, and leaves outputs and a status; it may also end the
shell, on purpose or by a signal.
-/

import ClusterFixture.Number.Integer
import ClusterFixture.Text.Utf8

set_option autoImplicit false

namespace ClusterFixture.Shell

open ClusterFixture.Text (Bytes utf8)

/-- What a command leaves. -/
structure Result where
  status : Nat := 0
  stdout : Bytes := []
  stderr : Bytes := []
  /-- What the shell ends with, if the command ends it. -/
  ends? : Option Int := none

/-- What a shell ends with where a signal ends it. -/
def killed : Int := -1

/-- What a command is started with. -/
structure Start where
  arguments : List String
  input : Bytes := []
  /-- What faults are headed by. -/
  heading : String
  /-- The status of the last command. -/
  last : Nat := 0
  /-- The number of the shell's process, as text. -/
  process : String
  /-- The working directory. -/
  directory : String

namespace Start

/-- The result of a command that fails with a word of explanation. -/
def complain (s : Start) (status : Nat) (text : String) : Result :=
  { status, stderr := utf8 (s.heading ++ text ++ "\n") }

/-! ## Escapes -/

/-- The byte of so many digits at most, with what follows them. -/
def takeCode (base width : Nat) (cs : List Char) : Option (UInt8 × List Char) :=
  let digits := (cs.take width).takeWhile fun c => (Number.digitIn? base c).isSome
  if digits.isEmpty then none
  else some (UInt8.ofNat ((Number.natIn? base digits).getD 0), cs.drop digits.length)

/-- What a letter behind a backslash stands for. -/
def escapedByte? : Char → Option UInt8
  | 'n' => some 10
  | 't' => some 9
  | 'r' => some 13
  | 'a' => some 7
  | 'b' => some 8
  | 'v' => some 11
  | 'f' => some 12
  | 'e' => some 27
  | '\\' => some 92
  | '"' => some 34
  | '\'' => some 39
  | _ => none

/-- The bytes of an escape whose backslash is gone, with what follows it. -/
def takeEscape (cs : List Char) : Bytes × List Char :=
  match cs with
  | [] => ([92], [])
  | c :: rest =>
    match escapedByte? c with
    | some b => ([b], rest)
    | none =>
      match if c = 'x' then takeCode 16 2 rest else takeCode 8 3 (c :: rest) with
      | some (b, rest) => ([b], rest)
      | none => (92 :: Text.utf8Char c, rest)

/-- The bytes of a text with escapes. -/
def unescaped : Nat → List Char → Bytes
  | 0, _ => []
  | _, [] => []
  | n + 1, '\\' :: rest =>
    let (bs, rest) := takeEscape rest
    bs ++ unescaped n rest
  | n + 1, c :: rest => Text.utf8Char c ++ unescaped n rest

/-! ## Printing -/

/-- Prints its arguments with blanks between them. -/
def echo (s : Start) : Result :=
  let options := s.arguments.takeWhile fun a => ["-n", "-e", "-E", "-ne", "-en"].contains a
  let text := String.intercalate " " (s.arguments.drop options.length)
  let escapes := options.any fun a => a.toList.contains 'e'
  let body := if escapes then unescaped text.length text.toList else utf8 text
  let silent := options.any fun a => a.toList.contains 'n'
  { stdout := body ++ (if silent then [] else [10]) }

/-- A text as an integer, as far as it starts with one. -/
def leadingInteger (text : String) : Int :=
  let cs := text.toList
  let (neg, cs) := match cs with
    | '-' :: rest => (true, rest)
    | '+' :: rest => (false, rest)
    | _ => (false, cs)
  let n : Int := (Number.natIn? 10 (cs.takeWhile Char.isDigit)).getD 0
  if neg then -n else n

/-- One pass over a format: what it prints, the arguments left, and whether it took any. -/
def formatOnce : Nat → List Char → List String → (taken : Bool) → Bytes × List String × Bool
  | 0, _, args, taken => ([], args, taken)
  | _, [], args, taken => ([], args, taken)
  | n + 1, '\\' :: rest, args, taken =>
    let (bs, rest) := takeEscape rest
    let (more, args, taken) := formatOnce n rest args taken
    (bs ++ more, args, taken)
  | n + 1, '%' :: '%' :: rest, args, taken =>
    let (more, args, taken) := formatOnce n rest args taken
    (37 :: more, args, taken)
  | n + 1, '%' :: kind :: rest, args, _ =>
    let arg := args.headD ""
    let bs :=
      if kind = 'd' || kind = 'i' then utf8 (Number.decimal (leadingInteger arg))
      else if kind = 'c' then utf8 (String.ofList (arg.toList.take 1))
      else if kind = 'b' then unescaped arg.length arg.toList
      else utf8 arg
    let (more, args, taken) := formatOnce n rest args.tail true
    (bs ++ more, args, taken)
  | n + 1, c :: rest, args, taken =>
    let (more, args, taken) := formatOnce n rest args taken
    (Text.utf8Char c ++ more, args, taken)

/-- A format, used again as long as it takes arguments and some are left. -/
def formatAll (format : List Char) : Nat → List String → Bytes
  | 0, _ => []
  | n + 1, args =>
    let (bs, left, taken) := formatOnce format.length format args false
    if taken && !left.isEmpty then bs ++ formatAll format n left else bs

/-- Prints its arguments as a format says. -/
def printf (s : Start) : Result :=
  match s.arguments with
  | [] => s.complain 2 "printf: usage: printf [-v var] format [arguments]"
  | format :: args => { stdout := formatAll format.toList (args.length + 1) args }

/-! ## Ending -/

/-- Ends the shell. -/
def exit (s : Start) : Result :=
  match s.arguments with
  | [] => { status := s.last, ends? := some s.last }
  | text :: _ =>
    match Number.readInteger (Number.signedRange 64) text with
    | .ok n => { ends? := some (n % 256) }
    | .error _ =>
      { s.complain 2 ("exit: " ++ text ++ ": numeric argument required") with ends? := some 2 }

/-- Signals that do not end a process by themselves. -/
def harmlessSignals : List String :=
  ["0", "17", "18", "23", "28", "CHLD", "CONT", "URG", "WINCH", "SIGCHLD", "SIGCONT", "SIGURG",
    "SIGWINCH"]

/-- Sends a signal. -/
def kill (s : Start) : Result :=
  let (signal, targets) := match s.arguments with
    | "-s" :: name :: rest => (name, rest)
    | first :: rest =>
      match first.toList with
      | '-' :: name => (String.ofList name, rest)
      | _ => ("TERM", first :: rest)
    | [] => ("TERM", [])
  if targets.isEmpty then
    s.complain 2 ("kill: usage: kill [-s sigspec | -n signum | -sigspec] pid | jobspec ... or "
      ++ "kill -l [sigspec]")
  else match targets.find? (· ≠ s.process) with
    | some other => s.complain 1 ("kill: (" ++ other ++ ") - No such process")
    | none => if harmlessSignals.contains signal then {} else { ends? := some killed }

/-! ## Utilities -/

/-- The characters of a set, ranges written out. -/
def characterSet : List Char → List Char
  | a :: '-' :: b :: rest =>
    (List.range (b.toNat + 1 - a.toNat)).map (fun k => Char.ofNat (a.toNat + k))
      ++ characterSet rest
  | c :: rest => c :: characterSet rest
  | [] => []

/-- Replaces characters of its input, or leaves them out. -/
def translate (s : Start) : Result :=
  let text := (Text.ofUtf8Lenient s.input).toList
  match s.arguments with
  | ["-d", set] =>
    let from? := characterSet set.toList
    { stdout := utf8 (String.ofList (text.filter fun c => !from?.contains c)) }
  | [set, images] =>
    let sources := characterSet set.toList
    let images := characterSet images.toList
    let image (c : Char) : Char :=
      if sources.contains c then (images[sources.idxOf c]?.or images.getLast?).getD c else c
    { stdout := utf8 (String.ofList (text.map image)) }
  | _ =>
    { status := 1, stderr := utf8 "tr: missing operand\nTry 'tr --help' for more information.\n" }

/-- Runs the command of a name. -/
def run (s : Start) (name : String) : Result :=
  match name with
  | "echo" => s.echo
  | "printf" => s.printf
  | "exit" => s.exit
  | "kill" => s.kill
  | "true" => {}
  | ":" => {}
  | "sleep" => {}
  | "false" => { status := 1 }
  | "cat" => { stdout := s.input }
  | "tr" => s.translate
  | "pwd" => { stdout := utf8 (s.directory ++ "\n") }
  | _ =>
    if name.contains '/' then s.complain 127 (name ++ ": No such file or directory")
    else s.complain 127 (name ++ ": command not found")

end Start

end ClusterFixture.Shell
