/-
The program.

It takes its variables from the process, its settings from the directory of settings, and its
servers from a description beside them, which also names the dumps that those servers have written.
What servers say is answered from the description alone.
-/

import ClusterFixture.CommandLine.Program
import ClusterFixture.Json.Read
import ClusterFixture.Session.Json

set_option autoImplicit false

namespace ClusterFixture

open ClusterFixture.CommandLine (Start)

/-! ## The process -/

/-- Where the variables of the process can be read, each ended by a zero byte. -/
def variablesFile : String := "/proc/self/environ"

/-- Where the servers are described. -/
def serversFile : String := Path.join Settings.Sources.settingsDirectory "servers.json"

/-- Where the log goes. -/
def logDirectory : String := "logs"

/-- The variables in a text with a zero character behind each. -/
def variablesOfText (text : String) : List (String × String) :=
  (Text.split text '\x00').filterMap fun entry =>
    (Text.cutAt '=' entry.toList).map fun (name, value) =>
      (String.ofList name, String.ofList value)

/-- The content of a file, if it can be read. -/
def contentOf? (path : String) : IO (Option Text.Bytes) := do
  try return some (← IO.FS.readBinFile path).toList
  catch _ => return none

/-- The text of a file, empty if it cannot be read. -/
def textOf (path : String) : IO String := do
  return Text.ofUtf8Lenient ((← contentOf? path).getD [])

/-- A tree with the given files, as far as they can be read. -/
def filesAt (directory : String) (paths : List String) : IO FileTree := do
  let start := (FileTree.mk []).makeDirectories (Path.parts directory)
  paths.foldlM (fun files path => do
    match ← contentOf? path with
    | some content =>
      return files.plant (Path.parts directory) path (.file content newFileMode)
    | none => return files) start

/-- Adds to the log. -/
def keepLog (chunks : List Text.Bytes) : IO Unit := do
  if !chunks.isEmpty then
    IO.FS.createDirAll logDirectory
    let file ← IO.FS.Handle.mk (Path.join logDirectory (CommandLine.programName ++ ".log")) .append
    for chunk in chunks do file.write ⟨chunk.toArray⟩

/-- Runs the program in the present process. -/
def runProcess (arguments : List String) : IO UInt32 := do
  let directory := toString (← IO.currentDir)
  let description := (Json.read? (← textOf serversFile)).getD .null
  let dumps := (Session.itemsMember description "files").filterMap fun
    | .string path => some path
    | _ => none
  let start : Start := {
    arguments
    bindings := variablesOfText (← textOf variablesFile)
    files := ← filesAt directory (Settings.Sources.settingsFiles ++ dumps)
    directory
    network := .ofJson description "servers" }
  let e := start.run
  IO.print e.stdout
  IO.eprint e.stderr
  keepLog e.log.chunks
  return e.status.toUInt32

end ClusterFixture

/-- The command line. -/
def main (arguments : List String) : IO UInt32 := ClusterFixture.runProcess arguments
