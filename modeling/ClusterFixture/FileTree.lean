/-
A tree of files and directories, and how paths lead through it.

The tree is a list of places, each with what is there; the root is always a directory. A path is
followed part by part, and every part but the last must be a directory that exists. Everything but
the root belongs to the one who works on the tree, and the owner's permissions decide what is
allowed.
-/

import ClusterFixture.Path
import ClusterFixture.SystemError
import ClusterFixture.Text.Utf8

set_option autoImplicit false

namespace ClusterFixture

open ClusterFixture.Text (Bytes)

/-- A place: the names that lead to it from the root. -/
abbrev Place := List String

/-- What is at a place; both kinds have permissions. -/
inductive FileNode where
  | file (content : Bytes) (mode : Nat)
  | directory (mode : Nat)
  deriving Repr, Inhabited, DecidableEq

/-- The permissions of a node. -/
def FileNode.mode : FileNode → Nat
  | .file _ m => m
  | .directory m => m

/-- The owner's permission to read. -/
def ownerRead : Nat := 0o400

/-- The owner's permission to write. -/
def ownerWrite : Nat := 0o200

/-- The owner's permission to run a file or to go through a directory. -/
def ownerExecute : Nat := 0o100

/-- Whether permissions include one of the owner's. -/
def permits (mode bit : Nat) : Bool := mode &&& bit != 0

/-- The permissions of the root, where nothing can be added. -/
def rootMode : Nat := 0o555

/-- The permissions of a new file. -/
def newFileMode : Nat := 0o644

/-- The permissions of a new directory. -/
def newDirectoryMode : Nat := 0o755

/-- All files and directories but the root, each place once. -/
structure FileTree where
  nodes : List (Place × FileNode) := []
  deriving Repr, Inhabited

/-- Why a file cannot be reached. -/
inductive FileFault where
  | system (e : SystemError)
  | nulByte
  | notText
  deriving DecidableEq, Repr

/-- What is said of it. -/
def FileFault.message : FileFault → String
  | .system e => e.message
  | .nulByte => "file name contained an unexpected NUL byte"
  | .notText => "stream did not contain valid UTF-8"

namespace FileTree

/-! ## Places -/

/-- What is at a place. -/
def node? (t : FileTree) (p : Place) : Option FileNode :=
  if p.isEmpty then some (.directory rootMode)
  else (t.nodes.find? fun entry => entry.1 == p).map (·.2)

/-- Puts a node at a place. -/
def put (t : FileTree) (p : Place) (n : FileNode) : FileTree :=
  if t.nodes.any fun entry => entry.1 == p then
    ⟨t.nodes.map fun entry => if entry.1 == p then (p, n) else entry⟩
  else ⟨t.nodes ++ [(p, n)]⟩

/-- Takes away the node at a place. -/
def erase (t : FileTree) (p : Place) : FileTree := ⟨t.nodes.filter fun entry => entry.1 != p⟩

/-- Makes all directories that lead to a place. -/
def makeDirectories (t : FileTree) (p : Place) : FileTree :=
  (List.range p.length).foldl (fun t k =>
    let q := p.take (k + 1)
    match t.node? q with
    | some _ => t
    | none => t.put q (.directory newDirectoryMode)) t

/-- Puts something at a path, with the directories that lead there. -/
def plant (t : FileTree) (cwd : Place) (path : String) (node : FileNode) : FileTree :=
  let p := (if Path.isAbsolute path then [] else cwd) ++ Path.parts path
  (t.makeDirectories p.dropLast).put p node

/-- The nodes right below a place. -/
def children (t : FileTree) (p : Place) : List (Place × FileNode) :=
  t.nodes.filter fun entry => entry.1.length == p.length + 1 && entry.1.take p.length == p

/-! ## Following paths -/

/-- The longest name, in bytes. -/
def nameLimit : Nat := 255

/-- The longest path, in bytes. -/
def pathLimit : Nat := 4095

/-- One part further from a directory. -/
def step (here : Place) (part : String) : Except SystemError Place :=
  if part = ".." then .ok here.dropLast
  else if nameLimit < part.utf8ByteSize then .error .nameTooLong
  else .ok (here ++ [part])

/-- Follows parts from a place. Every place left on the way must be a directory. -/
def follow (t : FileTree) (here : Place) : List String → Except SystemError Place
  | [] => .ok here
  | part :: rest =>
    match t.node? here with
    | none => .error .notFound
    | some (.file _ _) => .error .notDirectory
    | some (.directory mode) =>
      if !permits mode ownerExecute then .error .denied
      else match step here part with
        | .error e => .error e
        | .ok next => t.follow next rest

/-- Whether a path asks for a directory by the way it ends. -/
def asksDirectory (path : String) : Bool :=
  Text.endsWith path "/" || Text.endsWith path "/." || path == "."

/-- The place that a path leads to; whether anything is there is left open. -/
def locate (t : FileTree) (cwd : Place) (path : String) : Except FileFault Place :=
  if path.contains '\x00' then .error .nulByte
  else if path.isEmpty then .error (.system .notFound)
  else if pathLimit < path.utf8ByteSize then .error (.system .nameTooLong)
  else
    match t.follow (if Path.isAbsolute path then [] else cwd) (Path.parts path) with
    | .error e => .error (.system e)
    | .ok p =>
      match t.node? p with
      | some (.file _ _) => if asksDirectory path then .error (.system .notDirectory) else .ok p
      | _ => .ok p

/-! ## Files -/

/-- What a path leads to. -/
def stat (t : FileTree) (cwd : Place) (path : String) : Except FileFault FileNode := do
  let p ← t.locate cwd path
  match t.node? p with
  | some n => return n
  | none => throw (.system .notFound)

/-- Whether a path leads to anything; other trouble on the way than a missing part is a fault. -/
def isPresent (t : FileTree) (cwd : Place) (path : String) : Except FileFault Bool :=
  match t.stat cwd path with
  | .ok _ => .ok true
  | .error f => if f = .system .notFound then .ok false else .error f

/-- The content of a file. -/
def read (t : FileTree) (cwd : Place) (path : String) : Except FileFault Bytes := do
  match ← t.stat cwd path with
  | .file content mode =>
    if permits mode ownerRead then return content else throw (.system .denied)
  | .directory _ => throw (.system .isDirectory)

/-- The content of a file as text. -/
def readText (t : FileTree) (cwd : Place) (path : String) : Except FileFault String := do
  match Text.ofUtf8? (← t.read cwd path) with
  | some s => return s
  | none => throw .notText

/-- Whether names can be added to the directory of a place and taken away from it. -/
def canChangeNames (t : FileTree) (p : Place) : Bool :=
  match t.node? p.dropLast with
  | some n => permits n.mode ownerWrite && permits n.mode ownerExecute
  | none => false

/-- Writes a file anew; its permissions stay, if it was there. -/
def write (t : FileTree) (cwd : Place) (path : String) (content : Bytes) :
    Except FileFault FileTree := do
  let p ← t.locate cwd path
  match t.node? p with
  | some (.directory _) => throw (.system .isDirectory)
  | some (.file _ mode) =>
    if permits mode ownerWrite then return t.put p (.file content mode)
    else throw (.system .denied)
  | none =>
    if asksDirectory path then throw (.system .isDirectory)
    else if t.canChangeNames p then return t.put p (.file content newFileMode)
    else throw (.system .denied)

/-- Takes a file away. -/
def remove (t : FileTree) (cwd : Place) (path : String) : Except FileFault FileTree := do
  let p ← t.locate cwd path
  match t.node? p with
  | some (.directory _) => throw (.system .isDirectory)
  | some (.file _ _) =>
    if t.canChangeNames p then return t.erase p else throw (.system .denied)
  | none => throw (.system .notFound)

/-- The nodes right below a directory. -/
def list (t : FileTree) (cwd : Place) (path : String) :
    Except FileFault (List (Place × FileNode)) := do
  let p ← t.locate cwd path
  match t.node? p with
  | some (.directory mode) =>
    if permits mode ownerRead then return t.children p else throw (.system .denied)
  | some (.file _ _) => throw (.system .notDirectory)
  | none => throw (.system .notFound)

end FileTree

end ClusterFixture
