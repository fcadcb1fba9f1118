/-
File paths as texts.

A path is absolute when it starts with a slash. Its parts stand between slashes; a repeated slash
and a part of one dot mean nothing, and a part of two dots leads one level up.
-/

import ClusterFixture.Text.Search

set_option autoImplicit false

namespace ClusterFixture.Path

/-- Whether a path starts at the root. -/
def isAbsolute (path : String) : Bool := Text.startsWith path "/"

/-- The path of `name` below `dir`; an absolute name stands for itself. -/
def join (dir name : String) : String :=
  if isAbsolute name then name
  else if dir.isEmpty || Text.endsWith dir "/" then dir ++ name
  else dir ++ "/" ++ name

/-- The parts of a path that mean something. -/
def parts (path : String) : List String :=
  (Text.split path '/').filter fun part => !part.isEmpty && part != "."

/-- The last part of a path, unless it leads up or there is none. -/
def fileName? (path : String) : Option String :=
  match (parts path).getLast? with
  | some ".." => none
  | last => last

/-- What follows the last dot of the last part, unless nothing stands before that dot. -/
def extension? (path : String) : Option String := do
  let name ← fileName? path
  let cs := name.toList.reverse
  let ending := cs.takeWhile (· ≠ '.')
  if cs.length ≤ ending.length + 1 then none else some (String.ofList ending.reverse)

/-- An empty path, which leads nowhere. -/
def emptyMessage : String := "cannot make an empty path absolute"

/-- A path made absolute below the working directory, without looking at any file: single dots and
repeated slashes go, two dots stay, and so does a slash at the end. Exactly two slashes at the start
stay two. -/
def absolute (cwd path : String) : Except String String :=
  if path.isEmpty then .error emptyMessage
  else
    let body := Text.joinWith "/" (parts path)
    let full :=
      if isAbsolute path then
        (if Text.startsWith path "//" && !Text.startsWith path "///" then "//" else "/") ++ body
      else if body.isEmpty then cwd
      else join cwd body
    .ok (if Text.endsWith path "/" then join full "" else full)

/-- The way from one directory to a path, where both start at the root or neither does. -/
def relativeTo (dir path : List String) : List String :=
  match dir, path with
  | d :: ds, p :: ps =>
    if d = p then relativeTo ds ps else (d :: ds).map (fun _ => "..") ++ (p :: ps)
  | ds, ps => ds.map (fun _ => "..") ++ ps

end ClusterFixture.Path
