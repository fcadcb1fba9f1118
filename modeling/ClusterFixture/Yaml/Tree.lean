/-
The value that the tokens of a YAML text spell.

A value may have an anchor and a tag in front of it, and an alias stands for the value of an anchor
that was completed earlier. Where a collection leaves a key, a value or an item out, nothing stands
for it.
-/

import ClusterFixture.Yaml.Layout
import ClusterFixture.Yaml.Node

set_option autoImplicit false

namespace ClusterFixture.Yaml

/-- What is left of the tokens, and the anchors so far. -/
structure Tree where
  rest : List Token
  /-- What handles of tags stand for. -/
  handles : List (String × String) := []
  /-- The names of anchors, the last one first. -/
  anchors : List String := []
  /-- The values of anchors, by how many precede them. -/
  values : List (Nat × Node) := []

namespace Tree

/-- One token further on. -/
def skip (t : Tree) : Tree := { t with rest := t.rest.tail }

/-! ## Properties -/

/-- A new anchor. -/
def name (t : Tree) (anchor : String) : Tree × Nat :=
  ({ t with anchors := anchor :: t.anchors }.skip, t.anchors.length)

/-- Gives an anchor its value. -/
def define (t : Tree) (place? : Option Nat) (v : Node) : Tree :=
  match place? with
  | some place => { t with values := (place, v) :: t.values }
  | none => t

/-- The value that an alias stands for. Inside the value itself, there is none yet. -/
def alias? (t : Tree) (anchor : String) : Option Node :=
  let before := t.anchors.dropWhile (· ≠ anchor)
  if before.isEmpty then none
  else some ((t.values.lookup (before.length - 1)).getD .invalid)

/-- The full form of a tag. -/
def resolve (t : Tree) (handle suffix : String) : Except YamlFault (String × String) :=
  match t.handles.lookup handle with
  | some lead => .ok (lead, suffix)
  | none =>
    if handle = "!!" then .ok (Node.coreHandle, suffix)
    else if closesHandle handle.toList then .error .unknownHandle
    else .ok (handle, suffix)

/-- Reads the anchor and the tag in front of a value, in either order. -/
def properties (t : Tree) : Except YamlFault (Tree × Option Nat × Option (String × String)) :=
  match t.rest with
  | .anchor anchor :: .tag handle suffix :: _ => do
    let (t, place) := t.name anchor
    return (t.skip, some place, some (← t.resolve handle suffix))
  | .anchor anchor :: _ =>
    let (t, place) := t.name anchor
    .ok (t, some place, none)
  | .tag handle suffix :: .anchor anchor :: _ => do
    let tag ← t.resolve handle suffix
    let (t, place) := t.skip.name anchor
    return (t, some place, some tag)
  | .tag handle suffix :: _ => do return (t.skip, none, some (← t.resolve handle suffix))
  | _ => .ok (t, none, none)

/-! ## Collections -/

/-- A way to read a value: whether it may be a collection of a block, and whether its items may
stand in the column of a key. -/
abbrev ReadValue := (inBlock bare : Bool) → Tree → Except YamlFault (Tree × Node)

/-- Reads a value, unless one of the given tokens shows that it is left out. -/
def valueBefore (read : ReadValue) (inBlock bare : Bool) (ends : List Token) (t : Tree) :
    Except YamlFault (Tree × Node) :=
  if t.rest.head?.any ends.contains then .ok (t, .null) else read inBlock bare t

/-- The items of a list, each behind its mark, put before `done` in reverse. Where a list has no
column of its own, it ends with the first token that is no mark. -/
def blockItems (read : ReadValue) (bare : Bool) : Nat → Tree → (done : List Node) →
    Except YamlFault (Tree × List Node)
  | 0, _, _ => .error .nodeMissing
  | n + 1, t, done =>
    match t.rest with
    | .blockEntry :: _ => do
      let ends : List Token :=
        if bare then [.blockEntry, .key, .value, .blockEnd] else [.blockEntry, .blockEnd]
      let (t, v) ← valueBefore read true false ends t.skip
      blockItems read bare n t (v :: done)
    | .blockEnd :: _ => .ok (if bare then t else t.skip, done)
    | _ => if bare then .ok (t, done) else .error .separatorMissing

/-- The value behind its mark, if there is one. -/
def memberValue (read : ReadValue) (inBlock bare : Bool) (ends : List Token) (t : Tree) :
    Except YamlFault (Tree × Node) :=
  match t.rest with
  | .value :: _ => valueBefore read inBlock bare ends t.skip
  | _ => .ok (t, .null)

/-- The keys and values of a mapping, put before `done` in reverse. -/
def blockMembers (read : ReadValue) : Nat → Tree → (done : List Node) →
    Except YamlFault (Tree × List Node)
  | 0, _, _ => .error .nodeMissing
  | n + 1, t, done =>
    let ends : List Token := [.key, .value, .blockEnd]
    match t.rest with
    | .key :: _ => do
      let (t, k) ← valueBefore read true true ends t.skip
      let (t, v) ← memberValue read true true ends t
      blockMembers read n t (v :: k :: done)
    | .value :: _ => do
      let (t, v) ← memberValue read true true ends t
      blockMembers read n t (v :: .null :: done)
    | .blockEnd :: _ => .ok (t.skip, done)
    | _ => .error .separatorMissing

/-- Passes the comma between two items in brackets. -/
def pastSeparator (first : Bool) (t : Tree) : Except YamlFault Tree :=
  if first then .ok t
  else match t.rest with
    | .flowEntry :: _ => .ok t.skip
    | _ => .error .separatorMissing

/-- The keys and values in braces, put before `done` in reverse. A key may stand alone. -/
def flowMembers (read : ReadValue) : Nat → (first : Bool) → Tree → (done : List Node) →
    Except YamlFault (Tree × List Node)
  | 0, _, _, _ => .error .nodeMissing
  | n + 1, first, t, done =>
    let ends : List Token := [.flowEntry, .flowMappingEnd]
    match t.rest with
    | .flowMappingEnd :: _ => .ok (t.skip, done)
    | _ => do
      let t ← pastSeparator first t
      match t.rest with
      | .flowMappingEnd :: _ => return (t.skip, done)
      | .key :: _ =>
        let (t, k) ← valueBefore read false false (.value :: ends) t.skip
        let (t, v) ← memberValue read false false ends t
        flowMembers read n false t (v :: k :: done)
      | .value :: _ =>
        let (t, v) ← memberValue read false false ends t
        flowMembers read n false t (v :: .null :: done)
      | _ =>
        let (t, k) ← read false false t
        flowMembers read n false t (.null :: k :: done)

/-- The items in brackets, put before `done` in reverse. A marked key makes a mapping of one
pair. -/
def flowItems (read : ReadValue) : Nat → (first : Bool) → Tree → (done : List Node) →
    Except YamlFault (Tree × List Node)
  | 0, _, _, _ => .error .nodeMissing
  | n + 1, first, t, done =>
    let ends : List Token := [.flowEntry, .flowSequenceEnd]
    match t.rest with
    | .flowSequenceEnd :: _ => .ok (t.skip, done)
    | _ => do
      let t ← pastSeparator first t
      match t.rest with
      | .flowSequenceEnd :: _ => return (t.skip, done)
      | .key :: rest =>
        let t := t.skip
        let bare := rest.head?.any (.value :: ends).contains
        let (t, k) ← if bare then pure (t.skip, .null) else read false false t
        let (t, v) ← memberValue read false false ends t
        flowItems read n false t ((← Node.ofPairs [k, v]) :: done)
      | _ =>
        let (t, v) ← read false false t
        flowItems read n false t (v :: done)

/-! ## Values -/

/-- Reads a value that is nested at most so deep. -/
def value : Nat → ReadValue
  | 0, _, _, _ => .error .tooDeep
  | n + 1, inBlock, bare, t =>
    match t.rest with
    | .alias anchor :: _ =>
      match t.alias? anchor with
      | some v => .ok (t.skip, v)
      | none => .error .unknownAnchor
    | _ => do
      let (t, place?, tag?) ← t.properties
      let length := t.rest.length + 1
      let list (items : Tree × List Node) : Tree × Node :=
        let v := .sequence items.2.reverse
        (items.1.define place? v, v)
      let mapping (members : Tree × List Node) : Except YamlFault (Tree × Node) := do
        let v ← Node.ofPairs members.2.reverse
        return (members.1.define place? v, v)
      let scalar (t : Tree) (v : Node) : Tree × Node := (t.define place? v, v)
      match t.rest, inBlock, bare with
      | .blockEntry :: _, _, true => return list (← blockItems (value n) true length t [])
      | .plain s :: _, _, _ => return scalar t.skip (.ofScalar tag? s)
      | .text s :: _, _, _ => return scalar t.skip (.text s)
      | .flowSequenceStart :: _, _, _ =>
        return list (← flowItems (value n) length true t.skip [])
      | .flowMappingStart :: _, _, _ => mapping (← flowMembers (value n) length true t.skip [])
      | .blockSequenceStart :: _, true, _ =>
        return list (← blockItems (value n) false length t.skip [])
      | .blockMappingStart :: _, true, _ => mapping (← blockMembers (value n) length t.skip [])
      | _, _, _ =>
        if place?.isSome || tag?.isSome then return scalar t (.ofScalar tag? "")
        else throw .nodeMissing

/-! ## Documents -/

/-- Passes the directives in front of a document. Of those that give handles, the last counts, if no
directive of the version follows it. -/
def directives : (version : Bool) → List Token → (handles : List (String × String)) →
    Except YamlFault (List Token × List (String × String))
  | version, .version :: rest, _ =>
    if version then .error .invalidDirective else directives true rest []
  | version, .tagDirective handle lead :: rest, _ => directives version rest [(handle, lead)]
  | _, rest, handles => .ok (rest, handles)

/-- The value of a document. Behind a mark, it may be left out. -/
def document (ts : List Token) : Except YamlFault (Tree × Node) := do
  let (rest, handles) ← directives false ts []
  let fuel := ts.length + 1
  match rest with
  | .documentStart :: rest =>
    let t : Tree := { rest, handles }
    match rest with
    | [] => return (t, .null)
    | .version :: _ => return (t, .null)
    | .tagDirective _ _ :: _ => return (t, .null)
    | .documentStart :: _ => return (t, .null)
    | .documentEnd :: _ => return (t, .null)
    | _ => value fuel true false t
  | _ =>
    if rest.length < ts.length then throw .invalidDirective
    else value fuel true false { rest, handles }

end Tree

/-- Passes the marks that end a document. -/
def pastDocumentEnds (ts : List Token) : List Token := ts.dropWhile (· = .documentEnd)

/-- The value of a text that holds at most one document, if it holds one. -/
def read (text : String) : Except YamlFault (Option Node) := do
  let ts := pastDocumentEnds (← tokens text.toList)
  if ts.isEmpty then return none
  let (t, v) ← Tree.document ts
  if (pastDocumentEnds t.rest).isEmpty then return some v else throw .furtherDocument

end ClusterFixture.Yaml
