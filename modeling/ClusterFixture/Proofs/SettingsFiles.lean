/-
A directory with files of settings.

What stands in a file is met as bytes behind a path. Of a directory that holds files of given names
and texts, and nothing else, each name leads to its text, and a name that is not given leads nowhere.
A text of ASCII characters never looks like one that begins with the mark of an encoding.
-/

import ClusterFixture.Proofs.Encoding
import ClusterFixture.Proofs.Files
import ClusterFixture.Settings.Loading

set_option autoImplicit false

namespace ClusterFixture.Settings

/-! ## Texts as bytes -/

/-- No ASCII text begins with the mark of an encoding. -/
theorem withoutMark_utf8_of_ascii {s : String} (h : ∀ c ∈ s.toList, c.toNat < 0x80) :
    withoutMark (Text.utf8 s) = Text.utf8 s := by
  rw [withoutMark, if_neg]
  rw [Text.utf8]
  cases hs : s.toList with
  | nil => simp [Text.utf8Chars]
  | cons c rest =>
    have hc := h c (by simp [hs])
    have hne : (0xEF : UInt8) ≠ UInt8.ofNat c.toNat := by
      intro heq
      have hcode : 0xEF = (UInt8.ofNat c.toNat).toNat := congrArg UInt8.toNat heq
      rw [UInt8.toNat_ofNat'] at hcode
      omega
    simp [Text.utf8Chars, Text.utf8Char, hc, List.isPrefixOf, hne]

/-! ## Layers of files -/

/-- A path that leads to a file is the one under which it is found. -/
theorem found?_of_isFile {s : Sources} {path : String} (h : s.isFile path = true) :
    s.found? path = some path := by
  rw [Sources.found?, Sources.spellings, List.find?_cons, h]

/-- The layer of a file whose text is ASCII. -/
theorem fileLayer_of_read {s : Sources} {path text : String} {layer : Layer}
    (hread : s.files.read (Path.parts s.directory) path = .ok (Text.utf8 text))
    (hascii : ∀ c ∈ text.toList, c.toNat < 0x80)
    (hlayer : Layer.ofYaml? (s.origin path) text = some layer) : s.fileLayer path = .ok layer := by
  obtain ⟨p, mode, hlocate, hfile, -⟩ := FileTree.read_eq_ok_iff.mp hread
  have hisFile : s.isFile path = true := by
    rw [Sources.isFile, FileTree.stat, hlocate]
    simp only [bind, Except.bind, hfile, pure, Except.pure]
  have htext : s.readFile path = .ok (text, s.origin path) := by
    simp only [Sources.readFile, found?_of_isFile hisFile, hread,
      withoutMark_utf8_of_ascii hascii, Text.ofUtf8Lenient_utf8]
  rw [Sources.fileLayer, htext]
  show Sources.parse text (s.origin path) = _
  rw [Sources.parse, hlayer]

/-! ## A directory of files -/

/-- A directory that holds files of the given names and texts. -/
def treeOf (files : List (String × String)) : FileTree :=
  ⟨(["configuration"], .directory newDirectoryMode) ::
    files.map fun (name, text) => (["configuration", name], .file (Text.utf8 text) newFileMode)⟩

/-- Sources with such a directory in the working directory. -/
def sourcesOf (files bindings : List (String × String)) : Sources :=
  ⟨treeOf files, "/", bindings⟩

/-- Whether the path of a file in the directory leads there. -/
def IsPlainPath (path name : String) : Prop :=
  ('\x00' ∉ path.toList ∧ path.isEmpty = false ∧ path.utf8ByteSize ≤ FileTree.pathLimit) ∧
    FileTree.asksDirectory path = false ∧ FileTree.start [] path = [] ∧
    Path.parts path = ["configuration", name] ∧ name ≠ ".." ∧
    name.utf8ByteSize ≤ FileTree.nameLimit

instance (path name : String) : Decidable (IsPlainPath path name) :=
  inferInstanceAs (Decidable (_ ∧ _))

theorem node?_treeOf (files : List (String × String)) (name : String) :
    (treeOf files).node? ["configuration", name]
      = (files.lookup name).map fun text => .file (Text.utf8 text) newFileMode := by
  have hnode : ∀ nodes, FileTree.node? ⟨nodes⟩ ["configuration", name]
      = (nodes.find? fun entry => entry.1 == ["configuration", name]).map (·.2) := fun _ => rfl
  rw [treeOf, hnode, List.find?_cons]
  show Option.map _ (List.find? _ _) = _
  induction files with
  | nil => rfl
  | cons file rest ih =>
    obtain ⟨other, text⟩ := file
    rw [List.map_cons, List.find?_cons]
    by_cases hname : other = name
    · simp [hname]
    · have hplace : (["configuration", other] == ["configuration", name]) = false := by
        simpa using hname
      rw [List.lookup_cons, beq_false_of_ne (Ne.symm hname)]
      simpa only [hplace] using ih

theorem parts_sourcesOf (files bindings : List (String × String)) :
    Path.parts (sourcesOf files bindings).directory = [] :=
  show Path.parts "/" = [] by decide

section

variable (files bindings : List (String × String)) {path name : String}
  (hpath : IsPlainPath path name)

include hpath

theorem locate_treeOf : (treeOf files).locate [] path = .ok ["configuration", name] := by
  obtain ⟨⟨hnul, hempty, hshort⟩, hplain, hstart, hparts, hup, hlong⟩ := hpath
  have hroot : (treeOf files).node? [] = some (.directory rootMode) := rfl
  have hdirectory : (treeOf files).node? ["configuration"] = some (.directory newDirectoryMode) :=
    rfl
  refine FileTree.locate_eq_ok_iff.mpr ⟨⟨?_, hempty, hshort⟩, ?_, ?_⟩
  · rw [String.contains_char_eq]
    exact decide_eq_false hnul
  · have hfirst : FileTree.step [] "configuration" = .ok ["configuration"] := rfl
    have hlast : FileTree.step ["configuration"] name = .ok ["configuration", name] := by
      rw [FileTree.step, if_neg hup, if_neg (Nat.not_lt.mpr hlong)]
      rfl
    rw [hstart, hparts, FileTree.follow_cons hroot (by decide) hfirst,
      FileTree.follow_cons hdirectory (by decide) hlast]
    rfl
  · rw [hplain]
    intro h
    cases h

theorem stat_treeOf : (treeOf files).stat [] path =
    match files.lookup name with
    | some text => .ok (.file (Text.utf8 text) newFileMode)
    | none => .error (.system .notFound) := by
  have hnode := node?_treeOf files name
  rw [FileTree.stat, locate_treeOf files hpath]
  cases hfile : files.lookup name with
  | none =>
    simp only [bind, Except.bind, hnode, hfile, Option.map_none]
    rfl
  | some text =>
    simp only [bind, Except.bind, hnode, hfile, Option.map_some]
    rfl

theorem isFile_sourcesOf :
    (sourcesOf files bindings).isFile path = (files.lookup name).isSome := by
  have hstat : (sourcesOf files bindings).files.stat [] path = _ := stat_treeOf files hpath
  rw [Sources.isFile, parts_sourcesOf, hstat]
  cases files.lookup name <;> rfl

theorem read_treeOf {text : String} (hfile : files.lookup name = some text) :
    (treeOf files).read [] path = .ok (Text.utf8 text) := by
  have hnode : (treeOf files).node? ["configuration", name]
      = some (.file (Text.utf8 text) newFileMode) := by
    rw [node?_treeOf, hfile, Option.map_some]
  exact FileTree.read_eq_ok_iff.mpr
    ⟨_, newFileMode, locate_treeOf files hpath, hnode, by decide⟩

/-- **A file of the directory has the layer of its text.** -/
theorem fileLayer_sourcesOf {text : String} {layer : Layer} (hfile : files.lookup name = some text)
    (hascii : ∀ c ∈ text.toList, c.toNat < 0x80)
    (hlayer : Layer.ofYaml? ((sourcesOf [] []).origin path) text = some layer) :
    (sourcesOf files bindings).fileLayer path = .ok layer := by
  refine fileLayer_of_read ?_ hascii hlayer
  rw [parts_sourcesOf]
  exact read_treeOf files hpath hfile

end

/-- A name that is not given leads nowhere, nor with an ending after it. -/
theorem found?_sourcesOf_eq_none {files bindings : List (String × String)} {path : String}
    (name : String) (h : IsPlainPath path name ∧ IsPlainPath (path ++ ".yaml") (name ++ ".yaml") ∧
      IsPlainPath (path ++ ".yml") (name ++ ".yml"))
    (hnone : ∀ other ∈ [name, name ++ ".yaml", name ++ ".yml"], files.lookup other = none) :
    (sourcesOf files bindings).found? path = none := by
  simp only [List.forall_mem_cons] at hnone
  obtain ⟨h1, h2, h3, -⟩ := hnone
  simp only [Sources.found?, Sources.spellings, List.find?_cons, List.find?_nil,
    isFile_sourcesOf files bindings h.1, isFile_sourcesOf files bindings h.2.1,
    isFile_sourcesOf files bindings h.2.2, h1, h2, h3, Option.isSome_none]

end ClusterFixture.Settings
