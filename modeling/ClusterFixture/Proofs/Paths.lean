/-
The parts of composed paths.

A path is a text, but what it leads to depends on its parts alone, and on whether it starts at the
root. Joining a name to a directory and making a path absolute only put parts behind each other;
that is what this file says of them, for all texts. A part is a text without slashes that is neither
empty nor a single dot. What is appended to a path goes to what stands behind its last slash.
-/

import ClusterFixture.Path
import Mathlib.Data.List.DropRight

set_option autoImplicit false

namespace ClusterFixture

/-! ## Pieces between cuts -/

namespace Text

/-- A cut in the middle of a list cuts it in two. -/
theorem splitAt_append_cut {cut : Char → Bool} {c : Char} (hc : cut c = true)
    (a b : List Char) : splitAt cut (a ++ c :: b) = splitAt cut a ++ splitAt cut b := by
  induction a with
  | nil => simp [splitAt, hc]
  | cons x a ih =>
    simp only [List.cons_append, splitAt, ih]
    split
    · rfl
    · rcases hpieces : splitAt cut a with _ | ⟨piece, more⟩
      · exact absurd hpieces (splitAt_ne_nil cut a)
      · rfl

theorem splitAt_of_not_cut {cut : Char → Bool} {a : List Char} (ha : ∀ c ∈ a, cut c = false) :
    splitAt cut a = [a] := by
  induction a with
  | nil => rfl
  | cons c a ih =>
    have hc : cut c = false := ha c (by simp)
    have hrest : splitAt cut a = [a] := ih fun d hd => ha d (by simp [hd])
    simp [splitAt, hc, hrest]

/-- No piece holds a cut. -/
theorem not_cut_of_mem_splitAt {cut : Char → Bool} {a piece : List Char}
    (h : piece ∈ splitAt cut a) : ∀ c ∈ piece, cut c = false := by
  induction a generalizing piece with
  | nil =>
    rw [splitAt, List.mem_singleton] at h
    simp [h]
  | cons x a ih =>
    rw [splitAt] at h
    split at h
    · rcases List.mem_cons.mp h with rfl | h
      · simp
      · exact ih h
    · next hx =>
      rcases hpieces : splitAt cut a with _ | ⟨first, more⟩
      · exact absurd hpieces (splitAt_ne_nil cut a)
      · rw [hpieces] at h ih
        rcases List.mem_cons.mp h with rfl | h
        · intro c hc
          rcases List.mem_cons.mp hc with rfl | hc
          · simpa using hx
          · exact ih (by simp) c hc
        · exact ih (by simp [h])

end Text

namespace Path

/-! ## Parts -/

/-- A text that can be a part of a path. -/
def IsPart (s : String) : Prop := s ≠ "" ∧ s ≠ "." ∧ '/' ∉ s.toList

theorem isPart_of_mem_parts {path part : String} (h : part ∈ parts path) : IsPart part := by
  rw [parts, List.mem_filter] at h
  obtain ⟨hsplit, hmeans⟩ := h
  rw [Text.split, List.mem_map] at hsplit
  obtain ⟨piece, hpiece, rfl⟩ := hsplit
  simp only [Bool.and_eq_true, Bool.not_eq_true', bne_iff_ne, ne_eq] at hmeans
  refine ⟨?_, hmeans.2, ?_⟩
  · intro hempty
    rw [hempty] at hmeans
    exact absurd hmeans.1 (by decide)
  · rw [String.toList_ofList]
    intro hslash
    have hcut := Text.not_cut_of_mem_splitAt hpiece '/' hslash
    exact absurd hcut (by decide)

@[simp] theorem parts_empty : parts "" = [] := by decide

/-- A slash between two texts keeps their parts apart. -/
theorem parts_append_slash (a b : String) : parts (a ++ "/" ++ b) = parts a ++ parts b := by
  have htext : (a ++ "/" ++ b).toList = a.toList ++ '/' :: b.toList := by simp
  rw [parts, Text.split, htext, Text.splitAt_append_cut (by decide), List.map_append,
    List.filter_append]
  rfl

/-- A slash at the end adds no part. -/
theorem parts_append_end_slash (a : String) : parts (a ++ "/") = parts a := by
  have happend := parts_append_slash a ""
  rwa [String.append_empty, parts_empty, List.append_nil] at happend

theorem parts_of_isPart {s : String} (h : IsPart s) : parts s = [s] := by
  obtain ⟨hempty, hdot, hslash⟩ := h
  have hsplit : Text.split s '/' = [s] := by
    rw [Text.split, Text.splitAt_of_not_cut]
    · simp
    · intro c hc
      have hne : c ≠ '/' := fun hcs => hslash (hcs ▸ hc)
      simpa using hne
  rw [parts, hsplit]
  simp [hempty, hdot]

/-- Parts that are joined by slashes come back. -/
theorem parts_joinWith {ps : List String} (h : ∀ p ∈ ps, IsPart p) :
    parts (Text.joinWith "/" ps) = ps := by
  induction ps with
  | nil => simp [Text.joinWith]
  | cons p rest ih =>
    have hp : IsPart p := h p (by simp)
    have hrest := ih fun q hq => h q (by simp [hq])
    cases rest with
    | nil => exact parts_of_isPart hp
    | cons q more =>
      have hjoin : Text.joinWith "/" (p :: q :: more) =
          p ++ "/" ++ Text.joinWith "/" (q :: more) := rfl
      rw [hjoin, parts_append_slash, parts_of_isPart hp, hrest]
      rfl

/-! ## Paths from the root -/

theorem isAbsolute_eq (s : String) : isAbsolute s = (s.toList.head? == some '/') := by
  rw [isAbsolute, Text.startsWith]
  rcases s.toList with _ | ⟨c, rest⟩
  · rfl
  · have hslash : "/".toList = ['/'] := by decide
    rw [hslash]
    simp [List.isPrefixOf, BEq.comm]

theorem isAbsolute_append {a : String} (ha : a ≠ "") (b : String) :
    isAbsolute (a ++ b) = isAbsolute a := by
  rw [isAbsolute_eq, isAbsolute_eq, String.toList_append]
  rcases hlist : a.toList with _ | ⟨c, rest⟩
  · exact absurd (String.toList_eq_nil_iff.mp hlist) ha
  · rfl

/-- A part does not start at the root. -/
theorem isAbsolute_of_isPart {s : String} (h : IsPart s) : isAbsolute s = false := by
  rw [isAbsolute_eq]
  rcases hlist : s.toList with _ | ⟨c, rest⟩
  · rfl
  · have hne : c ≠ '/' := by
      rintro rfl
      exact h.2.2 (by rw [hlist]; simp)
    simpa using hne

theorem isAbsolute_joinWith {ps : List String} (h : ∀ p ∈ ps, IsPart p) :
    isAbsolute (Text.joinWith "/" ps) = false := by
  cases ps with
  | nil => decide
  | cons p rest =>
    have hp : IsPart p := h p (by simp)
    cases rest with
    | nil => exact isAbsolute_of_isPart hp
    | cons q more =>
      have hjoin : Text.joinWith "/" (p :: q :: more) =
          p ++ ("/" ++ Text.joinWith "/" (q :: more)) := String.append_assoc ..
      rw [hjoin, isAbsolute_append hp.1, isAbsolute_of_isPart hp]

/-! ## Before and behind the last slash -/

/-- What a path has up to its last slash, with that slash. -/
def leading (path : String) : String := String.ofList (path.toList.rdropWhile (· != '/'))

/-- What a path has behind its last slash. -/
def trailing (path : String) : String := String.ofList (path.toList.rtakeWhile (· != '/'))

theorem leading_append_trailing (path : String) : leading path ++ trailing path = path := by
  rw [leading, trailing, ← String.ofList_append, List.rdropWhile_append_rtakeWhile,
    String.ofList_toList]

theorem not_slash_mem_trailing (path : String) : '/' ∉ (trailing path).toList := by
  rw [trailing, String.toList_ofList]
  intro hslash
  exact absurd (List.mem_rtakeWhile_imp hslash) (by decide)

/-- Without a slash there is nothing before the last one. -/
theorem trailing_of_not_slash {path : String} (h : '/' ∉ path.toList) :
    leading path = "" ∧ trailing path = path := by
  have hall : ∀ c ∈ path.toList, (c != '/') = true := by
    intro c hc
    rw [bne_iff_ne]
    rintro rfl
    exact h hc
  constructor
  · rw [leading, List.rdropWhile_eq_nil_iff.mpr hall, String.ofList_nil]
  · rw [trailing, List.rtakeWhile_eq_self_iff.mpr hall, String.ofList_toList]

theorem leading_eq (path : String) : leading path = "" ∨ ∃ dir, leading path = dir ++ "/" := by
  by_cases hnone : path.toList.rdropWhile (· != '/') = []
  · left
    rw [leading, hnone, String.ofList_nil]
  · right
    -- What is left after dropping from the end stops at a slash.
    have hlast := List.rdropWhile_last_not (· != '/') path.toList hnone
    rw [Bool.not_eq_true, bne_eq_false_iff_eq] at hlast
    have hsplit := List.dropLast_concat_getLast hnone
    rw [hlast] at hsplit
    refine ⟨String.ofList (path.toList.rdropWhile (· != '/')).dropLast, ?_⟩
    have hslash : "/" = String.ofList ['/'] := by decide
    rw [hslash, ← String.ofList_append, hsplit, leading]

/-- A text that is appended to a path ends up in its last part. -/
theorem parts_append {path text : String} (h : IsPart (trailing path ++ text)) :
    parts (path ++ text) = parts (leading path) ++ [trailing path ++ text] := by
  have hpath : path ++ text = leading path ++ (trailing path ++ text) := by
    rw [← String.append_assoc, leading_append_trailing]
  rw [hpath]
  rcases leading_eq path with hleading | ⟨dir, hleading⟩
  · rw [hleading, String.empty_append, parts_of_isPart h, parts_empty, List.nil_append]
  · rw [hleading, parts_append_slash, parts_of_isPart h, parts_append_end_slash]

/-! ## Joining -/

theorem exists_of_endsWith_slash {dir : String} (h : Text.endsWith dir "/" = true) :
    ∃ d, dir = d ++ "/" := by
  rw [Text.endsWith, List.isSuffixOf_iff_suffix] at h
  obtain ⟨d, hd⟩ := h
  refine ⟨String.ofList d, ?_⟩
  rw [← String.toList_inj, String.toList_append, String.toList_ofList, hd]

/-- The path of a name below a directory has the parts of both. -/
theorem parts_join (dir name : String) (hname : isAbsolute name = false) :
    parts (join dir name) = parts dir ++ parts name := by
  rw [join, hname]
  simp only [Bool.false_eq_true, if_false]
  -- A slash is put between the two unless the directory is empty or has one at its end already.
  by_cases hdir : dir = ""
  · subst hdir
    simp
  · by_cases hends : Text.endsWith dir "/" = true
    · obtain ⟨d, rfl⟩ := exists_of_endsWith_slash hends
      rw [if_pos (by simp [hends]), parts_append_slash, parts_append_end_slash]
    · rw [if_neg (by simp [hdir, hends]), parts_append_slash]

theorem isAbsolute_join (dir name : String) (hname : isAbsolute name = false) :
    isAbsolute (join dir name) = isAbsolute dir := by
  rw [join, hname]
  simp only [Bool.false_eq_true, if_false]
  by_cases hdir : dir = ""
  · subst hdir
    have hempty : isAbsolute "" = false := by decide
    simpa [hempty] using hname
  · split
    · exact isAbsolute_append hdir name
    · rw [String.append_assoc]
      exact isAbsolute_append hdir _

/-! ## Making a path absolute -/

/-- The parts of a path with single slashes between them. -/
def plainBody (path : String) : String := Text.joinWith "/" (parts path)

@[simp] theorem parts_plainBody (path : String) : parts (plainBody path) = parts path :=
  parts_joinWith fun _ hp => isPart_of_mem_parts hp

@[simp] theorem isAbsolute_plainBody (path : String) : isAbsolute (plainBody path) = false :=
  isAbsolute_joinWith fun _ hp => isPart_of_mem_parts hp

/-- The four forms of an absolute path, but for a slash at its end. -/
theorem absolute_eq_ok {cwd path full : String} (h : absolute cwd path = .ok full) :
    ∃ inner, (full = inner ∨ full = join inner "") ∧
      (isAbsolute path = true ∧ (inner = "/" ++ plainBody path ∨ inner = "//" ++ plainBody path) ∨
        isAbsolute path = false ∧
          (plainBody path = "" ∧ inner = cwd ∨ inner = join cwd (plainBody path))) := by
  rw [absolute] at h
  split at h
  · cases h
  · simp only [Except.ok.injEq] at h
    refine ⟨if isAbsolute path = true then
        (if (Text.startsWith path "//" && !Text.startsWith path "///") = true then "//" else "/")
          ++ plainBody path
      else if (plainBody path).isEmpty = true then cwd
      else join cwd (plainBody path), ?_, ?_⟩
    · -- A slash at the end of the path is kept by joining nothing.
      rw [← h]
      split
      · exact .inr rfl
      · exact .inl rfl
    · by_cases habs : isAbsolute path = true
      · rw [if_pos habs]
        split
        · exact .inl ⟨habs, .inr rfl⟩
        · exact .inl ⟨habs, .inl rfl⟩
      · rw [if_neg habs]
        split
        · next hempty => exact .inr ⟨by simpa using habs, .inl ⟨String.isEmpty_iff.mp hempty, rfl⟩⟩
        · exact .inr ⟨by simpa using habs, .inr rfl⟩

theorem parts_join_empty (s : String) : parts (join s "") = parts s := by
  rw [parts_join s "" (by decide), parts_empty, List.append_nil]

theorem parts_root_append (s : String) : parts ("/" ++ s) = parts s := by
  have happend := parts_append_slash "" s
  rwa [String.empty_append, parts_empty, List.nil_append] at happend

/-- An absolute path stands for itself, and any other one stands behind the working directory. -/
theorem parts_absolute {cwd path full : String} (h : absolute cwd path = .ok full) :
    parts full = (if isAbsolute path then [] else parts cwd) ++ parts path := by
  obtain ⟨inner, hfull, hinner⟩ := absolute_eq_ok h
  have hparts : parts full = parts inner := by
    rcases hfull with rfl | rfl
    · rfl
    · exact parts_join_empty inner
  rw [hparts]
  rcases hinner with ⟨habs, rfl | rfl⟩ | ⟨habs, ⟨hempty, rfl⟩ | rfl⟩
  · rw [habs, if_pos rfl, parts_root_append, parts_plainBody, List.nil_append]
  · -- Two slashes at the start are one after the other.
    have htwo : "//" ++ plainBody path = "/" ++ ("/" ++ plainBody path) := by
      rw [← String.append_assoc]
      rfl
    rw [habs, if_pos rfl, htwo, parts_root_append, parts_root_append, parts_plainBody,
      List.nil_append]
  · -- A path of dots alone stands for the working directory.
    have hnone : parts path = [] := by rw [← parts_plainBody, hempty, parts_empty]
    rw [habs, hnone, List.append_nil]
    rfl
  · rw [habs, parts_join _ _ (isAbsolute_plainBody path), parts_plainBody]
    rfl

theorem isAbsolute_absolute {cwd path full : String} (h : absolute cwd path = .ok full) :
    isAbsolute full = (isAbsolute path || isAbsolute cwd) := by
  obtain ⟨inner, hfull, hinner⟩ := absolute_eq_ok h
  have hsame : isAbsolute full = isAbsolute inner := by
    rcases hfull with rfl | rfl
    · rfl
    · exact isAbsolute_join inner "" (by decide)
  rw [hsame]
  rcases hinner with ⟨habs, rfl | rfl⟩ | ⟨habs, ⟨_, rfl⟩ | rfl⟩
  · rw [habs, isAbsolute_append (by decide), Bool.true_or]
    decide
  · rw [habs, isAbsolute_append (by decide), Bool.true_or]
    decide
  · rw [habs, Bool.false_or]
  · rw [habs, isAbsolute_join _ _ (isAbsolute_plainBody path), Bool.false_or]

end Path

end ClusterFixture
