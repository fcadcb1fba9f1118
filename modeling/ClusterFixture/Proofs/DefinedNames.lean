/-
How plain names are read back from statements that create and drop.

A plain name is read in small letters, whatever follows it, as long as what follows ends the word.
So a schema is created and dropped under the folded name, and a table is created under the folded
names that it is spelled with. A name is its folded form exactly when it has no capital letter.
-/

import ClusterFixture.Proofs.Spelling
import ClusterFixture.Sql.Definition

set_option autoImplicit false

namespace ClusterFixture.Sql

/-! ## Plain names -/

theorem toList_folded (name : String) : (folded name).toList = name.toList.map Char.toLower := by
  simp [folded]

/-- A name is read as it is spelled exactly when it has no capital letter. -/
theorem folded_eq_self_iff (name : String) :
    folded name = name ↔ ∀ c ∈ name.toList, c.isUpper = false := by
  rw [← String.toList_inj, toList_folded]
  induction name.toList with
  | nil => simp
  | cons c rest ih =>
    rw [List.map_cons, List.cons.injEq, toLower_eq_self_iff, ih, List.forall_mem_cons]

/-- No letter is folded to a dot. -/
theorem toLower_ne_dot (c : Char) (hc : c ≠ '.') : c.toLower ≠ '.' := by
  unfold Char.toLower
  split
  · next hupper =>
    intro h
    have hval : c.val + ('a'.val - 'A'.val) = '.'.val := congrArg Char.val h
    have hlow : 65 ≤ c.val.toNat := UInt32.le_iff_toNat_le.mp hupper.1
    have hhigh : c.val.toNat ≤ 90 := UInt32.le_iff_toNat_le.mp hupper.2
    have hsum : (c.val.toNat + 32) % 2 ^ 32 = 46 := congrArg UInt32.toNat hval
    omega
  · exact hc

theorem isWord_iff (cs : List Char) :
    isWord cs = true ↔ cs.head?.any startsWord = true ∧ ∀ c ∈ cs, continuesWord c = true := by
  rw [isWord, Bool.and_eq_true, List.all_eq_true]

/-- A word is read in small letters, and whole if what follows ends it. -/
theorem readName_word {refused : List String} {name : String} {rest : List Char}
    (hname : isWord name.toList = true) (hrefused : folded name ∉ refused)
    (hrest : EndsWord rest) :
    readName refused (name.toList ++ rest) = some (folded name, rest) := by
  obtain ⟨hstart, hall⟩ := (isWord_iff _).mp hname
  have htake : name.toList.takeWhile continuesWord = name.toList :=
    List.takeWhile_eq_self_iff.mpr hall
  have hdrop : name.toList.dropWhile continuesWord = [] := by
    rw [List.dropWhile_eq_nil_iff]
    exact hall
  have hread : readWord (name.toList ++ rest) = some (name.toList.map Char.toLower, rest) := by
    rw [readWord_append _ hrest, if_pos hstart, htake, hdrop, List.nil_append]
  -- A word starts with no space and with no quote, so it is read as a word.
  have hspace : (name.toList ++ rest).dropWhile isSpace = name.toList ++ rest := by
    rcases hchars : name.toList with _ | ⟨c, more⟩
    · rw [hchars] at hstart
      cases hstart
    · have hc : isSpace c = false := isSpace_of_continuesWord (hall c (by simp [hchars]))
      simp [hc]
  unfold folded at hrefused ⊢
  rw [readName_eq_some_of_word, hspace]
  · exact ⟨hread, hrefused⟩
  · intro inner hquote
    rw [hspace] at hquote
    rcases hchars : name.toList with _ | ⟨c, more⟩
    · rw [hchars] at hstart
      cases hstart
    · rw [hchars] at hquote hstart
      have hfirst : c = '"' := (List.cons.inj hquote).1
      have hquoted : startsWord '"' = true := by simpa [hfirst] using hstart
      exact absurd hquoted (by decide)

theorem IsPlainName.readName {name : String} (h : IsPlainName name) {rest : List Char}
    (hrest : EndsWord rest) :
    readName refusedWords (name.toList ++ rest) = some (folded name, rest) :=
  readName_word h.word h.allowed hrest

theorem isPrefixOf?_append (front rest : List Char) :
    front.isPrefixOf? (front ++ rest) = some rest := by
  induction front with
  | nil => rfl
  | cons c more ih =>
    rw [List.cons_append, List.isPrefixOf?, beq_self_eq_true, if_pos rfl, ih]

/-! ## Schemas -/

/-- A schema of a plain name is created under its folded name. -/
theorem createdSchema?_createSchema {schema : String} (h : IsPlainName schema) :
    createdSchema? (Statement.createSchema schema) = some (folded schema) := by
  have htext : (Statement.createSchema schema).toList =
      "create schema ".toList ++ (schema.toList ++ []) := by
    rw [Statement.createSchema, String.toList_append, List.append_nil]
  have hread : readName refusedWords (schema.toList ++ []) = some (folded schema, []) :=
    h.readName rfl
  rw [createdSchema?, htext]
  refine Option.bind_eq_some_iff.mpr ⟨_, isPrefixOf?_append _ _, ?_⟩
  refine Option.bind_eq_some_iff.mpr ⟨_, hread, ?_⟩
  exact if_pos (by decide)

/-- It is dropped under this name as well. -/
theorem droppedSchema?_dropSchema {schema : String} (h : IsPlainName schema) :
    droppedSchema? (Statement.dropSchema schema) = some (folded schema) := by
  have htext : (Statement.dropSchema schema).toList =
      "drop schema ".toList ++ (schema.toList ++ " cascade".toList) := by
    rw [Statement.dropSchema, String.toList_append, String.toList_append, List.append_assoc]
  have hends : EndsWord " cascade".toList := endsWord_cons (by decide) _
  have hword : readWord (" cascade".toList.dropWhile isSpace) = some ("cascade".toList, []) := by
    decide
  rw [droppedSchema?, htext]
  refine Option.bind_eq_some_iff.mpr ⟨_, isPrefixOf?_append _ _, ?_⟩
  refine Option.bind_eq_some_iff.mpr ⟨_, h.readName hends, ?_⟩
  refine Option.bind_eq_some_iff.mpr ⟨_, hword, ?_⟩
  exact if_pos (by decide)

/-! ## Tables -/

namespace Spelling

/-- A new table is read as the one that its spelling means, in front of any space. -/
theorem readNewTable_text (home : String) {s : Spelling} (h : s.IsPlain) (rest : List Char)
    (hrest : readDot (' ' :: rest) = none) :
    readNewTable home (s.text.toList ++ ' ' :: rest) = some (s.meant home) := by
  have hspace : EndsWord (' ' :: rest) := endsWord_cons (by decide) _
  rcases s with ⟨_ | schema, name⟩
  · -- The space ends the name, and no dot follows it.
    simp only [readNewTable, text, meant, bind, Option.bind_some, h.name.readName hspace, hrest]
    rfl
  · have htext : (schema ++ "." ++ name).toList ++ ' ' :: rest =
        schema.toList ++ '.' :: (name.toList ++ ' ' :: rest) := by
      simp
    have hdot : EndsWord ('.' :: (name.toList ++ ' ' :: rest)) := endsWord_cons (by decide) _
    have hname : readName [] (name.toList ++ ' ' :: rest) = some (folded name, ' ' :: rest) :=
      readName_word h.name.word (by simp) hspace
    have hafter : readDot ('.' :: (name.toList ++ ' ' :: rest)) =
        some (name.toList ++ ' ' :: rest) := rfl
    simp only [readNewTable, text, htext, bind, Option.bind_some,
      (h.schema schema rfl).readName hdot, hafter, hname, hrest]
    rfl

/-- The statement with very many partitions creates the table that the spelling means. -/
theorem createdTable?_createManyPartitions (home : String) {s : Spelling} (h : s.IsPlain)
    (storage : Storage) (partitions : Option Nat) :
    createdTable? home (Statement.createManyPartitions storage s.text partitions) =
      some (s.meant home) := by
  obtain ⟨rest, htext⟩ : ∃ rest, (Statement.createManyPartitions storage s.text
      partitions).toList = "create table ".toList ++ (s.text.toList ++ ' ' :: '(' :: rest) := by
    unfold Statement.createManyPartitions
    cases partitions <;> exact ⟨_, by simp [String.toList_append, List.append_assoc]; rfl⟩
  rw [createdTable?, htext, isPrefixOf?_append]
  simp only [bind, Option.bind_some]
  exact readNewTable_text home h ('(' :: rest) rfl

/-- A folded name holds no dot, so no table is called by a spelling with a schema. -/
theorem folded_ne_text {s : Spelling} {name : String} (hname : IsPlainName name) {schema : String}
    (hschema : s.schema = some schema) : folded name ≠ s.text := by
  intro h
  have hdot : '.' ∈ (folded name).toList := by
    rw [h]
    simp [text, hschema]
  rw [toList_folded, List.mem_map] at hdot
  obtain ⟨c, hc, hlower⟩ := hdot
  have hword := ((isWord_iff _).mp hname.word).2 c hc
  refine toLower_ne_dot c ?_ hlower
  intro hdot
  rw [hdot] at hword
  exact absurd hword (by decide)

end Spelling

end ClusterFixture.Sql
