/-
How the name of a table is read back from statements.

A name between quotes is read as it was written, whatever it holds. A name without quotes is read as
itself only when it is a word in small letters. No other name is read as itself by chance, not even
one that starts with quotes of its own: the text of a name has no more quotes and blanks at its
front than the name, and a name that is read from quotes has fewer than its text.
-/

import ClusterFixture.Sql.Relation
import ClusterFixture.Sql.Statement
import Mathlib.Data.List.DropRight

set_option autoImplicit false

namespace ClusterFixture.Sql

/-! ## Characters -/

theorem isUpper_iff (c : Char) : c.isUpper = true ↔ 'A'.val ≤ c.val ∧ c.val ≤ 'Z'.val :=
  decide_eq_true_iff

theorem isLower_iff (c : Char) : c.isLower = true ↔ 'a'.val ≤ c.val ∧ c.val ≤ 'z'.val := by
  have hlower : c.isLower = (decide ('a'.val ≤ c.val) && decide (c.val ≤ 'z'.val)) := rfl
  rw [hlower, Bool.and_eq_true, decide_eq_true_iff, decide_eq_true_iff]

theorem isAlpha_of_isLower {c : Char} (h : c.isLower = true) : c.isAlpha = true := by
  have halpha : c.isAlpha = (c.isUpper || c.isLower) := rfl
  rw [halpha, h, Bool.or_true]

theorem toLower_eq_self_iff (c : Char) : c.toLower = c ↔ c.isUpper = false := by
  have hself : c.val + ('a'.val - 'A'.val) ≠ c.val := by simp
  rw [← Bool.not_eq_true, isUpper_iff]
  unfold Char.toLower
  split
  · next hupper =>
    exact iff_of_false (fun h => hself (congrArg Char.val h)) (not_not_intro hupper)
  · next hupper => exact iff_of_true rfl hupper

theorem isBlank_of_isSpace {c : Char} (h : isSpace c = true) : Text.isBlank c = true := by
  have hall : spaces.all Text.isBlank = true := by decide
  exact List.all_eq_true.mp hall c (List.contains_iff_mem.mp h)

/-- No space goes on in a word. -/
theorem isSpace_of_continuesWord {c : Char} (h : continuesWord c = true) : isSpace c = false := by
  have hall : (spaces.all fun d => !continuesWord d) = true := by decide
  by_contra hspace
  rw [Bool.not_eq_false] at hspace
  have hnone := List.all_eq_true.mp hall c (List.contains_iff_mem.mp hspace)
  rw [h] at hnone
  cases hnone

theorem continuesWord_of_startsWord {c : Char} (h : startsWord c = true) :
    continuesWord c = true := by
  unfold continuesWord
  rw [h, Bool.true_or, Bool.true_or]

/-! ## Names without quotes -/

/-- Whether a name is read as itself without quotes: whether it is a word in small letters. -/
def isBareWord (name : List Char) : Bool :=
  name.head?.any startsWord && name.all fun c => continuesWord c && !c.isUpper

theorem isBareWord_iff (name : List Char) :
    isBareWord name = true ↔
      name.head?.any startsWord = true ∧ name.takeWhile continuesWord = name ∧
        name.map Char.toLower = name := by
  have hmap : name.map Char.toLower = name ↔ ∀ c ∈ name, c.isUpper = false := by
    induction name with
    | nil => simp
    | cons c rest ih =>
      rw [List.map_cons, List.cons.injEq, toLower_eq_self_iff, ih, List.forall_mem_cons]
  rw [List.takeWhile_eq_self_iff, hmap, isBareWord, Bool.and_eq_true, List.all_eq_true,
    ← forall₂_and]
  simp only [Bool.and_eq_true, Bool.not_eq_true']

/-- A word ends in front of this text. -/
def EndsWord (rest : List Char) : Prop := rest.head?.any continuesWord = false

theorem endsWord_cons {c : Char} (hc : continuesWord c = false) (rest : List Char) :
    EndsWord (c :: rest) := by
  simpa [EndsWord] using hc

theorem EndsWord.takeWhile {rest : List Char} (h : EndsWord rest) :
    rest.takeWhile continuesWord = [] := by
  unfold EndsWord at h
  cases rest with
  | nil => rfl
  | cons c more =>
    have hc : continuesWord c = false := by simpa using h
    simp [hc]

theorem EndsWord.dropWhile {rest : List Char} (h : EndsWord rest) :
    rest.dropWhile continuesWord = rest := by
  have hall := List.takeWhile_append_dropWhile (p := continuesWord) (l := rest)
  rw [h.takeWhile, List.nil_append] at hall
  exact hall

theorem EndsWord.head {rest : List Char} (h : EndsWord rest) :
    rest.head?.any startsWord = false := by
  unfold EndsWord at h
  cases rest with
  | nil => rfl
  | cons c more =>
    have hc : continuesWord c = false := by simpa using h
    by_contra hstart
    have hword : continuesWord c = true := continuesWord_of_startsWord (by simpa using hstart)
    rw [hc] at hword
    cases hword

/-- A word is read from what stands before its end. -/
theorem readWord_append (cs : List Char) {rest : List Char} (hrest : EndsWord rest) :
    readWord (cs ++ rest) =
      if cs.head?.any startsWord then
        some ((cs.takeWhile continuesWord).map Char.toLower, cs.dropWhile continuesWord ++ rest)
      else none := by
  have htake : (cs ++ rest).takeWhile continuesWord = cs.takeWhile continuesWord := by
    rw [List.takeWhile_append, hrest.takeWhile, List.append_nil]
    split
    · next hlength => exact ((List.takeWhile_sublist _).eq_of_length hlength).symm
    · rfl
  have hdrop : (cs ++ rest).dropWhile continuesWord = cs.dropWhile continuesWord ++ rest := by
    rw [List.dropWhile_append, hrest.dropWhile]
    split
    · next hempty => rw [List.isEmpty_iff.mp hempty, List.nil_append]
    · rfl
  have hhead : (cs ++ rest).head?.any startsWord = cs.head?.any startsWord := by
    cases cs with
    | nil => exact hrest.head
    | cons c more => rfl
  rw [readWord, htake, hdrop, hhead]

/-- The word of a shortened name is the name only if nothing is cut off and the name is bare. -/
theorem readWord_eq_some_iff {cs name rest after : List Char} (hsub : cs.Sublist name)
    (hrest : EndsWord rest) :
    readWord (cs ++ rest) = some (name, after) ↔
      cs = name ∧ isBareWord name = true ∧ after = rest := by
  rw [readWord_append cs hrest, isBareWord_iff]
  constructor
  · intro h
    split at h
    · next hstart =>
      obtain ⟨hword, hafter⟩ := Prod.mk.inj (Option.some.inj h)
      -- Neither cutting nor small letters change the number of characters that are left.
      have hlength : (cs.takeWhile continuesWord).length = name.length := by
        rw [← hword, List.length_map]
      have htake : cs.takeWhile continuesWord = name :=
        ((List.takeWhile_sublist _).trans hsub).eq_of_length hlength
      have hwhole : cs = name := hsub.antisymm (htake ▸ List.takeWhile_sublist _)
      subst hwhole
      rw [htake] at hword
      have hdrop : cs.dropWhile continuesWord = [] := by
        rw [List.dropWhile_eq_nil_iff]
        exact List.takeWhile_eq_self_iff.mp htake
      rw [hdrop, List.nil_append] at hafter
      exact ⟨rfl, ⟨hstart, htake, hword⟩, hafter.symm⟩
    · cases h
  · rintro ⟨rfl, ⟨hstart, htake, hmap⟩, rfl⟩
    have hdrop : cs.dropWhile continuesWord = [] := by
      rw [List.dropWhile_eq_nil_iff]
      exact List.takeWhile_eq_self_iff.mp htake
    rw [if_pos hstart, htake, hmap, hdrop, List.nil_append]

/-! ## Names between quotes -/

theorem readQuoted_doubling (name : List Char) {rest : List Char} (hrest : rest.head? ≠ some '"') :
    readQuoted (doubling '"' name ++ '"' :: rest) = some (name, rest) := by
  induction name with
  | nil =>
    cases rest with
    | nil => rfl
    | cons c more =>
      have hc : c ≠ '"' := by simpa using hrest
      simp only [doubling, List.nil_append]
      rw [readQuoted]
      rintro d hd
      exact hc (List.cons.inj hd).1
  | cons c more ih =>
    by_cases hc : c = '"'
    · subst hc
      simp only [doubling, if_true, List.cons_append]
      rw [readQuoted, ih]
      rfl
    · simp only [doubling, hc, if_false, List.cons_append]
      rw [readQuoted, ih]
      · rfl
      · exact fun _ hquote _ => hc hquote
      · exact hc

/-- What is read between quotes stands there with its quotes doubled. -/
theorem eq_of_readQuoted {cs name rest : List Char} (h : readQuoted cs = some (name, rest)) :
    cs = doubling '"' name ++ '"' :: rest := by
  -- The cases are the reader's: no character, two quotes, one quote, any other character.
  induction cs using readQuoted.induct generalizing name with
  | case1 => cases h
  | case2 more ih =>
    rw [readQuoted, Option.map_eq_some_iff] at h
    obtain ⟨⟨inner, after⟩, hmore, hname⟩ := h
    cases hname
    rw [ih hmore]
    simp [doubling]
  | case3 more hmore =>
    rw [readQuoted] at h
    · cases h
      rfl
    · exact hmore
  | case4 c more hmore hc ih =>
    rw [readQuoted, Option.map_eq_some_iff] at h
    · obtain ⟨⟨inner, after⟩, hinner, hname⟩ := h
      cases hname
      have hquote : c ≠ '"' := hc
      rw [ih hinner]
      simp [doubling, hquote]
    · exact hmore
    · exact hc

/-! ## The front of a text -/

/-- The number of quotes and blanks at the front of a text. -/
def lead : List Char → Nat
  | [] => 0
  | c :: rest => if c = '"' ∨ Text.isBlank c = true then lead rest + 1 else 0

theorem lead_cons {c : Char} (hc : ¬(c = '"' ∨ Text.isBlank c = true)) (rest : List Char) :
    lead (c :: rest) = 0 := by
  simp only [lead, hc, if_false]

theorem lead_append_le {a b : List Char} (h : lead a ≤ lead b) (front : List Char) :
    lead (front ++ a) ≤ lead (front ++ b) := by
  induction front with
  | nil => exact h
  | cons c more ih =>
    simp only [List.cons_append, lead]
    split
    · omega
    · omega

theorem lead_le_append_of_blank {blanks : List Char}
    (hblanks : ∀ c ∈ blanks, Text.isBlank c = true) (rest : List Char) :
    lead rest ≤ lead (blanks ++ rest) := by
  induction blanks with
  | nil => exact Nat.le_refl _
  | cons c more ih =>
    have hmore := ih fun d hd => hblanks d (by simp [hd])
    simp only [List.cons_append, lead, hblanks c (by simp), or_true, if_true]
    omega

/-- Taking blanks away from the front makes no quote or blank come to the front. -/
theorem lead_dropWhile_append_le {p : Char → Bool} (hp : ∀ c, p c = true → Text.isBlank c = true)
    (cs rest : List Char) : lead (cs.dropWhile p ++ rest) ≤ lead (cs ++ rest) := by
  have hblanks : ∀ c ∈ cs.takeWhile p, Text.isBlank c = true := fun c hc =>
    hp c (List.mem_takeWhile_imp hc)
  have hle := lead_le_append_of_blank hblanks (cs.dropWhile p ++ rest)
  rw [← List.append_assoc, List.takeWhile_append_dropWhile] at hle
  exact hle

theorem lead_trimStart_append_le (cs rest : List Char) :
    lead (Text.trimStartChars cs ++ rest) ≤ lead (cs ++ rest) :=
  lead_dropWhile_append_le (fun _ hc => hc) cs rest

theorem lead_trimEnd_append_le (cs rest : List Char) :
    lead (Text.trimEndChars cs ++ rest) ≤ lead (cs ++ rest) := by
  have hsplit : cs = Text.trimEndChars cs ++ (cs.reverse.takeWhile Text.isBlank).reverse := by
    rw [Text.trimEndChars, ← List.reverse_append, List.takeWhile_append_dropWhile,
      List.reverse_reverse]
  have hblanks : ∀ c ∈ (cs.reverse.takeWhile Text.isBlank).reverse, Text.isBlank c = true := by
    intro c hc
    exact List.mem_takeWhile_imp (List.mem_reverse.mp hc)
  conv_rhs => rw [hsplit, List.append_assoc]
  exact lead_append_le (lead_le_append_of_blank hblanks rest) _

/-- Behind the opening quote of a name, as many quotes and blanks follow as the name itself starts
with, and the closing quote stands for one that may come behind the name. -/
theorem lead_append_le_doubling (name : List Char) {rest : List Char} (hrest : lead rest ≤ 1)
    (after : List Char) : lead (name ++ rest) ≤ lead (doubling '"' name ++ '"' :: after) := by
  induction name with
  | nil =>
    simp only [doubling, List.nil_append, lead, true_or, if_true]
    omega
  | cons c more ih =>
    by_cases hc : c = '"'
    · -- A quote of the name counts once on the left and twice on the right.
      subst hc
      simp only [doubling, List.cons_append, lead, true_or, if_true]
      omega
    · simp only [doubling, hc, List.cons_append, lead, if_false, false_or]
      split
      · omega
      · exact Nat.le_refl _

/-! ## Reading a name back -/

theorem readName_eq_some_of_quote {refused : List String} {cs name rest after : List Char}
    (h : cs.dropWhile isSpace = '"' :: rest) :
    readName refused cs = some (String.ofList name, after) ↔
      readQuoted rest = some (name, after) ∧ name ≠ [] := by
  rw [readName, h]
  simp only [bind, Option.bind_eq_some_iff, Prod.exists]
  constructor
  · rintro ⟨inner, more, hread, hname⟩
    split at hname
    · cases hname
    · next hinner =>
      obtain ⟨hsame, rfl⟩ := Prod.mk.inj (Option.some.inj hname)
      rw [String.ofList_injective hsame] at hread hinner
      exact ⟨hread, by simpa using hinner⟩
  · rintro ⟨hread, hname⟩
    exact ⟨name, after, hread, by simp [hname]⟩

theorem readName_eq_some_of_word {refused : List String} {cs name after : List Char}
    (h : ∀ rest, cs.dropWhile isSpace ≠ '"' :: rest) :
    readName refused cs = some (String.ofList name, after) ↔
      readWord (cs.dropWhile isSpace) = some (name, after) ∧ String.ofList name ∉ refused := by
  unfold readName
  split
  · next rest hquote => exact absurd hquote (h rest)
  · simp only [bind, Option.bind_eq_some_iff, Prod.exists]
    constructor
    · rintro ⟨word, more, hread, hname⟩
      split at hname
      · cases hname
      · next hword =>
        obtain ⟨hsame, rfl⟩ := Prod.mk.inj (Option.some.inj hname)
        rw [String.ofList_injective hsame] at hread hword
        exact ⟨hread, by simpa using hword⟩
    · rintro ⟨hread, hname⟩
      exact ⟨name, after, hread, by simp [hname]⟩

/-- A word in small letters is read as itself. -/
theorem readName_bare {refused : List String} {name rest : List Char}
    (hname : isBareWord name = true) (hrefused : String.ofList name ∉ refused)
    (hrest : EndsWord rest) :
    readName refused (name ++ rest) = some (String.ofList name, rest) := by
  have hread : readWord (name ++ rest) = some (name, rest) :=
    (readWord_eq_some_iff (List.Sublist.refl name) hrest).mpr ⟨rfl, hname, rfl⟩
  have hstart : name.head?.any startsWord = true := ((isBareWord_iff name).mp hname).1
  cases name with
  | nil => cases hstart
  | cons c more =>
    have hc : startsWord c = true := by simpa using hstart
    have hspace : isSpace c = false := isSpace_of_continuesWord (continuesWord_of_startsWord hc)
    have hdrop : (c :: more ++ rest).dropWhile isSpace = c :: more ++ rest := by
      simp [hspace]
    rw [readName_eq_some_of_word, hdrop]
    · exact ⟨hread, hrefused⟩
    · intro inner hquote
      rw [hdrop] at hquote
      have hfirst : c = '"' := (List.cons.inj hquote).1
      rw [hfirst] at hc
      exact absurd hc (by decide)

/-- A name is never read from quotes at the front of its own text. -/
theorem readName_ne_quoted {text name rest more after : List Char}
    (hfront : lead (text ++ rest) ≤ lead (name ++ rest)) (hrest : lead rest ≤ 1)
    (hquote : (text ++ rest).dropWhile isSpace = '"' :: more) :
    readQuoted more ≠ some (name, after) := by
  intro hread
  have hmore := eq_of_readQuoted hread
  have hle : lead ('"' :: more) ≤ lead (name ++ rest) := by
    have hskip := lead_dropWhile_append_le (fun _ => isBlank_of_isSpace) (text ++ rest) []
    rw [List.append_nil, List.append_nil, hquote] at hskip
    exact hskip.trans hfront
  have hinner := lead_append_le_doubling name hrest after
  simp only [lead, true_or, if_true] at hle
  rw [← hmore] at hinner
  omega

/-- What stands of a name in front of a text is read as the name exactly when it is the whole name,
which needs no quotes. -/
theorem readName_eq_some_iff {refused : List String} {text name rest after : List Char}
    (hsub : text.Sublist name) (hfront : lead (text ++ rest) ≤ lead (name ++ rest))
    (hrest : EndsWord rest) (hlead : lead rest ≤ 1)
    (hnext : text.dropWhile isSpace = [] → ∀ after,
      readName refused rest ≠ some (String.ofList name, after)) :
    readName refused (text ++ rest) = some (String.ofList name, after) ↔
      text = name ∧ isBareWord name = true ∧ String.ofList name ∉ refused ∧ after = rest := by
  constructor
  · intro h
    rcases hdrop : text.dropWhile isSpace with _ | ⟨c, more⟩
    · -- Nothing is left of the name, so what follows would have to be read as the name.
      have hpass : readName refused (text ++ rest) = readName refused rest := by
        unfold readName
        rw [List.dropWhile_append, hdrop, List.isEmpty_nil, if_pos rfl]
      rw [hpass] at h
      exact absurd h (hnext hdrop after)
    · have hfirst : (text ++ rest).dropWhile isSpace = c :: more ++ rest := by
        rw [List.dropWhile_append, hdrop]
        rfl
      -- The name is no quoted one, as its own text has too few quotes for that.
      have hword : ∀ inner, (text ++ rest).dropWhile isSpace ≠ '"' :: inner := by
        intro inner hquote
        have hread := ((readName_eq_some_of_quote hquote).mp h).1
        exact readName_ne_quoted hfront hlead hquote hread
      obtain ⟨hread, hrefused⟩ := (readName_eq_some_of_word hword).mp h
      have hshort : (c :: more).Sublist text := hdrop ▸ List.dropWhile_sublist isSpace
      rw [hfirst, readWord_eq_some_iff (hshort.trans hsub) hrest] at hread
      obtain ⟨hname, hbare, hafter⟩ := hread
      exact ⟨hsub.antisymm (hname ▸ hshort), hbare, hrefused, hafter⟩
  · rintro ⟨rfl, hbare, hrefused, rfl⟩
    exact readName_bare hbare hrefused hrest

/-- A name between quotes is read as it was written. -/
theorem readName_between_quotes (refused : List String) {name rest : List Char} (hname : name ≠ [])
    (hrest : rest.head? ≠ some '"') :
    readName refused ('"' :: doubling '"' name ++ '"' :: rest) =
      some (String.ofList name, rest) := by
  have hdrop : ('"' :: doubling '"' name ++ '"' :: rest).dropWhile isSpace =
      '"' :: (doubling '"' name ++ '"' :: rest) := rfl
  rw [readName_eq_some_of_quote hdrop]
  exact ⟨readQuoted_doubling name hrest, hname⟩

theorem isBareWord_of_isPlainWord {name : List Char} (hname : name ≠ [])
    (h : isPlainWord name = true) : isBareWord name = true := by
  have hstart : ∀ c, startsName c = true → startsWord c = true ∧ c.isUpper = false := by
    intro c hc
    simp only [startsName, Bool.or_eq_true, decide_eq_true_eq] at hc
    rcases hc with hlower | rfl
    · refine ⟨by simp [startsWord, isAlpha_of_isLower hlower], ?_⟩
      rw [← Bool.not_eq_true, isUpper_iff]
      simp only [isLower_iff, UInt32.le_iff_toNat_le] at hlower ⊢
      have hZa : 'Z'.val.toNat < 'a'.val.toNat := by decide
      omega
    · decide
  have hgo : ∀ c, continuesName c = true → (continuesWord c && !c.isUpper) = true := by
    intro c hc
    simp only [continuesName, Bool.or_eq_true] at hc
    rcases hc with hc | hdigit
    · obtain ⟨hword, hupper⟩ := hstart c hc
      rw [continuesWord_of_startsWord hword, hupper]
      rfl
    · have hword : continuesWord c = true := by simp [continuesWord, hdigit]
      have hupper : c.isUpper = false := by
        rw [← Bool.not_eq_true, isUpper_iff]
        simp only [Char.isDigit, Bool.and_eq_true, decide_eq_true_eq, UInt32.le_iff_toNat_le,
          ge_iff_le] at hdigit ⊢
        have h9A : '9'.val.toNat < 'A'.val.toNat := by decide
        omega
      rw [hword, hupper]
      rfl
  cases name with
  | nil => exact absurd rfl hname
  | cons c more =>
    rw [isPlainWord, Bool.and_eq_true, List.all_eq_true] at h
    obtain ⟨hc, hmore⟩ := h
    have hfirst : continuesName c = true := by simp [continuesName, hc]
    simp only [isBareWord, List.head?_cons, Option.any_some, (hstart c hc).1, Bool.true_and,
      List.all_cons, hgo c hfirst, List.all_eq_true]
    exact fun d hd => hgo d (hmore d hd)

/-- A name is read back from its identifier, whatever it is. -/
theorem readName_identifier {refused : List String} (hrefused : ∀ word ∈ refused, isKeyword word)
    {name : String} (hname : name ≠ "") {rest : List Char} (hrest : EndsWord rest)
    (hquote : rest.head? ≠ some '"') :
    readName refused ((identifier name).toList ++ rest) = some (name, rest) := by
  have hchars : name.toList ≠ [] := by simpa using hname
  have hself : String.ofList name.toList = name := String.ofList_toList
  unfold identifier
  split
  · next hplain =>
    rw [Bool.and_eq_true, Bool.not_eq_true'] at hplain
    have hfree : String.ofList name.toList ∉ refused := by
      intro hmem
      rw [hself] at hmem
      rw [hrefused name hmem] at hplain
      cases hplain.2
    have hread := readName_bare (isBareWord_of_isPlainWord hchars hplain.1) hfree hrest
    rw [hself] at hread
    exact hread
  · have hread := readName_between_quotes refused hchars hquote
    rw [hself] at hread
    rw [String.toList_ofList, List.append_assoc]
    exact hread

/-! ## Reading a relation back -/

theorem readRelation_eq_some_iff {cs : List Char} {t : TableName} :
    readRelation cs = some t ↔
      ∃ dotted rest after, readName refusedWords cs = some (t.schema, dotted) ∧
        readDot dotted = some rest ∧ readName [] rest = some (t.name, after) ∧
        goesOn after = false := by
  simp only [readRelation, bind, Option.bind_eq_some_iff, Prod.exists]
  constructor
  · rintro ⟨schema, dotted, hschema, rest, hdot, name, after, hname, h⟩
    split at h
    · cases h
    · next hend =>
      cases h
      exact ⟨dotted, rest, after, hschema, hdot, hname, by simpa using hend⟩
  · rintro ⟨dotted, rest, after, hschema, hdot, hname, hend⟩
    exact ⟨t.schema, dotted, hschema, rest, hdot, t.name, after, hname, by simp [hend]⟩

/-- A table is read back from its quoted names. -/
theorem readRelation_quoted {t : TableName} (hschema : t.schema ≠ "") (hname : t.name ≠ "") :
    readRelation t.quoted.toList = some t := by
  have hkeywords : ∀ word ∈ refusedWords, isKeyword word = true := by
    intro word hword
    rw [refusedWords, List.mem_append] at hword
    rcases hword with hword | hword
    · simp [isKeyword, hword]
    · simp [isKeyword, hword]
  have htext : t.quoted.toList =
      (identifier t.schema).toList ++ '.' :: ((identifier t.name).toList ++ []) := by
    simp [TableName.quoted]
  rw [htext, readRelation_eq_some_iff]
  refine ⟨_, _, [], readName_identifier hkeywords hschema rfl (by simp), rfl, ?_, rfl⟩
  exact readName_identifier (by simp) hname rfl (by simp)

/-! ## Names without quotes in a statement -/

/-- Both names are read as themselves without quotes, and no blank is lost at the ends. -/
structure TableName.IsBare (t : TableName) : Prop where
  schema : isBareWord t.schema.toList = true
  allowed : t.schema ∉ refusedWords
  name : isBareWord t.name.toList = true
  untrimmed : Text.trim t.qualified = t.qualified

theorem dropWhile_append_cons {p : Char → Bool} {c : Char} (hc : p c = false)
    (front rest : List Char) :
    (front ++ c :: rest).dropWhile p = front.dropWhile p ++ c :: rest := by
  have hstop : (c :: rest).dropWhile p = c :: rest := by simp [hc]
  rw [List.dropWhile_append, hstop]
  split
  · next hempty => rw [List.isEmpty_iff.mp hempty, List.nil_append]
  · rfl

/-- The dot between two names stops the trimming from both sides. -/
theorem trimChars_dotted (schema name : List Char) :
    Text.trimChars (schema ++ '.' :: name) =
      Text.trimStartChars schema ++ '.' :: Text.trimEndChars name := by
  have hdot : Text.isBlank '.' = false := by decide
  have hstart : Text.trimStartChars (schema ++ '.' :: name) =
      Text.trimStartChars schema ++ '.' :: name := dropWhile_append_cons hdot schema name
  have hback : (Text.trimStartChars schema ++ '.' :: name).reverse =
      name.reverse ++ '.' :: (Text.trimStartChars schema).reverse := by simp
  rw [Text.trimChars, hstart, Text.trimEndChars, hback, dropWhile_append_cons hdot,
    Text.trimEndChars]
  simp

theorem trimStartChars_sublist (cs : List Char) : (Text.trimStartChars cs).Sublist cs :=
  List.dropWhile_sublist _

theorem trimEndChars_sublist (cs : List Char) : (Text.trimEndChars cs).Sublist cs := by
  have hreverse := (List.dropWhile_sublist Text.isBlank (l := cs.reverse)).reverse
  rwa [List.reverse_reverse] at hreverse

theorem toList_qualified (t : TableName) :
    t.qualified.toList = t.schema.toList ++ '.' :: t.name.toList := by
  simp [TableName.qualified]

/-- Nothing is lost of both names exactly when nothing is lost in front of the first and behind the
second one. -/
theorem trim_qualified_iff (t : TableName) :
    Text.trim t.qualified = t.qualified ↔
      Text.trimStartChars t.schema.toList = t.schema.toList ∧
        Text.trimEndChars t.name.toList = t.name.toList := by
  rw [← String.toList_inj, Text.toList_trim, toList_qualified, trimChars_dotted]
  constructor
  · intro h
    -- Each of the two can only get shorter, and together they do not.
    have hlength := congrArg List.length h
    have hfront := (trimStartChars_sublist t.schema.toList).length_le
    have hback := (trimEndChars_sublist t.name.toList).length_le
    simp only [List.length_append, List.length_cons] at hlength
    exact ⟨(trimStartChars_sublist _).eq_of_length (by omega),
      (trimEndChars_sublist _).eq_of_length (by omega)⟩
  · rintro ⟨hschema, hname⟩
    rw [hschema, hname]

/-- A schema in front of a dot is read as itself when it loses no blank and needs no quotes. -/
theorem readName_schema_iff (schema : String) (rest dotted : List Char) :
    readName refusedWords (Text.trimStartChars schema.toList ++ '.' :: rest) =
        some (schema, dotted) ↔
      Text.trimStartChars schema.toList = schema.toList ∧ isBareWord schema.toList = true ∧
        schema ∉ refusedWords ∧ dotted = '.' :: rest := by
  have hself : String.ofList schema.toList = schema := String.ofList_toList
  have hlead : lead ('.' :: rest) ≤ 1 := by
    have hdot : lead ('.' :: rest) = 0 := lead_cons (by decide) rest
    omega
  have hnext : ∀ after, readName refusedWords ('.' :: rest) ≠
      some (String.ofList schema.toList, after) := by
    intro after h
    cases h
  have hiff : readName refusedWords (Text.trimStartChars schema.toList ++ '.' :: rest) =
      some (String.ofList schema.toList, dotted) ↔ _ :=
    readName_eq_some_iff (trimStartChars_sublist schema.toList)
      (lead_trimStart_append_le _ _) (endsWord_cons (by decide) rest) hlead fun _ => hnext
  rwa [hself] at hiff

/-- The same of a name in front of an ordering. Where trimming leaves nothing of a name, the
statement goes on with another word, which is not the name. -/
theorem readName_ordered_iff (name : String) (rest after : List Char) :
    readName [] (Text.trimEndChars name.toList ++ (" order by ".toList ++ rest)) =
        some (name, after) ↔
      Text.trimEndChars name.toList = name.toList ∧ isBareWord name.toList = true ∧
        after = " order by ".toList ++ rest := by
  have hself : String.ofList name.toList = name := String.ofList_toList
  have hends : EndsWord (" order by ".toList ++ rest) := endsWord_cons (by decide) _
  have hlead : lead (" order by ".toList ++ rest) ≤ 1 := by
    have hword : lead ('o' :: ("rder by ".toList ++ rest)) = 0 := lead_cons (by decide) _
    have hspace : lead (" order by ".toList ++ rest) =
        lead ('o' :: ("rder by ".toList ++ rest)) + 1 := rfl
    omega
  have hnext : (Text.trimEndChars name.toList).dropWhile isSpace = [] → ∀ after,
      readName [] (" order by ".toList ++ rest) ≠ some (String.ofList name.toList, after) := by
    intro hnone after h
    have hword : readName [] (" order by ".toList ++ rest) =
        some ("order", " by ".toList ++ rest) := rfl
    rw [hword, hself] at h
    have hname : "order" = name := congrArg Prod.fst (Option.some.inj h)
    rw [← hname] at hnone
    exact absurd hnone (by decide)
  have hiff : readName [] (Text.trimEndChars name.toList ++ (" order by ".toList ++ rest)) =
      some (String.ofList name.toList, after) ↔ _ :=
    readName_eq_some_iff (trimEndChars_sublist name.toList) (lead_trimEnd_append_le _ _) hends
      hlead hnext
  rw [hself] at hiff
  simpa using hiff

/-- The two names of a table in a statement are read as this table exactly when they are bare. -/
theorem readRelation_qualified_iff (t : TableName) (rest : List Char) :
    readRelation ((Text.trim t.qualified).toList ++ (" order by ".toList ++ rest)) = some t ↔
      t.IsBare := by
  have htext : (Text.trim t.qualified).toList ++ (" order by ".toList ++ rest) =
      Text.trimStartChars t.schema.toList ++ '.' ::
        (Text.trimEndChars t.name.toList ++ (" order by ".toList ++ rest)) := by
    rw [Text.toList_trim, toList_qualified, trimChars_dotted, List.append_assoc]
    rfl
  rw [htext, readRelation_eq_some_iff]
  constructor
  · rintro ⟨dotted, more, after, hschema, hdot, hname, _⟩
    obtain ⟨hstart, hbare, hallowed, rfl⟩ := (readName_schema_iff _ _ _).mp hschema
    have hmore : _ = more := Option.some.inj hdot
    rw [← hmore] at hname
    obtain ⟨hend, hbareName, _⟩ := (readName_ordered_iff _ _ _).mp hname
    exact ⟨hbare, hallowed, hbareName, (trim_qualified_iff t).mpr ⟨hstart, hend⟩⟩
  · rintro ⟨hschema, hallowed, hname, htrim⟩
    obtain ⟨hstart, hend⟩ := (trim_qualified_iff t).mp htrim
    exact ⟨_, _, _, (readName_schema_iff _ _ _).mpr ⟨hstart, hschema, hallowed, rfl⟩, rfl,
      (readName_ordered_iff _ _ _).mpr ⟨hend, hname, rfl⟩, rfl⟩

/-- A capital letter is read as a small one, so these two names are read as those of another
table. -/
example : readRelation "public.Sales order by 1".toList = some ⟨"public", "sales"⟩ := by decide

/-! ## Statements -/

theorem behind_rowCount (rest : List Char) :
    behind " from ".toList ("select count(*) from ".toList ++ rest) = some rest := rfl

theorem behind_copyTable (rest : List Char) :
    behind " from ".toList ("COPY (select gp_segment_id, * from ".toList ++ rest) = some rest := rfl

/-- A count of a table's rows selects from the table, when the count calls it by its quoted
names. -/
theorem selectedRelation?_rowCount {t : TableName} (hschema : t.schema ≠ "") (hname : t.name ≠ "") :
    selectedRelation? (Statement.rowCount t.quoted) = some t := by
  have htext : (Statement.rowCount t.quoted).toList =
      "select count(*) from ".toList ++ t.quoted.toList := String.toList_append
  rw [selectedRelation?, htext, behind_rowCount, Option.bind_some]
  exact readRelation_quoted hschema hname

/-- A copy of a table selects from the table exactly when its names are bare. -/
theorem selectedRelation?_copyTable_iff (t : TableName) (order path : String) :
    selectedRelation? (Statement.copyTable t.qualified order path) = some t ↔ t.IsBare := by
  have htext : (Statement.copyTable t.qualified order path).toList =
      "COPY (select gp_segment_id, * from ".toList ++ ((Text.trim t.qualified).toList ++
        (" order by ".toList ++ (order ++ ") TO " ++ literal path).toList)) := by
    simp [Statement.copyTable, render, Piece.render]
  rw [selectedRelation?, htext, behind_copyTable, Option.bind_some]
  exact readRelation_qualified_iff t _

end ClusterFixture.Sql
