/-
What the shell makes of a line of plain words.

The shell's own reader knows operators, parameters and redirections besides; it takes a word at a
time. The reader of plain words takes a character at a time and gives up at the first one that a
shell would act on. Where it does not give up, the shell finds one command with just these words,
and no variable makes a difference. Both readers pass the places between two pieces of a word, and
`Taken` says what they agree on there: the word so far, and what the rest of the line leads to.
-/

import ClusterFixture.Shell.Quoting
import ClusterFixture.Shell.Run
import Mathlib.Data.List.Basic

set_option autoImplicit false

namespace ClusterFixture.Shell

open Splitting (words?)

/-! ## Drafts of texts -/

/-- A draft holds a word in the making, in pieces that are texts. -/
def Draft.Holds (d : Draft) (word? : Option (List Char)) : Prop :=
  match word? with
  | none => d = {}
  | some word => ∃ texts : List (List Char), texts ≠ [] ∧
      d = ⟨texts.map .text, true⟩ ∧ texts.reverse.flatten = word.reverse

theorem Draft.Holds.add {d : Draft} {word? : Option (List Char)} (h : d.Holds word?)
    (cs : List Char) : (d.add (.text cs)).Holds (some (cs.reverse ++ word?.getD [])) := by
  cases word? with
  | none =>
    obtain rfl : d = {} := h
    exact ⟨[cs], by simp, rfl, by simp⟩
  | some word =>
    obtain ⟨texts, -, rfl, hflat⟩ := h
    exact ⟨cs :: texts, by simp, rfl, by simp [hflat]⟩

/-- What was taken of a text is a word in the making, and what is left of it leads to the same
words. -/
structure Taken (cs : List Char) (complete words : List (List Char)) (taken : Draft × List Char)
    (word? : Option (List Char)) : Prop where
  holds : taken.1.Holds word?
  suffix : taken.2 <:+ cs
  leads : words? ⟨complete, word?, .bare⟩ taken.2 = some words

theorem Taken.of_suffix {cs cs' : List Char} {complete words : List (List Char)}
    {taken : Draft × List Char} {word? : Option (List Char)} (h : Taken cs complete words taken word?)
    (hcs : cs <:+ cs') : Taken cs' complete words taken word? :=
  ⟨h.holds, h.suffix.trans hcs, h.leads⟩

theorem Taken.cons {cs : List Char} {complete words : List (List Char)}
    {taken : Draft × List Char} {word? : Option (List Char)} (h : Taken cs complete words taken word?)
    (c : Char) : Taken (c :: cs) complete words taken word? :=
  h.of_suffix (List.suffix_cons c cs)

/-! ## Quotes -/

variable {complete words : List (List Char)}

/-- Single quotes end at the next one. -/
theorem words?_of_single {cs word : List Char}
    (h : words? ⟨complete, some word, .single⟩ cs = some words) :
    words? ⟨complete, some ((cs.takeWhile (· ≠ '\'')).reverse ++ word), .bare⟩
      (cs.drop ((cs.takeWhile (· ≠ '\'')).length + 1)) = some words := by
  induction cs generalizing word with
  | nil => cases h
  | cons c cs ih =>
    rw [Splitting.words?_cons] at h
    by_cases hquote : c = '\''
    · subst hquote
      exact h
    · rw [Splitting.step_single hquote] at h
      simpa [hquote] using ih h

theorem takeQuoted_backslash (n : Nat) (c : Char) (rest : List Char) (d : Draft) :
    takeQuoted (n + 1) ('\\' :: c :: rest) d =
      if c = '\n' then takeQuoted n rest d
      else if keptInDouble.contains c then takeQuoted n rest (d.add (.text [c]))
      else takeQuoted n (c :: rest) (d.add (.text ['\\'])) := by
  by_cases hfeed : c = '\n'
  · subst hfeed
    rfl
  · rw [if_neg hfeed, takeQuoted, if_neg (by decide), if_neg (by decide)]
    · rfl
    · exact hfeed

theorem takeQuoted_cons {c : Char} (hquote : c ≠ '"') (hdollar : c ≠ '$') (hbackslash : c ≠ '\\')
    (n : Nat) (rest : List Char) (d : Draft) :
    takeQuoted (n + 1) (c :: rest) d = takeQuoted n rest (d.add (.text [c])) := by
  rw [takeQuoted, if_neg hquote, if_neg hdollar]
  · exact fun _ h => absurd h hbackslash
  · exact fun _ _ h => absurd h hbackslash

/-- Double quotes end where the shell takes them to. -/
theorem taken_takeQuoted {n : Nat} {cs word : List Char} {d : Draft} (hn : cs.length ≤ n)
    (hd : d.Holds (some word))
    (h : words? ⟨complete, some word, .double⟩ cs = some words) :
    ∃ word?, Taken cs complete words (takeQuoted n cs d) word? := by
  induction n generalizing cs word d with
  | zero =>
    obtain rfl := List.eq_nil_of_length_eq_zero (Nat.le_zero.mp hn)
    cases h
  | succ n ih =>
    rcases cs with _ | ⟨c, rest⟩
    · cases h
    have hrest : rest.length ≤ n := Nat.le_of_succ_le_succ hn
    rw [Splitting.words?_cons] at h
    by_cases hclose : c = '"'
    · subst hclose
      exact ⟨some word, hd, List.suffix_cons _ _, h⟩
    by_cases hbackslash : c = '\\'
    · subst hbackslash
      rcases rest with _ | ⟨x, after⟩
      · cases h
      have hafter : after.length ≤ n := Nat.le_of_succ_le hrest
      change words? ⟨complete, some word, .doubleBackslash⟩ (x :: after) = some words at h
      rw [Splitting.words?_cons] at h
      rw [takeQuoted_backslash]
      by_cases hfeed : x = '\n'
      · simp only [Splitting.step, hfeed, if_true] at h ⊢
        obtain ⟨word?, htaken⟩ := ih hafter hd h
        exact ⟨word?, (htaken.cons _).cons _⟩
      by_cases hkept : keptInDouble.contains x = true
      · simp only [Splitting.step, hfeed, hkept, if_true, if_false] at h ⊢
        obtain ⟨word?, htaken⟩ := ih hafter (hd.add [x]) h
        exact ⟨word?, (htaken.cons _).cons _⟩
      · rw [Bool.not_eq_true] at hkept
        rw [if_neg hfeed, hkept, if_neg Bool.false_ne_true]
        simp only [Splitting.step, hfeed, hkept, if_false, Bool.false_eq_true] at h
        -- the shell keeps the backslash and reads the character behind it in another turn
        have hagain : words? ⟨complete, some ('\\' :: word), .double⟩ (x :: after) = some words := by
          rw [Splitting.words?_cons, Splitting.step_double hkept]
          exact h
        obtain ⟨word?, htaken⟩ := ih hrest (hd.add ['\\']) hagain
        exact ⟨word?, htaken.cons _⟩
    cases hkept : keptInDouble.contains c with
    | true =>
      -- a dollar sign or a grave accent, which no plain word has here
      simp only [keptInDouble, List.contains_cons, List.contains_nil, Bool.or_false,
        Bool.or_eq_true, beq_iff_eq, hclose, hbackslash, false_or] at hkept
      rcases hkept with rfl | rfl <;> cases h
    | false =>
      have hdollar : c ≠ '$' := by
        rintro rfl
        cases hkept
      rw [Splitting.step_double hkept] at h
      obtain ⟨word?, htaken⟩ := ih hrest (hd.add [c]) h
      rw [takeQuoted_cons hclose hdollar hbackslash]
      exact ⟨word?, htaken.cons c⟩

/-! ## Words -/

theorem takeWord_backslash (n : Nat) (c : Char) (rest : List Char) (d : Draft) :
    takeWord (n + 1) ('\\' :: c :: rest) d =
      if c = '\n' then takeWord n rest d else takeWord n rest (d.add (.text [c])) := by
  by_cases hfeed : c = '\n'
  · subst hfeed
    rfl
  · rw [if_neg hfeed, takeWord, if_neg (by decide), if_neg (by decide), if_neg (by decide),
      if_neg (by decide)]
    exact hfeed

theorem takeWord_plain {c : Char} (hplain : isPlain c = true) (n : Nat) (rest : List Char)
    (d : Draft) : takeWord (n + 1) (c :: rest) d = takeWord n rest (d.add (.text [c])) := by
  obtain ⟨hblank, hacts, hsingle, hdouble, hbackslash⟩ := isPlain_iff.mp hplain
  have hgoes : ¬[' ', '\t', '\n', ';', '&', '|', '>', '<'].contains c = true := by
    simp only [isWordEnd, Bool.or_eq_false_iff, decide_eq_false_iff_not] at hblank
    simp only [actingChars, List.contains_cons, Bool.or_eq_false_iff, beq_eq_false_iff_ne] at hacts
    simp [hblank, hacts]
  have hdollar : c ≠ '$' := by
    rintro rfl
    cases hacts
  rw [takeWord, if_neg hgoes, if_neg hsingle, if_neg hdouble, if_neg hdollar]
  · exact fun _ h => absurd h hbackslash
  · exact fun _ _ h => absurd h hbackslash

/-- No line goes on with a character that a shell acts on. -/
theorem not_acting_of_words? {word? : Option (List Char)} {c : Char} {rest : List Char}
    (h : words? ⟨complete, word?, .bare⟩ (c :: rest) = some words) :
    actingChars.contains c = false := by
  cases hacts : actingChars.contains c with
  | false => rfl
  | true =>
    rw [Splitting.words?_cons, Splitting.step_acting rfl hacts] at h
    cases h

/-- A word ends where the shell takes it to: at a blank or at the end. -/
theorem taken_takeWord {n : Nat} {cs : List Char} {word? : Option (List Char)} {d : Draft}
    (hn : cs.length ≤ n) (hd : d.Holds word?)
    (h : words? ⟨complete, word?, .bare⟩ cs = some words) :
    ∃ word?', Taken cs complete words (takeWord n cs d) word?' ∧
      ∀ c ∈ (takeWord n cs d).2.head?, isWordEnd c = true := by
  -- A turn takes a character, what is quoted, or a backslash with what it keeps; the rest is a
  -- suffix, so the steps do not run out.
  induction n generalizing cs word? d with
  | zero =>
    obtain rfl := List.eq_nil_of_length_eq_zero (Nat.le_zero.mp hn)
    exact ⟨word?, ⟨hd, List.suffix_refl _, h⟩, by simp [takeWord]⟩
  | succ n ih =>
    rcases cs with _ | ⟨c, rest⟩
    · exact ⟨word?, ⟨hd, List.suffix_refl _, h⟩, by simp [takeWord]⟩
    have hrest : rest.length ≤ n := Nat.le_of_succ_le_succ hn
    cases hblank : isWordEnd c with
    | true =>
      have hends : takeWord (n + 1) (c :: rest) d = (d, c :: rest) := by
        simp only [isWordEnd, Bool.or_eq_true, decide_eq_true_eq] at hblank
        rcases hblank with rfl | rfl <;> rfl
      rw [hends]
      exact ⟨word?, ⟨hd, List.suffix_refl _, h⟩, by simp [hblank]⟩
    | false =>
    have hacts := not_acting_of_words? h
    rw [Splitting.words?_cons] at h
    by_cases hsingle : c = '\''
    · subst hsingle
      obtain ⟨word?', htaken, hend⟩ :=
        ih (Nat.le_trans (by simp) hrest) (hd.add _) (words?_of_single h)
      exact ⟨word?', htaken.of_suffix ((List.drop_suffix _ _).trans (List.suffix_cons _ _)), hend⟩
    by_cases hdouble : c = '"'
    · subst hdouble
      obtain ⟨word?', hquoted⟩ := taken_takeQuoted (Nat.le_refl _) (hd.add []) h
      obtain ⟨word?'', htaken, hend⟩ :=
        ih (Nat.le_trans hquoted.suffix.length_le hrest) hquoted.holds hquoted.leads
      exact ⟨word?'', htaken.of_suffix (hquoted.suffix.trans (List.suffix_cons _ _)), hend⟩
    by_cases hbackslash : c = '\\'
    · subst hbackslash
      rcases rest with _ | ⟨x, after⟩
      · cases h
      have hafter : after.length ≤ n := Nat.le_of_succ_le hrest
      change words? ⟨complete, word?, .backslash⟩ (x :: after) = some words at h
      rw [Splitting.words?_cons] at h
      rw [takeWord_backslash]
      by_cases hfeed : x = '\n'
      · simp only [Splitting.step, hfeed, if_true] at h ⊢
        obtain ⟨word?', htaken, hend⟩ := ih hafter hd h
        exact ⟨word?', (htaken.cons _).cons _, hend⟩
      · simp only [Splitting.step, hfeed, if_false] at h ⊢
        obtain ⟨word?', htaken, hend⟩ := ih hafter (hd.add [x]) h
        exact ⟨word?', (htaken.cons _).cons _, hend⟩
    have hplain : isPlain c = true := isPlain_iff.mpr ⟨hblank, hacts, hsingle, hdouble, hbackslash⟩
    rw [Splitting.step_plain rfl hplain] at h
    rw [takeWord_plain hplain]
    obtain ⟨word?', htaken, hend⟩ := ih hrest (hd.add [c]) h
    exact ⟨word?', htaken.cons c, hend⟩

/-! ## Lines -/

/-- The token of a word that has these texts. -/
def textToken (texts : List (List Char)) : Token := .word (texts.map .text)

/-- At a blank and at the end, the word is complete. -/
theorem words?_of_end {word? : Option (List Char)} {cs : List Char}
    (hend : ∀ c ∈ cs.head?, isWordEnd c = true) :
    words? ⟨complete, word?, .bare⟩ cs = words? ⟨word?.toList ++ complete, none, .bare⟩ cs := by
  rcases cs with _ | ⟨c, rest⟩
  · rfl
  · have hblank : isWordEnd c = true := hend c rfl
    rw [Splitting.words?_cons, Splitting.words?_cons]
    simp only [Splitting.step, hblank, if_true]
    rfl

/-- Where no operator comes first, a word does; only what starts with a number may be something
else, and that is followed by no blank. -/
theorem tokensWithin_cons {c : Char} {rest after : List Char} {d : Draft}
    (hblank : isWordEnd c = false) (hacts : actingChars.contains c = false)
    (htaken : takeWord (rest.length + 1) (c :: rest) {} = (d, after))
    (hend : ∀ x ∈ after.head?, isWordEnd x = true) (n : Nat) :
    tokensWithin (n + 1) (c :: rest) = d.tokens ++ tokensWithin n after := by
  simp only [isWordEnd, Bool.or_eq_false_iff, decide_eq_false_iff_not] at hblank
  simp only [actingChars, List.contains_cons, Bool.or_eq_false_iff, beq_eq_false_iff_ne] at hacts
  rw [tokensWithin, htaken]
  simp only [hblank, hacts, decide_false, Bool.or_self, Bool.false_and, Bool.false_eq_true,
    if_false]
  split
  · exact absurd (hend '>' rfl) (by decide)
  · rfl

/-- The tokens of a line of plain words are these words. -/
theorem tokensWithin_of_words? {n : Nat} {cs : List Char} (hn : cs.length < n)
    (h : words? ⟨complete, none, .bare⟩ cs = some words) :
    ∃ texts : List (List (List Char)), (∀ t ∈ texts, t ≠ []) ∧
      tokensWithin n cs = texts.map textToken ∧
      words = complete.reverse.map List.reverse ++ texts.map List.flatten := by
  induction n generalizing cs complete with
  | zero => exact absurd hn (Nat.not_lt_zero _)
  | succ n ih =>
    rcases cs with _ | ⟨c, rest⟩
    · obtain rfl := Option.some.inj h
      exact ⟨[], by simp, rfl, by simp [Splitting.close]⟩
    have hrest : rest.length < n := Nat.lt_of_succ_lt_succ hn
    cases hblank : isWordEnd c with
    | true =>
      have hskips : tokensWithin (n + 1) (c :: rest) = tokensWithin n rest := by
        simp only [isWordEnd, Bool.or_eq_true, decide_eq_true_eq] at hblank
        rcases hblank with rfl | rfl <;> rfl
      rw [Splitting.words?_cons] at h
      simp only [Splitting.step, hblank, if_true] at h
      rw [hskips]
      exact ih hrest h
    | false =>
    have hacts := not_acting_of_words? h
    obtain ⟨word?, htaken, hend⟩ := taken_takeWord (Nat.le_refl (rest.length + 1))
      (show Draft.Holds {} none from rfl) h
    rcases htake : takeWord (rest.length + 1) (c :: rest) {} with ⟨d, after⟩
    rw [htake] at htaken hend
    rw [tokensWithin_cons hblank hacts htake hend]
    -- the word takes at least its first character
    have hshorter : after.length < n := by
      rcases htaken.suffix with ⟨_ | ⟨x, before⟩, hcut⟩
      · obtain rfl : after = c :: rest := hcut
        exact absurd (hend c rfl) (by simp [hblank])
      · have hlength := congrArg List.length hcut
        simp only [List.cons_append, List.length_cons, List.length_append] at hlength
        omega
    have hleads := htaken.leads
    rw [words?_of_end hend] at hleads
    obtain ⟨texts, hsome, htokens, hwords⟩ := ih hshorter hleads
    rw [htokens]
    cases word? with
    | none =>
      obtain rfl : d = {} := htaken.holds
      exact ⟨texts, hsome, rfl, hwords⟩
    | some word =>
      obtain ⟨pieces, hne, rfl, hflat⟩ := htaken.holds
      refine ⟨pieces.reverse :: texts, ?_, ?_, ?_⟩
      · exact List.forall_mem_cons.mpr ⟨by simpa using hne, hsome⟩
      · simp [Draft.tokens, textToken, List.map_reverse]
      · simp [hwords, hflat]

/-- Words behind one another are words of one command. -/
theorem read_texts (r : Reading) (texts : List (List (List Char))) :
    (texts.map textToken).foldl Reading.read r =
      { r with current := { r.current with
          words := r.current.words ++ texts.map fun t => t.map Piece.text } } := by
  induction texts generalizing r with
  | nil => simp
  | cons t rest ih =>
    rw [List.map_cons, List.foldl_cons, ih]
    simp [textToken, Reading.read]

theorem Fields.foldl_add (texts : List (List Char)) (complete : List String) (text : String) :
    texts.foldl (fun f cs => f.add (String.ofList cs)) ⟨complete, some text⟩ =
      (⟨complete, some (text ++ String.ofList texts.flatten)⟩ : Fields) := by
  induction texts generalizing text with
  | nil => simp
  | cons cs rest ih =>
    rw [List.foldl_cons, Fields.add, Option.getD_some, ih, List.flatten_cons, String.ofList_append,
      String.append_assoc]

/-- A word of texts is one field, whatever the variables of a shell are. -/
theorem fields_texts (s : Setting) (last : Nat) {texts : List (List Char)} (hne : texts ≠ []) :
    s.fields last (texts.map .text) = [String.ofList texts.flatten] := by
  obtain ⟨cs, rest, rfl⟩ := List.exists_cons_of_ne_nil hne
  rw [Setting.fields, List.foldl_map, List.foldl_cons]
  change (Fields.close (List.foldl (fun f cs => f.add (String.ofList cs))
    ⟨[], some ("" ++ String.ofList cs)⟩ rest)).complete.reverse = _
  rw [Fields.foldl_add, String.empty_append, ← String.ofList_append, List.flatten_cons]
  rfl

/-- A line of plain words is one command, and a shell starts it with these words: no variable, no
operator and no output sent elsewhere is in the way. A line without words is no command. -/
theorem chains_of_plainWords? {line : String} {words : List String}
    (h : plainWords? line = some words) :
    ∃ ws : List Word,
      chains line = (if ws = [] then [] else [⟨.always, [{ words := ws }]⟩]) ∧
      ∀ (s : Setting) (last : Nat), ws.map (s.fields last) = words.map fun word => [word] := by
  obtain ⟨texts, htexts, hmap⟩ := Option.bind_eq_some_iff.mp h
  obtain rfl := Option.some.inj hmap
  obtain ⟨ws, hsome, htokens, rfl⟩ := tokensWithin_of_words? (Nat.lt_succ_self _) htexts
  refine ⟨ws.map fun t => t.map Piece.text, ?_, fun s last => ?_⟩
  · rw [chains, tokens, htokens, read_texts]
    rcases ws with _ | ⟨t, rest⟩ <;> rfl
  · simp only [List.reverse_nil, List.map_nil, List.nil_append, List.map_map]
    exact List.map_congr_left fun t ht => fields_texts s last (hsome t ht)

example : plainWords? "echo 'a  b' \"c\\$d\" e\\ f" = some ["echo", "a  b", "c$d", "e f"] := by
  decide

end ClusterFixture.Shell
