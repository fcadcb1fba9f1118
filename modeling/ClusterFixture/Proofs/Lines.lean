/-
What the lines of a text are.

`HasLines` says it without a reader: a line holds no line feed and is ended by one, alone or behind
a carriage return, and behind the last line feed there may be one more line that is not empty. The
reader finds just these lines.
-/

import ClusterFixture.Text.Blank

set_option autoImplicit false

namespace ClusterFixture.Text

/-- A text consists of lines. A carriage return in front of a line feed belongs to the end of its
line, but only one does. -/
inductive HasLines : List Char → List (List Char) → Prop where
  | none : HasLines [] []
  | unended {line : List Char} : line ≠ [] → '\n' ∉ line → HasLines line [line]
  | feed {line rest : List Char} {lines : List (List Char)} : '\n' ∉ line →
    line.getLast? ≠ some '\r' → HasLines rest lines →
      HasLines (line ++ '\n' :: rest) (line :: lines)
  | returnFeed {line rest : List Char} {lines : List (List Char)} : '\n' ∉ line →
    HasLines rest lines → HasLines (line ++ '\r' :: '\n' :: rest) (line :: lines)

/-- No line holds a line feed. -/
theorem HasLines.not_mem {cs line : List Char} {lines : List (List Char)} (h : HasLines cs lines)
    (hline : line ∈ lines) : '\n' ∉ line := by
  induction h with
  | none => simp at hline
  | unended _ hfeed =>
    rw [List.mem_singleton.mp hline]
    exact hfeed
  | feed hfeed _ _ ih | returnFeed hfeed _ ih =>
    rcases List.mem_cons.mp hline with hsame | hrest
    · rw [hsame]
      exact hfeed
    · exact ih hrest

/-! ## Reading a line -/

/-- A character that is no line feed is read into the line. -/
theorem linesFrom_cons {c : Char} (hc : c ≠ '\n') (before rest : List Char) :
    linesFrom before (c :: rest) = linesFrom (c :: before) rest := by
  rw [linesFrom]
  exact hc

/-- What stands before a line feed is one line, together with what was read of it before. -/
theorem linesFrom_append_feed {line : List Char} (hline : '\n' ∉ line) (before rest : List Char) :
    linesFrom before (line ++ '\n' :: rest) =
      dropReturn (before.reverse ++ line) :: linesFrom [] rest := by
  induction line generalizing before with
  | nil => rw [List.nil_append, linesFrom, List.append_nil]
  | cons c more ih =>
    rw [List.mem_cons, not_or] at hline
    rw [List.cons_append, linesFrom_cons (Ne.symm hline.1), ih hline.2, List.reverse_cons,
      List.append_assoc, List.singleton_append]

/-- A line feed keeps what stands before it apart from what follows. -/
theorem linesFrom_append_feed_append (before cs rest : List Char) :
    linesFrom before (cs ++ '\n' :: rest) =
      linesFrom before (cs ++ ['\n']) ++ linesFrom [] rest := by
  induction cs generalizing before with
  | nil => rfl
  | cons c cs ih =>
    by_cases hfeed : c = '\n'
    · subst hfeed
      rw [List.cons_append, linesFrom, ih, List.cons_append, linesFrom, List.cons_append]
    · rw [List.cons_append, linesFrom_cons hfeed, ih, List.cons_append, linesFrom_cons hfeed]

/-- A text without a line feed is one line, unless it is empty. -/
theorem linesFrom_of_unended {line : List Char} (hline : '\n' ∉ line) (before : List Char)
    (hne : before.reverse ++ line ≠ []) : linesFrom before line = [before.reverse ++ line] := by
  induction line generalizing before with
  | nil =>
    rw [List.append_nil] at hne ⊢
    rw [linesFrom, if_neg (by simpa using hne)]
  | cons c more ih =>
    rw [List.mem_cons, not_or] at hline
    have hsame : (c :: before).reverse ++ more = before.reverse ++ c :: more := by simp
    rw [linesFrom_cons (Ne.symm hline.1), ih hline.2 _ (by rw [hsame]; exact hne), hsame]

/-! ## Returns -/

theorem dropReturn_append_return (line : List Char) : dropReturn (line ++ ['\r']) = line := by
  rw [dropReturn, if_pos (by simp), List.dropLast_concat]

theorem dropReturn_of_getLast? {line : List Char} (hline : line.getLast? ≠ some '\r') :
    dropReturn line = line := by
  rw [dropReturn, if_neg hline]

/-! ## The lines that are found -/

/-- A text has the lines that are read from it, what was read before taken along. The induction
follows the reader. -/
theorem hasLines_linesFrom (before cs : List Char) (hbefore : '\n' ∉ before) :
    HasLines (before.reverse ++ cs) (linesFrom before cs) := by
  fun_induction linesFrom before cs with
  | case1 before hempty =>
    rw [List.isEmpty_iff.mp hempty]
    exact .none
  | case2 before hne =>
    rw [List.append_nil]
    exact .unended (by simpa using hne) (by simpa using hbefore)
  | case3 before rest ih =>
    have hrest := ih (by simp)
    have hline : '\n' ∉ before.reverse := by simpa using hbefore
    by_cases hreturn : before.reverse.getLast? = some '\r'
    · -- The line stands in front of both characters of its end.
      obtain ⟨line, hline'⟩ := List.getLast?_eq_some_iff.mp hreturn
      rw [hline'] at hline ⊢
      rw [dropReturn_append_return, List.append_assoc]
      exact .returnFeed (fun h => hline (List.mem_append_left _ h)) hrest
    · rw [dropReturn_of_getLast? hreturn]
      exact .feed hline hreturn hrest
  | case4 before c rest hc ih =>
    have hmore := ih (by simpa using ⟨Ne.symm hc, hbefore⟩)
    rw [List.reverse_cons, List.append_assoc, List.singleton_append] at hmore
    exact hmore

/-- The lines of a text are those that it has, and no text has others. -/
theorem lineChars_eq_iff {cs : List Char} {lines : List (List Char)} :
    lineChars cs = lines ↔ HasLines cs lines := by
  constructor
  · intro h
    rw [← h]
    exact hasLines_linesFrom [] cs (by simp)
  · intro h
    unfold lineChars
    induction h with
    | none => rfl
    | unended hne hline => exact linesFrom_of_unended hline [] hne
    | feed hline hlast _ ih =>
      rw [linesFrom_append_feed hline, ih, List.reverse_nil, List.nil_append,
        dropReturn_of_getLast? hlast]
    | @returnFeed line rest _ hline _ ih =>
      have hreturn : '\n' ∉ line ++ ['\r'] := by simpa using hline
      have hsplit : line ++ '\r' :: '\n' :: rest = (line ++ ['\r']) ++ '\n' :: rest := by simp
      rw [hsplit, linesFrom_append_feed hreturn, ih, List.reverse_nil, List.nil_append,
        dropReturn_append_return]

/-! ## Writing lines -/

/-- The text of some lines, each ended by a line feed. -/
def unlines (lines : List (List Char)) : List Char := lines.flatMap fun line => line ++ ['\n']

/-- The same for texts. -/
def endedLines (lines : List String) : String := String.join (lines.map fun line => line ++ "\n")

theorem toList_endedLines (lines : List String) :
    (endedLines lines).toList = unlines (lines.map String.toList) := by
  rw [endedLines, unlines, String.toList_join]
  induction lines with
  | nil => rfl
  | cons line rest ih =>
    rw [List.map_cons, List.map_cons, List.flatMap_cons, List.flatMap_cons, ih,
      String.toList_append]
    rfl

/-- What is read of ended lines does not depend on what follows them, nor the other way round. -/
theorem lines_endedLines_append (lines : List String) (rest : String) :
    Text.lines (endedLines lines ++ rest) = Text.lines (endedLines lines) ++ Text.lines rest := by
  simp only [Text.lines, String.toList_append, toList_endedLines, lineChars, ← List.map_append]
  refine congrArg (List.map String.ofList) ?_
  unfold unlines
  induction lines.map String.toList with
  | nil => rfl
  | cons line more ih =>
    have hcons : (line :: more).flatMap (fun line => line ++ ['\n']) =
        line ++ '\n' :: more.flatMap fun line => line ++ ['\n'] := by
      rw [List.flatMap_cons, List.append_assoc, List.singleton_append]
    rw [hcons, List.append_assoc, List.cons_append, linesFrom_append_feed_append, ih,
      linesFrom_append_feed_append [] line (more.flatMap _), List.append_assoc]

/-- As many lines are read as were written, if no line feed stands in any of them. -/
theorem length_lineChars_unlines {lines : List (List Char)} (h : ∀ line ∈ lines, '\n' ∉ line) :
    (lineChars (unlines lines)).length = lines.length := by
  unfold lineChars unlines
  induction lines with
  | nil => rfl
  | cons line rest ih =>
    obtain ⟨hline, hrest⟩ := List.forall_mem_cons.mp h
    rw [List.flatMap_cons, List.append_assoc, List.singleton_append, linesFrom_append_feed hline,
      List.length_cons, ih hrest, List.length_cons]

end ClusterFixture.Text
