/-
The words of a line in which a shell finds nothing to do but to start one command.

Between single quotes every character stands for itself; between double quotes all but the dollar
sign, the grave accent and the backslash do; outside of quotes a backslash keeps the next character,
and a line feed behind it is taken away with it. Blanks outside of quotes end words. A line has no
plain words where the shell would act on one of its characters, which an operator, an expansion, a
pattern, an assignment or a comment may begin with, or where a quote is not closed.
-/

set_option autoImplicit false

namespace ClusterFixture.Shell

/-! ## Characters -/

/-- Whether a character ends a word. -/
def isWordEnd (c : Char) : Bool := c = ' ' || c = '\t'

/-- The characters with which something may begin that a shell acts on. -/
def actingChars : List Char :=
  ['|', '&', ';', '<', '>', '(', ')', '$', '\x60', '\n', '*', '?', '[', '#', '~', '=', '\x7b', '!']

/-- The characters that quote others. -/
def quotingChars : List Char := ['\'', '"', '\\']

/-- Whether a character stands for itself without any quoting. -/
def isPlain (c : Char) : Bool :=
  !isWordEnd c && !actingChars.contains c && !quotingChars.contains c

theorem isPlain_iff {c : Char} :
    isPlain c = true ↔ isWordEnd c = false ∧ actingChars.contains c = false ∧
      c ≠ '\'' ∧ c ≠ '"' ∧ c ≠ '\\' := by
  simp only [isPlain, quotingChars, List.contains_cons, List.contains_nil, Bool.or_false,
    Bool.and_eq_true, Bool.not_eq_true', Bool.or_eq_false_iff, beq_eq_false_iff_ne, and_assoc]

/-- The characters that a backslash keeps between double quotes. -/
def keptInDouble : List Char := ['"', '\\', '$', '\x60']

/-! ## Words -/

/-- How the next character is quoted. -/
inductive Quoting where
  | bare
  /-- By a backslash outside of quotes. -/
  | backslash
  | single
  | double
  /-- By a backslash between double quotes. -/
  | doubleBackslash
  deriving DecidableEq, Repr

/-- Words in the making: the complete ones, the last first, and the present one, if it has begun.
Characters stand in reverse. -/
structure Splitting where
  complete : List (List Char) := []
  current? : Option (List Char) := none
  quoting : Quoting := .bare
  deriving DecidableEq, Repr

namespace Splitting

/-- The present word, which begins here at the latest, with more characters. -/
def add (s : Splitting) (cs : List Char) (quoting : Quoting) : Splitting :=
  ⟨s.complete, some (cs ++ s.current?.getD []), quoting⟩

/-- Ends the present word. -/
def close (s : Splitting) : Splitting :=
  ⟨s.current?.toList ++ s.complete, none, s.quoting⟩

/-- One character further, unless the shell acts on it. -/
def step (s : Splitting) (c : Char) : Option Splitting :=
  match s.quoting with
  | .bare =>
    if isWordEnd c then some s.close
    else if c = '\'' then some (s.add [] .single)
    else if c = '"' then some (s.add [] .double)
    else if c = '\\' then some { s with quoting := .backslash }
    else if actingChars.contains c then none
    else some (s.add [c] .bare)
  | .backslash => if c = '\n' then some { s with quoting := .bare } else some (s.add [c] .bare)
  | .single => if c = '\'' then some { s with quoting := .bare } else some (s.add [c] .single)
  | .double =>
    if c = '"' then some { s with quoting := .bare }
    else if c = '\\' then some { s with quoting := .doubleBackslash }
    else if c = '$' || c = '\x60' then none
    else some (s.add [c] .double)
  | .doubleBackslash =>
    if c = '\n' then some { s with quoting := .double }
    else if keptInDouble.contains c then some (s.add [c] .double)
    else some (s.add [c, '\\'] .double)

/-- A plain character goes into the present word, or begins one. -/
theorem step_plain {s : Splitting} (hbare : s.quoting = .bare) {c : Char}
    (hplain : isPlain c = true) : s.step c = some (s.add [c] .bare) := by
  simp only [step, hbare, isPlain_iff.mp hplain, if_false, Bool.false_eq_true]

/-- So does any character but a quote between single quotes. -/
theorem step_single {c : Char} (hquote : c ≠ '\'') (complete : List (List Char))
    (word : List Char) :
    step ⟨complete, some word, .single⟩ c = some ⟨complete, some (c :: word), .single⟩ := by
  simp only [step, hquote, if_false]
  rfl

/-- So does any character between double quotes that a backslash need not keep. -/
theorem step_double {c : Char} (hkept : keptInDouble.contains c = false)
    (complete : List (List Char)) (word : List Char) :
    step ⟨complete, some word, .double⟩ c = some ⟨complete, some (c :: word), .double⟩ := by
  simp only [keptInDouble, List.contains_cons, List.contains_nil, Bool.or_false,
    Bool.or_eq_false_iff, beq_eq_false_iff_ne] at hkept
  simp only [step, hkept, if_false, decide_false, Bool.or_self, Bool.false_eq_true]
  rfl

/-- A character that a shell acts on is not read outside of quotes. -/
theorem step_acting {s : Splitting} (hbare : s.quoting = .bare) {c : Char}
    (hacts : actingChars.contains c = true) : s.step c = none := by
  have hothers : actingChars.all
      (fun x => !isWordEnd x && x != '\'' && x != '"' && x != '\\') = true := rfl
  have hother := List.all_eq_true.mp hothers c (List.contains_iff_mem.mp hacts)
  simp only [Bool.and_eq_true, Bool.not_eq_true', bne_iff_ne] at hother
  simp only [step, hbare, hother, hacts, if_true, if_false, Bool.false_eq_true]

/-- The words, unless something is still quoted. -/
def finish (s : Splitting) : Option (List (List Char)) :=
  if s.quoting = .bare then some (s.close.complete.reverse.map List.reverse) else none

/-- What becomes of words in the making when so many characters are read. -/
def scan (s : Splitting) (cs : List Char) : Option Splitting := cs.foldlM step s

theorem scan_append (s : Splitting) (cs ds : List Char) :
    s.scan (cs ++ ds) = s.scan cs >>= fun s' => s'.scan ds :=
  List.foldlM_append

theorem scan_cons (s : Splitting) (c : Char) (cs : List Char) :
    s.scan (c :: cs) = s.step c >>= fun s' => s'.scan cs :=
  List.foldlM_cons

/-- The words when so many characters are all that is left. -/
def words? (s : Splitting) (cs : List Char) : Option (List (List Char)) := s.scan cs >>= finish

theorem words?_cons (s : Splitting) (c : Char) (cs : List Char) :
    s.words? (c :: cs) = s.step c >>= fun s' => s'.words? cs := by
  rw [words?, scan_cons]
  exact bind_assoc ..

/-- What is read in two parts ends where the second part does. -/
theorem words?_append {s s' : Splitting} {cs : List Char} (h : s.scan cs = some s')
    (ds : List Char) : s.words? (cs ++ ds) = s'.words? ds := by
  rw [words?, scan_append, h]
  rfl

end Splitting

/-- The words of a line, where a shell takes it for nothing but words. -/
def plainWords? (line : String) : Option (List String) := do
  return (← Splitting.words? {} line.toList).map String.ofList

end ClusterFixture.Shell
