/-
The process that is found for a data directory.

A listing of processes is searched for a directory, the lines that mention the search itself are
left out, and the second word of the last line that remains is the number. So what is found is the
last process whose line contains the directory and not the name of the search, which need not be the
one that serves the directory.
-/

import ClusterFixture.Operation.Hosts
import ClusterFixture.Proofs.Comparison
import ClusterFixture.Proofs.Counting
import ClusterFixture.Proofs.Lines
import ClusterFixture.Proofs.Running
import Mathlib.Data.List.Forall2
import Mathlib.Data.List.Nodup
import Mathlib.Data.List.TakeWhile
import Mathlib.Tactic.ByContra

set_option autoImplicit false

namespace ClusterFixture

/-! ## Blanks behind a text -/

namespace Text

/-- A text differs from another one by blanks behind it at most. -/
def Trims (shorter longer : List Char) : Prop :=
  ∃ blanks, (∀ c ∈ blanks, isBlank c = true) ∧ longer = shorter ++ blanks

theorem trims_dropReturn (line : List Char) : Trims (dropReturn line) line := by
  by_cases hreturn : line.getLast? = some '\r'
  · obtain ⟨start, rfl⟩ := List.getLast?_eq_some_iff.mp hreturn
    rw [dropReturn_append_return]
    exact ⟨['\r'], List.forall_mem_singleton.mpr rfl, rfl⟩
  · rw [dropReturn_of_getLast? hreturn]
    exact ⟨[], by simp, (List.append_nil _).symm⟩

theorem trims_trimEndChars (line : List Char) : Trims (trimEndChars line) line := by
  refine ⟨(line.reverse.takeWhile isBlank).reverse, fun c hc => ?_, ?_⟩
  · exact List.mem_takeWhile_imp (List.mem_reverse.mp hc)
  · rw [trimEndChars, ← List.reverse_append, List.takeWhile_append_dropWhile,
      List.reverse_reverse]

/-- Nothing is trimmed away but from what follows the last text that is not blank. -/
theorem trimEndChars_append {line : List Char} (hline : trimEndChars line ≠ [])
    (start : List Char) : trimEndChars (start ++ line) = start ++ trimEndChars line := by
  have hrest : (line.reverse.dropWhile isBlank).isEmpty = false := by
    simpa [trimEndChars] using hline
  rw [trimEndChars, List.reverse_append, List.dropWhile_append, hrest, if_neg (by simp),
    List.reverse_append, List.reverse_reverse, trimEndChars]

/-- Blanks behind a text make no difference when it is trimmed. -/
theorem Trims.trimEndChars_eq {shorter longer : List Char} (h : Trims shorter longer) :
    trimEndChars longer = trimEndChars shorter := by
  obtain ⟨blanks, hblanks, rfl⟩ := h
  rw [trimEndChars, List.reverse_append, List.dropWhile_append_of_pos (by simpa using hblanks)]
  rfl

theorem trimEndChars_append_feed (line : List Char) :
    trimEndChars (line ++ ['\n']) = trimEndChars line :=
  Trims.trimEndChars_eq ⟨['\n'], List.forall_mem_singleton.mpr rfl, rfl⟩

/-- A line begins with a character that is no blank. -/
def Begins (line : List Char) : Prop := ∃ c rest, line = c :: rest ∧ isBlank c = false

theorem Begins.append {line : List Char} (h : Begins line) (rest : List Char) :
    Begins (line ++ rest) := by
  obtain ⟨c, more, rfl, hc⟩ := h
  exact ⟨c, more ++ rest, rfl, hc⟩

theorem Begins.trimStartChars_append {line : List Char} (h : Begins line) (rest : List Char) :
    trimStartChars (line ++ rest) = line ++ rest := by
  obtain ⟨c, more, rfl, hc⟩ := h
  rw [List.cons_append, trimStartChars, List.dropWhile_cons_of_neg (by simp [hc])]

theorem Begins.trimEndChars_ne_nil {line : List Char} (h : Begins line) :
    trimEndChars line ≠ [] := by
  obtain ⟨c, more, rfl, hc⟩ := h
  intro hnil
  have hall := List.dropWhile_eq_nil_iff.mp (List.reverse_eq_nil_iff.mp hnil) c (by simp)
  rw [hc] at hall
  cases hall

/-! ## Lines of a trimmed text -/

theorem linesFrom_unlines_append {lines : List (List Char)} (hlines : ∀ line ∈ lines, '\n' ∉ line)
    (last : List Char) : linesFrom [] (unlines lines ++ last) =
      lines.map dropReturn ++ linesFrom [] last := by
  unfold unlines
  induction lines with
  | nil => rfl
  | cons line rest ih =>
    obtain ⟨hline, hrest⟩ := List.forall_mem_cons.mp hlines
    rw [List.flatMap_cons, List.append_assoc, List.append_assoc, List.singleton_append,
      linesFrom_append_feed hline, ih hrest, List.reverse_nil, List.nil_append, List.map_cons,
      List.cons_append]

/-- The lines that are read from a trimmed text are those that were written, but for blanks behind
them: the last line loses all of them, any other one a carriage return. -/
theorem forall₂_lineChars_trimChars {lines : List (List Char)}
    (hlines : ∀ line ∈ lines, '\n' ∉ line) (hbegin : ∀ line ∈ lines, Begins line) :
    List.Forall₂ Trims (lineChars (trimChars (unlines lines))) lines := by
  -- Only the last line can lose more than a carriage return.
  rcases List.eq_nil_or_concat' lines with rfl | ⟨first, last, rfl⟩
  · exact .nil
  have hlast : Begins last := hbegin last (by simp)
  have hstart : trimStartChars (unlines (first ++ [last])) = unlines (first ++ [last]) := by
    rcases first with _ | ⟨line, rest⟩
    · simpa [unlines] using hlast.trimStartChars_append ['\n']
    · rw [unlines, List.cons_append, List.flatMap_cons, List.append_assoc]
      exact (hbegin line (by simp)).trimStartChars_append _
  have hsplit : unlines (first ++ [last]) = unlines first ++ (last ++ ['\n']) := by
    simp [unlines]
  have htrim : trimChars (unlines (first ++ [last])) = unlines first ++ trimEndChars last := by
    rw [trimChars, hstart, hsplit, trimEndChars_append, trimEndChars_append_feed]
    rw [trimEndChars_append_feed]
    exact hlast.trimEndChars_ne_nil
  have hfeed : '\n' ∉ trimEndChars last := by
    obtain ⟨blanks, -, hblanks⟩ := trims_trimEndChars last
    intro hmem
    refine hlines last (by simp) ?_
    rw [hblanks]
    exact List.mem_append_left _ hmem
  rw [htrim, lineChars, linesFrom_unlines_append fun line hline => hlines line (by simp [hline]),
    linesFrom_of_unended hfeed [] (by simpa using hlast.trimEndChars_ne_nil)]
  refine List.rel_append ?_ (.cons (trims_trimEndChars last) .nil)
  rw [List.forall₂_map_left_iff]
  exact List.forall₂_same.mpr fun line _ => trims_dropReturn line

/-! ## What the blanks do not change -/

/-- A text that ends with no blank is found without the blanks. -/
theorem Trims.infix_iff {shorter longer p : List Char} (h : Trims shorter longer)
    {start : List Char} {c : Char} (hp : p = start ++ [c]) (hc : isBlank c = false) :
    p <:+: longer ↔ p <:+: shorter := by
  obtain ⟨blanks, hblanks, rfl⟩ := h
  constructor
  · rintro ⟨before, after, hfound⟩
    rcases List.append_eq_append_iff.mp hfound with ⟨more, hmore, -⟩ | ⟨more, hmore, hafter⟩
    · exact ⟨before, more, hmore.symm⟩
    · -- What the text has among the blanks would have to end with its last character.
      rcases List.eq_nil_or_concat' more with rfl | ⟨front, d, rfl⟩
      · exact ⟨before, [], by simpa using hmore⟩
      · rw [hp, ← List.append_assoc, ← List.append_assoc] at hmore
        have hlast := (List.append_inj' hmore rfl).2
        have hblank := hblanks d (by rw [hafter]; simp)
        rw [← List.singleton_inj.mp hlast, hc] at hblank
        cases hblank
  · rintro ⟨before, after, rfl⟩
    exact ⟨before, after ++ blanks, by simp⟩

theorem wordsFrom_blanks {blanks : List Char} (h : ∀ c ∈ blanks, isBlank c = true)
    (rest : List Char) : wordsFrom [] (blanks ++ rest) = wordsFrom [] rest := by
  induction blanks with
  | nil => rfl
  | cons c more ih =>
    obtain ⟨hc, hmore⟩ := List.forall_mem_cons.mp h
    rw [List.cons_append, wordsFrom, if_pos hc, if_pos List.isEmpty_nil, ih hmore]

theorem wordsFrom_of_blanks {blanks : List Char} (h : ∀ c ∈ blanks, isBlank c = true) :
    wordsFrom [] blanks = [] := by
  rw [← List.append_nil blanks, wordsFrom_blanks h]
  rfl

theorem wordsFrom_word {word : List Char} (h : ∀ c ∈ word, isBlank c = false)
    (before rest : List Char) :
    wordsFrom before (word ++ rest) = wordsFrom (word.reverse ++ before) rest := by
  induction word generalizing before with
  | nil => rfl
  | cons c more ih =>
    obtain ⟨hc, hmore⟩ := List.forall_mem_cons.mp h
    rw [List.cons_append, wordsFrom, if_neg (by simp [hc]), ih hmore, List.reverse_cons,
      List.append_assoc, List.singleton_append]

/-- A word ends at a blank. -/
theorem wordsFrom_word_blank {word : List Char} (hne : word ≠ [])
    (hword : ∀ c ∈ word, isBlank c = false) {blank : Char} (hblank : isBlank blank = true)
    (rest : List Char) :
    wordsFrom [] (word ++ blank :: rest) = word :: wordsFrom [] rest := by
  rw [wordsFrom_word hword, List.append_nil, wordsFrom, if_pos hblank, if_neg (by simpa using hne),
    List.reverse_reverse]

/-- Blanks behind a text are no words. -/
theorem Trims.wordsFrom_eq {shorter longer : List Char} (h : Trims shorter longer)
    (before : List Char) : wordsFrom before longer = wordsFrom before shorter := by
  obtain ⟨blanks, hblanks, rfl⟩ := h
  fun_induction wordsFrom before shorter with
  | case1 before hempty =>
    rw [List.isEmpty_iff.mp hempty, List.nil_append, wordsFrom_of_blanks hblanks]
  | case2 before hne =>
    rcases blanks with _ | ⟨c, more⟩
    · rw [List.nil_append, wordsFrom, if_neg hne]
    · obtain ⟨hc, hmore⟩ := List.forall_mem_cons.mp hblanks
      rw [List.nil_append, wordsFrom, if_pos hc, if_neg hne, wordsFrom_of_blanks hmore]
  | case3 before c rest hc hempty ih =>
    rw [List.cons_append, wordsFrom, if_pos hc, if_pos hempty, ih]
  | case4 before c rest hc hne ih => rw [List.cons_append, wordsFrom, if_pos hc, if_neg hne, ih]
  | case5 before c rest hc ih => rw [List.cons_append, wordsFrom, if_neg hc, ih]

end Text

/-! ## Processes -/

/-- A process, as a line of a listing tells it. -/
structure Process where
  owner : String
  /-- The blanks behind the owner. -/
  gap : String
  pid : Nat
  /-- The columns between the number and the command. -/
  columns : String
  /-- The command with its arguments. -/
  arguments : List String
  deriving DecidableEq, Repr

namespace Process

/-- The line of a process. -/
def line (p : Process) : String :=
  p.owner ++ (p.gap ++ (p.pid.repr ++ (" " ++ (p.columns ++
    (" " ++ Text.joinWith " " p.arguments)))))

/-- The line is one line that begins with the owner and a number of the system. -/
structure IsListed (p : Process) : Prop where
  owned : p.owner ≠ ""
  owner : ∀ c ∈ p.owner.toList, Text.isBlank c = false
  apart : p.gap ≠ ""
  gap : ∀ c ∈ p.gap.toList, Text.isBlank c = true
  pid : (Number.unsignedRange 32).holds p.pid = true
  single : '\n' ∉ p.line.toList

/-- A process serves a data directory: its arguments name the directory, and it is no search. -/
def Serves (p : Process) (directory : String) : Prop :=
  ["-D", directory] <:+: p.arguments ∧ p.arguments.head?.bind Path.fileName? ≠ some "grep"

instance (p : Process) (directory : String) : Decidable (p.Serves directory) :=
  inferInstanceAs (Decidable (_ ∧ _))

/-- The line of a process contains a text. -/
def Mentions (p : Process) (text : String) : Prop := Text.contains p.line text = true

instance (p : Process) (text : String) : Decidable (p.Mentions text) :=
  inferInstanceAs (Decidable (_ = _))

/-- The line of a process contains each of its arguments. -/
theorem mentions_of_mem {p : Process} {argument : String} (h : argument ∈ p.arguments) :
    p.Mentions argument := by
  have hjoined : ∀ {texts : List String}, argument ∈ texts →
      argument.toList <:+: (Text.joinWith " " texts).toList := by
    intro texts hmem
    fun_induction Text.joinWith " " texts with
    | case1 => cases hmem
    | case2 text =>
      cases List.mem_singleton.mp hmem
      exact List.infix_rfl
    | case3 text rest _ ih =>
      rw [String.toList_append, String.toList_append]
      rcases List.mem_cons.mp hmem with rfl | hrest
      · rw [List.append_assoc]
        exact (List.prefix_append _ _).isInfix
      · exact (ih hrest).trans (List.suffix_append _ _).isInfix
  rw [Mentions, Text.contains, Text.occursIn_iff, line]
  simp only [String.toList_append, ← List.append_assoc]
  exact (hjoined h).trans (List.suffix_append _ _).isInfix

theorem Serves.mentions {p : Process} {directory : String} (h : p.Serves directory) :
    p.Mentions directory :=
  mentions_of_mem (h.1.subset (by simp))

theorem IsListed.begins {p : Process} (h : p.IsListed) : Text.Begins p.line.toList := by
  have howner : Text.Begins p.owner.toList := by
    rcases hchars : p.owner.toList with _ | ⟨c, rest⟩
    · exact absurd (String.toList_eq_nil_iff.mp hchars) h.owned
    · exact ⟨c, rest, rfl, h.owner c (by simp [hchars])⟩
  rw [line, String.toList_append]
  exact howner.append _

/-- The second word of the line of a process is its number, whatever blanks are gone behind it. -/
theorem IsListed.second_word {p : Process} (h : p.IsListed) {cs : List Char}
    (hcs : Text.Trims cs p.line.toList) :
    (Text.words (String.ofList cs))[1]? = some p.pid.repr := by
  have hdigits : ∀ c ∈ p.pid.repr.toList, Text.isBlank c = false :=
    fun _ hc => Text.isBlank_of_mem_repr hc
  have hne : p.pid.repr.toList ≠ [] := by
    rw [Nat.toList_repr]
    exact Nat.toDigits_ne_nil
  have hwords : Text.wordsFrom [] cs = p.owner.toList :: p.pid.repr.toList ::
      Text.wordsFrom [] (p.columns ++ (" " ++ Text.joinWith " " p.arguments)).toList := by
    rw [← hcs.wordsFrom_eq]
    rcases hgap : p.gap.toList with _ | ⟨b, more⟩
    · exact absurd (String.toList_eq_nil_iff.mp hgap) h.apart
    · obtain ⟨hb, hmore⟩ := List.forall_mem_cons.mp (hgap ▸ h.gap)
      rw [line, String.toList_append, String.toList_append, hgap, List.cons_append,
        Text.wordsFrom_word_blank (by simpa using h.owned) h.owner hb, Text.wordsFrom_blanks hmore,
        String.toList_append, String.toList_append]
      exact congrArg _ (Text.wordsFrom_word_blank hne hdigits (by decide) _)
  rw [Text.words, String.toList_ofList, hwords, List.map_cons, List.map_cons, String.ofList_toList,
    String.ofList_toList]
  rfl

/-- Blanks that are gone behind a line do not hide the name of the search. -/
theorem contains_grep_iff {p : Process} {cs : List Char} (hcs : Text.Trims cs p.line.toList) :
    Text.contains (String.ofList cs) "grep" = true ↔ p.Mentions "grep" := by
  have hgrep : "grep".toList = ['g', 'r', 'e'] ++ ['p'] := by decide
  have hchars : (String.ofList cs).toList = cs := String.toList_ofList
  rw [Mentions, Text.contains, Text.contains, Text.occursIn_iff, Text.occursIn_iff, hchars]
  exact (hcs.infix_iff hgrep (by decide)).symm

end Process

namespace Op

variable {σ : Type}

/-! ## What is found -/

/-- The lines of a listing that contain a directory. -/
def matching (directory : String) (processes : List Process) : String :=
  Text.endedLines ((processes.filter fun q => q.Mentions directory).map Process.line)

/-- The processes whose lines contain a directory and not the name of the search. -/
def survivors (directory : String) (processes : List Process) : List Process :=
  processes.filter fun q => q.Mentions directory ∧ ¬q.Mentions "grep"

/-- The numbers of the processes whose lines do not contain the name of the search stand in the
lines that are read from the listing. -/
theorem numbers_of_lines {lines : List (List Char)} {processes : List Process}
    (h : List.Forall₂ (fun line (q : Process) => Text.Trims line q.line.toList) lines processes)
    (hlisted : ∀ q ∈ processes, q.IsListed) :
    (((lines.map String.ofList).filter fun line => !Text.contains line "grep").filterMap
      fun line => (Text.words line)[1]?) =
      (processes.filter fun q => ¬q.Mentions "grep").map fun q => q.pid.repr := by
  induction h with
  | nil => rfl
  | @cons line q _ rest hline _ ih =>
    obtain ⟨hq, hrest⟩ := List.forall_mem_cons.mp hlisted
    by_cases hgrep : q.Mentions "grep"
    · have hcontains := (Process.contains_grep_iff hline).mpr hgrep
      rw [List.map_cons, List.filter_cons_of_neg (by simp [hcontains]),
        List.filter_cons_of_neg (by simp [hgrep]), ih hrest]
    · have hcontains : Text.contains (String.ofList line) "grep" = false := by
        rw [Bool.eq_false_iff]
        exact fun h => hgrep ((Process.contains_grep_iff hline).mp h)
      rw [List.map_cons, List.filter_cons_of_pos (by simp [hcontains]),
        List.filter_cons_of_pos (by simp [hgrep]), List.filterMap_cons, hq.second_word hline,
        List.map_cons, ih hrest]

/-- The number that is found is that of the last process whose line contains the directory and not
the name of the search. -/
theorem listedPid?_matching (directory : String) {processes : List Process}
    (hlisted : ∀ q ∈ processes, q.IsListed) :
    listedPid? (matching directory processes) =
      ((survivors directory processes).getLast?).map fun q => q.pid.repr := by
  have hmatching : ∀ q ∈ processes.filter fun q => q.Mentions directory, q.IsListed :=
    fun q hq => hlisted q (List.mem_of_mem_filter hq)
  have htrimmed : List.Forall₂ (fun line (q : Process) => Text.Trims line q.line.toList)
      (Text.lineChars (Text.trim (matching directory processes)).toList)
      (processes.filter fun q => q.Mentions directory) := by
    rw [Text.toList_trim, matching, Text.toList_endedLines, List.map_map,
      ← List.forall₂_map_right_iff]
    refine Text.forall₂_lineChars_trimChars ?_ ?_
    · intro line hline
      obtain ⟨q, hq, rfl⟩ := List.mem_map.mp hline
      exact (hmatching q hq).single
    · intro line hline
      obtain ⟨q, hq, rfl⟩ := List.mem_map.mp hline
      exact (hmatching q hq).begins
  have hsurvivors : (processes.filter fun q => q.Mentions directory).filter
      (fun q => ¬q.Mentions "grep") = survivors directory processes := by
    rw [List.filter_filter, survivors]
    refine List.filter_congr fun q _ => ?_
    rw [Bool.decide_and, Bool.and_comm]
  rw [listedPid?, Text.lines, numbers_of_lines htrimmed hmatching, hsurvivors, List.getLast?_map]

/-- The command that searches the listing of a host for a directory. -/
def searching (directory host : String) : Command where
  name := "get list of postmaster processes"
  line := "ps -eaf | grep " ++ directory
  host := some host

/-- What comes of the search in a state. -/
def searched (site : Site σ) (directory host : String) (state : σ × FileTree) :
    Checked CommandOutput × (σ × FileTree) :=
  (site.services.run (searching directory host)).run state

/-- The search is one command, and the last process that survives it is the answer. -/
theorem went_segmentPid {site : Site σ} {w : World σ} {directory host stderr : String}
    {processes : List Process} (hlisted : ∀ q ∈ processes, q.IsListed)
    (hanswer : (searched site directory host (w.server, w.files)).1 =
      .ok ⟨0, matching directory processes, stderr⟩) :
    ∃ w', runAt (segmentPid directory host) site w =
        (.ok ((survivors directory processes).getLast?.map Process.pid), w') ∧
      Went w [.run (searching directory host)]
        (searched site directory host (w.server, w.files)).2 w' := by
  obtain ⟨w', hrun, hwent⟩ := went_run (searching directory host) site w
  rw [← searched, hanswer] at hrun
  have houtput : runAt (run (searching directory host)) site w =
      (.ok ⟨0, matching directory processes, stderr⟩, w') := hrun
  refine ⟨w', ?_, hwent⟩
  rw [segmentPid, ← searching, runAt_bind_ok houtput]
  simp only [listedPid?_matching directory hlisted]
  rcases hlast : (survivors directory processes).getLast? with _ | q
  · rfl
  · have hq : q.IsListed := hlisted q (List.mem_of_mem_filter (List.mem_of_getLast? hlast))
    have hhigh : ((q.pid : Nat) : Int) ≤ (Number.unsignedRange 32).high :=
      ((Number.IntRange.holds_iff _ _).mp hq.pid).2
    simp only [Option.map_some, Number.readInteger_repr _ q.pid (by decide) hhigh]
    rfl

/-- A process is the last survivor of a search exactly when it survives and no process behind it
does. -/
theorem getLast?_survivors_iff {directory : String} {before after : List Process} {p : Process}
    (hmentions : p.Mentions directory) (hpids : ((before ++ p :: after).map Process.pid).Nodup) :
    (survivors directory (before ++ p :: after)).getLast?.map Process.pid = some p.pid ↔
      ¬p.Mentions "grep" ∧ ∀ q ∈ after, q.Mentions directory → q.Mentions "grep" := by
  have hafter : survivors directory after = [] ↔
      ∀ q ∈ after, q.Mentions directory → q.Mentions "grep" := by
    simp [survivors]
  rw [← hafter]
  constructor
  · intro hlast
    obtain ⟨q, hq, hpid⟩ := Option.map_eq_some_iff.mp hlast
    -- Numbers are distinct, so the last survivor is the process itself.
    have hmem := List.mem_of_getLast? hq
    have hsame : q = p :=
      List.inj_on_of_nodup_map hpids (List.mem_of_mem_filter hmem) (by simp) hpid
    subst hsame
    have hsurvives := (List.mem_filter.mp hmem).2
    refine ⟨(of_decide_eq_true hsurvives).2, ?_⟩
    -- A survivor behind the process would be the last one, and the process would stand twice.
    by_contra hne
    obtain ⟨r, hr⟩ := Option.isSome_iff_exists.mp (List.getLast?_isSome.mpr hne)
    have hsplit : survivors directory (before ++ q :: after) =
        survivors directory (before ++ [q]) ++ survivors directory after := by
      rw [survivors, survivors, survivors, ← List.filter_append, List.append_assoc,
        List.singleton_append]
    rw [hsplit, List.getLast?_append, hr, Option.some_or] at hq
    cases hq
    have hbehind : q ∈ after := List.mem_of_mem_filter (List.mem_of_getLast? hr)
    rw [List.map_append, List.map_cons] at hpids
    have hfresh := (List.nodup_cons.mp (List.nodup_append.mp hpids).2.1).1
    exact hfresh (List.mem_map_of_mem hbehind)
  · rintro ⟨hgrep, hnone⟩
    have hsplit :
        survivors directory (before ++ p :: after) = survivors directory before ++ [p] := by
      rw [survivors, List.filter_append, List.filter_cons_of_pos (by simp [hmentions, hgrep]),
        ← survivors, ← survivors, hnone]
    rw [hsplit, List.getLast?_concat]
    rfl

/-- Of a listing in which the lines of a directory are searched, the last process is found whose
line contains the directory and not the name of the search. For a process that serves the directory
this is the one exactly when its line does not contain that name and no line behind it survives; it
is not enough that no other process serves the directory. -/
theorem segmentPid_finds_iff {site : Site σ} {w : World σ} {directory host stderr : String}
    {before after : List Process} {p : Process}
    (hlisted : ∀ q ∈ before ++ p :: after, q.IsListed)
    (hpids : ((before ++ p :: after).map Process.pid).Nodup) (hserves : p.Serves directory)
    (hanswer : (searched site directory host (w.server, w.files)).1 =
      .ok ⟨0, matching directory (before ++ p :: after), stderr⟩) :
    let found := runAt (segmentPid directory host) site w
    Went w [.run (searching directory host)]
        (searched site directory host (w.server, w.files)).2 found.2 ∧
      found.1 = .ok ((survivors directory (before ++ p :: after)).getLast?.map Process.pid) ∧
      (found.1 = .ok (some p.pid) ↔
        ¬p.Mentions "grep" ∧ ∀ q ∈ after, q.Mentions directory → q.Mentions "grep") := by
  intro found
  obtain ⟨w', hrun, hwent⟩ := went_segmentPid hlisted hanswer
  have hfound : found = _ := hrun
  rw [hfound]
  refine ⟨hwent, rfl, ?_⟩
  rw [← getLast?_survivors_iff hserves.mentions hpids]
  exact ⟨Except.ok.inj, congrArg Except.ok⟩

/-! ## Two directories, one of which begins as the other -/

/-- The server of a segment. -/
def segmentServer (pid : Nat) (directory : String) : Process where
  owner := "gpadmin"
  gap := "  "
  pid := pid
  columns := "    1  0 10:00 ?  00:00:01"
  arguments := ["/usr/local/gpdb/bin/postgres", "-D", directory]

theorem isListed_segmentServer {pid : Nat} {directory : String}
    (hpid : (Number.unsignedRange 32).holds pid = true) (hdirectory : '\n' ∉ directory.toList) :
    (segmentServer pid directory).IsListed := by
  have hblank : "gpadmin".toList.all (fun c => Text.isBlank c == false) = true ∧
      "  ".toList.all Text.isBlank = true := by
    decide
  refine ⟨by simp [segmentServer], fun c hc => eq_of_beq (List.all_eq_true.mp hblank.1 c hc),
    by simp [segmentServer], List.all_eq_true.mp hblank.2, hpid, ?_⟩
  have hdigits : '\n' ∉ pid.repr.toList := by
    intro hfeed
    have hblank := Text.isBlank_of_mem_repr hfeed
    cases hblank
  have howner : '\n' ∉ ("gpadmin" ++ "  ").toList := by decide
  have hcolumns : '\n' ∉ (" " ++ "    1  0 10:00 ?  00:00:01" ++ " ").toList := by decide
  have hcommand : '\n' ∉ ("/usr/local/gpdb/bin/postgres" ++ " " ++ "-D" ++ " ").toList := by decide
  simp only [String.toList_append, List.mem_append, not_or] at howner hcolumns hcommand
  simp only [Process.line, segmentServer, Text.joinWith, String.toList_append, List.mem_append,
    not_or]
  exact ⟨howner.1, howner.2, hdigits, hcolumns.1.1, hcolumns.1.2, hcolumns.2, ⟨hcommand.1.1.1,
    hcommand.1.1.2⟩, ⟨hcommand.1.2, hcommand.2⟩, hdirectory⟩

/-- The server of the first segment. -/
def firstServer : Process := segmentServer 4242 "/data/primary/gpseg1"

/-- The server of the tenth segment. -/
def tenthServer : Process := segmentServer 4343 "/data/primary/gpseg10"

theorem isListed_firstServer : firstServer.IsListed :=
  isListed_segmentServer (by decide) (by decide)

theorem isListed_tenthServer : tenthServer.IsListed :=
  isListed_segmentServer (by decide) (by decide)

/-- A host whose searches for the first segment find what a listing of processes has of it. -/
def searchedHost (processes : List Process) : Services Unit where
  query _ _ := fun state => (.error (.plain .queryFailed "no server"), state)
  execute _ _ := fun state => (.error (.plain .queryFailed "no server"), state)
  run _ := fun state => (.ok ⟨0, matching "/data/primary/gpseg1" processes, ""⟩, state)

/-- The search on a host with these processes. -/
def searchFor (processes : List Process) : Checked (Option Nat) :=
  (runAt (segmentPid "/data/primary/gpseg1" "sdw1") (dataSite (searchedHost processes))
    ⟨(), ⟨[]⟩, [], []⟩).1

theorem searched_searchedHost (processes : List Process) (w : World Unit) :
    (searched (dataSite (searchedHost processes)) "/data/primary/gpseg1" "sdw1"
      (w.server, w.files)).1 = .ok ⟨0, matching "/data/primary/gpseg1" processes, ""⟩ := rfl

theorem not_mentions_firstServer : ¬firstServer.Mentions "grep" := by
  decide +kernel

/-- The first segment is found behind the tenth. -/
theorem segmentPid_finds_last :
    searchFor ([tenthServer] ++ firstServer :: []) = .ok (some firstServer.pid) := by
  have hfinds := segmentPid_finds_iff (by simp [isListed_firstServer, isListed_tenthServer])
    (by decide) (by decide)
    (searched_searchedHost ([tenthServer] ++ firstServer :: []) ⟨(), ⟨[]⟩, [], []⟩)
  rw [searchFor]
  exact hfinds.2.2.mpr ⟨not_mentions_firstServer, by simp⟩

/-- The tenth segment is found instead of the first when it is listed behind it, although it does
not serve the directory of the first. -/
theorem segmentPid_finds_other :
    firstServer.Serves "/data/primary/gpseg1" ∧ ¬tenthServer.Serves "/data/primary/gpseg1" ∧
      searchFor [firstServer, tenthServer] = .ok (some tenthServer.pid) ∧
      tenthServer.pid ≠ firstServer.pid := by
  refine ⟨by decide, by decide, ?_, by decide⟩
  obtain ⟨w', hrun, -⟩ := went_segmentPid
    (by simp [isListed_firstServer, isListed_tenthServer])
    (searched_searchedHost [firstServer, tenthServer] ⟨(), ⟨[]⟩, [], []⟩)
  have hsurvivors : survivors "/data/primary/gpseg1" [firstServer, tenthServer] =
      [firstServer, tenthServer] := by
    decide +kernel
  rw [searchFor, hrun, hsurvivors]
  rfl

end Op

end ClusterFixture
