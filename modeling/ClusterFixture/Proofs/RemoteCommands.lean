/-
What a line for another host becomes in the shell that starts it.

The line is handed to a utility on this host, as one argument between single quotes, in a line for
the shell of this host. Quotes hold any text but one with a quote in it. So the utility is started
with its four other words and this argument exactly when none of the three texts that the argument
is made of has a quote. Otherwise the shell takes quotes of the text for its own, and what the
utility gets lacks at least one character: a character read adds at most one to the words, and the
two quotes around the argument and the one inside of it add none.
-/

import ClusterFixture.Operation.Server
import ClusterFixture.Proofs.PlainWords
import ClusterFixture.Proofs.Running
import ClusterFixture.Proofs.Transfers
import ClusterFixture.Shell.Quoting
import Mathlib.Tactic.SplitIfs

set_option autoImplicit false

namespace ClusterFixture

namespace Shell

namespace Splitting

/-! ## Reading in parts -/

theorem add_add (s : Splitting) (cs ds : List Char) (quoting quoting' : Quoting) :
    (s.add cs quoting).add ds quoting' = s.add (ds ++ cs) quoting' := by
  simp only [add, Option.getD_some, List.append_assoc]

/-- Some plain characters make a word, or go on with one. -/
theorem scan_plain {cs : List Char} (hne : cs ≠ []) (hplain : ∀ c ∈ cs, isPlain c = true)
    {s : Splitting} (hbare : s.quoting = .bare) :
    s.scan cs = some (s.add cs.reverse .bare) := by
  induction cs generalizing s with
  | nil => exact absurd rfl hne
  | cons c cs ih =>
    obtain ⟨hc, hcs⟩ := List.forall_mem_cons.mp hplain
    have hcons : s.scan (c :: cs) = (s.add [c] .bare).scan cs := by
      rw [scan_cons, step_plain hbare hc]
      rfl
    rw [hcons]
    by_cases hmore : cs = []
    · subst hmore
      rfl
    · rw [ih hmore hcs rfl, add_add, List.reverse_cons]

/-- Between two words they begin the next one. -/
theorem scan_word {cs : List Char} (hne : cs ≠ []) (hplain : ∀ c ∈ cs, isPlain c = true)
    (complete : List (List Char)) :
    scan ⟨complete, none, .bare⟩ cs = some ⟨complete, some cs.reverse, .bare⟩ := by
  rw [scan_plain hne hplain rfl, add, Option.getD_none, List.append_nil]

/-- A word of plain characters is complete at a blank. -/
theorem words?_plain_blank {word : List Char} (hne : word ≠ [])
    (hplain : ∀ c ∈ word, isPlain c = true) (complete : List (List Char)) (rest : List Char) :
    words? ⟨complete, none, .bare⟩ (word ++ ' ' :: rest) =
      words? ⟨word.reverse :: complete, none, .bare⟩ rest := by
  rw [words?_append (scan_word hne hplain complete), words?_cons]
  rfl

/-- So it is at the end. -/
theorem words?_plain {word : List Char} (hne : word ≠ []) (hplain : ∀ c ∈ word, isPlain c = true)
    (complete : List (List Char)) :
    words? ⟨complete, none, .bare⟩ word =
      some ((word.reverse :: complete).reverse.map List.reverse) := by
  rw [words?, scan_word hne hplain]
  rfl

/-- Between single quotes all characters but a quote go into the present word. -/
theorem scan_single {cs : List Char} (hquote : '\'' ∉ cs) (done : List (List Char))
    (word : List Char) :
    scan ⟨done, some word, .single⟩ cs = some ⟨done, some (cs.reverse ++ word), .single⟩ := by
  induction cs generalizing word with
  | nil => rfl
  | cons c cs ih =>
    obtain ⟨hc, hcs⟩ := List.ne_and_not_mem_of_not_mem_cons hquote
    rw [scan_cons, step_single (Ne.symm hc)]
    simpa using ih hcs (c :: word)

/-! ## How much the words can hold -/

/-- How many characters the words have. -/
def size (s : Splitting) : Nat :=
  s.complete.flatten.length + (s.current?.getD []).length

@[simp] theorem size_add (s : Splitting) (cs : List Char) (quoting : Quoting) :
    (s.add cs quoting).size = cs.length + s.size := by
  simp only [size, add, Option.getD_some, List.length_append]
  omega

@[simp] theorem size_close (s : Splitting) : s.close.size = s.size := by
  rcases s with ⟨done, _ | word, quoting⟩
  · rfl
  · simp only [size, close, Option.toList_some, List.singleton_append, List.flatten_cons,
      List.length_append, Option.getD_none, Option.getD_some, List.length_nil]
    omega

@[simp] theorem size_quoting (s : Splitting) (quoting : Quoting) :
    size { s with quoting } = s.size := rfl

@[simp] theorem quoting_add (s : Splitting) (cs : List Char) (quoting : Quoting) :
    (s.add cs quoting).quoting = quoting := rfl

@[simp] theorem quoting_close (s : Splitting) : s.close.quoting = s.quoting := rfl

/-- How many characters a quoting has been paid for by characters that did not add any. -/
def slack : Quoting → Nat
  | .bare => 0
  | .backslash | .single | .double => 1
  | .doubleBackslash => 2

/-- The words together have as many characters as were kept. -/
theorem length_of_finish {s : Splitting} {words : List (List Char)} (h : s.finish = some words) :
    s.quoting = .bare ∧ words.flatten.length = s.size := by
  unfold finish at h
  split at h
  case isTrue hbare =>
    refine ⟨hbare, ?_⟩
    obtain rfl := Option.some.inj h
    rw [← size_close s, size, List.map_reverse, ← List.reverse_flatten, List.length_reverse]
    rfl
  case isFalse => cases h

/-- A character adds at most one to what the words have and may yet get. -/
theorem step_le {s s' : Splitting} {c : Char} (h : s.step c = some s') :
    s'.size + slack s'.quoting ≤ s.size + slack s.quoting + 1 := by
  unfold step at h
  -- a turn keeps the character or lets a quoting have it, and may set free what a quoting had
  split at h <;> rename_i hquoting <;> split_ifs at h <;> obtain rfl := Option.some.inj h <;>
    simp [hquoting, slack] <;> omega

/-- So many characters add at most as many. -/
theorem scan_le {s s' : Splitting} {cs : List Char} (h : s.scan cs = some s') :
    s'.size + slack s'.quoting ≤ s.size + slack s.quoting + cs.length := by
  induction cs generalizing s with
  | nil =>
    obtain rfl := Option.some.inj h
    exact Nat.le_refl _
  | cons c cs ih =>
    rw [scan_cons] at h
    obtain ⟨t, hstep, hscan⟩ := Option.bind_eq_some_iff.mp h
    have hfirst := step_le hstep
    have hrest := ih hscan
    rw [List.length_cons]
    omega

/-- A quote at which all quoting ends adds nothing. -/
theorem size_of_step_quote {s s' : Splitting} (h : s.step '\'' = some s')
    (hbare : s'.quoting = .bare) : s'.size ≤ s.size + slack s.quoting := by
  rcases s with ⟨done, word, quoting⟩
  cases quoting with
  | bare | double | doubleBackslash =>
    obtain rfl := Option.some.inj h
    cases hbare
  | backslash =>
    obtain rfl := Option.some.inj h
    exact Nat.le_of_eq ((size_add _ _ _).trans (Nat.add_comm _ _))
  | single =>
    obtain rfl := Option.some.inj h
    exact Nat.le_add_right _ _

/-- What is read up to a quote at the end adds at most as many characters as stand before it. -/
theorem length_of_words?_quote {s : Splitting} {cs : List Char} {words : List (List Char)}
    (h : s.words? (cs ++ ['\'']) = some words) :
    words.flatten.length ≤ s.size + slack s.quoting + cs.length := by
  obtain ⟨t, hscan, hwords⟩ := Option.bind_eq_some_iff.mp h
  rw [scan_append] at hscan
  obtain ⟨s', hbefore, hlast⟩ := Option.bind_eq_some_iff.mp hscan
  rw [scan_cons] at hlast
  obtain ⟨t', hstep, hdone⟩ := Option.bind_eq_some_iff.mp hlast
  obtain rfl : t' = t := Option.some.inj hdone
  obtain ⟨hbare, hsum⟩ := length_of_finish hwords
  have hclosed := size_of_step_quote hstep hbare
  have hread := scan_le hbefore
  omega

end Splitting

/-! ## A text between quotes -/

/-- A name of a host that no shell does anything with. -/
def IsHostName (host : String) : Prop := host ≠ "" ∧ host.toList.all isPlain = true

instance (host : String) : Decidable (IsHostName host) := inferInstanceAs (Decidable (_ ∧ _))

/-- The line that hands a text to another host. -/
def quotedLine (host text : String) : String := "gpssh -h " ++ host ++ " -e '" ++ text ++ "'"

/-- The words that it is meant to be, the last first. -/
def opened (host : String) : List (List Char) :=
  ["-e".toList.reverse, host.toList.reverse, "-h".toList.reverse, "gpssh".toList.reverse]

theorem size_opened (host : String) (word : List Char) :
    Splitting.size ⟨opened host, some word, .bare⟩ = 9 + host.length + word.length := by
  simp only [Splitting.size, opened, List.flatten_cons, List.flatten_nil, List.length_append,
    List.length_reverse, String.length_toList, Option.getD_some]
  change 2 + (host.length + (2 + (5 + 0))) + word.length = _
  omega

theorem toList_quotedLine (host text : String) :
    (quotedLine host text).toList =
      "gpssh -h ".toList ++ (host.toList ++ (" -e '".toList ++ (text.toList ++ ['\'']))) := by
  simp only [quotedLine, String.toList_append, List.append_assoc]
  rfl

/-- Behind the first quote all words but the last are complete. -/
theorem words?_quotedLine {host : String} (h : IsHostName host) (text : String) :
    Splitting.words? {} (quotedLine host text).toList =
      Splitting.words? ⟨opened host, some [], .single⟩ (text.toList ++ ['\'']) := by
  have hne : host.toList ≠ [] := fun hnil => h.1 (String.toList_eq_nil_iff.mp hnil)
  have hutility : Splitting.scan {} "gpssh -h ".toList =
      some ⟨["-h".toList.reverse, "gpssh".toList.reverse], none, .bare⟩ := rfl
  have hhost : Splitting.scan ⟨["-h".toList.reverse, "gpssh".toList.reverse], none, .bare⟩
      host.toList =
      some ⟨["-h".toList.reverse, "gpssh".toList.reverse], some host.toList.reverse, .bare⟩ :=
    Splitting.scan_word hne (List.all_eq_true.mp h.2) _
  have hquote : Splitting.scan
      ⟨["-h".toList.reverse, "gpssh".toList.reverse], some host.toList.reverse, .bare⟩
      " -e '".toList = some ⟨opened host, some [], .single⟩ := rfl
  rw [toList_quotedLine, Splitting.words?_append hutility, Splitting.words?_append hhost,
    Splitting.words?_append hquote]

/-- A text without a quote is handed on as it is. -/
theorem plainWords?_quotedLine {host text : String} (h : IsHostName host)
    (hquote : '\'' ∉ text.toList) :
    plainWords? (quotedLine host text) = some ["gpssh", "-h", host, "-e", text] := by
  have hwords : Splitting.words? {} (quotedLine host text).toList =
      some ((text.toList.reverse :: opened host).reverse.map List.reverse) := by
    rw [words?_quotedLine h, Splitting.words?_append (Splitting.scan_single hquote _ _),
      List.append_nil]
    rfl
  rw [plainWords?, hwords]
  simp [opened]

/-- A shell finds one command in a line, with these words, whatever its variables are. -/
def Starts (line : String) (words : List String) : Prop :=
  ∃ ws : List Word, chains line = [⟨.always, [{ words := ws }]⟩] ∧
    ∀ (s : Setting) (last : Nat), ws.flatMap (s.fields last) = words

/-- The shell then starts one command, with the text as its last argument. -/
theorem starts_quotedLine {host text : String} (h : IsHostName host)
    (hquote : '\'' ∉ text.toList) :
    Starts (quotedLine host text) ["gpssh", "-h", host, "-e", text] := by
  obtain ⟨ws, hchains, hfields⟩ := chains_of_plainWords? (plainWords?_quotedLine h hquote)
  have hsome : ws ≠ [] := by
    rintro rfl
    exact absurd (hfields ⟨[], "/", "bash", "0"⟩ 0) (by simp)
  refine ⟨ws, by rw [hchains, if_neg hsome], fun s last => ?_⟩
  rw [List.flatMap, hfields]
  rfl

/-- What a text with a quote in it becomes lacks a character. -/
theorem length_of_plainWords?_quotedLine {host text : String} (h : IsHostName host)
    (hquote : '\'' ∈ text.toList) {words : List String}
    (hwords : plainWords? (quotedLine host text) = some words) :
    (words.flatMap String.toList).length <
      (["gpssh", "-h", host, "-e", text].flatMap String.toList).length := by
  obtain ⟨before, after, htext, hfirst⟩ := List.eq_append_cons_of_mem hquote
  obtain ⟨texts, htexts, hmap⟩ := Option.bind_eq_some_iff.mp hwords
  -- the text ends the quoting at its first quote
  have hended : Splitting.scan ⟨opened host, some [], .single⟩ (before ++ ['\'']) =
      some ⟨opened host, some before.reverse, .bare⟩ := by
    rw [Splitting.scan_append, Splitting.scan_single hfirst, List.append_nil]
    rfl
  rw [words?_quotedLine h, htext, List.append_cons before, List.append_assoc (before ++ _),
    Splitting.words?_append hended] at htexts
  have hrest := Splitting.length_of_words?_quote htexts
  rw [size_opened, List.length_reverse, Splitting.slack, Nat.add_zero] at hrest
  have hlength : text.length = before.length + (after.length + 1) := by
    rw [← String.length_toList, htext, List.length_append, List.length_cons]
  have hkept : (words.flatMap String.toList).length = texts.flatten.length := by
    rw [Option.some.inj hmap.symm, List.flatMap_map]
    simp only [String.toList_ofList, List.flatMap_id']
  have hwanted : (["gpssh", "-h", host, "-e", text].flatMap String.toList).length =
      5 + (2 + (host.length + (2 + text.length))) := by
    simp only [List.flatMap_cons, List.flatMap_nil, List.length_append, String.length_toList]
    rfl
  omega

end Shell

namespace Op

open ClusterFixture.Shell (IsHostName plainWords?)

variable {σ : Type}

/-! ## Lines for another host -/

/-- The text that another host is meant to get. -/
def remoteText (line setup export_ : String) : String :=
  "source " ++ setup ++ "; " ++ export_ ++ "; " ++ line

theorem quote_mem_remoteText (line setup export_ : String) :
    '\'' ∈ (remoteText line setup export_).toList ↔
      ∃ text ∈ [setup, export_, line], '\'' ∈ text.toList := by
  simp [remoteText]

/-- The command for another host: a line for the shell of this host, with the text between
quotes. -/
def remoteCommand (s : Settings.Harness) (line host setup export_ : String) : Command :=
  commandOf s ("run command " ++ line) (Shell.quotedLine host (remoteText line setup export_))

theorem localCommand_remote (line host setup export_ : String) (site : Site σ) (w : World σ) :
    runAt (localCommand ("run command " ++ line)
        ("gpssh -h " ++ host ++ " -e 'source " ++ setup ++ "; " ++ export_ ++ "; " ++ line ++ "'"))
      site w = (.ok (remoteCommand site.settings line host setup export_), w) := by
  have hline : "gpssh -h " ++ host ++ " -e 'source " ++ setup ++ "; " ++ export_ ++ "; " ++ line
      ++ "'" = Shell.quotedLine host (remoteText line setup export_) := by
    have hopen : " -e 'source " = " -e '" ++ "source " := rfl
    simp only [Shell.quotedLine, remoteText, hopen, String.append_assoc]
  rw [hline]
  rfl

/-- This is the one command that is started, however it ends. -/
theorem runOnHost_calls (line host setup export_ : String) (site : Site σ) (w : World σ) :
    (runAt (runOnHost line host setup export_) site w).2.calls =
      w.calls ++ [.run (remoteCommand site.settings line host setup export_)] := by
  rw [runOnHost, runAt_bind_ok (localCommand_remote line host setup export_ site w), runAt_bind,
    run, runAt_bind, runAt_start]
  rcases (site.services.run (remoteCommand site.settings line host setup export_)).run
    (w.server, w.files) with ⟨_ | output, state⟩
  · rfl
  · simp only [runAt_check]
    rcases output.checked (remoteCommand site.settings line host setup export_) with _ | _ <;> rfl

/-- The shell of this host finds the words that are meant, the text for the other host as it is
among them, exactly when neither the line nor what stands before it has a quote. It then starts the
utility with these words, and nothing else. -/
theorem runOnHost_words_iff (line setup export_ : String) {host : String} (h : IsHostName host)
    (site : Site σ) (w : World σ) :
    ∃ c : Command,
      (runAt (runOnHost line host setup export_) site w).2.calls = w.calls ++ [.run c] ∧
      c.host = none ∧
      (plainWords? c.line =
          some ["gpssh", "-h", host, "-e", "source " ++ setup ++ "; " ++ export_ ++ "; " ++ line] ↔
        '\'' ∉ setup.toList ∧ '\'' ∉ export_.toList ∧ '\'' ∉ line.toList) ∧
      ('\'' ∉ setup.toList ∧ '\'' ∉ export_.toList ∧ '\'' ∉ line.toList →
        Shell.Starts c.line
          ["gpssh", "-h", host, "-e", "source " ++ setup ++ "; " ++ export_ ++ "; " ++ line]) := by
  refine ⟨_, runOnHost_calls line host setup export_ site w, rfl, ?_⟩
  have hparts := not_congr (quote_mem_remoteText line setup export_)
  simp only [List.mem_cons, List.not_mem_nil, or_false, exists_eq_or_imp, exists_eq_left,
    not_or] at hparts
  rw [← hparts]
  refine ⟨⟨fun hwords hquote => ?_, Shell.plainWords?_quotedLine h⟩, Shell.starts_quotedLine h⟩
  exact Nat.lt_irrefl _ (Shell.length_of_plainWords?_quotedLine h hquote hwords)

/-- The only command that a line for a host becomes where commands succeed in silence. -/
def startedFor (line : String) : List Call :=
  (runAt (runOnHost line "smdw" "path.sh" "true") (dataSite (constantHost .silent))
    ⟨(), ⟨[]⟩, [], []⟩).2.calls

/-- A statement between double quotes reaches the other host as it is. -/
theorem runOnHost_words_iff_doubleQuoted :
    IsHostName "smdw" ∧
      ∃ c : Command, startedFor "psql -c \"select 1\"" = [.run c] ∧
        plainWords? c.line =
          some ["gpssh", "-h", "smdw", "-e", "source path.sh; true; psql -c \"select 1\""] := by
  have hhost : IsHostName "smdw" := by decide
  obtain ⟨c, hcalls, -, hwords, -⟩ := runOnHost_words_iff "psql -c \"select 1\"" "path.sh" "true"
    hhost (dataSite (constantHost .silent)) ⟨(), ⟨[]⟩, [], []⟩
  exact ⟨hhost, c, hcalls, hwords.mpr (by decide)⟩

/-- One between single quotes is taken apart on this host, and loses them. -/
theorem runOnHost_singleQuoted :
    ∃ c : Command, startedFor "psql -c 'select 1'" = [.run c] ∧
      plainWords? c.line =
        some ["gpssh", "-h", "smdw", "-e", "source path.sh; true; psql -c select", "1"] :=
  ⟨remoteCommand (dataSite (constantHost .silent)).settings "psql -c 'select 1'" "smdw" "path.sh"
    "true", rfl, by decide⟩

end Op

end ClusterFixture
