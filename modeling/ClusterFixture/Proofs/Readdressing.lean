/-
What becomes of a file whose addresses are replaced.

A file of text gets the same lines in the same order, each ended by one line feed. A line that does
not speak of a file server keeps its text; in any other line the addresses give way to the new one,
whatever characters that has, and all the rest stays. Only a line feed in the new address makes more
lines of one. Nothing else in the world changes. A path that does not lead to a file is passed over,
and a file that is no text is a fault that changes nothing.
-/

import ClusterFixture.Operation.Files
import ClusterFixture.Proofs.Addresses
import ClusterFixture.Proofs.Comparison
import ClusterFixture.Proofs.Encoding
import ClusterFixture.Proofs.Files
import ClusterFixture.Proofs.Lines
import ClusterFixture.Proofs.Running
import Mathlib.Data.List.Forall2

set_option autoImplicit false

namespace ClusterFixture

open Text (HasAddress HasLines IsAddress Segmented filled lineChars unlines)

/-! ## Lines -/

/-- A line with another text for each of its addresses. The line is cut at them from the left, which
goes in one way only, and no address is left between them. -/
structure ReplacesAddresses (hostport line line' : List Char)
    (parts : List (List Char × List Char)) (last : List Char) : Prop where
  segmented : Segmented line parts last
  only : ∀ parts' last', Segmented line parts' last' → parts' = parts ∧ last' = last
  before : line = parts.flatMap (fun part => part.1 ++ part.2) ++ last
  addresses : ∀ part ∈ parts, ¬HasAddress part.1 ∧ IsAddress part.2
  rest : ¬HasAddress last
  after : line' = parts.flatMap (fun part => part.1 ++ hostport) ++ last

/-- What a line becomes. -/
inductive LineReaddressed (hostport line : List Char) : List Char → Prop where
  | other : ¬"gpfdist".toList <:+: line → LineReaddressed hostport line line
  | served {line' last : List Char} {parts : List (List Char × List Char)} :
    "gpfdist".toList <:+: line → ReplacesAddresses hostport line line' parts last →
      LineReaddressed hostport line line'

theorem lineReaddressed_readdressedLine (hostport line : String) :
    LineReaddressed hostport.toList line.toList (Op.readdressedLine hostport line).toList := by
  unfold Op.readdressedLine
  by_cases hserved : Text.contains line "gpfdist" = true
  · rw [if_pos hserved, String.toList_ofList]
    obtain ⟨parts, last, hsegmented, hfilled⟩ :=
      Text.replaceAddresses_eq_filled hostport.toList line.toList
    have hparts := hsegmented.addresses
    exact .served ((Text.occursIn_iff _ _).mp hserved) {
      segmented := hsegmented
      only := fun _ _ hother => hother.unique hsegmented
      before := hsegmented.text
      addresses := hparts.1
      rest := hparts.2
      after := hfilled }
  · rw [if_neg hserved]
    exact .other fun h => hserved ((Text.occursIn_iff _ _).mpr h)

/-- A line feed comes into a line with the new address only. -/
theorem LineReaddressed.mem_hostport {hostport line line' : List Char}
    (h : LineReaddressed hostport line line') (hline : '\n' ∉ line) (hfeed : '\n' ∈ line') :
    '\n' ∈ hostport := by
  rcases h with _ | ⟨_, hreplaces⟩
  · exact absurd hfeed hline
  · rename_i last parts
    rw [hreplaces.before, List.mem_append, not_or, List.mem_flatMap] at hline
    rw [hreplaces.after, List.mem_append, List.mem_flatMap] at hfeed
    rcases hfeed with ⟨part, hpart, hmem⟩ | hlast
    · rcases List.mem_append.mp hmem with hmem | hmem
      · exact absurd ⟨part, hpart, List.mem_append_left _ hmem⟩ hline.1
      · exact hmem
    · exact absurd hlast hline.2

/-! ## Texts -/

/-- One text is another one with its addresses replaced, line by line. -/
structure IsReaddressed (hostport text text' : String) (lines lines' : List (List Char)) :
    Prop where
  hasLines : HasLines text.toList lines
  each : List.Forall₂ (LineReaddressed hostport.toList) lines lines'
  written : text'.toList = unlines lines'
  /-- No line is broken but by the new address itself. -/
  whole : ∀ line' ∈ lines', '\n' ∈ line' → '\n' ∈ hostport.toList

/-- As each line becomes one line, there are as many of them, unless the new address breaks one. -/
theorem IsReaddressed.length_lines {hostport text text' : String} {lines lines' : List (List Char)}
    (h : IsReaddressed hostport text text' lines lines') (hfeed : '\n' ∉ hostport.toList) :
    (Text.lines text').length = (Text.lines text).length := by
  have hcount := Text.length_lineChars_unlines fun line' hline' hmem =>
    hfeed (h.whole line' hline' hmem)
  rw [← h.written, ← h.each.length_eq, ← Text.lineChars_eq_iff.mpr h.hasLines] at hcount
  rw [Text.lines, Text.lines, List.length_map, List.length_map, hcount]

/-- The lines that are written instead of those of a text. -/
def readdressedLines (hostport text : String) : List (List Char) :=
  (lineChars text.toList).map fun line =>
    (Op.readdressedLine hostport (String.ofList line)).toList

theorem toList_readdressed (hostport text : String) :
    (Op.readdressed hostport text).toList = unlines (readdressedLines hostport text) := by
  unfold Op.readdressed unlines readdressedLines Text.lines
  rw [String.toList_join, List.map_map, List.flatMap_map, List.flatMap_map]
  refine List.flatMap_congr fun line _ => ?_
  rw [Function.comp, String.toList_append]
  rfl

/-- What is written is the text with its addresses replaced. -/
theorem isReaddressed_readdressed (hostport text : String) :
    IsReaddressed hostport text (Op.readdressed hostport text) (lineChars text.toList)
      (readdressedLines hostport text) := by
  have hlines : HasLines text.toList (lineChars text.toList) := Text.lineChars_eq_iff.mp rfl
  have heach : ∀ line, LineReaddressed hostport.toList line
      (Op.readdressedLine hostport (String.ofList line)).toList := by
    intro line
    have hline := lineReaddressed_readdressedLine hostport (String.ofList line)
    rw [String.toList_ofList] at hline
    exact hline
  have hwhole : ∀ line' ∈ readdressedLines hostport text, '\n' ∈ line' →
      '\n' ∈ hostport.toList := by
    intro line' hline' hfeed
    obtain ⟨line, hline, hbecomes⟩ := List.mem_map.mp hline'
    rw [← hbecomes] at hfeed
    exact (heach line).mem_hostport (hlines.not_mem hline) hfeed
  have hforall : List.Forall₂ (LineReaddressed hostport.toList) (lineChars text.toList)
      (readdressedLines hostport text) := by
    unfold readdressedLines
    rw [List.forall₂_map_right_iff, List.forall₂_same]
    exact fun line _ => heach line
  exact ⟨hlines, hforall, toList_readdressed hostport text, hwhole⟩

/-! ## Files -/

namespace FileTree

variable {t t' : FileTree} {here : Place} {path : String}

theorem stat_eq_ok_iff {n : FileNode} :
    t.stat here path = .ok n ↔ ∃ p, t.locate here path = .ok p ∧ t.node? p = some n := by
  unfold stat
  rcases t.locate here path with e | p
  · simp [bind, Except.bind]
  · rcases hnode : t.node? p with _ | m
    · simp [bind, Except.bind, hnode, throw, throwThe, MonadExceptOf.throw]
    · simp [bind, Except.bind, hnode, pure, Except.pure]

/-- The root is a directory, so a file is somewhere below it. -/
theorem ne_nil_of_file {p : Place} {content : Text.Bytes} {mode : Nat}
    (hfile : t.node? p = some (.file content mode)) : p ≠ [] := by
  rintro rfl
  rw [node?_nil] at hfile
  cases hfile

/-- The content of a file that is there is read, if its permissions allow it. -/
theorem read_of_stat {content : Text.Bytes} {mode : Nat}
    (hstat : t.stat here path = .ok (.file content mode)) :
    t.read here path =
      if permits mode ownerRead then .ok content else .error (.system .denied) := by
  rw [read, hstat]
  rfl

/-- A file that must not be written stays. -/
theorem write_of_not_permits {old content : Text.Bytes} {mode : Nat}
    (hstat : t.stat here path = .ok (.file old mode)) (hwrite : ¬permits mode ownerWrite = true) :
    t.write here path content = .error (.system .denied) := by
  obtain ⟨p, hlocate, hfile⟩ := stat_eq_ok_iff.mp hstat
  rw [write, hlocate]
  simp only [bind, Except.bind, hfile, if_neg hwrite]
  rfl

/-- A file that gets another content is found where it was. -/
theorem locate_put_file {p : Place} {old : Text.Bytes} {mode : Nat}
    (hlocate : t.locate here path = .ok p) (hfile : t.node? p = some (.file old mode))
    (content : Text.Bytes) :
    (t.put p (.file content mode)).locate here path = .ok p := by
  obtain ⟨hpath, hfollow, hasks⟩ := locate_eq_ok_iff.mp hlocate
  refine locate_eq_ok_iff.mpr ⟨hpath, ?_, fun h => absurd hfile (hasks h old mode)⟩
  refine follow_of_directories (fun q m hq => ?_) hfollow
  refine node?_put_of_directory (ne_nil_of_file hfile) (fun m hdirectory => ?_) _ hq
  rw [hfile] at hdirectory
  cases hdirectory

/-- Of all files only the one behind a path has another content. -/
def OnlyChanges (here : Place) (path : String) (content : Text.Bytes) (mode : Nat)
    (t t' : FileTree) : Prop :=
  ∃ p, t.locate here path = .ok p ∧
    ∀ q, t'.node? q = if q = p then some (.file content mode) else t.node? q

/-- A text that is written to an open file is all that changes, and is read from it again. -/
theorem write_text {old : Text.Bytes} {mode : Nat}
    (hstat : t.stat here path = .ok (.file old mode)) (hopen : IsOpen mode) (text : String) :
    ∃ t', t.write here path (Text.utf8 text) = .ok t' ∧
      OnlyChanges here path (Text.utf8 text) mode t t' ∧ t'.readText here path = .ok text := by
  obtain ⟨p, hlocate, hfile⟩ := stat_eq_ok_iff.mp hstat
  have hnode := node?_put t (ne_nil_of_file hfile) (.file (Text.utf8 text) mode)
  refine ⟨t.put p (.file (Text.utf8 text) mode), ?_, ⟨p, hlocate, hnode⟩, ?_⟩
  · exact write_eq_ok_iff.mpr ⟨p, hlocate, .inl ⟨old, mode, hfile, hopen.2, rfl⟩⟩
  · have hread : (t.put p (.file (Text.utf8 text) mode)).read here path = .ok (Text.utf8 text) :=
      read_eq_ok_iff.mpr ⟨p, mode, locate_put_file hlocate hfile _, by rw [hnode, if_pos rfl],
        hopen.1⟩
    rw [readText, hread]
    simp only [bind, Except.bind, Text.ofUtf8?_utf8, pure, Except.pure]

end FileTree

open FileTree (IsOpen OnlyChanges)

namespace Op

variable {σ : Type} {file hostport : String} {site : Site σ} {w : World σ}

/-- A path that leads to no file is passed over. -/
theorem readdressFile_of_no_file
    (h : ∀ content mode, w.files.stat site.place file ≠ .ok (.file content mode)) :
    runAt (readdressFile file hostport) site w = (.ok (), w) := by
  unfold readdressFile
  rw [runAt_bind_ok (runAt_attempt _ site w), runAt_onFiles]
  rcases hstat : w.files.stat site.place file with e | content | mode
  · rfl
  · exact absurd hstat (h _ _)
  · rfl

/-- A file is read as text and written anew, or else nothing happens. -/
theorem readdressFile_of_file {content : Text.Bytes} {mode : Nat}
    (h : w.files.stat site.place file = .ok (.file content mode)) :
    runAt (readdressFile file hostport) site w =
      match w.files.readText site.place file with
      | .error e => (.error (.io e.message), w)
      | .ok text =>
        match w.files.write site.place file (Text.utf8 (readdressed hostport text)) with
        | .ok files => (.ok (), { w with files })
        | .error e => (.error (.io e.message), w) := by
  unfold readdressFile
  rw [runAt_bind_ok (runAt_attempt _ site w), runAt_onFiles, h]
  simp only [Except.mapError]
  rcases hread : w.files.readText site.place file with e | text
  · rw [runAt_bind_error (runAt_onFiles_error hread)]
  · rw [runAt_bind_ok (runAt_onFiles_ok hread)]
    exact runAt_changeFiles _ site w

/-- A file that is no text is a fault, and so is one that cannot be read and written. Both stay. -/
theorem readdressFile_error {content : Text.Bytes} {mode : Nat}
    (h : w.files.stat site.place file = .ok (.file content mode)) :
    (Text.ofUtf8? content = none → permits mode ownerRead = true →
        runAt (readdressFile file hostport) site w =
          (.error (.io FileFault.notText.message), w)) ∧
      (¬IsOpen mode → ∃ f, runAt (readdressFile file hostport) site w = (.error f, w)) := by
  have hcontent := FileTree.read_of_stat h
  rw [readdressFile_of_file h, FileTree.readText, hcontent]
  by_cases hreads : permits mode ownerRead = true
  · rw [if_pos hreads]
    rcases htext : Text.ofUtf8? content with _ | text
    · simp only [bind, Except.bind, htext]
      exact ⟨fun _ _ => rfl, fun _ => ⟨_, rfl⟩⟩
    · -- It is read, so it is the writing that is not allowed.
      refine ⟨nofun, fun hclosed => ?_⟩
      have hwrites : ¬permits mode ownerWrite = true := fun hwrites => hclosed ⟨hreads, hwrites⟩
      simp only [bind, Except.bind, htext, pure, Except.pure,
        FileTree.write_of_not_permits h hwrites]
      exact ⟨_, rfl⟩
  · rw [if_neg hreads]
    exact ⟨fun _ hmay => absurd hmay hreads, fun _ => ⟨_, rfl⟩⟩

/-- A text in a file that can be read and written is read, and written anew with its addresses
replaced. -/
theorem readdressFile_of_text {content : Text.Bytes} {mode : Nat} {text : String}
    (hstat : w.files.stat site.place file = .ok (.file content mode))
    (htext : Text.ofUtf8? content = some text) (hopen : IsOpen mode) :
    ∃ files', runAt (readdressFile file hostport) site w = (.ok (), { w with files := files' }) ∧
      OnlyChanges site.place file (Text.utf8 (readdressed hostport text)) mode w.files files' ∧
      files'.readText site.place file = .ok (readdressed hostport text) := by
  obtain ⟨files', hwrite, honly, hread'⟩ :=
    FileTree.write_text hstat hopen (readdressed hostport text)
  have hread : w.files.readText site.place file = .ok text := by
    rw [FileTree.readText, FileTree.read_of_stat hstat, if_pos hopen.1]
    simp only [bind, Except.bind, htext, pure, Except.pure]
  refine ⟨files', ?_, honly, hread'⟩
  rw [readdressFile_of_file hstat, hread]
  simp only [hwrite]

/-- A path that leads to no file is passed over, with the world as it was. A file of text that can
be read and written gets the text with its addresses replaced and keeps its permissions, and nothing
else in the world changes. It then has as many lines as before, if the new address has no line feed.
A file that is no text, or is not open, is a fault, and stays. -/
theorem readdressFile_outcome (file hostport : String) (site : Site σ) (w : World σ) :
    ((∀ content mode, w.files.stat site.place file ≠ .ok (.file content mode)) →
      runAt (readdressFile file hostport) site w = (.ok (), w)) ∧
    ∀ content mode, w.files.stat site.place file = .ok (.file content mode) →
      (∀ text, Text.ofUtf8? content = some text → IsOpen mode →
        ∃ files' text' lines lines',
          runAt (readdressFile file hostport) site w = (.ok (), { w with files := files' }) ∧
            OnlyChanges site.place file (Text.utf8 text') mode w.files files' ∧
            files'.readText site.place file = .ok text' ∧
            IsReaddressed hostport text text' lines lines' ∧
            ('\n' ∉ hostport.toList →
              (Text.lines text').length = (Text.lines text).length)) ∧
      (Text.ofUtf8? content = none → permits mode ownerRead = true →
        runAt (readdressFile file hostport) site w =
          (.error (.io FileFault.notText.message), w)) ∧
      (¬IsOpen mode → ∃ f, runAt (readdressFile file hostport) site w = (.error f, w)) := by
  refine ⟨readdressFile_of_no_file, fun content mode hstat => ⟨fun text htext hopen => ?_,
    readdressFile_error hstat⟩⟩
  obtain ⟨files', hrun, honly, hread⟩ := readdressFile_of_text hstat htext hopen
  have hreaddressed := isReaddressed_readdressed hostport text
  exact ⟨files', _, _, _, hrun, honly, hread, hreaddressed, hreaddressed.length_lines⟩

/-- A line about a file server, and another one with the same address. -/
def loadingText : String := "gpfdist://10.0.0.1:8080/a\r\nselect '10.0.0.1:8080'"

/-- A world with a file of a text. -/
def worldWith (text : String) : World Unit where
  server := ()
  files := ⟨[(["load.sql"], .file (Text.utf8 text) newFileMode)]⟩

theorem stat_worldWith (text : String) :
    (worldWith text).files.stat [] "/load.sql" = .ok (.file (Text.utf8 text) newFileMode) := by
  refine FileTree.stat_eq_ok_iff.mpr ⟨["load.sql"], ?_, rfl⟩
  refine FileTree.locate_eq_ok_iff.mpr ⟨⟨?_, by decide, by decide⟩, rfl, ?_⟩
  · rw [String.contains_char_eq]
    decide
  · have hplain : FileTree.asksDirectory "/load.sql" = false := by decide
    rw [hplain]
    exact nofun

/-- The file gets another text with as many lines, and nothing else changes. -/
theorem readdressFile_outcome_loading :
    ∃ files' text' lines lines',
      runAt (readdressFile "/load.sql" "mdw:$1") (dataSite refusing) (worldWith loadingText) =
          (.ok (), { worldWith loadingText with files := files' }) ∧
        OnlyChanges [] "/load.sql" (Text.utf8 text') newFileMode (worldWith loadingText).files
          files' ∧
        files'.readText [] "/load.sql" = .ok text' ∧
        IsReaddressed "mdw:$1" loadingText text' lines lines' ∧
        (Text.lines text').length = (Text.lines loadingText).length := by
  obtain ⟨files', text', lines, lines', hrun, honly, hread, hreaddressed, hcount⟩ :=
    ((readdressFile_outcome "/load.sql" "mdw:$1" (dataSite refusing) (worldWith loadingText)).2
      (Text.utf8 loadingText) newFileMode (stat_worldWith loadingText)).1 loadingText
      (Text.ofUtf8?_utf8 _) FileTree.isOpen_newFileMode
  exact ⟨files', text', lines, lines', hrun, honly, hread, hreaddressed, hcount (by decide)⟩

/-- A line with one address. -/
def servedText : String := "gpfdist://1.2.3.4:80/x\n"

theorem readdressed_servedText : readdressed "a\nb" servedText = "gpfdist://a\nb/x\n" := by
  have hlines : Text.lines servedText = ["gpfdist://1.2.3.4:80/x"] := by decide
  have hreplaced : Text.replaceAddresses "a\nb".toList "gpfdist://1.2.3.4:80/x".toList =
      "gpfdist://a\nb/x".toList := by cbv
  have hline : readdressedLine "a\nb" "gpfdist://1.2.3.4:80/x" = "gpfdist://a\nb/x" := by
    rw [readdressedLine, if_pos (by decide), hreplaced, String.ofList_toList]
  rw [readdressed, hlines, List.map_singleton, hline]
  rfl

/-- A new address with a line feed makes two lines of it. -/
theorem readdressFile_lineFeed :
    ∃ files' text', runAt (readdressFile "/load.sql" "a\nb") (dataSite refusing)
          (worldWith servedText) = (.ok (), { worldWith servedText with files := files' }) ∧
        files'.readText [] "/load.sql" = .ok text' ∧
        (Text.lines text').length = 2 ∧ (Text.lines servedText).length = 1 := by
  obtain ⟨files', hrun, -, hread⟩ := @readdressFile_of_text Unit "/load.sql" "a\nb"
    (dataSite refusing) (worldWith servedText) _ _ _ (stat_worldWith servedText)
    (Text.ofUtf8?_utf8 _) FileTree.isOpen_newFileMode
  rw [readdressed_servedText] at hread
  exact ⟨files', _, hrun, hread, by decide, by decide⟩

end Op

end ClusterFixture
