/-
The order of the names in an entry on mails.

A name may be written in any letter case, so an entry can name one text under several spellings, each
of them a key of its own. The later one counts, but the order is not that of the file: it is whatever
order the keys of a table are handed over in. The file says what an entry is made of for any order,
as the last text under each name, and from this when the order does not matter.
-/

import ClusterFixture.Operation.Mail
import ClusterFixture.Proofs.Comparison
import ClusterFixture.Proofs.SettingsFiles
import Mathlib.Data.List.Forall2
import Mathlib.Data.List.Induction

set_option autoImplicit false

namespace ClusterFixture

variable {σ : Type}

namespace Op

/-! ## Names -/

/-- The texts that an entry may have. -/
inductive MailPart where
  | database
  | sender
  | subject
  deriving DecidableEq, Repr

namespace MailPart

/-- The name of a text. -/
def name : MailPart → String
  | .database => "DBNAME"
  | .sender => "FROM"
  | .subject => "SUBJECT"

/-- The text that a name stands for, in any letter case. -/
def ofName? (word : String) : Option MailPart :=
  [database, sender, subject].find? fun p => p.name = Text.upperAscii word

theorem ofName?_eq_some_iff {word : String} {p : MailPart} :
    ofName? word = some p ↔ Text.upperAscii word = p.name := by
  unfold ofName?
  constructor
  · intro h
    simpa [eq_comm] using List.find?_some h
  · intro h
    rw [h]
    cases p <;> rfl

end MailPart

namespace MailEntry

/-- The entry with a text. -/
def put (e : MailEntry) (value : String) : MailPart → MailEntry
  | .database => { e with database := some value }
  | .sender => { e with sender := some value }
  | .subject => { e with subject := some value }

/-- A text of an entry. -/
def part (e : MailEntry) : MailPart → Option String
  | .database => e.database
  | .sender => e.sender
  | .subject => e.subject

theorem part_put (e : MailEntry) (value : String) (p q : MailPart) :
    (e.put value p).part q = if p = q then some value else e.part q := by
  cases p <;> cases q <;> rfl

theorem ext_part {e e' : MailEntry} (h : ∀ p, e.part p = e'.part p) : e = e' := by
  have hdatabase := h .database
  have hsender := h .sender
  have hsubject := h .subject
  cases e
  cases e'
  simp_all [part]

theorem put?_eq (e : MailEntry) (name value : String) :
    e.put? name value = (MailPart.ofName? name).map (e.put value) := by
  unfold put? MailPart.ofName?
  split
  case h_1 hname => rw [hname]; rfl
  case h_2 hname => rw [hname]; rfl
  case h_3 hname => rw [hname]; rfl
  case h_4 hdatabase hsender hsubject =>
    have hnone : [MailPart.database, .sender, .subject].find?
        (fun p => decide (p.name = Text.upperAscii name)) = none := by
      simp only [List.find?_eq_none, List.forall_mem_cons, decide_eq_true_eq]
      exact ⟨fun h => hdatabase h.symm, fun h => hsender h.symm, fun h => hsubject h.symm, nofun⟩
    rw [hnone]
    rfl

/-! ## Entries -/

/-- The last text that an entry gives under the spellings of a name. -/
def lastText (texts : List (String × String)) (p : MailPart) : Option String :=
  (texts.filter fun t => MailPart.ofName? t.1 = some p).getLast?.map (·.2)

/-- The entry that consists of these texts. -/
def ofLast (texts : List (String × String)) : MailEntry where
  database := lastText texts .database
  sender := lastText texts .sender
  subject := lastText texts .subject

/-- All names of an entry are known. -/
def AllKnown (texts : List (String × String)) : Prop :=
  ∀ t ∈ texts, (MailPart.ofName? t.1).isSome

instance (texts : List (String × String)) : Decidable (AllKnown texts) :=
  inferInstanceAs (Decidable (∀ t ∈ texts, _))

@[simp] theorem part_ofLast (texts : List (String × String)) (p : MailPart) :
    (ofLast texts).part p = lastText texts p := by
  cases p <;> rfl

theorem lastText_concat (texts : List (String × String)) (t : String × String) (p : MailPart) :
    lastText (texts ++ [t]) p =
      if MailPart.ofName? t.1 = some p then some t.2 else lastText texts p := by
  unfold lastText
  rw [List.filter_append]
  by_cases h : MailPart.ofName? t.1 = some p
  · simp [h]
  · simp [h]

theorem allKnown_concat (texts : List (String × String)) (t : String × String) :
    AllKnown (texts ++ [t]) ↔ AllKnown texts ∧ (MailPart.ofName? t.1).isSome := by
  unfold AllKnown
  simp [or_imp, forall_and]

theorem ofTexts?_concat (texts : List (String × String)) (t : String × String) :
    ofTexts? (texts ++ [t]) = (ofTexts? texts).bind fun e => e.put? t.1 t.2 := by
  unfold ofTexts?
  rw [List.foldlM_append]
  rcases t with ⟨name, value⟩
  simp only [List.foldlM_cons, List.foldlM_nil, bind_pure]
  rfl

/-- What texts in a given order make up: an entry if all their names are known, and then the last
text under each name. -/
theorem ofTexts?_eq (texts : List (String × String)) :
    ofTexts? texts = if AllKnown texts then some (ofLast texts) else none := by
  -- From the end, because the text that was put last counts.
  induction texts using List.reverseRecOn with
  | nil => rfl
  | append_singleton texts t ih =>
    rw [ofTexts?_concat, ih]
    by_cases hknown : AllKnown texts
    · rw [if_pos hknown, Option.bind_some, put?_eq]
      rcases hname : MailPart.ofName? t.1 with _ | p
      · have hnot : ¬ AllKnown (texts ++ [t]) := by simp [allKnown_concat, hname]
        rw [if_neg hnot, Option.map_none]
      · have hall : AllKnown (texts ++ [t]) := by simp [allKnown_concat, hname, hknown]
        rw [if_pos hall, Option.map_some]
        congr 1
        apply ext_part
        intro q
        rw [part_put, part_ofLast, part_ofLast, lastText_concat, hname]
        simp only [Option.some.injEq]
    · have hnot : ¬ AllKnown (texts ++ [t]) := fun h => hknown ((allKnown_concat texts t).mp h).1
      rw [if_neg hknown, if_neg hnot, Option.bind_none]

/-! ## Orders -/

/-- An entry gives different texts under two spellings of one name. -/
def Disagrees (texts : List (String × String)) : Prop :=
  ∃ t ∈ texts, ∃ u ∈ texts, Text.upperAscii t.1 = Text.upperAscii u.1 ∧ t.2 ≠ u.2

variable {texts other : List (String × String)} {p : MailPart}

theorem allKnown_of_perm (h : other.Perm texts) :
    AllKnown other ↔ AllKnown texts :=
  ⟨fun hall t ht => hall t (h.mem_iff.mpr ht), fun hall t ht => hall t (h.mem_iff.mp ht)⟩

/-- The last text under a name is one of those under it. -/
theorem mem_of_lastText {value : String} (h : lastText texts p = some value) :
    ∃ t ∈ texts, MailPart.ofName? t.1 = some p ∧ t.2 = value := by
  obtain ⟨t, hlast, hvalue⟩ := Option.map_eq_some_iff.mp h
  obtain ⟨hmem, hname⟩ := List.mem_filter.mp (List.mem_of_getLast? hlast)
  exact ⟨t, hmem, of_decide_eq_true hname, hvalue⟩

theorem lastText_eq_none_iff :
    lastText texts p = none ↔ ∀ t ∈ texts, MailPart.ofName? t.1 ≠ some p := by
  unfold lastText
  simp

/-- Texts that do not disagree have the same last text under each name in any order. -/
theorem lastText_of_perm (hperm : other.Perm texts) (hagree : ¬ Disagrees texts)
    (p : MailPart) : lastText other p = lastText texts p := by
  rcases hother : lastText other p with _ | value
  · symm
    rw [lastText_eq_none_iff] at hother ⊢
    exact fun t ht => hother t (hperm.mem_iff.mpr ht)
  · obtain ⟨t, ht, htname, rfl⟩ := mem_of_lastText hother
    rw [hperm.mem_iff] at ht
    rcases htexts : lastText texts p with _ | value
    · exact absurd htname (lastText_eq_none_iff.mp htexts t ht)
    · obtain ⟨u, hu, huname, rfl⟩ := mem_of_lastText htexts
      -- Both are under the one name, so their spellings fold together.
      rw [MailPart.ofName?_eq_some_iff] at htname huname
      have hsame : t.2 = u.2 :=
        Decidable.byContradiction fun hne =>
          hagree ⟨t, ht, u, hu, htname.trans huname.symm, hne⟩
      rw [hsame]

/-- A text that comes last counts. -/
theorem exists_order_with_last {t : String × String} (ht : t ∈ texts)
    (hname : MailPart.ofName? t.1 = some p) :
    ∃ other, other.Perm texts ∧ lastText other p = some t.2 := by
  refine ⟨texts.erase t ++ [t], ?_, ?_⟩
  · exact (List.perm_append_singleton t _).trans (List.perm_cons_erase ht).symm
  · rw [lastText_concat, if_pos hname]

/-- Where all names are known, the order of an entry does not matter exactly if its texts do not
disagree. -/
theorem ofLast_perm_iff (hknown : AllKnown texts) :
    (∀ other, other.Perm texts → ofLast other = ofLast texts) ↔ ¬ Disagrees texts := by
  constructor
  · rintro hsame ⟨t, ht, u, hu, hfold, hne⟩
    -- Both stand for the same text, and each of them can be put last.
    obtain ⟨p, hp⟩ := Option.isSome_iff_exists.mp (hknown u hu)
    have hpt : MailPart.ofName? t.1 = some p := by
      rw [MailPart.ofName?_eq_some_iff] at hp ⊢
      rw [hfold, hp]
    obtain ⟨first, hfirst, htlast⟩ := exists_order_with_last ht hpt
    obtain ⟨second, hsecond, hulast⟩ := exists_order_with_last hu hp
    have htexts : (ofLast first).part p = (ofLast second).part p := by
      rw [hsame first hfirst, hsame second hsecond]
    rw [part_ofLast, part_ofLast, htlast, hulast] at htexts
    exact hne (Option.some.inj htexts)
  · intro hagree other hperm
    apply ext_part
    intro p
    rw [part_ofLast, part_ofLast, lastText_of_perm hperm hagree p]

end MailEntry

/-! ## Files -/

/-- The entries that the texts of a file make up, if they make up entries. -/
def entriesOf (texts : List (List (String × String))) : Except MailFault (List MailEntry) :=
  match texts.mapM MailEntry.ofTexts? with
  | some entries => .ok entries
  | none => .error .malformed

/-- One name that is unknown spoils all entries; otherwise each is made of its last texts. -/
theorem entriesOf_eq (texts : List (List (String × String))) :
    entriesOf texts = if ∀ entry ∈ texts, MailEntry.AllKnown entry
      then .ok (texts.map MailEntry.ofLast) else .error .malformed := by
  have hmapM : texts.mapM MailEntry.ofTexts? = if ∀ entry ∈ texts, MailEntry.AllKnown entry
      then some (texts.map MailEntry.ofLast) else none := by
    induction texts with
    | nil => rfl
    | cons entry rest ih =>
      rw [List.mapM_cons, MailEntry.ofTexts?_eq, ih]
      by_cases hentry : MailEntry.AllKnown entry
      · by_cases hrest : ∀ entry ∈ rest, MailEntry.AllKnown entry
        · rw [if_pos hentry, if_pos hrest, if_pos (List.forall_mem_cons.mpr ⟨hentry, hrest⟩)]
          rfl
        · rw [if_pos hentry, if_neg hrest, if_neg fun h => hrest (List.forall_mem_cons.mp h).2]
          rfl
      · rw [if_neg hentry, if_neg fun h => hentry (List.forall_mem_cons.mp h).1]
        rfl
  rw [entriesOf, hmapM]
  by_cases hknown : ∀ entry ∈ texts, MailEntry.AllKnown entry
  · rw [if_pos hknown, if_pos hknown]
  · rw [if_neg hknown, if_neg hknown]

/-- A file whose entries could be loaded, with the names of each in the order in which the loader
hands them over. -/
structure HandsOver (files : FileTree) (directory file : String)
    (texts : List (List (String × String))) : Prop where
  there : ∃ content mode,
    files.stat (Path.parts directory) file = .ok (.file content mode) ∧ content ≠ []
  ending : Path.extension? file = some "yaml"
  loaded : ({ files, directory } : Settings.Sources).loadFile file readMailTexts = .ok (some texts)

theorem mailEntries_of_handsOver {files : FileTree} {directory file : String}
    {texts : List (List (String × String))} (h : HandsOver files directory file texts) :
    mailEntries files directory file = entriesOf texts := by
  obtain ⟨content, mode, hstat, hcontent⟩ := h.there
  have hfilled : content.isEmpty = false := by simpa using hcontent
  unfold mailEntries entriesOf
  rcases hmade : texts.mapM MailEntry.ofTexts? with _ | entries
  · simp [hstat, h.ending, hfilled, h.loaded, hmade]
  · simp [hstat, h.ending, hfilled, h.loaded, hmade]

theorem runAt_readMailFile_of_handsOver {file : String} (site : Site σ) {w : World σ}
    {texts : List (List (String × String))} (h : HandsOver w.files site.directory file texts) :
    runAt (readMailFile file) site w =
      ((entriesOf texts).mapError (MailFault.toFault file), w) := by
  rw [readMailFile, runAt_bind_ok (runAt_get site w), runAt_bind_ok (runAt_read site w),
    runAt_check, mailEntries_of_handsOver h]

/-- Texts in other orders of the names of each entry. -/
def Reordered (other texts : List (List (String × String))) : Prop :=
  List.Forall₂ List.Perm other texts

theorem allKnown_of_reordered {other texts : List (List (String × String))}
    (h : Reordered other texts) :
    (∀ entry ∈ other, MailEntry.AllKnown entry) ↔ ∀ entry ∈ texts, MailEntry.AllKnown entry := by
  induction h with
  | nil => rfl
  | cons hperm _ ih =>
    simp only [List.forall_mem_cons, MailEntry.allKnown_of_perm hperm, ih]

theorem reordered_refl (texts : List (List (String × String))) : Reordered texts texts :=
  List.forall₂_same.mpr fun entry _ => List.Perm.refl entry

/-- Where all names are known, the order of the names does not matter exactly if no entry has texts
that disagree. -/
theorem map_ofLast_reordered_iff {texts : List (List (String × String))}
    (hknown : ∀ entry ∈ texts, MailEntry.AllKnown entry) :
    (∀ other, Reordered other texts → other.map MailEntry.ofLast = texts.map MailEntry.ofLast) ↔
      ∀ entry ∈ texts, ¬ MailEntry.Disagrees entry := by
  constructor
  · intro hsame entry hentry
    obtain ⟨before, after, rfl⟩ := List.append_of_mem hentry
    rw [← MailEntry.ofLast_perm_iff (hknown entry hentry)]
    intro other hperm
    -- Only the entry in question is put into another order.
    have hreordered : Reordered (before ++ other :: after) (before ++ entry :: after) :=
      List.rel_append (reordered_refl before) (.cons hperm (reordered_refl after))
    have hmap := hsame _ hreordered
    rw [List.map_append, List.map_append, List.map_cons, List.map_cons] at hmap
    exact (List.cons.inj (List.append_cancel_left hmap)).1
  · intro hagree other hreordered
    induction hreordered with
    | nil => rfl
    | @cons other entry others entries hperm _ ih =>
      rw [List.forall_mem_cons] at hknown hagree
      rw [List.map_cons, List.map_cons,
        (MailEntry.ofLast_perm_iff hknown.1).mpr hagree.1 other hperm, ih hknown.2 hagree.2]

/-- When the order does not matter in which the names of each entry are handed over, for every file
whose entries can be loaded: exactly if an unknown name spoils the file anyway, or no entry gives
different texts under two spellings of a name. -/
theorem readMailFile_orderFree_iff (file : String) (texts : List (List (String × String))) :
    (∀ (site : Site σ) (w : World σ), HandsOver w.files site.directory file texts →
        runAt (readMailFile file) site w =
          ((entriesOf texts).mapError (MailFault.toFault file), w)) ∧
      ((∀ other, Reordered other texts → entriesOf other = entriesOf texts) ↔
        (∃ entry ∈ texts, ¬ MailEntry.AllKnown entry) ∨
          ∀ entry ∈ texts, ¬ MailEntry.Disagrees entry) := by
  refine ⟨fun site _ => runAt_readMailFile_of_handsOver site, ?_⟩
  by_cases hknown : ∀ entry ∈ texts, MailEntry.AllKnown entry
  · have hnone : ¬ ∃ entry ∈ texts, ¬ MailEntry.AllKnown entry := by
      rintro ⟨entry, hentry, hunknown⟩
      exact hunknown (hknown entry hentry)
    rw [or_iff_right hnone, ← map_ofLast_reordered_iff hknown]
    refine forall₂_congr fun other hreordered => ?_
    rw [entriesOf_eq, entriesOf_eq, if_pos hknown,
      if_pos ((allKnown_of_reordered hreordered).mpr hknown), Except.ok.injEq]
  · have hsome : ∃ entry ∈ texts, ¬ MailEntry.AllKnown entry := by simpa using hknown
    refine iff_of_true (fun other hreordered => ?_) (.inl hsome)
    rw [entriesOf_eq, entriesOf_eq, if_neg hknown,
      if_neg fun h => hknown ((allKnown_of_reordered hreordered).mp h)]

/-! ## Two spellings of a name -/

/-- A world with a file on mails. -/
def mailWorld (text : String) : World Unit :=
  ⟨(), Settings.treeOf [("mail.yaml", text)], [], []⟩

/-- The path of the file. -/
def mailPath : String := "configuration/mail.yaml"

/-- The texts in a file, if it is understood. -/
def textsIn? (text : String) : Option (List (List (String × String))) := do
  let layer ← Settings.Layer.ofYaml? ((Settings.sourcesOf [] []).origin mailPath) text
  (← (Settings.Sources.readWhole readMailTexts (layer.over .empty)).toOption)

theorem handsOver_mailWorld {text : String} {texts : List (List (String × String))}
    (hascii : text.toList.all (fun c => c.toNat < 0x80) = true) (hfilled : Text.utf8 text ≠ [])
    (htexts : textsIn? text = some texts) :
    HandsOver (mailWorld text).files "/" mailPath texts := by
  have hpath : Settings.IsPlainPath mailPath "mail.yaml" := by decide
  obtain ⟨layer, hlayer, hread⟩ := Option.bind_eq_some_iff.mp htexts
  obtain ⟨found, hfound, hsome⟩ := Option.bind_eq_some_iff.mp hread
  have hwhole : Settings.Sources.readWhole readMailTexts (layer.over .empty) = .ok (some texts) := by
    rcases hresult : Settings.Sources.readWhole readMailTexts (layer.over .empty) with f | whole
    · rw [hresult] at hfound
      cases hfound
    · rw [hresult] at hfound
      rw [Option.some.inj hfound, hsome]
  have hload : (Settings.sourcesOf [("mail.yaml", text)] []).fileLayer mailPath = .ok layer :=
    Settings.fileLayer_sourcesOf _ [] hpath rfl (by simpa using hascii) hlayer
  refine ⟨⟨Text.utf8 text, newFileMode, ?_, hfilled⟩, by decide, ?_⟩
  · rw [show Path.parts "/" = [] by decide]
    exact Settings.stat_treeOf [("mail.yaml", text)] hpath
  · show (Settings.sourcesOf [("mail.yaml", text)] []).loadFile mailPath readMailTexts = _
    rw [Settings.Sources.loadFile, hload]
    exact hwhole

/-- A file with an entry of two texts. -/
def plainMail : String := "email_details:\n  - DBNAME: sales\n    From: keeper\n"

/-- The two texts. -/
def plainTexts : List (String × String) := [("DBNAME", "sales"), ("From", "keeper")]

/-- An entry in which every name has one spelling is read the same in both orders. -/
theorem readMailFile_orderFree_plain :
    HandsOver (mailWorld plainMail).files "/" mailPath [plainTexts] ∧
      ¬ MailEntry.Disagrees plainTexts ∧
      runAt (readMailFile mailPath) (dataSite refusing) (mailWorld plainMail) =
        (.ok [⟨some "sales", some "keeper", none⟩], mailWorld plainMail) ∧
      ∀ other, Reordered other [plainTexts] →
        entriesOf other = .ok [⟨some "sales", some "keeper", none⟩] := by
  have hloaded : HandsOver (mailWorld plainMail).files "/" mailPath [plainTexts] :=
    handsOver_mailWorld (by decide) (by decide) (by decide +kernel)
  have hagree : ¬ MailEntry.Disagrees plainTexts := by
    unfold MailEntry.Disagrees
    decide
  obtain ⟨hrun, hfree⟩ := readMailFile_orderFree_iff mailPath [plainTexts]
  refine ⟨hloaded, hagree, hrun (dataSite refusing) _ hloaded, ?_⟩
  exact hfree.mpr (.inr (List.forall_mem_singleton.mpr hagree))

/-- A file with an entry that names one text twice, in two spellings. -/
def twoSpellings : String := "email_details:\n  - DBNAME: sales\n    dbname: stock\n"

/-- The same, in the other order. -/
def twoSpellingsTurned : String := "email_details:\n  - dbname: stock\n    DBNAME: sales\n"

/-- Two keys of an entry that fold together: whether the reports are about one database or the other
depends on the order in which the keys are handed over. -/
theorem readMailFile_two_spellings :
    let texts := [("DBNAME", "sales"), ("dbname", "stock")]
    (texts.map (·.1)).Nodup ∧ Reordered [texts.reverse] [texts] ∧
      HandsOver (mailWorld twoSpellings).files "/" mailPath [texts] ∧
      HandsOver (mailWorld twoSpellingsTurned).files "/" mailPath [texts.reverse] ∧
      (runAt (readMailFile mailPath) (dataSite refusing) (mailWorld twoSpellings)).1 =
        .ok [⟨some "stock", none, none⟩] ∧
      (runAt (readMailFile mailPath) (dataSite refusing) (mailWorld twoSpellingsTurned)).1 =
        .ok [⟨some "sales", none, none⟩] := by
  intro texts
  have hfirst : HandsOver (mailWorld twoSpellings).files "/" mailPath [texts] :=
    handsOver_mailWorld (by decide) (by decide) (by decide +kernel)
  have hsecond : HandsOver (mailWorld twoSpellingsTurned).files "/" mailPath [texts.reverse] :=
    handsOver_mailWorld (by decide) (by decide) (by decide +kernel)
  refine ⟨by decide, .cons (List.reverse_perm texts) .nil, hfirst, hsecond, ?_, ?_⟩
  · rw [runAt_readMailFile_of_handsOver (dataSite refusing) hfirst]
    rfl
  · rw [runAt_readMailFile_of_handsOver (dataSite refusing) hsecond]
    rfl

end Op

end ClusterFixture
