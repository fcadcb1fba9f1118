/-
Which counts of tuples are taken for integers.

A file lists tables with their counts, each in the last field of a line. A count that is no integer
should be found, and what is looked for is a fraction: digits, a point, digits. Numbers that are no
integers are written in more ways than this one. The file says which fields are found, over all
texts, and which decimal numerals are among them.
-/

import ClusterFixture.Proofs.Comparison
import ClusterFixture.Proofs.Lines
import ClusterFixture.Proofs.Numerals
import ClusterFixture.Proofs.Paths
import ClusterFixture.Proofs.Readdressing
import ClusterFixture.Proofs.SettingsFiles

set_option autoImplicit false

namespace ClusterFixture

/-! ## Fractions -/

namespace Text

/-- Two runs of decimal digits, of any script, with a point between them. -/
def IsFraction (cs : List Char) : Prop :=
  ∃ whole places, IsDigits whole ∧ IsDigits places ∧ cs = whole ++ '.' :: places

theorem isPlainFraction_iff {cs : List Char} : isPlainFraction cs = true ↔ IsFraction cs := by
  unfold isPlainFraction
  rw [beq_iff_eq]
  constructor
  · intro h
    obtain ⟨_, hfirst, h⟩ := Option.bind_eq_some_iff.mp h
    obtain ⟨_, hpoint, hsecond⟩ := Option.bind_eq_some_iff.mp h
    obtain ⟨whole, hwhole, rfl⟩ := exists_of_afterDigits? hfirst
    obtain rfl := eq_cons_of_afterChar? hpoint
    obtain ⟨places, hplaces, rfl⟩ := exists_of_afterDigits? hsecond
    exact ⟨whole, places, hwhole, hplaces, by rw [List.append_nil]⟩
  · rintro ⟨whole, places, hwhole, hplaces, rfl⟩
    have hend := afterDigits?_append hplaces []
    rw [List.append_nil, List.dropWhile_nil] at hend
    rw [afterDigits?_append_cons hwhole (by decide), Option.bind_some, afterChar?_cons,
      Option.bind_some, hend]

/-- A fraction has a point, and no other character but digits. -/
theorem IsFraction.mem {cs : List Char} (h : IsFraction cs) {c : Char} (hc : c ∈ cs) :
    c = '.' ∨ isDecimalDigit c = true := by
  obtain ⟨whole, places, hwhole, hplaces, rfl⟩ := h
  rcases List.mem_append.mp hc with hc | hc
  · exact .inr (hwhole.digits c hc)
  · rcases List.mem_cons.mp hc with hc | hc
    · exact .inl hc
    · exact .inr (hplaces.digits c hc)

theorem IsFraction.point_mem {cs : List Char} (h : IsFraction cs) : '.' ∈ cs := by
  obtain ⟨whole, places, -, -, rfl⟩ := h
  simp

/-! ## Last fields -/

/-- What stands behind the last one of some marks, or everything if there is none. -/
def IsTail (mark : Char) (cs tail : List Char) : Prop :=
  mark ∉ tail ∧ (cs = tail ∨ ∃ before, cs = before ++ mark :: tail)

theorem exists_isTail (mark : Char) (cs : List Char) : ∃ tail, IsTail mark cs tail := by
  by_cases hmark : mark ∈ cs
  · -- The last mark is the first one from the end.
    obtain ⟨after, before, hcs, hafter⟩ :=
      List.eq_append_cons_of_mem (List.mem_reverse.mpr hmark)
    refine ⟨after.reverse, fun h => hafter (List.mem_reverse.mp h), .inr ⟨before.reverse, ?_⟩⟩
    rw [← List.reverse_reverse cs, hcs]
    simp
  · exact ⟨cs, hmark, .inl rfl⟩

theorem getLastD_splitAt {mark : Char} {cs tail : List Char} (h : IsTail mark cs tail) :
    (splitAt (· == mark) cs).getLastD [] = tail := by
  obtain ⟨hnone, hcs⟩ := h
  have htail : splitAt (· == mark) tail = [tail] := by
    refine splitAt_of_not_cut fun c hc => beq_false_of_ne ?_
    rintro rfl
    exact hnone hc
  rcases hcs with rfl | ⟨before, rfl⟩
  · rw [htail]
    rfl
  · rw [splitAt_append_cut (by simp), htail]
    simp

/-- The last field of a line, without the blanks around it. -/
def IsLastField (text : String) (field : List Char) : Prop :=
  ∃ lines, HasLines text.toList lines ∧
    ∃ line ∈ lines, ∃ tail, IsTail ',' line tail ∧ trimChars tail = field

end Text

/-! ## Numerals -/

namespace Number

open Text (IsFraction)

namespace Sign

theorem isNoDigit_of_mem {sign : Option Sign} {c : Char} (h : c ∈ chars sign) :
    c ≠ '.' ∧ Text.isDecimalDigit c = false := by
  rcases sign with _ | _ | _
  · cases h
  · rw [List.mem_singleton.mp h]
    exact ⟨by decide, by decide⟩
  · rw [List.mem_singleton.mp h]
    exact ⟨by decide, by decide⟩

end Sign

namespace Power

theorem isNoDigit_mark (p : Power) : p.mark ≠ '.' ∧ Text.isDecimalDigit p.mark = false := by
  rcases p.isMark with h | h <;> rw [h] <;> exact ⟨by decide, by decide⟩

end Power

theorem Digits.isDigits {d : Digits} (h : d.chars ≠ []) : Text.IsDigits d.chars :=
  ⟨h, fun c hc => Text.isDecimalDigit_of_isDigit c (d.areDigits c hc)⟩

namespace Numeral

/-- A numeral of digits, with digits behind a point, a power of ten, or both. -/
structure IsFloating (l : Numeral) : Prop where
  whole : l.whole.chars ≠ []
  places : ∀ f, l.fraction = some f → f.chars ≠ []
  notPlain : ¬ l.IsPlain

/-- In a fraction there is neither a sign nor a mark of a power. -/
theorem not_isFraction_of_mem {l : Numeral} {c : Char} (hc : c ∈ l.chars)
    (hother : c ≠ '.' ∧ Text.isDecimalDigit c = false) : ¬ IsFraction l.chars := by
  intro h
  rcases h.mem hc with hpoint | hdigit
  · exact hother.1 hpoint
  · rw [hother.2] at hdigit
    cases hdigit

/-- A numeral of an integer is no fraction. -/
theorem IsPlain.not_isFraction {l : Numeral} (h : l.IsPlain) : ¬ IsFraction l.chars := by
  intro hfraction
  have hchars : l.chars = Sign.chars l.sign ++ l.whole.chars := by
    rw [chars, pointChars, powerChars, h.1, h.2]
    simp
  have hpoint := hfraction.point_mem
  rw [hchars, List.mem_append] at hpoint
  rcases hpoint with hsign | hwhole
  · exact (Sign.isNoDigit_of_mem hsign).1 rfl
  · exact absurd (l.whole.areDigits _ hwhole) (by decide)

/-- Among the others the fractions are those without sign and without power. -/
theorem IsFloating.isFraction_iff {l : Numeral} (h : l.IsFloating) :
    IsFraction l.chars ↔ l.sign = none ∧ l.power = none := by
  constructor
  · intro hfraction
    -- A sign would be a character of the numeral that a fraction does not have, and so would a mark.
    constructor
    · by_contra hsign
      obtain ⟨c, hc⟩ : ∃ c, c ∈ Sign.chars l.sign := by
        rcases hsome : l.sign with _ | _ | _
        · exact absurd hsome hsign
        · exact ⟨'+', List.mem_singleton_self _⟩
        · exact ⟨'-', List.mem_singleton_self _⟩
      exact not_isFraction_of_mem (List.mem_append_left _ hc) (Sign.isNoDigit_of_mem hc) hfraction
    · by_contra hpower
      obtain ⟨p, hp⟩ := Option.ne_none_iff_exists'.mp hpower
      have hmark : p.mark ∈ l.chars := by
        simp [chars, powerChars, hp, Power.chars]
      exact not_isFraction_of_mem hmark p.isNoDigit_mark hfraction
  · rintro ⟨hsign, hpower⟩
    -- Without a power there is a point, or the numeral would be plain.
    obtain ⟨f, hf⟩ : ∃ f, l.fraction = some f := by
      rw [← Option.ne_none_iff_exists']
      exact fun hnone => h.notPlain ⟨hnone, hpower⟩
    refine ⟨l.whole.chars, f.chars, Digits.isDigits h.whole, Digits.isDigits (h.places f hf), ?_⟩
    rw [chars, pointChars, powerChars, hsign, hf, hpower]
    simp [Sign.chars]

end Numeral

end Number

/-! ## The check -/

namespace Op

open Number (Digits Numeral Power Sign)

variable {σ : Type}

theorem toList_lastField {line tail : List Char} (h : Text.IsTail ',' line tail) :
    (lastField (String.ofList line)).toList = Text.trimChars tail := by
  have hpieces : (Text.split (String.ofList line) ',').getLastD "" = String.ofList tail := by
    rw [← Text.getLastD_splitAt h, Text.split, String.toList_ofList, List.getLastD_eq_getLast?,
      List.getLastD_eq_getLast?, List.getLast?_map]
    exact Option.getD_map String.ofList [] _
  rw [lastField, hpieces, Text.toList_trim, String.toList_ofList]

/-- The last fields of a text are those that its lines have for the check. -/
theorem isLastField_iff {text : String} {field : List Char} :
    Text.IsLastField text field ↔ ∃ line ∈ Text.lines text, (lastField line).toList = field := by
  constructor
  · rintro ⟨lines, hlines, line, hline, tail, htail, rfl⟩
    rw [← Text.lineChars_eq_iff] at hlines
    refine ⟨String.ofList line, ?_, toList_lastField htail⟩
    rw [Text.lines, hlines]
    exact List.mem_map_of_mem hline
  · rintro ⟨_, hmem, rfl⟩
    obtain ⟨line, hline, rfl⟩ := List.mem_map.mp hmem
    obtain ⟨tail, htail⟩ := Text.exists_isTail ',' line
    exact ⟨_, Text.lineChars_eq_iff.mp rfl, line, hline, tail, htail,
      (toList_lastField htail).symm⟩

/-- What is said of a file with a fraction. -/
def floatFound (file : String) : Fault :=
  .detailed .dataMismatch "Expected an integer tuplecount found float" file

theorem runAt_checkIntegerFields_error {file : String} {site : Site σ} {w : World σ} {e : FileFault}
    (h : w.files.readText site.place file = .error e) :
    runAt (checkIntegerFields file) site w = (.error (.io e.message), w) := by
  rw [checkIntegerFields, runAt_bind_error (runAt_onFiles_error h)]

/-- The check looks for the fractions among the last fields. -/
theorem exists_fraction_iff (text : String) :
    (∃ field, Text.IsLastField text field ∧ Text.IsFraction field) ↔
      ((Text.lines text).any fun line => Text.isPlainFraction (lastField line).toList) = true := by
  simp only [List.any_eq_true, Text.isPlainFraction_iff, isLastField_iff]
  constructor
  · rintro ⟨_, ⟨line, hline, rfl⟩, hfraction⟩
    exact ⟨line, hline, hfraction⟩
  · rintro ⟨line, hline, hfraction⟩
    exact ⟨_, ⟨line, hline, rfl⟩, hfraction⟩

/-- A text is refused for the fractions among its last fields, and for nothing else. -/
theorem runAt_checkIntegerFields_ok {file text : String} {site : Site σ} {w : World σ}
    (h : w.files.readText site.place file = .ok text) :
    ((∃ field, Text.IsLastField text field ∧ Text.IsFraction field) →
        runAt (checkIntegerFields file) site w = (.error (floatFound file), w)) ∧
      ((¬ ∃ field, Text.IsLastField text field ∧ Text.IsFraction field) →
        runAt (checkIntegerFields file) site w = (.ok (), w)) := by
  rw [checkIntegerFields, runAt_bind_ok (runAt_onFiles_ok h), exists_fraction_iff]
  constructor
  · intro hfound
    rw [if_pos hfound]
    rfl
  · intro hnone
    rw [if_neg hnone]
    rfl

/-- What the check says of a file, for every file. One that cannot be read as text is a fault of the
file. Otherwise nothing changes. The check fails exactly if a last field of a line is a fraction,
which is then no numeral of an integer; so it finds every other numeral that has neither a sign nor a
power of ten. A success tells that no last field is a numeral with digits behind a point or with a
power, exactly if there is a fraction anyway, or all such fields are without sign and power. -/
theorem checkIntegerFields_vouches_iff (file : String) (site : Site σ) (w : World σ) :
    (∀ e, w.files.readText site.place file = .error e →
        runAt (checkIntegerFields file) site w = (.error (.io e.message), w)) ∧
      ∀ text, w.files.readText site.place file = .ok text →
        let run := runAt (checkIntegerFields file) site w
        run.2 = w ∧
        (run.1 = .ok () ↔ ∀ field, Text.IsLastField text field → ¬ Text.IsFraction field) ∧
        (run.1 ≠ .ok () → run.1 = .error (floatFound file) ∧
          ∃ field, Text.IsLastField text field ∧ Text.IsFraction field ∧
            ∀ l : Numeral, l.IsPlain → l.chars ≠ field) ∧
        (∀ l : Numeral, l.IsFloating → Text.IsLastField text l.chars →
          l.sign = none ∧ l.power = none → run.1 = .error (floatFound file)) ∧
        ((run.1 = .ok () → ∀ l : Numeral, l.IsFloating → ¬ Text.IsLastField text l.chars) ↔
          (∃ field, Text.IsLastField text field ∧ Text.IsFraction field) ∨
            ∀ l : Numeral, l.IsFloating → Text.IsLastField text l.chars →
              l.sign = none ∧ l.power = none) := by
  refine ⟨fun e => runAt_checkIntegerFields_error, fun text htext => ?_⟩
  obtain ⟨hfound, hnone⟩ := runAt_checkIntegerFields_ok htext
  by_cases hfraction : ∃ field, Text.IsLastField text field ∧ Text.IsFraction field
  · rw [hfound hfraction]
    obtain ⟨field, hfield, hisFraction⟩ := hfraction
    refine ⟨rfl, iff_of_false nofun ?_, fun _ => ⟨rfl, field, hfield, hisFraction, ?_⟩,
      fun _ _ _ _ => rfl, iff_of_true nofun (.inl ⟨field, hfield, hisFraction⟩)⟩
    · intro hall
      exact hall field hfield hisFraction
    · rintro l hplain rfl
      exact hplain.not_isFraction hisFraction
  · rw [hnone hfraction]
    -- No fraction, so no numeral that is one.
    have hwritten : ∀ l : Numeral, l.IsFloating → Text.IsLastField text l.chars →
        ¬ (l.sign = none ∧ l.power = none) := by
      intro l hfloating hlast hpointed
      exact hfraction ⟨l.chars, hlast, hfloating.isFraction_iff.mpr hpointed⟩
    refine ⟨rfl, iff_of_true rfl ?_, fun hrefused => absurd rfl hrefused, ?_, ?_⟩
    · intro field hfield hisFraction
      exact hfraction ⟨field, hfield, hisFraction⟩
    · intro l hfloating hlast hpointed
      exact absurd hpointed (hwritten l hfloating hlast)
    · rw [or_iff_right hfraction]
      constructor
      · intro hother l hfloating hlast
        exact absurd hlast (hother rfl l hfloating)
      · intro hpointed _ l hfloating hlast
        exact hwritten l hfloating hlast (hpointed l hfloating hlast)

/-! ## Numbers with a sign and with a power -/

/-- A world with a file of counts. -/
def countsWorld (text : String) : World Unit :=
  ⟨(), Settings.treeOf [("counts", text)], [], []⟩

/-- The path of the file. -/
def countsPath : String := "configuration/counts"

theorem readText_countsWorld (text : String) :
    (countsWorld text).files.readText (dataSite refusing).place countsPath = .ok text := by
  have hpath : Settings.IsPlainPath countsPath "counts" := by decide
  have hread : (countsWorld text).files.read (dataSite refusing).place countsPath =
      .ok (Text.utf8 text) := Settings.read_treeOf [("counts", text)] hpath rfl
  rw [FileTree.readText, hread]
  simp only [bind, Except.bind, Text.ofUtf8?_utf8, pure, Except.pure]

/-- A numeral with digits in front of the point and behind it. -/
def pointedNumeral (sign : Option Sign) (whole places : Nat) (power : Option Power) : Numeral where
  sign := sign
  whole := .ofNat whole
  fraction := some (.ofNat places)
  power := power
  nonempty := .inl (Digits.ofNat_ne_nil whole)

theorem isFloating_pointedNumeral (sign : Option Sign) (whole places : Nat)
    (power : Option Power) : (pointedNumeral sign whole places power).IsFloating where
  whole := Digits.ofNat_ne_nil whole
  places f hf := by
    rw [← Option.some.inj hf]
    exact Digits.ofNat_ne_nil places
  notPlain h := nomatch h.1

/-- Integers go through, and a number with digits behind the point is found. -/
theorem checkIntegerFields_vouches_iff_sample :
    (runAt (checkIntegerFields countsPath) (dataSite refusing)
        (countsWorld "public,sales,1094\npublic,items,3\n")).1 = .ok () ∧
      Text.IsLastField "public,sales,1094.0\n" (pointedNumeral none 1094 0 none).chars ∧
      (runAt (checkIntegerFields countsPath) (dataSite refusing)
        (countsWorld "public,sales,1094.0\n")).1 = .error (floatFound countsPath) := by
  have houtcome := fun text => (checkIntegerFields_vouches_iff countsPath (dataSite refusing)
    (countsWorld text)).2 text (readText_countsWorld text)
  have hlast : Text.IsLastField "public,sales,1094.0\n" (pointedNumeral none 1094 0 none).chars :=
    isLastField_iff.mpr (by decide)
  obtain ⟨-, hok, -⟩ := houtcome "public,sales,1094\npublic,items,3\n"
  obtain ⟨-, -, -, hfound, -⟩ := houtcome "public,sales,1094.0\n"
  refine ⟨hok.mpr fun field hfield hfraction => ?_, hlast,
    hfound _ (isFloating_pointedNumeral none 1094 0 none) hlast ⟨rfl, rfl⟩⟩
  exact absurd ((exists_fraction_iff _).mp ⟨field, hfield, hfraction⟩) (by decide)

/-- The tenth power of ten. -/
def tenthPower : Power where
  mark := 'e'
  isMark := .inl rfl
  sign := some .plus
  digits := .ofNat 10
  nonempty := Digits.ofNat_ne_nil 10

/-- A number with a sign. -/
def belowZero : Numeral := pointedNumeral (some .minus) 1094 5 none

/-- A number with a power of ten. -/
def billions : Numeral := pointedNumeral none 1 5 (some tenthPower)

/-- Two numbers with digits behind the point, one with a sign and one with a power, go through. -/
theorem checkIntegerFields_misses :
    let text := "public,sales,-1094.5\npublic,items,1.5e+10\n"
    (belowZero.IsFloating ∧ Text.IsLastField text belowZero.chars) ∧
      (billions.IsFloating ∧ Text.IsLastField text billions.chars) ∧
      runAt (checkIntegerFields countsPath) (dataSite refusing) (countsWorld text) =
        (.ok (), countsWorld text) := by
  intro text
  refine ⟨⟨isFloating_pointedNumeral _ _ _ _, isLastField_iff.mpr (by decide)⟩,
    ⟨isFloating_pointedNumeral _ _ _ _, isLastField_iff.mpr (by decide)⟩, ?_⟩
  refine (runAt_checkIntegerFields_ok (readText_countsWorld text)).2 ?_
  rw [exists_fraction_iff]
  decide

end Op

end ClusterFixture
