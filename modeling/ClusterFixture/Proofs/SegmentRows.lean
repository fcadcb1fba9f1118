/-
Which rows of the configuration describe segments.

A row is read column by column. `IsRowOf` says what the columns of the row of a segment hold, and
`Unreadable` what can be wrong with a row: a column without a text, a code that is none, a text that
writes no number of its range. A row is read exactly as the row of the segment that it is, and it
is the row of none exactly when it is unreadable. A configuration is read all or nothing, with one
query and before anything else happens.
-/

import ClusterFixture.Operation.Segments
import ClusterFixture.Proofs.Configuration
import ClusterFixture.Proofs.Numerals
import ClusterFixture.Proofs.Running
import Mathlib.Tactic.IntervalCases

set_option autoImplicit false

namespace ClusterFixture

/-! ## Integers of a range -/

namespace Number

/-- A text writes an integer of a range: digits, which a plus may lead, or a minus if the range has
numbers below zero. -/
def IntRange.Writes (r : IntRange) (word : String) (n : Int) : Prop :=
  ∃ (sign : Option Sign) (digits : Digits),
    word.toList = Sign.chars sign ++ digits.chars ∧ digits.chars ≠ [] ∧
      (sign = some .minus → r.low < 0) ∧
      n = signedInt (Sign.isMinus sign) digits.value ∧ r.holds n = true

/-- Digits behind a sign are read to the end, if the number lies in the range. -/
theorem readDigits_digits {r : IntRange} (hlow : r.low ≤ 0) (hhigh : 0 ≤ r.high) (down : Bool)
    (d : Digits) (n : Int) :
    readDigits r down 0 d.chars = .ok n ↔ n = signedInt down d.value ∧ r.holds n = true := by
  have hzero : (0 : Int) = signedInt down 0 := by cases down <;> rfl
  have hholds : r.holds (signedInt down 0) = true := by
    rw [← hzero, IntRange.holds_iff]
    exact ⟨hlow, hhigh⟩
  rw [hzero]
  exact readDigits_eq_ok_iff hlow hhigh down d.areDigits hholds n

/-- What is read has at most one sign, and digits behind it. -/
theorem exists_digits_of_readIntegerChars {r : IntRange} {cs : List Char} {n : Int}
    (h : readIntegerChars r cs = .ok n) :
    ∃ (sign : Option Sign) (d : Digits), cs = Sign.chars sign ++ d.chars ∧ d.chars ≠ [] ∧
      (sign = some .minus → r.low < 0) ∧
      readDigits r (Sign.isMinus sign) 0 d.chars = .ok n := by
  unfold readIntegerChars at h
  split at h
  · cases h
  · split at h
    · cases h
    · exact ⟨none, ⟨_, isDigit_of_readDigits h⟩, rfl, by simp, nofun, h⟩
  · next c rest hsingle =>
    have hne : rest ≠ [] := hsingle
    split at h
    · next hplus =>
      exact ⟨some .plus, ⟨rest, isDigit_of_readDigits h⟩, by rw [hplus]; rfl, hne, nofun, h⟩
    split at h
    · next hminus =>
      obtain ⟨hminus, hlow⟩ : c = '-' ∧ r.low < 0 := by simpa using hminus
      exact ⟨some .minus, ⟨rest, isDigit_of_readDigits h⟩, by rw [hminus]; rfl, hne,
        fun _ => hlow, h⟩
    · exact ⟨none, ⟨_, isDigit_of_readDigits h⟩, rfl, by simp, nofun, h⟩

/-- A text is read as the integer that it writes. -/
theorem readInteger_eq_ok_iff {r : IntRange} (hlow : r.low ≤ 0) (hhigh : 0 ≤ r.high)
    (word : String) (n : Int) : readInteger r word = .ok n ↔ r.Writes word n := by
  constructor
  · intro h
    obtain ⟨sign, d, hchars, hne, hminus, hread⟩ := exists_digits_of_readIntegerChars h
    exact ⟨sign, d, hchars, hne, hminus, (readDigits_digits hlow hhigh _ d n).mp hread⟩
  · rintro ⟨sign, d, hchars, hne, hminus, hvalue⟩
    rw [readInteger, hchars, readIntegerChars_signed sign hminus hne]
    exact (readDigits_digits hlow hhigh _ d n).mpr hvalue

end Number

open ClusterFixture.Number (IntRange signedRange unsignedRange)

/-! ## Columns -/

namespace Cluster

open ClusterFixture.Sql (Row)

/-- A column is read as the integer that its text writes, blanks around it aside. -/
theorem integerIn_eq_ok_iff {r : IntRange} (hlow : r.low ≤ 0) (hhigh : 0 ≤ r.high) {row : Row}
    {i : Nat} {n : Int} :
    row.integerIn r i = .ok n ↔
      ∃ word, (row.text? i).map Text.trim = some word ∧ r.Writes word n := by
  unfold Row.integerIn
  simp only [bind_eq_ok_iff, text_eq_ok_iff, Option.map_eq_some_iff,
    ← Number.readInteger_eq_ok_iff hlow hhigh]
  constructor
  · rintro ⟨text, htext, h⟩
    refine ⟨_, ⟨text, htext, rfl⟩, ?_⟩
    rcases hread : Number.readInteger r (Text.trim text) with f | m
    · rw [hread] at h
      cases h
    · rw [hread] at h
      cases h
      rfl
  · rintro ⟨_, ⟨text, htext, rfl⟩, hread⟩
    exact ⟨text, htext, by rw [hread]⟩

/-- The code of a role. -/
def SegmentRole.code : SegmentRole → String
  | .primary => "p"
  | .mirror => "m"

theorem SegmentRole.ofCode_eq_ok_iff (code : String) (role : SegmentRole) :
    SegmentRole.ofCode code = .ok role ↔ Text.trim code = role.code := by
  constructor
  · intro h
    unfold SegmentRole.ofCode at h
    split at h
    · cases h
      assumption
    · cases h
      assumption
    · cases h
  · intro h
    unfold SegmentRole.ofCode
    rw [h]
    cases role <;> rfl

/-- The text in a column of a row of the configuration, without the blanks around it. -/
def wordIn (row : Row) (column : String) : Option String := (codeIn row column).map Text.trim

theorem wordIn_eq_some_iff {row : Row} {column word : String} :
    wordIn row column = some word ↔ ∃ code, codeIn row column = some code ∧ Text.trim code = word :=
  Option.map_eq_some_iff

/-! ## Rows of segments -/

/-- The columns of a row of the configuration hold what they should for a segment. -/
structure IsRowOf (row : Row) (s : Segment) : Prop where
  dbid : ∃ word, wordIn row "dbid" = some word ∧ (signedRange 32).Writes word s.dbid
  content : ∃ word, wordIn row "content" = some word ∧ (signedRange 32).Writes word s.content
  role : wordIn row "role" = some s.role.code
  preferredRole : wordIn row "preferred_role" = some s.preferredRole.code
  /-- A mode may have any code. -/
  mode : ∃ code, codeIn row "mode" = some code ∧ s.mode = .ofCode code
  status : wordIn row "status" = some s.status.code
  port : ∃ word, wordIn row "port" = some word ∧ (unsignedRange 16).Writes word s.port
  hostname : wordIn row "hostname" = some s.hostname
  address : wordIn row "address" = some s.address

/-- A row is read as a segment exactly when it is the row of this segment. -/
theorem Segment.ofRow_eq_ok_iff {row : Row} {s : Segment} :
    Segment.ofRow row = .ok s ↔ IsRowOf row s := by
  have hsigned : ∀ i n, row.integerIn (signedRange 32) i = .ok n ↔
      ∃ word, (row.text? i).map Text.trim = some word ∧ (signedRange 32).Writes word n :=
    fun i n => integerIn_eq_ok_iff (by decide) (by decide)
  have hunsigned : ∀ i n, row.integerIn (unsignedRange 16) i = .ok n ↔
      ∃ word, (row.text? i).map Text.trim = some word ∧ (unsignedRange 16).Writes word n :=
    fun i n => integerIn_eq_ok_iff (by decide) (by decide)
  unfold Segment.ofRow
  simp only [bind_eq_ok_iff, text_eq_ok_iff, SegmentRole.ofCode_eq_ok_iff,
    SegmentStatus.ofCode_eq_ok_iff, hsigned, hunsigned]
  constructor
  · rintro ⟨dbid, hdbid, content, hcontent, role, hrole, role', hrole', preferred, hpreferred,
      preferred', hpreferred', mode, hmode, status, hstatus, status', hstatus', port, hport,
      hostname, hhostname, address, haddress, h⟩
    obtain ⟨word, hword, sign, digits, hchars, hne, hminus, hvalue, hholds⟩ := hport
    cases h
    have hport : (port.toNat : Int) = port := by
      have hlow : (0 : Int) ≤ port := ((Number.IntRange.holds_iff _ _).mp hholds).1
      omega
    refine ⟨hdbid, hcontent, ?_, ?_, ⟨mode, hmode, rfl⟩, ?_, ?_, ?_, ?_⟩
    · exact wordIn_eq_some_iff.mpr ⟨role, hrole, hrole'⟩
    · exact wordIn_eq_some_iff.mpr ⟨preferred, hpreferred, hpreferred'⟩
    · exact wordIn_eq_some_iff.mpr ⟨status, hstatus, hstatus'⟩
    · refine ⟨word, hword, ?_⟩
      rw [hport]
      exact ⟨sign, digits, hchars, hne, hminus, hvalue, hholds⟩
    · exact wordIn_eq_some_iff.mpr ⟨hostname, hhostname, rfl⟩
    · exact wordIn_eq_some_iff.mpr ⟨address, haddress, rfl⟩
  · rintro ⟨hdbid, hcontent, hrole, hpreferred, ⟨mode, hmode, hmode'⟩, hstatus, hport, hhostname,
      haddress⟩
    obtain ⟨role, hrole, hrole'⟩ := wordIn_eq_some_iff.mp hrole
    obtain ⟨preferred, hpreferred, hpreferred'⟩ := wordIn_eq_some_iff.mp hpreferred
    obtain ⟨status, hstatus, hstatus'⟩ := wordIn_eq_some_iff.mp hstatus
    obtain ⟨hostname, hhostname, hhostname'⟩ := wordIn_eq_some_iff.mp hhostname
    obtain ⟨address, haddress, haddress'⟩ := wordIn_eq_some_iff.mp haddress
    refine ⟨s.dbid, hdbid, s.content, hcontent, role, hrole, s.role, hrole', preferred, hpreferred,
      s.preferredRole, hpreferred', mode, hmode, status, hstatus, s.status, hstatus', s.port, hport,
      hostname, hhostname, address, haddress, ?_⟩
    rw [hhostname', haddress', ← hmode']
    rfl

/-! ## Rows of no segment -/

/-- The columns that hold integers, with their ranges. -/
def integerColumns : List (String × IntRange) :=
  [("dbid", signedRange 32), ("content", signedRange 32), ("port", unsignedRange 16)]

/-- What can be wrong with a row of the configuration. -/
inductive Unreadable (row : Row) : Prop where
  /-- The row has too few columns. -/
  | short : row.size < configurationColumns.length → Unreadable row
  /-- A column holds no text. -/
  | null {i : Nat} : i < configurationColumns.length → row.columns[i]? = some none → Unreadable row
  | unknownRole {column word : String} : column ∈ ["role", "preferred_role"] →
    wordIn row column = some word → word ∉ ["p", "m"] → Unreadable row
  | unknownStatus {word : String} : wordIn row "status" = some word → word ∉ ["u", "d"] →
    Unreadable row
  | noInteger {column word : String} {r : IntRange} : (column, r) ∈ integerColumns →
    wordIn row column = some word → (∀ n, ¬r.Writes word n) → Unreadable row

/-- Where nothing is missing every column has a text. -/
theorem exists_codeIn {row : Row} (h : ¬Unreadable row) (column : String)
    (hcolumn : column ∈ configurationColumns) : ∃ code, codeIn row column = some code := by
  have hplace : configurationColumns.idxOf column < configurationColumns.length :=
    List.idxOf_lt_length_iff.mpr hcolumn
  unfold codeIn Row.text?
  rcases hentry : row.columns[configurationColumns.idxOf column]? with _ | _ | code
  · refine absurd (.short ?_) h
    exact Nat.lt_of_le_of_lt (List.getElem?_eq_none_iff.mp hentry) hplace
  · exact absurd (.null hplace hentry) h
  · exact ⟨code, rfl⟩

theorem exists_wordIn {row : Row} (h : ¬Unreadable row) (column : String)
    (hcolumn : column ∈ configurationColumns) : ∃ word, wordIn row column = some word := by
  obtain ⟨code, hcode⟩ := exists_codeIn h column hcolumn
  exact ⟨_, wordIn_eq_some_iff.mpr ⟨code, hcode, rfl⟩⟩

theorem exists_integerIn {row : Row} (h : ¬Unreadable row) (column : String) {r : IntRange}
    (hcolumn : (column, r) ∈ integerColumns) (hlisted : column ∈ configurationColumns) :
    ∃ n word, wordIn row column = some word ∧ r.Writes word n := by
  obtain ⟨word, hword⟩ := exists_wordIn h column hlisted
  by_contra hnone
  exact h (.noInteger hcolumn hword fun n hn => hnone ⟨n, word, hword, hn⟩)

theorem exists_roleIn {row : Row} (h : ¬Unreadable row) (column : String)
    (hcolumn : column ∈ ["role", "preferred_role"]) (hlisted : column ∈ configurationColumns) :
    ∃ role : SegmentRole, wordIn row column = some role.code := by
  obtain ⟨word, hword⟩ := exists_wordIn h column hlisted
  by_cases hknown : word ∈ ["p", "m"]
  · rcases List.mem_pair.mp hknown with rfl | rfl
    · exact ⟨.primary, hword⟩
    · exact ⟨.mirror, hword⟩
  · exact absurd (.unknownRole hcolumn hword hknown) h

theorem exists_statusIn {row : Row} (h : ¬Unreadable row) :
    ∃ status : SegmentStatus, wordIn row "status" = some status.code := by
  obtain ⟨word, hword⟩ := exists_wordIn h "status" (by decide)
  by_cases hknown : word ∈ ["u", "d"]
  · rcases List.mem_pair.mp hknown with rfl | rfl
    · exact ⟨.up, hword⟩
    · exact ⟨.down, hword⟩
  · exact absurd (.unknownStatus hword hknown) h

/-- A row that is not unreadable is the row of a segment. -/
theorem exists_isRowOf {row : Row} (h : ¬Unreadable row) : ∃ s, IsRowOf row s := by
  obtain ⟨dbid, hdbid⟩ := exists_integerIn h "dbid" (r := signedRange 32)
    (by simp [integerColumns]) (by decide)
  obtain ⟨content, hcontent⟩ := exists_integerIn h "content"
    (r := signedRange 32) (by simp [integerColumns]) (by decide)
  obtain ⟨port, word, hword, hport⟩ := exists_integerIn h "port"
    (r := unsignedRange 16) (by simp [integerColumns]) (by decide)
  obtain ⟨role, hrole⟩ := exists_roleIn h "role" (by simp) (by decide)
  obtain ⟨preferred, hpreferred⟩ := exists_roleIn h "preferred_role" (by simp)
    (by decide)
  obtain ⟨mode, hmode⟩ := exists_codeIn h "mode" (by decide)
  obtain ⟨status, hstatus⟩ := exists_statusIn h
  obtain ⟨hostname, hhostname⟩ := exists_wordIn h "hostname" (by decide)
  obtain ⟨address, haddress⟩ := exists_wordIn h "address" (by decide)
  have hnat : (port.toNat : Int) = port := by
    obtain ⟨_, _, _, _, _, _, hholds⟩ := hport
    have hlow : (0 : Int) ≤ port := ((Number.IntRange.holds_iff _ _).mp hholds).1
    omega
  rw [← hnat] at hport
  exact ⟨⟨dbid, content, role, preferred, .ofCode mode, status, port.toNat, hostname, address⟩,
    hdbid, hcontent, hrole, hpreferred, ⟨mode, hmode, rfl⟩, hstatus, ⟨word, hword, hport⟩,
    hhostname, haddress⟩

/-- Every column of the row of a segment has a text. -/
theorem IsRowOf.exists_text {row : Row} {s : Segment} (h : IsRowOf row s) :
    ∀ i < configurationColumns.length, ∃ text, row.text? i = some text := by
  have hword : ∀ {column word : String}, wordIn row column = some word →
      ∃ text, row.text? (configurationColumns.idxOf column) = some text := by
    intro column word hword
    obtain ⟨text, htext, _⟩ := wordIn_eq_some_iff.mp hword
    exact ⟨text, htext⟩
  obtain ⟨_, hdbid, _⟩ := h.dbid
  obtain ⟨_, hcontent, _⟩ := h.content
  obtain ⟨mode, hmode, _⟩ := h.mode
  obtain ⟨_, hport, _⟩ := h.port
  intro i hi
  have hnine : i < 9 := hi
  interval_cases i
  · exact hword hdbid
  · exact hword hcontent
  · exact hword h.role
  · exact hword h.preferredRole
  · exact ⟨mode, hmode⟩
  · exact hword h.status
  · exact hword hport
  · exact hword h.hostname
  · exact hword h.address

/-- An unreadable row is the row of no segment. -/
theorem Unreadable.not_isRowOf {row : Row} (h : Unreadable row) (s : Segment) : ¬IsRowOf row s := by
  intro hrow
  cases h with
  | short hsize =>
    -- The last column is the first that a short row may lack.
    obtain ⟨text, htext⟩ := hrow.exists_text 8 (by decide)
    have hmissing : row.columns[8]? = none :=
      List.getElem?_eq_none_iff.mpr (Nat.le_of_lt_succ hsize)
    rw [Row.text?, hmissing] at htext
    cases htext
  | null hi hnull =>
    obtain ⟨text, htext⟩ := hrow.exists_text _ hi
    rw [Row.text?, hnull] at htext
    cases htext
  | unknownRole hcolumn hword hunknown =>
    have hcode : ∀ role : SegmentRole, role.code ∈ ["p", "m"] := by
      intro role
      cases role <;> decide
    rcases List.mem_pair.mp hcolumn with rfl | rfl
    · rw [hrow.role] at hword
      exact hunknown (Option.some.inj hword ▸ hcode s.role)
    · rw [hrow.preferredRole] at hword
      exact hunknown (Option.some.inj hword ▸ hcode s.preferredRole)
  | unknownStatus hword hunknown =>
    have hcode : ∀ status : SegmentStatus, status.code ∈ ["u", "d"] := by
      intro status
      cases status <;> decide
    rw [hrow.status] at hword
    exact hunknown (Option.some.inj hword ▸ hcode s.status)
  | noInteger hcolumn hword hnone =>
    have hno : ∀ {column : String} {r : IntRange} {n : Int},
        (∃ word, wordIn row column = some word ∧ r.Writes word n) →
          ∀ {word}, wordIn row column = some word → ¬∀ n, ¬r.Writes word n := by
      rintro column r n ⟨word, hword, hwrites⟩ word' hword' hall
      rw [hword] at hword'
      exact hall n (Option.some.inj hword' ▸ hwrites)
    -- Of three columns with integers each writes the number of the segment.
    simp only [integerColumns, List.mem_cons, List.not_mem_nil, or_false, Prod.mk.injEq] at hcolumn
    rcases hcolumn with ⟨rfl, rfl⟩ | ⟨rfl, rfl⟩ | ⟨rfl, rfl⟩
    · exact hno hrow.dbid hword hnone
    · exact hno hrow.content hword hnone
    · exact hno hrow.port hword hnone

/-! ## Configurations -/

namespace Layout

/-- A configuration is read as the layout whose segments its rows are of, one by one. -/
theorem ofRows_eq_ok_iff {rows : List Row} {l : Layout} :
    Layout.ofRows rows = .ok l ↔ List.Forall₂ IsRowOf rows l.segments := by
  constructor
  · exact fun h => (ofRows_eq_ok h).imp fun _ _ => Segment.ofRow_eq_ok_iff.mp
  · intro h
    suffices hall : rows.mapM Segment.ofRow = .ok l.segments from
      bind_eq_ok_iff.mpr ⟨l.segments, hall, rfl⟩
    generalize l.segments = segments at h
    induction h with
    | nil => rfl
    | cons hrow _ ih =>
      rw [List.mapM_cons, Segment.ofRow_eq_ok_iff.mpr hrow, ih]
      rfl

/-- A configuration without unreadable rows is read. -/
theorem exists_ofRows {rows : List Row} (h : ∀ row ∈ rows, ¬Unreadable row) :
    ∃ l, Layout.ofRows rows = .ok l := by
  suffices hall : ∃ segments, List.Forall₂ IsRowOf rows segments by
    obtain ⟨segments, hsegments⟩ := hall
    exact ⟨⟨segments⟩, ofRows_eq_ok_iff.mpr hsegments⟩
  induction rows with
  | nil => exact ⟨[], .nil⟩
  | cons row rest ih =>
    obtain ⟨hrow, hrest⟩ := List.forall_mem_cons.mp h
    obtain ⟨s, hs⟩ := exists_isRowOf hrow
    obtain ⟨segments, hsegments⟩ := ih hrest
    exact ⟨s :: segments, .cons hs hsegments⟩

/-- One unreadable row is enough for a configuration not to be read. -/
theorem ofRows_eq_error {rows : List Row} {row : Row} (hrow : row ∈ rows) (h : Unreadable row) :
    ∃ f, Layout.ofRows rows = .error f := by
  rcases hread : Layout.ofRows rows with f | l
  · exact ⟨f, rfl⟩
  · -- All rows of a configuration that is read are rows of segments.
    obtain ⟨i, hi, rfl⟩ := List.mem_iff_getElem.mp hrow
    have hrows := ofRows_eq_ok_iff.mp hread
    have hget := hrows.get hi (by rw [← hrows.length_eq]; exact hi)
    exact absurd hget (h.not_isRowOf _)

theorem not_unreadable_of_ofRows {rows : List Row} {l : Layout} (h : Layout.ofRows rows = .ok l) :
    ∀ row ∈ rows, ¬Unreadable row := by
  intro row hrow hbad
  obtain ⟨f, hf⟩ := ofRows_eq_error hrow hbad
  rw [h] at hf
  cases hf

end Layout

end Cluster

namespace Op

variable {σ : Type}

/-! ## Asking for the configuration -/

/-- What a server answers in a state when it is asked for the configuration. -/
def askedSegments (site : Site σ) (state : σ × FileTree) :
    Checked (List Sql.Row) × (σ × FileTree) :=
  (site.services.query .template Sql.Statement.segmentConfiguration).run state

/-- Asking for the layout is one query, whose answer is read. -/
theorem went_layout (site : Site σ) (w : World σ) :
    ∃ w', runAt layout site w =
        ((askedSegments site (w.server, w.files)).1 >>= Cluster.Layout.ofRows, w') ∧
      Went w [.query .template Sql.Statement.segmentConfiguration]
        (askedSegments site (w.server, w.files)).2 w' := by
  obtain ⟨w', hquery, hwent⟩ := went_queryAt .template Sql.Statement.segmentConfiguration site w
  refine ⟨w', ?_, hwent⟩
  rw [layout, runAt_bind, hquery, askedSegments]
  rcases ((site.services.query .template Sql.Statement.segmentConfiguration).run
    (w.server, w.files)).1 with f | rows
  · rfl
  · exact runAt_check _ _ _

/-- What needs the layout happens only where all rows of the configuration can be read. -/
theorem runAt_layout_bind {α : Type} (next : Cluster.Layout → Op σ α) (site : Site σ)
    (w : World σ) :
    ∃ asked,
      Went w [.query .template Sql.Statement.segmentConfiguration]
        (askedSegments site (w.server, w.files)).2 asked ∧
      (∀ f, (askedSegments site (w.server, w.files)).1 = .error f →
        runAt (layout >>= next) site w = (.error f, asked)) ∧
      ∀ rows, (askedSegments site (w.server, w.files)).1 = .ok rows →
        ((∃ row ∈ rows, Cluster.Unreadable row) →
          ∃ f, runAt (layout >>= next) site w = (.error f, asked)) ∧
        ((∀ row ∈ rows, ¬Cluster.Unreadable row) →
          ∃ l, List.Forall₂ Cluster.IsRowOf rows l.segments ∧
            runAt (layout >>= next) site w = runAt (next l) site asked) := by
  obtain ⟨asked, hlayout, hasked⟩ := went_layout site w
  refine ⟨asked, hasked, fun f hf => ?_, fun rows hrows => ⟨?_, fun hgood => ?_⟩⟩
  · rw [hf] at hlayout
    exact runAt_bind_error hlayout next
  · rintro ⟨row, hrow, hbad⟩
    obtain ⟨f, hf⟩ := Cluster.Layout.ofRows_eq_error hrow hbad
    rw [hrows] at hlayout
    exact ⟨f, runAt_bind_error (hlayout.trans (by rw [← hf]; rfl)) next⟩
  · obtain ⟨l, hl⟩ := Cluster.Layout.exists_ofRows hgood
    rw [hrows] at hlayout
    exact ⟨l, Cluster.Layout.ofRows_eq_ok_iff.mp hl,
      runAt_bind_ok (hlayout.trans (by rw [← hl]; rfl)) next⟩

end Op

end ClusterFixture
