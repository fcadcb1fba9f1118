/-
What a variable gives to the field that its name spells.

The value of a variable replaces whatever the files give at its place. Where no key is known to hold
a list, that value is the text. Where one is, every text is looked at first: a flag or a number that
it spells comes before the list of its parts, and before the text itself. So a text without a comma
may be refused by a list, and a text field may get another spelling of what it was given.
-/

import ClusterFixture.Proofs.Fields
import ClusterFixture.Proofs.Numerals
import ClusterFixture.Proofs.SettingsFiles

set_option autoImplicit false

namespace ClusterFixture

/-! ## Commas -/

namespace Number

theorem ne_comma_of_isDigit {c : Char} (h : c.isDigit = true) : c ≠ ',' := by
  rintro rfl
  revert h
  decide

/-- A sign at the start is no comma. -/
theorem mem_takeSign {cs : List Char} (h : ',' ∈ cs) : ',' ∈ (takeSign cs).2 := by
  unfold takeSign
  split <;> simp_all

/-- What follows the digits holds the comma. -/
theorem mem_spanDigits {cs : List Char} (h : ',' ∈ cs) : ',' ∈ (spanDigits cs).2 := by
  rw [← List.takeWhile_append_dropWhile (p := Char.isDigit) (l := cs)] at h
  refine (List.mem_append.mp h).resolve_left fun hmem => ?_
  have hdigit := List.all_eq_true.mp List.all_takeWhile ',' hmem
  exact ne_comma_of_isDigit hdigit rfl

/-- No power of ten has a comma in it. -/
theorem exponentPart?_of_comma {cs : List Char} (h : ',' ∈ cs) : exponentPart? cs = none := by
  rcases cs with _ | ⟨c, rest⟩
  · cases h
  · rw [exponentPart?]
    by_cases hmark : (c = 'e' || c = 'E') = true
    · rw [if_pos hmark]
      have hrest : ',' ∈ rest := by
        refine (List.mem_cons.mp h).resolve_left ?_
        rintro rfl
        revert hmark
        decide
      have hall : (takeSign rest).2.all Char.isDigit = false := by
        rw [List.all_eq_false]
        exact ⟨',', mem_takeSign hrest, by decide⟩
      simp [hall]
    · rw [if_neg hmark]

/-- No decimal numeral has one. -/
theorem decimalParts?_of_comma {cs : List Char} (h : ',' ∈ cs) : decimalParts? cs = none := by
  have hrest := mem_spanDigits h
  unfold decimalParts?
  generalize spanDigits cs = parts at hrest ⊢
  obtain ⟨whole, rest⟩ := parts
  dsimp only
  split
  · next more =>
    have hmore := mem_spanDigits ((List.mem_cons.mp hrest).resolve_left (by decide))
    simp [exponentPart?_of_comma hmore]
  · simp [exponentPart?_of_comma hrest]

/-- **A text with a comma is no number.** -/
theorem readDecimal_of_comma {s : String} (h : ',' ∈ s.toList) :
    readDecimal s = .error .invalid := by
  have hbody := mem_takeSign h
  have hempty : s.toList.isEmpty = false := by
    rw [List.isEmpty_eq_false_iff]
    exact List.ne_nil_of_mem h
  have hword : ∀ word : String, ',' ∉ word.toList →
      String.ofList (lowerAscii (takeSign s.toList).2) ≠ word := by
    rintro word hword rfl
    rw [String.toList_ofList, lowerAscii] at hword
    exact hword (List.mem_map.mpr ⟨',', hbody, by decide⟩)
  rw [readDecimal, readDecimalChars, hempty]
  simp only [Bool.false_eq_true, if_false, decimalParts?_of_comma hbody]
  simp [hword "inf" (by decide), hword "infinity" (by decide), hword "nan" (by decide)]

theorem readInteger_of_comma {r : IntRange} {s : String} (h : ',' ∈ s.toList) (n : Int) :
    readInteger r s ≠ .ok n := by
  intro hread
  rcases isDigit_of_readIntegerChars hread ',' h with hdigit | hsign | hsign
  · exact ne_comma_of_isDigit hdigit rfl
  · cases hsign
  · cases hsign

end Number

namespace Text

/-- A comma stays one in lower case. -/
theorem mem_lowerFrom_of_comma {cs : List Char} (before : List Char) (h : ',' ∈ cs) :
    ',' ∈ lowerFrom before cs := by
  induction cs generalizing before with
  | nil => cases h
  | cons c rest ih =>
    rw [lowerFrom]
    rcases List.mem_cons.mp h with rfl | h
    · rw [if_pos (by decide)]
      exact List.mem_append_left _ (by decide)
    · exact List.mem_append_right _ (ih _ h)

theorem lower_ne_of_comma {s word : String} (h : ',' ∈ s.toList) (hword : ',' ∉ word.toList) :
    lower s ≠ word := by
  rintro rfl
  rw [lower, String.toList_ofList] at hword
  exact hword (mem_lowerFrom_of_comma [] h)

end Text

namespace Settings

/-! ## What a text is taken for -/

/-- A text that spells a flag or a number. -/
def SpellsScalar (text : String) : Prop :=
  Text.lower text = "true" ∨ Text.lower text = "false" ∨
    (∃ n, Number.readInteger (Number.signedRange 64) text = .ok n) ∨
    ∃ x, Number.readDecimal text = .ok x

/-- A text of several parts spells neither. -/
theorem not_spellsScalar_of_comma {text : String} (h : ',' ∈ text.toList) :
    ¬SpellsScalar text := by
  rintro (hword | hword | ⟨n, hn⟩ | ⟨x, hx⟩)
  · exact Text.lower_ne_of_comma h (by decide) hword
  · exact Text.lower_ne_of_comma h (by decide) hword
  · exact Number.readInteger_of_comma h n hn
  · rw [Number.readDecimal_of_comma h] at hx
    cases hx

/-- What a text spells as a flag or a number, if it does. -/
def spelled? (text : String) : Option Scalar :=
  if Text.lower text = "true" then some (.flag true)
  else if Text.lower text = "false" then some (.flag false)
  else match Number.readInteger (Number.signedRange 64) text, Number.readDecimal text with
    | .ok n, _ => some (.integer n)
    | _, .ok x => some (.number x)
    | _, _ => none

/-- The text of a flag or a number. -/
def scalarText : Scalar → String
  | .nothing => ""
  | .flag b => Located.flagText b
  | .integer n => Number.decimal n
  | .number x => x.display
  | .text s => s

/-- A text, where it spells a flag or a number in the spelling of what it is taken for. -/
def respelled (text : String) : String := ((spelled? text).map scalarText).getD text

theorem spelled?_eq_none_iff (text : String) : spelled? text = none ↔ ¬SpellsScalar text := by
  unfold spelled? SpellsScalar
  by_cases htrue : Text.lower text = "true"
  · simp [htrue]
  by_cases hfalse : Text.lower text = "false"
  · simp [hfalse]
  rw [if_neg htrue, if_neg hfalse]
  cases Number.readInteger (Number.signedRange 64) text with
  | ok n => simp
  | error f =>
    cases Number.readDecimal text with
    | ok x => simp
    | error g => simp [htrue, hfalse]

/-- A flag or a number that a text spells comes first, then the list of its parts. -/
theorem interpreted_eq (listKeys : List String) (key text : String) :
    interpreted listKeys key text = match spelled? text with
      | some s => .scalar (some .environment) s
      | none =>
        if listKeys.contains key then
          .list (some .environment)
            ((Text.split text ',').map fun s => .scalar (some .environment) (.text s))
        else .scalar (some .environment) (.text text) := by
  unfold interpreted spelled?
  by_cases htrue : Text.lower text = "true"
  · simp [htrue]
  by_cases hfalse : Text.lower text = "false"
  · simp [hfalse]
  simp only [if_neg htrue, if_neg hfalse]
  cases Number.readInteger (Number.signedRange 64) text with
  | ok n => rfl
  | error f =>
    cases Number.readDecimal text with
    | ok x => rfl
    | error g => rfl

/-! ## Variables among others -/

/-- The key that the name of a variable spells, if settings are taken from it. -/
def variableKey? (name : String) : Option String :=
  if Text.startsWith (Text.lower name) variableLead then
    some (Text.replace
      (String.ofList ((Text.lower name).toList.drop variableLead.length)) "__" ".")
  else none

/-- The value that a variable gives to its key. -/
def variableValue (listKeys : List String) (key text : String) : Value :=
  if listKeys.isEmpty then .scalar (some .environment) (.text text)
  else interpreted (listKeys.map Text.lower) key text

theorem ofVariables_eq (listKeys : List String) (bindings : List (String × String)) :
    Layer.ofVariables listKeys bindings = bindings.filterMap fun b =>
      (variableKey? b.1).map fun key => (key, variableValue listKeys key b.2) := by
  refine List.filterMap_congr fun b _ => ?_
  by_cases h : Text.startsWith (Text.lower b.1) variableLead = true
  · simp [variableKey?, variableValue, h]
  · simp [variableKey?, h]

/-- What a variable gives takes the place of what the files give. -/
theorem replaces_variableValue (listKeys : List String) (key text : String) :
    (variableValue listKeys key text).Replaces := by
  unfold variableValue
  split
  · exact Value.replaces_scalar _ _
  · rw [interpreted_eq]
    split
    · exact Value.replaces_scalar _ _
    · split
      · exact Value.replaces_list _ _
      · exact Value.replaces_scalar _ _

/-- The name of a variable spells a key, and the key is the place at the end of a path. -/
structure Spells (name key : String) (path : List String) : Prop where
  key_eq : variableKey? name = some key
  place_eq : placeOf key = path.map .member
  ne_nil : path ≠ []
  lower : Value.AreLower path

/-- Variables that set nothing at the end of a path, above it or below it. -/
def LeaveAlone (path : List String) (bindings : List (String × String)) : Prop :=
  ∀ b ∈ bindings, ∀ key, variableKey? b.1 = some key → Value.Apart (placeOf key) path

/-- Variables that leave a place alone leave alone what stands there. -/
theorem at?_over {path : List String} {bindings : List (String × String)}
    (h : LeaveAlone path bindings) (listKeys : List String) (target : Value) :
    ((Layer.ofVariables listKeys bindings).over target).at? path = target.at? path := by
  rw [ofVariables_eq, Layer.over]
  induction bindings generalizing target with
  | nil => rfl
  | cons b rest ih =>
    have hrest := ih fun c hc => h c (List.mem_cons_of_mem _ hc)
    cases hkey : variableKey? b.1 with
    | none => simpa [hkey] using hrest target
    | some key =>
      have hb := h b List.mem_cons_self key hkey
      rw [List.filterMap_cons, hkey, Option.map_some, List.foldl_cons, hrest,
        Value.at?_lay_of_apart _ hb]

/-- They do not notice what stands there. -/
theorem withPart_over {path : List String} {bindings : List (String × String)}
    (h : LeaveAlone path bindings) (listKeys : List String) (part target : Value) :
    Value.withPart part path ((Layer.ofVariables listKeys bindings).over target)
      = (Layer.ofVariables listKeys bindings).over (Value.withPart part path target) := by
  rw [ofVariables_eq, Layer.over, Layer.over]
  induction bindings generalizing target with
  | nil => rfl
  | cons b rest ih =>
    have hrest := ih fun c hc => h c (List.mem_cons_of_mem _ hc)
    cases hkey : variableKey? b.1 with
    | none => simpa [hkey] using hrest target
    | some key =>
      have hb := h b List.mem_cons_self key hkey
      rw [List.filterMap_cons, hkey, Option.map_some, List.foldl_cons, hrest,
        Value.withPart_lay_of_apart _ _ hb]
      rfl

section

variable {name key : String} {path : List String} (hname : Spells name key path)
  (listKeys : List String) (before : List (String × String)) (text : String)
  {after : List (String × String)} (hafter : LeaveAlone path after) (target : Value)

include hname hafter

/-- A variable that no later one interferes with has its value at its place. -/
theorem at?_over_append :
    ((Layer.ofVariables listKeys (before ++ (name, text) :: after)).over target).at? path
      = some (variableValue listKeys key text) := by
  have hlater := at?_over hafter listKeys
  simp only [ofVariables_eq, Layer.over] at hlater ⊢
  rw [List.filterMap_append, List.filterMap_cons, hname.key_eq, Option.map_some,
    List.foldl_append, List.foldl_cons, hlater, hname.place_eq]
  exact Value.at?_lay (replaces_variableValue listKeys key text) hname.ne_nil hname.lower _

/-- With another text in it, everything stays the same but for what stands at its place. -/
theorem withPart_over_append (other : String) :
    Value.withPart (variableValue listKeys key other) path
        ((Layer.ofVariables listKeys (before ++ (name, text) :: after)).over target)
      = (Layer.ofVariables listKeys (before ++ (name, other) :: after)).over target := by
  have hlater := withPart_over hafter listKeys (variableValue listKeys key other)
  simp only [ofVariables_eq, Layer.over] at hlater ⊢
  rw [List.filterMap_append, List.filterMap_cons, hname.key_eq, Option.map_some,
    List.foldl_append, List.foldl_cons, hlater, hname.place_eq,
    Value.withPart_lay (replaces_variableValue listKeys key other) _ hname.ne_nil hname.lower,
    List.filterMap_append, List.filterMap_cons, hname.key_eq, Option.map_some,
    List.foldl_append, List.foldl_cons, hname.place_eq]

end

/-! ## Loading with a variable -/

namespace Sources

/-- The sources with a variable among others. -/
def withVariable (s : Sources) (before : List (String × String)) (name text : String)
    (after : List (String × String)) : Sources :=
  { s with bindings := before ++ (name, text) :: after }

variable {α β : Type} {readField : Located → Except ValueFault β}
  {read : Located → Except ValueFault α} {path : List String} {get : α → β}
  (hfield : IsField readField read path get) {name key : String} (hname : Spells name key path)
  {listKeys : List String} {s : Sources} {directory : String} {e : Environment}
  {before after : List (String × String)} (hafter : LeaveAlone path after)

/-- What is loaded is read of the layers of the variables over those of the files. -/
theorem exists_of_loadFrom {bindings : List (String × String)} {a : α}
    (h : ({ s with bindings } : Sources).loadFrom listKeys read directory e = .ok a) :
    ∃ target, ∀ bindings : List (String × String),
      ({ s with bindings } : Sources).loadFrom listKeys read directory e
        = readWhole read ((Layer.ofVariables listKeys bindings).over target) := by
  obtain ⟨v, hwhole, -⟩ := bind_eq_ok_iff.mp h
  obtain ⟨base, hbase, hwhole⟩ := bind_eq_ok_iff.mp hwhole
  obtain ⟨overlay, hoverlay, -⟩ := bind_eq_ok_iff.mp hwhole
  refine ⟨overlay.over (base.over .empty), fun bindings => ?_⟩
  have hbase' : ({ s with bindings } : Sources).fileLayer (Path.join directory baseFile)
      = .ok base := hbase
  have hoverlay' : ({ s with bindings } : Sources).optionalLayer (Path.join directory e.fileName)
      = .ok overlay := hoverlay
  rw [loadFrom, whole, hbase']
  show (({ s with bindings } : Sources).optionalLayer _ >>= _ : Except LoadFault Value) >>= _ = _
  rw [hoverlay']
  rfl

theorem readWhole_eq_ok_iff (v : Value) (a : α) :
    readWhole read v = .ok a ↔ read ⟨[], v⟩ = .ok a := by
  rw [readWhole, Located.whole]
  cases read ⟨[], v⟩ <;> simp [Except.mapError]

include hfield hname hafter

/-- **What a variable gives to a field.** Where loading succeeds with some text of the variable, it
succeeds with another one exactly when the field can be read of its value, and gives the field what
is read of it. -/
theorem loadFrom_withVariable_iff
    (hvalid : ∃ text a, (s.withVariable before name text after).loadFrom listKeys read directory e
      = .ok a) (text : String) (b : β) :
    (∃ a, (s.withVariable before name text after).loadFrom listKeys read directory e = .ok a ∧
        get a = b) ↔
      readField ⟨wayAlong [] path, variableValue listKeys key text⟩ = .ok b := by
  obtain ⟨text₀, a₀, h₀⟩ := hvalid
  obtain ⟨target, htarget⟩ := exists_of_loadFrom h₀
  have hread : ∀ text a,
      (s.withVariable before name text after).loadFrom listKeys read directory e = .ok a ↔
        read ⟨[], (Layer.ofVariables listKeys (before ++ (name, text) :: after)).over target⟩
          = .ok a := by
    intro text a
    rw [withVariable, htarget, readWhole_eq_ok_iff]
  have hat := at?_over_append hname listKeys before text hafter target
  constructor
  · rintro ⟨a, ha, rfl⟩
    exact hfield.holds hat ((hread text a).mp ha)
  · intro hb
    obtain ⟨a, ha⟩ := hfield.replace (at?_over_append hname listKeys before text₀ hafter target)
      ((hread text₀ a₀).mp h₀) hb
    rw [withPart_over_append hname listKeys before text₀ hafter] at ha
    have hget := hfield.holds hat ha
    rw [hb] at hget
    cases hget
    exact ⟨a, (hread text a).mpr ha, rfl⟩

end Sources

/-! ## What lists and texts read -/

/-- A list of texts is read as it is. -/
theorem listOf_texts (way : List Step) (o : Option Origin) (texts : List String) :
    Located.listOf Located.text ⟨way, .list o (texts.map fun s => .scalar o (.text s))⟩
      = .ok texts := by
  have hitems : ∀ (n : Nat) (texts : List String),
      ((((texts.map fun s => Value.scalar o (.text s)).zipIdx n).map fun p =>
        (⟨.item p.2 :: way, p.1⟩ : Located)).mapM Located.text) = .ok texts := by
    intro n texts
    induction texts generalizing n with
    | nil => rfl
    | cons s rest ih =>
      rw [List.map_cons, List.zipIdx_cons, List.map_cons, List.mapM_cons, ih]
      rfl
  exact hitems 0 texts

/-- A list cannot be read of what is none. -/
theorem listOf_scalar (way : List Step) (o : Option Origin) (s : Scalar) (texts : List String) :
    Located.listOf Located.text ⟨way, .scalar o s⟩ ≠ .ok texts := by
  intro h
  cases h

/-- What a text spells is read as text again. -/
theorem text_spelled {text : String} {s : Scalar} (h : spelled? text = some s) (way : List Step)
    (o : Option Origin) : Located.text ⟨way, .scalar o s⟩ = .ok (scalarText s) := by
  cases s with
  | nothing =>
    unfold spelled? at h
    split at h
    · cases h
    split at h
    · cases h
    split at h
    · cases h
    · cases h
    · cases h
  | _ => rfl

variable {listKeys : List String} {key : String} (way : List Step) (text : String)

/-- Under the key of a list, a text that spells neither a flag nor a number gives its parts, and
any other one gives no list at all. -/
theorem listOf_variableValue (hkey : key ∈ listKeys.map Text.lower) (texts : List String) :
    Located.listOf Located.text ⟨way, variableValue listKeys key text⟩ = .ok texts ↔
      ¬SpellsScalar text ∧ texts = Text.split text ',' := by
  have hkeys : listKeys.isEmpty = false := by
    rw [List.isEmpty_eq_false_iff]
    rintro rfl
    cases hkey
  rw [variableValue, hkeys, if_neg Bool.false_ne_true, interpreted_eq,
    List.contains_iff_mem.mpr hkey, ← spelled?_eq_none_iff]
  cases spelled? text with
  | none =>
    rw [if_pos rfl, listOf_texts, Except.ok.injEq, and_iff_right rfl, eq_comm]
  | some s => exact iff_of_false (listOf_scalar way _ s texts) fun h => Option.some_ne_none s h.1

/-- Where no list is known, a text is read as it is. -/
theorem text_variableValue_nil :
    Located.text ⟨way, variableValue [] key text⟩ = .ok text := rfl

/-- Under another key than those of lists, a text is read respelled. -/
theorem text_variableValue (hkeys : listKeys ≠ []) (hkey : key ∉ listKeys.map Text.lower) :
    Located.text ⟨way, variableValue listKeys key text⟩ = .ok (respelled text) := by
  have hcontains : (listKeys.map Text.lower).contains key = false := by
    rwa [← Bool.not_eq_true, List.contains_iff_mem]
  rw [variableValue, List.isEmpty_eq_false_iff.mpr hkeys, if_neg Bool.false_ne_true,
    interpreted_eq, hcontains, respelled]
  cases hspelled : spelled? text with
  | none => rfl
  | some s => exact text_spelled hspelled way _

theorem respelled_of_not_spellsScalar (h : ¬SpellsScalar text) : respelled text = text := by
  rw [respelled, (spelled?_eq_none_iff text).mpr h]
  rfl

/-! ## Lists and texts in variables -/

namespace Sources

variable {α : Type} {read : Located → Except ValueFault α} {path : List String} {name : String}
  {s : Sources} {directory : String} {e : Environment} {before after : List (String × String)}
  {text}

/-- **A variable of a list gives the parts of its text, unless the whole text spells a flag or a
number.** Then nothing is loaded at all. A text with a comma never does. -/
theorem loadFrom_listVariable_iff {get : α → List String}
    (hfield : IsField (Located.listOf Located.text) read path get) (hname : Spells name key path)
    (hkey : key ∈ listKeys.map Text.lower) (hafter : LeaveAlone path after)
    (hvalid : ∃ text a, (s.withVariable before name text after).loadFrom listKeys read directory e
      = .ok a) (text : String) :
    ((∃ a, (s.withVariable before name text after).loadFrom listKeys read directory e = .ok a ∧
        get a = Text.split text ',') ↔ ¬SpellsScalar text) ∧
    (SpellsScalar text → ∃ f,
      (s.withVariable before name text after).loadFrom listKeys read directory e = .error f) ∧
    (',' ∈ text.toList → ¬SpellsScalar text) := by
  have hloads := loadFrom_withVariable_iff hfield hname hafter hvalid text
  simp only [listOf_variableValue _ text hkey] at hloads
  refine ⟨(hloads _).trans (and_iff_left rfl), fun hspells => ?_, not_spellsScalar_of_comma⟩
  cases hload : (s.withVariable before name text after).loadFrom listKeys read directory e with
  | error f => exact ⟨f, rfl⟩
  | ok a => exact absurd hspells ((hloads (get a)).mp ⟨a, hload, rfl⟩).1

/-- **A variable of a text gives the text as it is, where no key is known to hold a list.** Where
one is, it gives the text respelled, whatever its own key is; only a text that spells neither a flag
nor a number is sure to stay. -/
theorem loadFrom_textVariable {get : α → String} (hfield : IsField Located.text read path get)
    (hname : Spells name key path) (hkeys : listKeys ≠ []) (hkey : key ∉ listKeys.map Text.lower)
    (hafter : LeaveAlone path after)
    (hplain : ∃ text a, (s.withVariable before name text after).loadFrom [] read directory e
      = .ok a)
    (hvalid : ∃ text a, (s.withVariable before name text after).loadFrom listKeys read directory e
      = .ok a) (text : String) :
    (∃ a, (s.withVariable before name text after).loadFrom [] read directory e = .ok a ∧
      get a = text) ∧
    (∃ a, (s.withVariable before name text after).loadFrom listKeys read directory e = .ok a ∧
      get a = respelled text) ∧
    (¬SpellsScalar text → respelled text = text) :=
  ⟨(loadFrom_withVariable_iff hfield hname hafter hplain text text).mpr
      (text_variableValue_nil _ text),
    (loadFrom_withVariable_iff hfield hname hafter hvalid text _).mpr
      (text_variableValue _ text hkeys hkey),
    respelled_of_not_spellsScalar text⟩

/-- A selection with a single variable, over a base file without content. -/
def selectionOf (listKeys : List String) (name text : String) : Except LoadFault Selection :=
  ((sourcesOf [("base.yaml", "")] []).withVariable [] name text []).loadFrom listKeys
    Selection.ofValue "configuration" .dev

theorem selectionOf_eq (listKeys : List String) (name text : String) :
    selectionOf listKeys name text
      = readWhole Selection.ofValue ((Layer.ofVariables listKeys [(name, text)]).over .empty) := by
  let sources := (sourcesOf [("base.yaml", "")] []).withVariable [] name text []
  have hpath : IsPlainPath (Path.join "configuration" baseFile) "base.yaml" := by decide
  have hascii : ∀ c ∈ "".toList, c.toNat < 0x80 := List.forall_mem_nil _
  have hbase : sources.fileLayer (Path.join "configuration" baseFile) = .ok [] :=
    fileLayer_sourcesOf _ _ hpath rfl hascii rfl
  have hmissing : sources.readFile (Path.join "configuration" Environment.dev.fileName)
      = .error (.noFile (Path.join "configuration" Environment.dev.fileName)) := by
    rw [readFile, show sources = sourcesOf _ _ from rfl,
      found?_sourcesOf_eq_none "dev.yaml" (by decide) (by decide)]
  rw [selectionOf, loadFrom, whole, hbase, optionalLayer, hmissing]
  rfl

/-- Names, and tags inside what is nested, from a variable each. -/
theorem loadFrom_listVariable_iff_selection :
    (∃ s, selectionOf Selection.listKeys "APP_NAMES" "a,1,true" = .ok s ∧
      s.names = ["a", "1", "true"]) ∧
    ∃ s, selectionOf Selection.listKeys "APP_NESTED__TAGS" "007,x" = .ok s ∧
      s.tags = ["007", "x"] := by
  have hnames : selectionOf Selection.listKeys "APP_NAMES" "a" = .ok { names := ["a"] } := by
    rw [selectionOf_eq]
    decide +kernel
  have htags : selectionOf Selection.listKeys "APP_NESTED__TAGS" "a" = .ok { tags := ["a"] } := by
    rw [selectionOf_eq]
    decide +kernel
  constructor
  · have hlist := loadFrom_listVariable_iff Selection.isMember_names.isField
      (⟨by decide, by decide, by decide, by decide⟩ : Spells "APP_NAMES" "names" ["names"])
      (show "names" ∈ Selection.listKeys.map Text.lower by decide) (List.forall_mem_nil _)
      ⟨"a", _, hnames⟩
      "a,1,true"
    exact hlist.1.mpr (hlist.2.2 (by decide))
  · have hlist := loadFrom_listVariable_iff Selection.isField_tags
      (⟨by decide, by decide, by decide, by decide⟩ :
        Spells "APP_NESTED__TAGS" "nested.tags" ["nested", "tags"])
      (show "nested.tags" ∈ Selection.listKeys.map Text.lower by decide) (List.forall_mem_nil _)
      ⟨"a", _, htags⟩
      "007,x"
    exact hlist.1.mpr (hlist.2.2 (by decide))

/-- One name is loaded from a variable, unless it looks like a number. -/
theorem listVariable_refuses_number :
    selectionOf Selection.listKeys "APP_NAMES" "a" = .ok { names := ["a"] } ∧
    Text.split "5" ',' = ["5"] ∧
    selectionOf Selection.listKeys "APP_NAMES" "5"
      = .error (.value (.shape "integer `5`" "a sequence")) := by
  rw [selectionOf_eq, selectionOf_eq]
  decide +kernel

/-- A label that looks like no number is the same with keys of lists and without. -/
theorem loadFrom_textVariable_selection :
    (∃ s, selectionOf [] "APP_LABEL" "blue" = .ok s ∧ s.label = "blue") ∧
    ∃ s, selectionOf Selection.listKeys "APP_LABEL" "blue" = .ok s ∧ s.label = "blue" := by
  have hplain : selectionOf [] "APP_LABEL" "a" = .ok { label := "a" } := by
    rw [selectionOf_eq]
    decide +kernel
  have hlists : selectionOf Selection.listKeys "APP_LABEL" "a" = .ok { label := "a" } := by
    rw [selectionOf_eq]
    decide +kernel
  have htext := loadFrom_textVariable Selection.isMember_label.isField
    (⟨by decide, by decide, by decide, by decide⟩ : Spells "APP_LABEL" "label" ["label"])
    (show Selection.listKeys ≠ [] by decide) (by decide) (List.forall_mem_nil _) ⟨"a", _, hplain⟩
    ⟨"a", _, hlists⟩ "blue"
  have hspelled : respelled "blue" = "blue" := by decide +kernel
  exact ⟨htext.1, hspelled ▸ htext.2.1⟩

/-- Zeros in front of a label are lost as soon as any key is known to hold a list. -/
theorem textVariable_loses_zeros :
    selectionOf [] "APP_LABEL" "007" = .ok { label := "007" } ∧
    selectionOf Selection.listKeys "APP_LABEL" "007" = .ok { label := "7" } := by
  rw [selectionOf_eq, selectionOf_eq]
  decide +kernel

end Sources

end Settings

end ClusterFixture
