/-
Names of variables are read as the places that they spell.

A place is spelled in a variable with two underscores between its names, in upper case, and its names
have single underscores inside them. Where a name neither ends with an underscore nor has two in a
row, every pair of underscores that is met from the left stands between two names: inside a name none
is met, because the next character is another one.
-/

import ClusterFixture.Settings.Draft

set_option autoImplicit false

namespace ClusterFixture

/-! ## Lower case -/

namespace Text

/-- ASCII characters are put in lower case one by one. -/
theorem lowerFrom_of_ascii (cs before : List Char) (h : ∀ c ∈ cs, c.toNat < 0x80) :
    lowerFrom before cs = cs.map Char.toLower := by
  induction cs generalizing before with
  | nil => rfl
  | cons c rest ih =>
    rw [lowerFrom, if_pos (h c (by simp)), ih _ fun d hd => h d (by simp [hd])]
    rfl

/-- A text in lower case ASCII letters, digits and signs stays as it is. -/
theorem lower_of_ascii {s : String} (h : ∀ c ∈ s.toList, c.toNat < 0x80 ∧ c.toLower = c) :
    lower s = s := by
  have hmap : s.toList.map Char.toLower = s.toList := by
    rw [List.map_congr_left fun c hc => (h c hc).2, List.map_id']
  rw [lower, lowerFrom_of_ascii _ _ fun c hc => (h c hc).1, hmap, String.ofList_toList]

end Text

namespace Settings

/-! ## Names -/

/-- Whether a character can stand in a name: a letter in lower case or an underscore. -/
def isNameChar (c : Char) : Bool := c.isLower || c = '_'

/-- Whether characters are a name: not empty, without two underscores in a row or one at the end. -/
def isName : List Char → Bool
  | [] => false
  | [c] => c.isLower
  | c :: d :: rest => (c.isLower || (c = '_' && d ≠ '_')) && isName (d :: rest)

/-- The first character of a name can stand in one, and what follows it is a name or nothing. -/
theorem isName_cons {c : Char} {rest : List Char} (h : isName (c :: rest) = true) :
    isNameChar c = true ∧ (rest = [] ∨ isName rest = true) := by
  cases rest with
  | nil => exact ⟨by simp [isNameChar, show c.isLower = true from h], .inl rfl⟩
  | cons d rest =>
    simp only [isName, Bool.and_eq_true, Bool.or_eq_true, decide_eq_true_eq] at h
    exact ⟨by simpa [isNameChar] using h.1.imp_right And.left, .inr h.2⟩

theorem isNameChar_of_isName {cs : List Char} (h : isName cs = true) :
    ∀ c ∈ cs, isNameChar c = true := by
  induction cs with
  | nil => simp
  | cons c rest ih =>
    obtain ⟨hc, hrest⟩ := isName_cons h
    refine List.forall_mem_cons.mpr ⟨hc, ?_⟩
    rcases hrest with rfl | hrest
    · simp
    · exact ih hrest

/-- What names are made of is ASCII, goes to upper case and back, and is no point. -/
theorem isNameChar_spec {c : Char} (h : isNameChar c = true) :
    c.toNat < 0x80 ∧ c.toLower = c ∧ c.toUpper.toNat < 0x80 ∧ c.toUpper.toLower = c ∧
      isStepChar c = true ∧ c ≠ '.' := by
  have hascii : c.toNat < 0x80 := by
    simp only [isNameChar, Bool.or_eq_true, decide_eq_true_eq] at h
    rcases h with h | rfl
    · have hlower : c.isLower = (decide ('a'.val ≤ c.val) && decide (c.val ≤ 'z'.val)) := rfl
      rw [hlower, Bool.and_eq_true, decide_eq_true_iff, decide_eq_true_iff] at h
      have hhigh : c.toNat ≤ 122 := h.2
      omega
    · decide
  have hall : ∀ n < 0x80, isNameChar (Char.ofNat n) = true →
      (Char.ofNat n).toLower = Char.ofNat n ∧ (Char.ofNat n).toUpper.toNat < 0x80 ∧
      (Char.ofNat n).toUpper.toLower = Char.ofNat n ∧ isStepChar (Char.ofNat n) = true ∧
      Char.ofNat n ≠ '.' := by
    decide +kernel
  have hc := hall c.toNat hascii
  rw [Char.ofNat_toNat] at hc
  exact ⟨hascii, hc h⟩

/-- A name is in lower case. -/
theorem lower_of_isName {name : String} (h : isName name.toList = true) :
    Text.lower name = name :=
  Text.lower_of_ascii fun c hc =>
    let hspec := isNameChar_spec (isNameChar_of_isName h c hc)
    ⟨hspec.1, hspec.2.1⟩

/-! ## Names with something between them -/

/-- Names with characters between each two. -/
def joined (between : List Char) : List (List Char) → List Char
  | [] => []
  | [name] => name
  | name :: rest => name ++ between ++ joined between rest

theorem toList_joinWith (between : String) (names : List String) :
    (Text.joinWith between names).toList = joined between.toList (names.map String.toList) := by
  induction names with
  | nil => rfl
  | cons name rest ih =>
    cases rest with
    | nil => rfl
    | cons next rest =>
      rw [Text.joinWith, String.toList_append, String.toList_append, ih]
      · rfl
      · simp

/-! ## Underscores -/

theorem ne_underscore_of_isLower {c : Char} (h : c.isLower = true) : c ≠ '_' := by
  rintro rfl
  cases h

/-- Inside a name no pair of underscores is met. -/
theorem replaceWithin_name {name : List Char} (h : isName name = true) (rest : List Char)
    (fuel : Nat) :
    Text.replaceWithin ['_', '_'] ['.'] (name.length + fuel) (name ++ rest)
      = name ++ Text.replaceWithin ['_', '_'] ['.'] fuel rest := by
  have hstep : ∀ c cs n, ['_', '_'].isPrefixOf (c :: cs) = false →
      Text.replaceWithin ['_', '_'] ['.'] (n + 1) (c :: cs)
        = c :: Text.replaceWithin ['_', '_'] ['.'] n cs := by
    intro c cs n hc
    rw [Text.replaceWithin, hc]
    rfl
  induction name with
  | nil => cases h
  | cons c name ih =>
    rw [List.length_cons, Nat.add_right_comm]
    cases name with
    | nil =>
      have hc := ne_underscore_of_isLower (c := c) h
      rw [List.length_nil, Nat.zero_add, List.singleton_append, List.singleton_append]
      exact hstep c rest _ (by simp [List.isPrefixOf, hc.symm])
    | cons d name =>
      simp only [isName, Bool.and_eq_true, Bool.or_eq_true, decide_eq_true_eq] at h
      have hnext : ['_', '_'].isPrefixOf (c :: (d :: name ++ rest)) = false := by
        rcases h.1 with hlower | ⟨-, hd⟩
        · simp [List.isPrefixOf, (ne_underscore_of_isLower hlower).symm]
        · simp [List.isPrefixOf, hd.symm]
      rw [List.cons_append, hstep _ _ _ hnext, ih h.2]
      rfl

/-- Between two names the pair of underscores becomes a point. -/
theorem replaceWithin_joined (names : List (List Char)) (h : ∀ name ∈ names, isName name = true)
    (extra : Nat) :
    Text.replaceWithin ['_', '_'] ['.'] ((joined ['_', '_'] names).length + extra)
      (joined ['_', '_'] names) = joined ['.'] names := by
  induction names generalizing extra with
  | nil => cases extra <;> rfl
  | cons name rest ih =>
    have hname := h name (by simp)
    cases rest with
    | nil =>
      have hread := replaceWithin_name hname [] extra
      rw [List.append_nil] at hread
      rw [joined, joined, hread]
      cases extra <;> simp [Text.replaceWithin]
    | cons next rest =>
      have hrest := ih (fun n hn => h n (List.mem_cons_of_mem _ hn)) (extra + 1)
      have hpair : ∀ n cs, Text.replaceWithin ['_', '_'] ['.'] (n + 1) ('_' :: '_' :: cs)
          = '.' :: Text.replaceWithin ['_', '_'] ['.'] n cs := fun _ _ => rfl
      have hlength : (joined ['_', '_'] (name :: next :: rest)).length + extra
          = name.length + ((joined ['_', '_'] (next :: rest)).length + (extra + 1) + 1) := by
        simp only [joined, List.length_append, List.length_cons, List.length_nil]
        omega
      rw [hlength]
      simp only [joined, List.append_assoc]
      rw [replaceWithin_name hname, List.cons_append, List.cons_append, List.nil_append, hpair,
        hrest]
      rfl

/-! ## Points -/

/-- What follows the first name of a place. -/
def dotted : List (List Char) → List Char
  | [] => []
  | name :: rest => '.' :: name ++ dotted rest

theorem joined_cons (name : List Char) (rest : List (List Char)) :
    joined ['.'] (name :: rest) = name ++ dotted rest := by
  induction rest generalizing name with
  | nil => simp [joined, dotted]
  | cons next rest ih => simp [joined, dotted, ih next]

/-- A name is taken up to the point behind it. -/
theorem takeWhile_name {name : List Char} (h : isName name = true) (rest : List (List Char)) :
    (name ++ dotted rest).takeWhile isStepChar = name := by
  have hname : ∀ c ∈ name, isStepChar c = true :=
    fun c hc => (isNameChar_spec (isNameChar_of_isName h c hc)).2.2.2.2.1
  rw [List.takeWhile_append_of_pos hname]
  cases rest with
  | nil => simp [dotted]
  | cons next rest => simp [dotted, isStepChar]

theorem isEmpty_of_isName {name : List Char} (h : isName name = true) : name.isEmpty = false := by
  cases name with
  | nil => cases h
  | cons c rest => rfl

/-- Names behind points are steps to members. -/
theorem readSteps?_dotted (names : List (List Char)) (h : ∀ name ∈ names, isName name = true)
    (fuel : Nat) (hfuel : names.length ≤ fuel) :
    readSteps? fuel (dotted names)
      = some (names.map fun name => .member (String.ofList name)) := by
  induction names generalizing fuel with
  | nil => cases fuel <;> rfl
  | cons name rest ih =>
    have hname := h name (by simp)
    cases fuel with
    | zero => simp at hfuel
    | succ fuel =>
      have hrest := ih (fun n hn => h n (List.mem_cons_of_mem _ hn)) fuel (by simpa using hfuel)
      rw [dotted, List.cons_append, readSteps?]
      simp only [takeWhile_name hname, isEmpty_of_isName hname, List.drop_left, hrest]
      rfl

theorem length_le_dotted (names : List (List Char)) : names.length ≤ (dotted names).length := by
  induction names with
  | nil => simp
  | cons name rest ih => simp [dotted]; omega

/-- Whether names are such as variables spell. -/
def AreNames (path : List String) : Prop :=
  path ≠ [] ∧ ∀ name ∈ path, isName name.toList = true

instance (path : List String) : Decidable (AreNames path) :=
  inferInstanceAs (Decidable (_ ∧ _))

/-- **Names with points between them are a place**, member below member. -/
theorem placeOf_joinWith {path : List String} (h : AreNames path) :
    placeOf (Text.joinWith "." path) = path.map .member := by
  obtain ⟨hne, hnames⟩ := h
  cases path with
  | nil => exact absurd rfl hne
  | cons name rest =>
    have hname := hnames name (by simp)
    have hchars : (Text.joinWith "." (name :: rest)).toList
        = name.toList ++ dotted (rest.map String.toList) := by
      rw [toList_joinWith, List.map_cons]
      exact joined_cons _ _
    have hlength := length_le_dotted (rest.map String.toList)
    have hread := readSteps?_dotted (rest.map String.toList)
      (by simpa using fun n hn => hnames n (List.mem_cons_of_mem _ hn))
      (name.toList ++ dotted (rest.map String.toList)).length
      (by rw [List.length_append]; omega)
    rw [placeOf, hchars]
    simp only [takeWhile_name hname, isEmpty_of_isName hname, List.drop_left, hread]
    simp [Function.comp_def]

/-- A single name is the place of a member. -/
theorem placeOf_name {name : String} (h : isName name.toList = true) :
    placeOf name = [.member name] := by
  have hnames : AreNames [name] := ⟨by simp, by simpa using h⟩
  have hplace := placeOf_joinWith hnames
  rwa [Text.joinWith] at hplace

/-! ## Variables -/

/-- Between names only underscores are put. -/
theorem isNameChar_of_mem_joined {names : List (List Char)}
    (h : ∀ name ∈ names, isName name = true) :
    ∀ c ∈ joined ['_', '_'] names, isNameChar c = true := by
  induction names with
  | nil => simp [joined]
  | cons name rest ih =>
    have hname := isNameChar_of_isName (h name (by simp))
    cases rest with
    | nil => simpa [joined] using hname
    | cons next rest =>
      have hrest := ih fun n hn => h n (List.mem_cons_of_mem _ hn)
      have hunderscore : isNameChar '_' = true := by decide
      intro c hc
      simp only [joined, List.mem_append, List.mem_cons, List.not_mem_nil, or_false, or_self] at hc
      rcases hc with (hc | rfl) | hc
      · exact hname c hc
      · exact hunderscore
      · exact hrest c hc

/-- The name of a variable in lower case. -/
theorem lower_variableOf {path : List String} (h : AreNames path) :
    Text.lower (variableOf path) = "app_" ++ Text.joinWith "__" path := by
  have hchars : ∀ c ∈ (Text.joinWith "__" path).toList, isNameChar c = true := by
    rw [toList_joinWith]
    exact isNameChar_of_mem_joined (by simpa using h.2)
  rw [variableOf]
  generalize Text.joinWith "__" path = s at hchars ⊢
  have hupper : ("APP_" ++ Text.upperAscii s).toList
      = ['A', 'P', 'P', '_'] ++ s.toList.map Char.toUpper := by
    rw [String.toList_append, Text.upperAscii, String.toList_ofList, String.toList_ofList]
  have hback : (s.toList.map Char.toUpper).map Char.toLower = s.toList := by
    have hid : ∀ c ∈ s.toList, (Char.toLower ∘ Char.toUpper) c = id c :=
      fun c hc => (isNameChar_spec (hchars c hc)).2.2.2.1
    rw [List.map_map, List.map_congr_left hid, List.map_id]
  rw [Text.lower, hupper, Text.lowerFrom_of_ascii, List.map_append, hback]
  · rw [String.ofList_append, String.ofList_toList]
    rfl
  · intro c hc
    have hlead : ∀ d ∈ ['A', 'P', 'P', '_'], d.toNat < 0x80 := by
      simp only [List.forall_mem_cons]
      exact ⟨by decide, by decide, by decide, by decide, List.forall_mem_nil _⟩
    rcases List.mem_append.mp hc with hc | hc
    · exact hlead c hc
    · obtain ⟨d, hd, rfl⟩ := List.mem_map.mp hc
      exact (isNameChar_spec (hchars d hd)).2.2.1

/-- What follows the lead, with points for its pairs of underscores. -/
theorem replace_joinWith {path : List String} (h : AreNames path) :
    Text.replace (Text.joinWith "__" path) "__" "." = Text.joinWith "." path := by
  have hread := replaceWithin_joined (path.map String.toList) (by simpa using h.2) 0
  rw [Nat.add_zero] at hread
  rw [Text.replace, toList_joinWith]
  rw [show "__".toList = ['_', '_'] from rfl, show ".".toList = ['.'] from rfl, hread,
    show ['.'] = ".".toList from rfl, ← toList_joinWith, String.ofList_toList]

theorem startsWith_lead (s : String) : Text.startsWith ("app_" ++ s) variableLead = true := by
  simp [Text.startsWith, variableLead]

/-- **A variable sets the member at the place that its name spells.** -/
theorem ofVariables_variableOf {path : List String} (h : AreNames path) (text : String) :
    Layer.ofVariables [] [(variableOf path, text)]
      = [(Text.joinWith "." path, .scalar (some .environment) (.text text))] := by
  have hkey : String.ofList (("app_" ++ Text.joinWith "__" path).toList.drop variableLead.length)
      = Text.joinWith "__" path := by
    rw [String.toList_append, show variableLead.length = "app_".toList.length from rfl,
      List.drop_left, String.ofList_toList]
  simp only [Layer.ofVariables, List.filterMap_cons, List.filterMap_nil, lower_variableOf h,
    startsWith_lead, hkey, replace_joinWith h]
  rfl

/-- A variable without the lead sets nothing. -/
theorem ofVariables_other {name : String} (text : String)
    (h : Text.startsWith (Text.lower name) variableLead = false) :
    Layer.ofVariables [] [(name, text)] = [] := by
  simp [Layer.ofVariables, h]

/-- Variables set what each of them sets, one after the other. -/
theorem ofVariables_cons (b : String × String) (rest : List (String × String)) :
    Layer.ofVariables [] (b :: rest) = Layer.ofVariables [] [b] ++ Layer.ofVariables [] rest := by
  rw [Layer.ofVariables, Layer.ofVariables, Layer.ofVariables, ← List.filterMap_append]
  rfl

end Settings

end ClusterFixture
