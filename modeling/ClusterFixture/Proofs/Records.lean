/-
Records read out of values of the right shape.

A record of such a value fails for one reason only: something that must be there is missing. So of
every reader two things are said at once, when it fails, and what the answer holds otherwise; and
readers in a row fail when one of them does. The members are looked through twice, first in the order
of the value and then in the order of the record. What fails the first time would fail the second
time as well, so the first time decides nothing but which name is reported.
-/

import ClusterFixture.Proofs.Counting
import ClusterFixture.Proofs.Layering

set_option autoImplicit false

namespace ClusterFixture.Settings

/-! ## Answers -/

section

variable {α β : Type}

/-- A reader fails exactly where something is missing, and reports a missing name; else its answer
is as given. -/
def Answers (lacks : Prop) (P : α → Prop) : Except ValueFault α → Prop
  | .ok a => ¬lacks ∧ P a
  | .error f => lacks ∧ ∃ name, f = .missing name

namespace Answers

theorem pure {P : α → Prop} {a : α} (h : P a) : Answers False P (pure a) := ⟨id, h⟩

theorem bind {A B : Prop} {P : α → Prop} {Q : β → Prop} {x : Except ValueFault α}
    {f : α → Except ValueFault β} (hx : Answers A P x) (hf : ∀ a, P a → Answers B Q (f a)) :
    Answers (A ∨ B) Q (x >>= f) := by
  cases x with
  | error e => exact ⟨.inl hx.1, hx.2⟩
  | ok a =>
    have hfa := hf a hx.2
    show Answers (A ∨ B) Q (f a)
    cases hresult : f a with
    | error e =>
      rw [hresult] at hfa
      exact ⟨.inr hfa.1, hfa.2⟩
    | ok b =>
      rw [hresult] at hfa
      exact ⟨fun h => h.elim hx.1 hfa.1, hfa.2⟩

theorem of_iff {A B : Prop} {P : α → Prop} {x : Except ValueFault α} (hlacks : A ↔ B)
    (hx : Answers A P x) : Answers B P x := by
  rw [← propext hlacks]
  exact hx

theorem congr {A B : Prop} {P Q : α → Prop} {x : Except ValueFault α} (hx : Answers A P x)
    (hlacks : A ↔ B) (h : ∀ a, P a → Q a) : Answers B Q x := by
  cases x with
  | error e => exact ⟨hlacks.mp hx.1, hx.2⟩
  | ok a => exact ⟨fun hb => hx.1 (hlacks.mpr hb), h a hx.2⟩

end Answers

end

/-! ## Scalars -/

/-- A reader takes every scalar of a kind for what it says. -/
def Takes {α : Type} (k : Kind) (read : Located → Except ValueFault α) (wrap : α → Content) :
    Prop :=
  ∀ way o s c, k.content? s = some c → ∃ a, read ⟨way, .scalar o s⟩ = .ok a ∧ wrap a = c

theorem takes_text : Takes .text Located.text .text := by
  intro way o s c hc
  cases s <;> cases hc
  exact ⟨_, rfl, rfl⟩

/-- What a text that may be missing says. -/
def secretContent (t : Option String) : Content := (t.map Content.text).getD .nothing

theorem takes_secret : Takes .secret (layeredForm.orNone layeredForm.text) secretContent := by
  intro way o s c hc
  cases s <;> cases hc
  · exact ⟨none, rfl, rfl⟩
  · exact ⟨some _, rfl, rfl⟩

theorem takes_flag : Takes .flag Located.flag .flag := by
  intro way o s c hc
  cases s with
  | flag b =>
    cases hc
    exact ⟨b, rfl, rfl⟩
  | text t =>
    -- Each of the words, in lower case, decides by itself.
    have hon : ∀ word ∈ onWords, Text.lower t = word →
        Located.flag ⟨way, .scalar o (.text t)⟩ = .ok true := by
      intro word hword hlower
      simp only [onWords, List.mem_cons, List.not_mem_nil, or_false] at hword
      rw [Located.flag]
      simp only [hlower]
      rcases hword with rfl | rfl | rfl | rfl <;> rfl
    have hoff : ∀ word ∈ offWords, Text.lower t = word →
        Located.flag ⟨way, .scalar o (.text t)⟩ = .ok false := by
      intro word hword hlower
      simp only [offWords, List.mem_cons, List.not_mem_nil, or_false] at hword
      rw [Located.flag]
      simp only [hlower]
      rcases hword with rfl | rfl | rfl | rfl <;> rfl
    simp only [Kind.content?, List.contains_iff_mem] at hc
    by_cases h1 : Text.lower t ∈ onWords
    · rw [if_pos h1] at hc
      cases hc
      exact ⟨true, hon _ h1 rfl, rfl⟩
    · rw [if_neg h1] at hc
      by_cases h2 : Text.lower t ∈ offWords
      · rw [if_pos h2] at hc
        cases hc
        exact ⟨false, hoff _ h2 rfl, rfl⟩
      · rw [if_neg h2] at hc
        cases hc
  | _ => cases hc

/-- A digit is ASCII and has no other case. -/
theorem toLower_of_isDigit {c : Char} (h : c.isDigit = true) : c.toNat < 0x80 ∧ c.toLower = c := by
  have hall : ∀ n < 0x80, (Char.ofNat n).isDigit = true → (Char.ofNat n).toLower = Char.ofNat n := by
    decide +kernel
  have hascii : c.toNat < 0x80 := by
    simp only [Char.isDigit, Bool.and_eq_true, decide_eq_true_eq, ge_iff_le] at h
    have hhigh : c.toNat ≤ 57 := h.2
    omega
  have hc := hall c.toNat hascii
  rw [Char.ofNat_toNat] at hc
  exact ⟨hascii, hc h⟩

/-- A text that spells a number is none of the words that stand for one. -/
theorem switchWord?_of_readInteger {bits : Nat} {t : String} {n : Int}
    (h : Number.readInteger (Number.unsignedRange bits) t = .ok n) :
    Located.switchWord? (Text.lower t) = none := by
  have hchars := Number.isDigit_of_readInteger h
  have hlower : Text.lower t = t := by
    refine Text.lower_of_ascii fun c hc => ?_
    rcases hchars c hc with hdigit | rfl
    · exact toLower_of_isDigit hdigit
    · decide
  have hword : ∀ word ∈ ["true", "on", "yes"] ++ ["false", "off", "no"], t ≠ word := by
    rintro word hword rfl
    have hletter : ∀ w ∈ ["true", "on", "yes"] ++ ["false", "off", "no"],
        (w.toList.all fun c => c.isDigit || c = '+') = false := by decide
    have hall : (t.toList.all fun c => c.isDigit || c = '+') = true := by simpa using hchars
    rw [hletter t hword] at hall
    cases hall
  have hoff : ∀ words : List String, (∀ word ∈ words, t ≠ word) → words.contains t = false := by
    intro words hne
    rw [← Bool.not_eq_true, List.contains_iff_mem]
    exact fun hmem => hne t hmem rfl
  rw [hlower, Located.switchWord?, hoff _ fun w hw => hword w (List.mem_append_left _ hw),
    hoff _ fun w hw => hword w (List.mem_append_right _ hw)]
  rfl

/-- A number of at most 64 bits is read with 64 first. -/
theorem takes_count {bits : Nat} (hbits : bits ≤ 64) :
    Takes (.count bits) (Located.unsigned bits) .number := by
  have hpow : Number.twoTo bits ≤ Number.twoTo 64 := Nat.pow_le_pow_right (by decide) hbits
  have hcount : ∀ {n : Int} {v : Located}, (Number.unsignedRange bits).holds n = true →
      Located.integerIn (Number.unsignedRange 64) v = .ok n →
      Located.unsigned bits v = .ok n.toNat := by
    intro n v hn hread
    rw [Located.unsigned, hread]
    show (if _ then _ else _) = _
    rw [if_pos hn]
    rfl
  intro way o s c hc
  cases s with
  | integer n =>
    by_cases hn : (Number.unsignedRange bits).holds n = true
    · have hwide : (Number.unsignedRange 64).holds n = true := by
        simp only [Number.IntRange.holds_iff, Number.unsignedRange] at hn ⊢
        omega
      rw [Kind.content?, Content.count?, if_pos hn] at hc
      cases hc
      exact ⟨n.toNat, hcount hn (by simp only [Located.integerIn, if_pos hwide]), rfl⟩
    · rw [Kind.content?, Content.count?, if_neg hn] at hc
      cases hc
  | number x =>
    by_cases hn : (Number.unsignedRange bits).holds
        (Located.rounded (Number.unsignedRange 64) x) = true
    · rw [Kind.content?, Content.count?, if_pos hn] at hc
      cases hc
      exact ⟨_, hcount hn rfl, rfl⟩
    · rw [Kind.content?, Content.count?, if_neg hn] at hc
      cases hc
  | text t =>
    cases hread : Number.readInteger (Number.unsignedRange bits) t with
    | error e => rw [Kind.content?, hread] at hc; cases hc
    | ok n =>
      rw [Kind.content?, hread] at hc
      cases hc
      refine ⟨n.toNat, hcount (Number.holds_of_readInteger hread) ?_, rfl⟩
      simp only [Located.integerIn, switchWord?_of_readInteger hread,
        Number.readInteger_mono hbits hread]
  | _ => cases hc

/-! ## Members -/

/-- What is given under the name of a leaf. -/
def given? (k : Kind) (name : String) (v : Value) : Option Content :=
  (Value.member? name v.members).bind (Draft.contentOf? k)

/-- A leaf of a value of the right shape is missing or says something. -/
theorem given?_cases {parts : List (String × Shape)} {v : Value}
    (hv : (Shape.group parts).fits v = true) {name : String} {k : Kind}
    (hk : parts.lookup name = some (.leaf k)) :
    (Value.member? name v.members = none ∧ given? k name v = none) ∨
      ∃ o s c, Value.member? name v.members = some (.scalar o s) ∧ k.content? s = some c ∧
        given? k name v = some c := by
  cases hfound : Value.member? name v.members with
  | none => exact .inl ⟨rfl, by rw [given?, hfound]; rfl⟩
  | some w =>
    obtain ⟨o, s, c, rfl, hc⟩ := Shape.exists_of_fits_leaf (Shape.fits_member hv hk hfound)
    exact .inr ⟨o, s, c, rfl, hc, by rw [given?, hfound]; exact hc⟩

/-- The members of a value under their names, where they stand. -/
theorem value?_members (names : List String) (name : String) (way : List Step) (v : Value) :
    Form.value? names name (.members (Located.members ⟨way, v⟩))
      = (Value.member? name v.members).map fun part => ⟨.member name :: way, part⟩ := by
  rw [Form.value?, Located.members]
  induction v.members with
  | nil => rfl
  | cons m rest ih =>
    obtain ⟨k, part⟩ := m
    by_cases hk : k = name
    · simp [Value.member?, hk]
    · have hk' : (name == k) = false := beq_false_of_ne (Ne.symm hk)
      simpa [Value.member?, List.lookup_cons, hk, hk'] using ih

section Reading

/-- A record whose members stand in a value. -/
def reading (title : String) (names : List String) (way : List Step) (v : Value) :
    Form.Reading Located ValueFault :=
  ⟨layeredForm, title, names, .members (Located.members ⟨way, v⟩)⟩

variable {α : Type} {title : String} {names : List String} (way : List Step) {v : Value}

/-- A member that must be there is missing, or lacks something itself, or is read. -/
theorem answers_required (name : String) {read : Located → Except ValueFault α}
    {L : Value → Prop} {P : Value → α → Prop}
    (h : ∀ x, Value.member? name v.members = some x →
      Answers (L x) (P x) (read ⟨.member name :: way, x⟩)) :
    Answers (∀ x, Value.member? name v.members = some x → L x)
      (fun a => ∃ x, Value.member? name v.members = some x ∧ P x a)
      ((reading title names way v).required name read) := by
  rw [Form.Reading.required, reading, value?_members]
  cases hfound : Value.member? name v.members with
  | none => exact ⟨by simp, name, rfl⟩
  | some x => exact (h x hfound).congr (by simp) fun a ha => ⟨x, rfl, ha⟩

/-- A member with a value for the case that it is missing lacks something itself, or is read. -/
theorem answers_withDefault (name : String) {read : Located → Except ValueFault α} (otherwise : α)
    {L : Value → Prop} {P : Value → α → Prop}
    (h : ∀ x, Value.member? name v.members = some x →
      Answers (L x) (P x) (read ⟨.member name :: way, x⟩)) :
    Answers (∃ x, Value.member? name v.members = some x ∧ L x)
      (fun a => (Value.member? name v.members = none ∧ a = otherwise) ∨
        ∃ x, Value.member? name v.members = some x ∧ P x a)
      ((reading title names way v).withDefault name otherwise read) := by
  rw [Form.Reading.withDefault, reading, value?_members]
  cases hfound : Value.member? name v.members with
  | none => exact ⟨by simp, .inl ⟨rfl, rfl⟩⟩
  | some x => exact (h x hfound).congr (by simp) fun a ha => .inr ⟨x, rfl, ha⟩

variable {parts : List (String × Shape)} (hv : (Shape.group parts).fits v = true)
  (name : String) {k : Kind} (hk : parts.lookup name = some (.leaf k))
  {read : Located → Except ValueFault α} {wrap : α → Content} (hread : Takes k read wrap)

include hv hk hread

/-- A leaf that is there is read. -/
theorem answers_leaf (x : Value) (hx : Value.member? name v.members = some x) :
    Answers False (fun a => given? k name v = some (wrap a)) (read ⟨.member name :: way, x⟩) := by
  rcases given?_cases hv hk with ⟨hnone, -⟩ | ⟨o, s, c, hsome, hc, hgiven⟩
  · rw [hnone] at hx
    cases hx
  · rw [hsome] at hx
    cases hx
    obtain ⟨a, ha, hwrap⟩ := hread (.member name :: way) o s c hc
    rw [ha]
    exact ⟨id, hgiven.trans (congrArg some hwrap.symm)⟩

/-- A leaf that must be there is missing or is read. -/
theorem answers_required_leaf :
    Answers (given? k name v = none) (fun a => given? k name v = some (wrap a))
      ((reading title names way v).required name read) := by
  refine (answers_required way name fun x hx => answers_leaf way hv name hk hread x hx).congr ?_
    fun a ⟨x, _, ha⟩ => ha
  rcases given?_cases hv hk with ⟨hnone, hgiven⟩ | ⟨o, s, c, hsome, -, hgiven⟩
  · simp [hnone, hgiven]
  · simp [hsome, hgiven]

/-- A leaf with a value for the case that it is missing is read. -/
theorem answers_withDefault_leaf (otherwise : α) :
    Answers False (fun a => wrap a = (given? k name v).getD (wrap otherwise))
      ((reading title names way v).withDefault name otherwise read) := by
  refine (answers_withDefault way name otherwise fun x hx =>
    answers_leaf way hv name hk hread x hx).congr (by simp) fun a ha => ?_
  rcases given?_cases hv hk with ⟨hnone, hgiven⟩ | ⟨o, s, c, hsome, -, hgiven⟩
  · rcases ha with ⟨-, rfl⟩ | ⟨x, hx, -⟩
    · rw [hgiven, Option.getD_none]
    · rw [hnone] at hx
      cases hx
  · rcases ha with ⟨hx, -⟩ | ⟨x, -, hx⟩
    · rw [hsome] at hx
      cases hx
    · rw [hx, Option.getD_some]

end Reading

/-! ## Records -/

@[simp] theorem member_name {α : Type} (name : String) (read : Located → Except ValueFault α) :
    (Form.member name read).name = name := rfl

/-- What a member of a record needs is checked by reading it. -/
theorem answers_check {α : Type} {A : Prop} {P : α → Prop} {name : String}
    {read : Located → Except ValueFault α} {v : Located} (h : Answers A P (read v)) :
    Answers A (fun _ => True) ((Form.member name read).check v) :=
  (h.bind fun _ _ => Answers.pure (P := fun _ => True) trivial).congr (by simp)
    fun _ _ => trivial

/-- Looking through the members fails where one that the record knows lacks something. -/
theorem answers_checkMembers {members : List (Form.Member Located ValueFault)} {way : List Step}
    {L : String → Value → Prop} (entries : List (String × Value))
    (h : ∀ e ∈ entries, ∀ m ∈ members, m.name = e.1 →
      Answers (L e.1 e.2) (fun _ => True) (m.check ⟨.member e.1 :: way, e.2⟩)) :
    Answers (∃ e ∈ entries, ∃ m ∈ members, m.name = e.1 ∧ L e.1 e.2) (fun _ => True)
      (Form.checkMembers members
        (entries.map fun (name, part) => (name, ⟨.member name :: way, part⟩))) := by
  induction entries with
  | nil => exact ⟨by simp, trivial⟩
  | cons e rest ih =>
    obtain ⟨name, part⟩ := e
    have hrest := ih fun e he => h e (List.mem_cons_of_mem _ he)
    rw [List.map_cons, Form.checkMembers]
    cases hfound : members.find? fun m => m.name == name with
    | none =>
      have hunknown : ∀ m ∈ members, m.name ≠ name := by
        simpa using List.find?_eq_none.mp hfound
      refine hrest.congr ⟨?_, ?_⟩ fun _ _ => trivial
      · rintro ⟨e, he, hlacks⟩
        exact ⟨e, List.mem_cons_of_mem _ he, hlacks⟩
      · rintro ⟨e, he, m, hm, hname, hlacks⟩
        rcases List.mem_cons.mp he with rfl | he
        · exact absurd hname (hunknown m hm)
        · exact ⟨e, he, m, hm, hname, hlacks⟩
    | some m =>
      have hm := List.mem_of_find?_eq_some hfound
      have hname : m.name = name := by simpa using List.find?_some hfound
      have hcheck := h (name, part) (by simp) m hm hname
      refine (hcheck.bind fun _ _ => hrest).congr ⟨?_, ?_⟩ fun _ _ => trivial
      · rintro (hlacks | ⟨e, he, hlacks⟩)
        · exact ⟨(name, part), List.mem_cons_self, m, hm, hname, hlacks⟩
        · exact ⟨e, List.mem_cons_of_mem _ he, hlacks⟩
      · rintro ⟨e, he, m, hm, hname, hlacks⟩
        rcases List.mem_cons.mp he with rfl | he
        · exact .inl hlacks
        · exact .inr ⟨e, he, m, hm, hname, hlacks⟩

/-- A record of a value of the right shape, when all that its members may lack is lacking in it. -/
theorem answers_readRecord {α : Type} {parts : List (String × Shape)} {title : String}
    {members : List (Form.Member Located ValueFault)}
    {build : Form.Reading Located ValueFault → Except ValueFault α} {way : List Step} {v : Value}
    (hv : (Shape.group parts).fits v = true) {L : String → Value → Prop} {A : Prop}
    {P : α → Prop}
    (hmembers : ∀ m ∈ members, ∀ x, Value.member? m.name v.members = some x →
      Answers (L m.name x) (fun _ => True) (m.check ⟨.member m.name :: way, x⟩) ∧
        (L m.name x → A))
    (hbuild : Answers A P (build (reading title (members.map Form.Member.name) way v))) :
    Answers A P (layeredForm.readRecord title members build ⟨way, v⟩) := by
  obtain ⟨o, ms, rfl, hms⟩ := Shape.exists_of_fits_group hv
  obtain ⟨hkeys, -⟩ := (Shape.membersFit_iff parts ms).mp hms
  have hchecks := answers_checkMembers (L := L) ms fun e he m hm hname => by
    obtain ⟨name, x⟩ := e
    cases hname
    exact (hmembers m hm x (Value.member?_of_mem hkeys he)).1
  refine (hchecks.bind fun _ _ => hbuild).congr ⟨?_, .inr⟩ fun _ ha => ha
  rintro (⟨⟨name, x⟩, he, m, hm, hname, hlacks⟩ | ha)
  · cases hname
    exact (hmembers m hm x (Value.member?_of_mem hkeys he)).2 hlacks
  · exact ha

end ClusterFixture.Settings
