/-
Fields of records, and what stands at their places.

A field of a record is a path of names, each the member of a record, and a reader for what stands at
its end. Two things make it a field: what is read of the whole tells what is read there, and anything
else that can be read may take its place, without any other field noticing. Laying values at other
places leaves what stands there alone, and does not notice if it is replaced.
-/

import ClusterFixture.Proofs.Drafts
import ClusterFixture.Proofs.Records
import ClusterFixture.Settings.Selection

set_option autoImplicit false

namespace ClusterFixture.Settings

/-! ## Another part in a place -/

namespace Value

/-- The members with the first one of a name changed. -/
def changeMember (name : String) (f : Value → Value) :
    List (String × Value) → List (String × Value)
  | [] => []
  | (k, v) :: rest => if k = name then (k, f v) :: rest else (k, v) :: changeMember name f rest

/-- A value with another part at the end of a path. Where the path leads nowhere, it is the value
itself. -/
def withPart (part : Value) : List String → Value → Value
  | [], _ => part
  | name :: path, .table o ms => .table o (changeMember name (withPart part path) ms)
  | _ :: _, v => v

theorem member?_changeMember_self (name : String) (f : Value → Value)
    (ms : List (String × Value)) :
    member? name (changeMember name f ms) = (member? name ms).map f := by
  induction ms with
  | nil => rfl
  | cons m rest ih =>
    obtain ⟨k, v⟩ := m
    by_cases hk : k = name
    · simp [changeMember, member?, hk]
    · simpa [changeMember, member?, List.lookup_cons, hk, beq_false_of_ne (Ne.symm hk)] using ih

theorem member?_changeMember_of_ne {name other : String} (h : other ≠ name) (f : Value → Value)
    (ms : List (String × Value)) :
    member? other (changeMember name f ms) = member? other ms := by
  induction ms with
  | nil => rfl
  | cons m rest ih =>
    obtain ⟨k, v⟩ := m
    by_cases hk : k = name
    · subst hk
      simp [changeMember, member?, List.lookup_cons, beq_false_of_ne h]
    · simp only [changeMember, if_neg hk, member?, List.lookup_cons] at ih ⊢
      rw [ih]

theorem changeMember_putMember_self (name : String) (f : Value → Value) (v : Value)
    (ms : List (String × Value)) :
    changeMember name f (putMember name v ms) = putMember name (f v) ms := by
  induction ms with
  | nil => simp [putMember, changeMember]
  | cons m rest ih =>
    obtain ⟨k, old⟩ := m
    by_cases hk : k = name
    · simp [putMember, changeMember, hk]
    · simp [putMember, changeMember, hk, ih]

theorem changeMember_putMember_of_ne {name other : String} (h : other ≠ name) (f : Value → Value)
    (v : Value) (ms : List (String × Value)) :
    changeMember name f (putMember other v ms) = putMember other v (changeMember name f ms) := by
  induction ms with
  | nil => simp [putMember, changeMember, h]
  | cons m rest ih =>
    obtain ⟨k, old⟩ := m
    by_cases hk : k = name
    · have hother : k ≠ other := fun heq => h (heq.symm.trans hk)
      simp [putMember, changeMember, hk, Ne.symm h]
    · by_cases hother : k = other
      · simp [putMember, changeMember, hother, h]
      · simp [putMember, changeMember, hk, hother, ih]

/-- A member that is put takes the place of a changed one. -/
theorem putMember_changeMember_self (name : String) (f : Value → Value) (v : Value)
    (ms : List (String × Value)) :
    putMember name v (changeMember name f ms) = putMember name v ms := by
  induction ms with
  | nil => rfl
  | cons m rest ih =>
    obtain ⟨k, old⟩ := m
    by_cases hk : k = name
    · simp [putMember, changeMember, hk]
    · simp [putMember, changeMember, hk, ih]

/-- The member that is changed is the one that is found. -/
theorem changeMember_of_member? {name : String} {v : Value} {ms : List (String × Value)}
    (h : member? name ms = some v) (f : Value → Value) :
    changeMember name f ms = changeMember name (fun _ => f v) ms := by
  induction ms with
  | nil => rfl
  | cons m rest ih =>
    obtain ⟨k, old⟩ := m
    by_cases hk : k = name
    · have hold : old = v := by simpa [member?, hk] using h
      simp [changeMember, hk, hold]
    · have hrest : member? name rest = some v := by
        simpa [member?, List.lookup_cons, beq_false_of_ne (Ne.symm hk)] using h
      simp [changeMember, hk, ih hrest]

/-- A change concerns one member at most. -/
theorem mem_changeMember {name : String} {f : Value → Value} {ms : List (String × Value)}
    {m : String × Value} (h : m ∈ changeMember name f ms) :
    (∃ old, m = (name, f old)) ∨ m ∈ ms := by
  induction ms with
  | nil => exact .inr h
  | cons first rest ih =>
    obtain ⟨k, old⟩ := first
    by_cases hk : k = name
    · rw [changeMember, if_pos hk] at h
      rcases List.mem_cons.mp h with rfl | h
      · exact .inl ⟨old, by rw [hk]⟩
      · exact .inr (List.mem_cons_of_mem _ h)
    · rw [changeMember, if_neg hk] at h
      rcases List.mem_cons.mp h with rfl | h
      · exact .inr List.mem_cons_self
      · exact (ih h).imp_right (List.mem_cons_of_mem _)

/-- It leaves the names as they are. -/
theorem keys_changeMember (name : String) (f : Value → Value) (ms : List (String × Value)) :
    (changeMember name f ms).map Prod.fst = ms.map Prod.fst := by
  induction ms with
  | nil => rfl
  | cons first rest ih =>
    obtain ⟨k, old⟩ := first
    by_cases hk : k = name
    · simp [changeMember, hk]
    · simp [changeMember, hk, ih]

/-- Members that are put in a value go with its members as they are changed. -/
theorem withPart_withMembers (part : Value) (name : String) (path : List String) (v : Value)
    (ms : List (String × Value)) :
    withPart part (name :: path) (v.withMembers ms)
      = v.withMembers (changeMember name (withPart part path) ms) := by
  cases v <;> rfl

theorem members_withPart (part : Value) (name : String) (path : List String) (v : Value) :
    (withPart part (name :: path) v).members
      = changeMember name (withPart part path) v.members := by
  cases v <;> rfl

theorem withMembers_withPart (part : Value) (name : String) (path : List String) (v : Value)
    (ms : List (String × Value)) :
    (withPart part (name :: path) v).withMembers ms = v.withMembers ms := by
  cases v <;> rfl

/-! ## Laying at a place and besides -/

/-- A value that takes the place of what was there: a scalar or a list. -/
def Replaces (v : Value) : Prop := ∀ below?, v.onto below? = v

theorem replaces_scalar (o : Option Origin) (s : Scalar) : Replaces (.scalar o s) := fun _ => rfl

theorem replaces_list (o : Option Origin) (vs : List Value) : Replaces (.list o vs) := fun _ => rfl

/-- Names that stay as they are when they are put in lower case. -/
def AreLower (path : List String) : Prop := ∀ name ∈ path, Text.lower name = name

instance (path : List String) : Decidable (AreLower path) :=
  inferInstanceAs (Decidable (∀ name ∈ path, Text.lower name = name))

theorem AreLower.tail {name : String} {path : List String} (h : AreLower (name :: path)) :
    AreLower path := fun n hn => h n (List.mem_cons_of_mem _ hn)

theorem at?_cons (name : String) (path : List String) (v : Value) :
    v.at? (name :: path) = (member? name v.members).bind (at? path) := rfl

/-- A value laid at a place below what stands under a name, if anything does. -/
def layBelow (v : Value) : List Access → Option Value → Value
  | [], below? => v.onto below?
  | step :: steps, below? => v.lay (step :: steps) (below?.getD nothing)

/-- Laying a value at a place puts the member that the place begins with, with the value laid below
it. -/
theorem lay_member (v : Value) (name : String) (steps : List Access) (target : Value) :
    v.lay (.member name :: steps) target
      = target.withMembers (putMember (Text.lower name)
          (v.layBelow steps (member? (Text.lower name) target.members)) target.members) := by
  cases steps with
  | nil => rw [lay, layMember_eq, layBelow]
  | cons step steps =>
    rw [lay]
    · rfl
    · simp

/-- What is laid at a place stands there. -/
theorem at?_lay {part : Value} (hpart : part.Replaces) {path : List String} (hpath : path ≠ [])
    (hlower : AreLower path) (target : Value) :
    (part.lay (path.map .member) target).at? path = some part := by
  induction path generalizing target with
  | nil => exact absurd rfl hpath
  | cons name path ih =>
    have hname : Text.lower name = name := hlower name (by simp)
    rw [List.map_cons, lay_member, hname, at?_cons, members_withMembers,
      member?_putMember_self, Option.bind_some]
    cases path with
    | nil => exact congrArg some (hpart _)
    | cons next path => exact ih (by simp) hlower.tail _

/-- What was laid at a place is replaced by what is laid there in its stead. -/
theorem withPart_lay {other : Value} (hother : other.Replaces) (part : Value)
    {path : List String} (hpath : path ≠ []) (hlower : AreLower path)
    (target : Value) :
    withPart other path (part.lay (path.map .member) target)
      = other.lay (path.map .member) target := by
  induction path generalizing target with
  | nil => exact absurd rfl hpath
  | cons name path ih =>
    have hname : Text.lower name = name := hlower name (by simp)
    have hbelow : withPart other path (part.layBelow (path.map .member)
          (member? name target.members))
        = other.layBelow (path.map .member) (member? name target.members) := by
      cases path with
      | nil => exact (hother _).symm
      | cons next path => exact ih (by simp) hlower.tail _
    rw [List.map_cons, lay_member, lay_member, hname, withPart_withMembers,
      changeMember_putMember_self, hbelow]

/-- The steps of a place leave a path of names before either ends. -/
def Apart : List Access → List String → Prop
  | .member a :: steps, name :: path => Text.lower a = name → Apart steps path
  | _, _ => False

/-- A path that is left has a name. -/
theorem Apart.exists_cons {steps : List Access} {path : List String} (h : Apart steps path) :
    ∃ a rest name path', steps = .member a :: rest ∧ path = name :: path' ∧
      (Text.lower a = name → Apart rest path') := by
  cases steps with
  | nil => exact h.elim
  | cons step rest =>
    cases step with
    | item i => exact h.elim
    | member a =>
      cases path with
      | nil => exact h.elim
      | cons name path' => exact ⟨a, rest, name, path', rfl, rfl, h⟩

/-- Laying a value besides a place leaves alone what stands there. -/
theorem at?_lay_of_apart (v : Value) {steps : List Access} {path : List String}
    (h : Apart steps path) (target : Value) :
    (v.lay steps target).at? path = target.at? path := by
  induction path generalizing steps target with
  | nil =>
    obtain ⟨_, _, _, _, _, hnil, _⟩ := h.exists_cons
    cases hnil
  | cons name path ih =>
    obtain ⟨a, rest, _, _, rfl, hcons, hrest⟩ := h.exists_cons
    cases hcons
    rw [lay_member, at?_cons, members_withMembers, at?_cons]
    by_cases ha : Text.lower a = name
    · -- The way leads through the same member, and is left further down.
      obtain ⟨b, rest', next, path', rfl, rfl, -⟩ := (hrest ha).exists_cons
      rw [ha, member?_putMember_self, Option.bind_some, layBelow, ih (hrest ha)]
      cases member? name target.members <;> rfl
    · rw [member?_putMember_of_ne _ _ (Ne.symm ha)]

/-- Laying a value besides a place does not notice that another part stands there. -/
theorem withPart_lay_of_apart (part v : Value) {steps : List Access} {path : List String}
    (h : Apart steps path) (target : Value) :
    withPart part path (v.lay steps target) = v.lay steps (withPart part path target) := by
  induction path generalizing steps target with
  | nil =>
    obtain ⟨_, _, _, _, _, hnil, _⟩ := h.exists_cons
    cases hnil
  | cons name path ih =>
    obtain ⟨a, rest, _, _, rfl, hcons, hrest⟩ := h.exists_cons
    cases hcons
    rw [lay_member, lay_member, withPart_withMembers, withMembers_withPart, members_withPart]
    by_cases ha : Text.lower a = name
    · obtain ⟨b, rest', next, path', rfl, rfl, -⟩ := (hrest ha).exists_cons
      have hbelow : ∀ below? : Option Value,
          withPart part (next :: path') (v.layBelow (.member b :: rest') below?)
            = v.layBelow (.member b :: rest') (below?.map (withPart part (next :: path'))) := by
        intro below?
        rw [layBelow, ih (hrest ha)]
        cases below? <;> rfl
      rw [ha, changeMember_putMember_self, putMember_changeMember_self,
        member?_changeMember_self, hbelow]
    · rw [changeMember_putMember_of_ne ha, member?_changeMember_of_ne ha]

end Value

/-! ## Fields -/

section

variable {α β : Type}

/-- A member of a record: its value is read by a reader of its own, and any other value that can be
read so may stand in its place. -/
structure IsMember (read : Located → Except ValueFault α) (name : String)
    (readMember : Located → Except ValueFault β) (get : α → β) : Prop where
  holds : ∀ {way o ms part a}, Value.member? name ms = some part →
    read ⟨way, .table o ms⟩ = .ok a → readMember ⟨.member name :: way, part⟩ = .ok (get a)
  replace : ∀ {way o ms part a b}, (∃ old, Value.member? name ms = some old) →
    read ⟨way, .table o ms⟩ = .ok a → readMember ⟨.member name :: way, part⟩ = .ok b →
    ∃ a', read ⟨way, .table o (Value.changeMember name (fun _ => part) ms)⟩ = .ok a'

end

/-- A field of a record, at the end of a path of members: the record itself, or a field of one of
its members. -/
inductive IsField {β : Type} (readField : Located → Except ValueFault β) :
    {α : Type} → (Located → Except ValueFault α) → List String → (α → β) → Prop where
  | whole : IsField readField readField [] id
  | member {α γ : Type} {read : Located → Except ValueFault α} {name : String}
    {readMember : Located → Except ValueFault γ} {get : α → γ} {path : List String} {get' : γ → β} :
    IsMember read name readMember get → IsField readField readMember path get' →
      IsField readField read (name :: path) (get' ∘ get)

/-- A member is a field. -/
theorem IsMember.isField {α β : Type} {read : Located → Except ValueFault α} {name : String}
    {readMember : Located → Except ValueFault β} {get : α → β}
    (h : IsMember read name readMember get) : IsField readMember read [name] get :=
  (IsField.member h .whole :)

/-- The way to the end of a path, the last step first. -/
def wayAlong : List Step → List String → List Step
  | way, [] => way
  | way, name :: path => wayAlong (.member name :: way) path

namespace IsField

variable {α β : Type} {readField : Located → Except ValueFault β}
  {read : Located → Except ValueFault α} {path : List String} {get : α → β}

/-- What stands at the place of a field is what is read of it. -/
theorem holds (h : IsField readField read path get) {way : List Step} {v part : Value} {a : α}
    (hat : v.at? path = some part) (hread : read ⟨way, v⟩ = .ok a) :
    readField ⟨wayAlong way path, part⟩ = .ok (get a) := by
  induction h generalizing way v with
  | whole =>
    cases hat
    exact hread
  | member hmember _ ih =>
    obtain ⟨inner, hinner, hdeep⟩ := Option.bind_eq_some_iff.mp hat
    cases v with
    | table o ms => exact ih hdeep (hmember.holds hinner hread)
    | scalar o s => cases hinner
    | list o vs => cases hinner

/-- With something else in the place of a field that can be read as well, the whole can be read. -/
theorem replace (h : IsField readField read path get) {way : List Step} {v part part' : Value}
    {a : α} {b : β} (hat : v.at? path = some part) (hread : read ⟨way, v⟩ = .ok a)
    (hother : readField ⟨wayAlong way path, part'⟩ = .ok b) :
    ∃ a', read ⟨way, Value.withPart part' path v⟩ = .ok a' := by
  induction h generalizing way v with
  | whole => exact ⟨b, hother⟩
  | member hmember _ ih =>
    obtain ⟨inner, hinner, hdeep⟩ := Option.bind_eq_some_iff.mp hat
    cases v with
    | table o ms =>
      obtain ⟨c, hc⟩ := ih hdeep (hmember.holds hinner hread) hother
      obtain ⟨a', ha'⟩ := hmember.replace ⟨inner, hinner⟩ hread hc
      rw [← Value.changeMember_of_member? hinner] at ha'
      exact ⟨a', ha'⟩
    | scalar o s => cases hinner
    | list o vs => cases hinner

end IsField

/-! ## Members of records -/

/-- Looking through the members passes when each that is known can be read. -/
theorem checkMembers_eq_ok_iff (members : List (Form.Member Located ValueFault)) (way : List Step)
    (ms : List (String × Value)) :
    Form.checkMembers members
        (ms.map fun m => (m.1, ⟨.member m.1 :: way, m.2⟩)) = .ok () ↔
      ∀ e ∈ ms, ∀ m, members.find? (fun m => m.name == e.1) = some m →
        m.check ⟨.member e.1 :: way, e.2⟩ = .ok () := by
  induction ms with
  | nil => simp [Form.checkMembers]
  | cons e rest ih =>
    obtain ⟨name, part⟩ := e
    rw [List.map_cons, Form.checkMembers, List.forall_mem_cons, ← ih]
    cases hfound : members.find? fun m => m.name == name with
    | none => simp
    | some m =>
      simp only [Option.some.injEq, forall_eq', bind_eq_ok_iff]
      constructor
      · rintro ⟨_, h⟩
        exact h
      · exact fun h => ⟨(), h⟩

section

variable {α β γ : Type} {name : String} {readMember : Located → Except ValueFault β}

/-- A value passes the check of a member when it is read. -/
theorem check_eq_ok_iff (v : Located) :
    (Form.member name readMember).check v = .ok () ↔ ∃ b, readMember v = .ok b := by
  show (readMember v >>= fun _ => .ok ()) = _ ↔ _
  simp [bind_eq_ok_iff]

variable {title : String} {names : List String} {way : List Step} {v : Value}

/-- A member that may be missing is read where it stands. -/
theorem withDefault_of_member? {otherwise : β} {part : Value}
    (h : Value.member? name v.members = some part) :
    (reading title names way v).withDefault name otherwise readMember
      = readMember ⟨.member name :: way, part⟩ := by
  rw [Form.Reading.withDefault, reading, value?_members, h]
  rfl

variable {members : List (Form.Member Located ValueFault)}

/-- Once the members are looked through, one that may be missing gives a value. -/
theorem exists_withDefault
    (hchecked : Form.checkMembers members (Located.members ⟨way, v⟩) = .ok ()) (title : String)
    (name : String) (otherwise : β) (readMember : Located → Except ValueFault β)
    (hfind : members.find? (fun m => m.name == name) = some (Form.member name readMember)) :
    ∃ b, (reading title (members.map Form.Member.name) way v).withDefault name otherwise readMember
      = .ok b := by
  cases hfound : Value.member? name v.members with
  | none =>
    rw [Form.Reading.withDefault, reading, value?_members, hfound]
    exact ⟨otherwise, rfl⟩
  | some part =>
    rw [withDefault_of_member? hfound]
    exact (check_eq_ok_iff _).mp ((checkMembers_eq_ok_iff members way v.members).mp hchecked
      (name, part) (Value.mem_of_member? hfound) _ hfind)

/-- The record of a table is built once its members are looked through. -/
theorem readRecord_table (build : Form.Reading Located ValueFault → Except ValueFault α)
    (o : Option Origin) (ms : List (String × Value)) :
    layeredForm.readRecord title members build ⟨way, .table o ms⟩
      = Form.checkMembers members (Located.members ⟨way, .table o ms⟩) >>= fun _ =>
          build (reading title (members.map Form.Member.name) way (.table o ms)) := rfl

/-- **A member of a record**, where the record is built from what its members give: it tells what
was read of this one, and needs no more than the same members, each of which can be read. -/
theorem IsMember.of_readRecord
    (hfind : members.find? (fun m => m.name == name) = some (Form.member name readMember))
    {build : Form.Reading Located ValueFault → Except ValueFault α} {get : α → β}
    (hget : ∀ {way v part a},
      build (reading title (members.map Form.Member.name) way v) = .ok a →
      Value.member? name v.members = some part →
      readMember ⟨.member name :: way, part⟩ = .ok (get a))
    (hbuild : ∀ {way v w a}, w.members.map Prod.fst = v.members.map Prod.fst →
      build (reading title (members.map Form.Member.name) way v) = .ok a →
      Form.checkMembers members (Located.members ⟨way, w⟩) = .ok () →
      ∃ a', build (reading title (members.map Form.Member.name) way w) = .ok a') :
    IsMember (layeredForm.readRecord title members build) name readMember get where
  holds := by
    intro way o ms part a hfound hread
    rw [readRecord_table] at hread
    obtain ⟨_, -, hbuilt⟩ := bind_eq_ok_iff.mp hread
    exact hget (v := .table o ms) hbuilt hfound
  replace := by
    intro way o ms part a b _ hread hpart
    rw [readRecord_table] at hread
    obtain ⟨_, hchecked, hbuilt⟩ := bind_eq_ok_iff.mp hread
    have hchecked' : Form.checkMembers members
        (Located.members ⟨way, .table o (Value.changeMember name (fun _ => part) ms)⟩)
          = .ok () := by
      refine (checkMembers_eq_ok_iff members way _).mpr fun e he m hm => ?_
      rcases Value.mem_changeMember he with ⟨old, rfl⟩ | he
      · rw [hfind] at hm
        cases hm
        exact (check_eq_ok_iff _).mpr ⟨b, hpart⟩
      · exact (checkMembers_eq_ok_iff members way ms).mp hchecked e he m hm
    obtain ⟨a', ha'⟩ := hbuild (v := .table o ms)
      (w := .table o (Value.changeMember name (fun _ => part) ms))
      (Value.keys_changeMember name _ ms) hbuilt hchecked'
    rw [readRecord_table]
    exact ⟨a', bind_eq_ok_iff.mpr ⟨(), hchecked', ha'⟩⟩

end

/-! ## The fields of a selection -/

namespace Selection

/-- The tags are a member of what is nested. -/
theorem isMember_tags : IsMember readNested "tags" (Located.listOf Located.text) Prod.fst := by
  unfold readNested
  refine IsMember.of_readRecord (by rfl) ?_ ?_
  · intro way v part a hbuilt hfound
    rw [withDefault_of_member? hfound] at hbuilt
    obtain ⟨tags, htags, hbuilt⟩ := bind_eq_ok_iff.mp hbuilt
    obtain ⟨depth, -, hpair⟩ := bind_eq_ok_iff.mp hbuilt
    cases hpair
    exact htags
  · intro way v w a _ _ hchecked
    obtain ⟨tags, htags⟩ :=
      exists_withDefault hchecked "Nested" "tags" [] (Located.listOf Located.text) rfl
    obtain ⟨depth, hdepth⟩ :=
      exists_withDefault hchecked "Nested" "depth" 0 (Located.unsigned 8) rfl
    exact ⟨(tags, depth), bind_eq_ok_iff.mpr ⟨tags, htags,
      bind_eq_ok_iff.mpr ⟨depth, hdepth, rfl⟩⟩⟩

section

variable {way : List Step} {v : Value}

/-- A selection as its members are read. -/
abbrev readingOf (way : List Step) (v : Value) : Form.Reading Located ValueFault :=
  reading "Lists" (members.map Form.Member.name) way v

/-- What a selection is built from: what each of its members gives. -/
theorem build_eq_ok_iff (s : Selection) :
    build (readingOf way v) = .ok s ↔
      (readingOf way v).withDefault "names" [] (Located.listOf Located.text) = .ok s.names ∧
      (readingOf way v).withDefault "nested" ([], 0) readNested = .ok (s.tags, s.depth) ∧
      (readingOf way v).withDefault "count" 0 Located.integer = .ok s.count ∧
      (readingOf way v).withDefault "flag" false Located.flag = .ok s.flag ∧
      (readingOf way v).withDefault "label" "" Located.text = .ok s.label := by
  simp only [build, bind_eq_ok_iff]
  constructor
  · rintro ⟨names, hnames, ⟨tags, depth⟩, hnested, count, hcount, flag, hflag, label, hlabel, hs⟩
    cases hs
    exact ⟨hnames, hnested, hcount, hflag, hlabel⟩
  · rintro ⟨hnames, hnested, hcount, hflag, hlabel⟩
    exact ⟨_, hnames, _, hnested, _, hcount, _, hflag, _, hlabel, rfl⟩

/-- All members may be missing, so once they are looked through the selection is built. -/
theorem exists_build (hchecked : Form.checkMembers members (Located.members ⟨way, v⟩) = .ok ()) :
    ∃ s, build (readingOf way v) = .ok s := by
  obtain ⟨names, hnames⟩ :=
    exists_withDefault hchecked "Lists" "names" [] (Located.listOf Located.text) rfl
  obtain ⟨nested, hnested⟩ := exists_withDefault hchecked "Lists" "nested" ([], 0) readNested rfl
  obtain ⟨count, hcount⟩ := exists_withDefault hchecked "Lists" "count" 0 Located.integer rfl
  obtain ⟨flag, hflag⟩ := exists_withDefault hchecked "Lists" "flag" false Located.flag rfl
  obtain ⟨label, hlabel⟩ := exists_withDefault hchecked "Lists" "label" "" Located.text rfl
  exact ⟨{ names, tags := nested.1, depth := nested.2, count, flag, label },
    (build_eq_ok_iff _).mpr ⟨hnames, hnested, hcount, hflag, hlabel⟩⟩

end

theorem isMember_names : IsMember ofValue "names" (Located.listOf Located.text) names := by
  refine IsMember.of_readRecord (by rfl) ?_ fun _ _ => exists_build
  intro way v part s hbuilt hfound
  obtain ⟨hnames, -⟩ := (build_eq_ok_iff s).mp hbuilt
  rwa [withDefault_of_member? hfound] at hnames

theorem isMember_nested : IsMember ofValue "nested" readNested fun s => (s.tags, s.depth) := by
  refine IsMember.of_readRecord (by rfl) ?_ fun _ _ => exists_build
  intro way v part s hbuilt hfound
  obtain ⟨-, hnested, -⟩ := (build_eq_ok_iff s).mp hbuilt
  rwa [withDefault_of_member? hfound] at hnested

theorem isMember_label : IsMember ofValue "label" Located.text label := by
  refine IsMember.of_readRecord (by rfl) ?_ fun _ _ => exists_build
  intro way v part s hbuilt hfound
  obtain ⟨-, -, -, -, hlabel⟩ := (build_eq_ok_iff s).mp hbuilt
  rwa [withDefault_of_member? hfound] at hlabel

/-- The tags are a field inside what is nested. -/
theorem isField_tags : IsField (Located.listOf Located.text) ofValue ["nested", "tags"] tags :=
  (IsField.member isMember_nested isMember_tags.isField :)

end Selection

end ClusterFixture.Settings
