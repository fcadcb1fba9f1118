/-
A value laid over another one, part by part.

Laying a table over a table meets each of its members once, so what is found under a name
afterwards is the member of the upper table laid over that of the lower one. Along a path of names
this goes on until one of the two tables ends. Where both have the shape of one tree, they end only
at leaves, and there the upper one counts.
-/

import ClusterFixture.Proofs.Places

set_option autoImplicit false

namespace ClusterFixture.Settings

namespace Value

/-! ## Members -/

@[simp] theorem members_withMembers (ms : List (String × Value)) (v : Value) :
    (v.withMembers ms).members = ms := by
  cases v <;> rfl

theorem mem_putMember {name : String} {v : Value} {ms : List (String × Value)}
    {m : String × Value} (h : m ∈ putMember name v ms) : m = (name, v) ∨ m ∈ ms := by
  induction ms with
  | nil => simpa [putMember] using h
  | cons first rest ih =>
    obtain ⟨k, old⟩ := first
    simp only [putMember] at h
    by_cases hk : k = name
    · rw [if_pos hk] at h
      rcases List.mem_cons.mp h with rfl | h
      · exact .inl (by rw [hk])
      · exact .inr (List.mem_cons_of_mem _ h)
    · rw [if_neg hk] at h
      rcases List.mem_cons.mp h with rfl | h
      · exact .inr List.mem_cons_self
      · exact (ih h).imp_right (List.mem_cons_of_mem _)

/-- Putting a member adds its name, unless it is there. -/
theorem keys_putMember (name : String) (v : Value) (ms : List (String × Value)) :
    (putMember name v ms).map Prod.fst
      = if name ∈ ms.map Prod.fst then ms.map Prod.fst else ms.map Prod.fst ++ [name] := by
  induction ms with
  | nil => simp [putMember]
  | cons first rest ih =>
    obtain ⟨k, old⟩ := first
    by_cases hk : k = name
    · simp [putMember, hk]
    · rw [putMember, if_neg hk, List.map_cons, ih]
      by_cases hmem : name ∈ rest.map Prod.fst
      · simp [hmem]
      · simp [hmem, Ne.symm hk]

theorem nodup_putMember {name : String} {v : Value} {ms : List (String × Value)}
    (h : (ms.map Prod.fst).Nodup) : ((putMember name v ms).map Prod.fst).Nodup := by
  rw [keys_putMember]
  by_cases hmem : name ∈ ms.map Prod.fst
  · rwa [if_pos hmem]
  · rw [if_neg hmem]
    refine List.nodup_append.mpr ⟨h, by simp, ?_⟩
    rintro other hother last hlast rfl
    exact hmem (List.mem_singleton.mp hlast ▸ hother)

theorem mem_of_member? {ms : List (String × Value)} {name : String} {v : Value}
    (h : member? name ms = some v) : (name, v) ∈ ms := by
  obtain ⟨before, after, rfl, -⟩ := List.lookup_eq_some_iff.mp h
  simp

/-- Where every name stands once, the member that stands under it is found. -/
theorem member?_of_mem {ms : List (String × Value)} (h : (ms.map Prod.fst).Nodup)
    {name : String} {v : Value} (hm : (name, v) ∈ ms) : member? name ms = some v := by
  obtain ⟨before, after, rfl⟩ := List.append_of_mem hm
  rw [List.map_append, List.map_cons, List.nodup_append] at h
  refine List.lookup_eq_some_iff.mpr ⟨before, after, rfl, fun m hmem => ?_⟩
  have hne := h.2.2 m.1 (List.mem_map_of_mem hmem) name (by simp)
  simpa using Ne.symm hne

theorem member?_eq_none {ms : List (String × Value)} {name : String}
    (h : name ∉ ms.map Prod.fst) : member? name ms = none := by
  rw [member?, List.lookup_eq_none_iff]
  intro m hm
  have hne : m.1 ≠ name := fun heq => h (heq ▸ List.mem_map_of_mem hm)
  simpa using Ne.symm hne

/-! ## One level -/

/-- A value laid over what stands in its place, if anything does. -/
def onto (v : Value) (below? : Option Value) : Value :=
  match v with
  | .table _ incoming => layMembers incoming (below?.getD empty)
  | v => v

/-- Laying a member puts it, laid over what stands there. -/
theorem layMember_eq (name : String) (v : Value) (ms : List (String × Value)) :
    layMember name v ms = putMember name (v.onto (member? name ms)) ms := by
  cases v <;> simp [layMember, onto]

/-- Under each name the upper member is found, laid over the lower one. -/
theorem member?_layMembers {incoming : List (String × Value)}
    (hlower : ∀ m ∈ incoming, Text.lower m.1 = m.1) (hkeys : (incoming.map Prod.fst).Nodup)
    (name : String) (target : Value) :
    member? name (layMembers incoming target).members
      = match member? name incoming with
        | none => member? name target.members
        | some v => some (v.onto (member? name target.members)) := by
  induction incoming generalizing target with
  | nil => simp [layMembers, member?]
  | cons first rest ih =>
    obtain ⟨k, v⟩ := first
    rw [List.map_cons, List.nodup_cons] at hkeys
    rw [layMembers, hlower (k, v) (by simp), layMember_eq,
      ih (fun m hm => hlower m (List.mem_cons_of_mem _ hm)) hkeys.2, members_withMembers]
    by_cases hname : name = k
    · subst hname
      have hself : member? name ((name, v) :: rest) = some v := by simp [member?]
      rw [member?_eq_none hkeys.1, member?_putMember_self, hself]
    · rw [member?_putMember_of_ne _ _ hname]
      simp only [member?, List.lookup_cons, beq_false_of_ne hname]

/-- What holds of values without parts, and of a table where it holds of its members, holds of all
values without lists in them. -/
theorem table_induction {P : Value → Prop} (scalar : ∀ o s, P (.scalar o s))
    (list : ∀ o vs, P (.list o vs))
    (table : ∀ o ms, (∀ m ∈ ms, P m.2) → P (.table o ms)) : ∀ v, P v
  | .scalar o s => scalar o s
  | .list o vs => list o vs
  | .table o ms => table o ms fun m _ => table_induction scalar list table m.2
termination_by v => sizeOf v
decreasing_by
  obtain ⟨name, v⟩ := m
  have hlt := List.sizeOf_lt_of_mem ‹_ ∈ ms›
  simp only [Prod.mk.sizeOf_spec, Value.table.sizeOf_spec] at hlt ⊢
  omega

end Value

/-! ## Shapes -/

namespace Shape

/-- Members belong to a section where each name stands once and belongs to it with its value. -/
theorem membersFit_iff (parts : List (String × Shape)) (ms : List (String × Value)) :
    membersFit parts ms = true ↔ (ms.map Prod.fst).Nodup ∧
      ∀ m ∈ ms, ∃ sh, parts.lookup m.1 = some sh ∧ fits sh m.2 = true := by
  induction ms with
  | nil => simp [membersFit]
  | cons first rest ih =>
    obtain ⟨name, v⟩ := first
    have hfresh : (rest.all fun m => decide (m.1 ≠ name)) = true ↔ name ∉ rest.map Prod.fst := by
      simp only [List.all_eq_true, decide_eq_true_eq, List.mem_map, not_exists, not_and]
    rw [membersFit, Bool.and_eq_true, Bool.and_eq_true, hfresh, ih, List.map_cons,
      List.nodup_cons, List.forall_mem_cons]
    cases parts.lookup name with
    | none => simp
    | some sh =>
      simp only [Option.some.injEq, exists_eq_left']
      constructor
      · rintro ⟨⟨hv, hname⟩, hkeys, hrest⟩
        exact ⟨⟨hname, hkeys⟩, hv, hrest⟩
      · rintro ⟨⟨hname, hkeys⟩, hv, hrest⟩
        exact ⟨⟨hv, hname⟩, hkeys, hrest⟩

/-- What fits a section is a table. -/
theorem exists_of_fits_group {parts : List (String × Shape)} {v : Value}
    (h : fits (.group parts) v = true) : ∃ o ms, v = .table o ms ∧ membersFit parts ms = true := by
  cases v with
  | scalar o s => simp [fits] at h
  | list o vs => simp [fits] at h
  | table o ms => exact ⟨o, ms, rfl, by simpa [fits] using h⟩

/-- What fits a leaf is a scalar of the right type. -/
theorem exists_of_fits_leaf {k : Kind} {v : Value} (h : fits (.leaf k) v = true) :
    ∃ o s c, v = .scalar o s ∧ k.content? s = some c := by
  cases v with
  | scalar o s =>
    obtain ⟨c, hc⟩ := Option.isSome_iff_exists.mp (by simpa [fits] using h)
    exact ⟨o, s, c, rfl, hc⟩
  | list o vs => simp [fits] at h
  | table o ms => simp [fits] at h

/-- What a member of such a table holds fits the part of its name. -/
theorem fits_member {parts : List (String × Shape)} {v : Value}
    (hv : fits (.group parts) v = true) {name : String} {sub : Shape}
    (hsub : parts.lookup name = some sub) {w : Value}
    (hw : Value.member? name v.members = some w) : fits sub w = true := by
  obtain ⟨o, ms, rfl, hms⟩ := exists_of_fits_group hv
  obtain ⟨sub', hsub', hfits⟩ :=
    ((membersFit_iff parts ms).mp hms).2 _ (Value.mem_of_member? hw)
  rw [hsub] at hsub'
  cases hsub'
  exact hfits

mutual

/-- Whether the names of a tree are such as variables spell. -/
def isNamed : Shape → Bool
  | .leaf _ => true
  | .group parts => areNamed parts

/-- Whether those of parts are, and of what is in them. -/
def areNamed : List (String × Shape) → Bool
  | [] => true
  | (name, sh) :: rest => isName name.toList && isNamed sh && areNamed rest

end

theorem areNamed_iff (parts : List (String × Shape)) :
    areNamed parts = true ↔ ∀ p ∈ parts, isName p.1.toList = true ∧ isNamed p.2 = true := by
  induction parts with
  | nil => simp [areNamed]
  | cons p rest ih => rw [areNamed, List.forall_mem_cons, Bool.and_eq_true, Bool.and_eq_true, ih]

/-- A part of such a tree has such a name and is such a tree. -/
theorem isNamed_lookup {parts : List (String × Shape)} (h : isNamed (.group parts) = true)
    {name : String} {sub : Shape} (hsub : parts.lookup name = some sub) :
    isName name.toList = true ∧ isNamed sub = true := by
  obtain ⟨before, after, rfl, -⟩ := List.lookup_eq_some_iff.mp hsub
  exact (areNamed_iff _).mp h (name, sub) (by simp)

/-- The members of a table that fits have such names. -/
theorem isName_of_fits {sh : Shape} (h : sh.isNamed = true) {o : Option Origin}
    {ms : List (String × Value)} (hfits : fits sh (.table o ms) = true) :
    ∀ m ∈ ms, isName m.1.toList = true := by
  cases sh with
  | leaf k => cases hfits
  | group parts =>
    intro m hm
    obtain ⟨sub, hsub, -⟩ := ((membersFit_iff parts ms).mp hfits).2 m hm
    exact (isNamed_lookup h hsub).1

/-- Members of a section that are put over one another belong to it. -/
theorem fits_putMember {parts : List (String × Shape)} {ms : List (String × Value)}
    (h : membersFit parts ms = true) {name : String} {v : Value} {sub : Shape}
    (hsub : parts.lookup name = some sub) (hv : fits sub v = true) :
    membersFit parts (Value.putMember name v ms) = true := by
  rw [membersFit_iff] at h ⊢
  refine ⟨Value.nodup_putMember h.1, fun m hm => ?_⟩
  rcases Value.mem_putMember hm with rfl | hm
  · exact ⟨sub, hsub, hv⟩
  · exact h.2 m hm

/-- **Values of one shape, laid over each other, have that shape.** -/
theorem fits_onto {sh : Shape} (hsh : isNamed sh = true) {v : Value} (hv : fits sh v = true)
    {below? : Option Value} (hbelow : ∀ w ∈ below?, fits sh w = true) :
    fits sh (v.onto below?) = true := by
  induction v using Value.table_induction generalizing sh below? with
  | scalar o s => exact hv
  | list o vs => simp [fits] at hv
  | table o ms ih =>
    cases sh with
    | leaf k => simp [fits] at hv
    | group parts =>
      obtain ⟨hkeys, hmembers⟩ := (membersFit_iff parts ms).mp (by simpa [fits] using hv)
      -- The members are laid one by one over what the lower table has become by then.
      have hlay : ∀ rest, (∀ m ∈ rest, m ∈ ms) → ∀ o' ms', membersFit parts ms' = true →
          fits (.group parts) (Value.layMembers rest (.table o' ms')) = true := by
        intro rest hrest
        induction rest with
        | nil => intro o' ms' hms'; simpa [Value.layMembers, fits] using hms'
        | cons m rest ihrest =>
          obtain ⟨name, v⟩ := m
          intro o' ms' hms'
          obtain ⟨sub, hsub, hv⟩ := hmembers (name, v) (hrest _ (by simp))
          have hover : fits sub (v.onto (Value.member? name ms')) = true := by
            have hlower : fits (.group parts) (.table o' ms') = true := hms'
            exact ih (name, v) (hrest _ (by simp)) (isNamed_lookup hsh hsub).2 hv fun w hw =>
              fits_member hlower hsub hw
          rw [Value.layMembers, lower_of_isName (isNamed_lookup hsh hsub).1, Value.layMember_eq]
          exact ihrest (fun m hm => hrest m (List.mem_cons_of_mem _ hm)) o' _
            (fits_putMember hms' hsub hover)
      cases below? with
      | none => exact hlay ms (fun _ hm => hm) none [] rfl
      | some w =>
        obtain ⟨o', ms', rfl, hms'⟩ := exists_of_fits_group (hbelow w rfl)
        exact hlay ms (fun _ hm => hm) o' ms' hms'

end Shape

/-! ## Paths -/

/-- What a path leads to in a value of a shape has the shape that it leads to in the tree. -/
theorem fits_at? {sh sub : Shape} {v w : Value} (hv : sh.fits v = true) {path : List String}
    (hsub : sh.at? path = some sub) (hw : v.at? path = some w) : sub.fits w = true := by
  induction path generalizing sh v with
  | nil =>
    cases hsub
    cases hw
    exact hv
  | cons name path ih =>
    cases sh with
    | leaf k => cases hsub
    | group parts =>
      obtain ⟨inner, hinner, hsub⟩ := Option.bind_eq_some_iff.mp hsub
      obtain ⟨x, hx, hw⟩ := Option.bind_eq_some_iff.mp hw
      exact ih (Shape.fits_member hv hinner hx) hsub hw

/-- **What a path leads to in a value laid over another one** is what it leads to in the upper one,
laid over what it leads to in the lower one. -/
theorem at?_onto {sh sub : Shape} (hsh : sh.isNamed = true) {v : Value} (hv : sh.fits v = true)
    {below? : Option Value} (hbelow : ∀ w ∈ below?, sh.fits w = true) {path : List String}
    (hsub : sh.at? path = some sub) :
    (v.onto below?).at? path = (v.at? path).elim (below?.bind (Value.at? path))
      fun w => some (w.onto (below?.bind (Value.at? path))) := by
  induction path generalizing sh v below? with
  | nil => cases below? <;> rfl
  | cons name path ih =>
    cases sh with
    | leaf k => cases hsub
    | group parts =>
      obtain ⟨o, ms, rfl, hms⟩ := Shape.exists_of_fits_group hv
      obtain ⟨hkeys, -⟩ := (Shape.membersFit_iff parts ms).mp hms
      obtain ⟨inner, hinner, hsub⟩ := Option.bind_eq_some_iff.mp hsub
      have hlower : ∀ m ∈ ms, Text.lower m.1 = m.1 :=
        fun m hm => lower_of_isName (Shape.isName_of_fits hsh hv m hm)
      -- What stands below under the name, found from the lower value.
      have hmember : Value.member? name (below?.getD Value.empty).members
          = below?.bind fun w => Value.member? name w.members := by
        cases below? <;> rfl
      have hdeep : below?.bind (Value.at? (name :: path))
          = (Value.member? name (below?.getD Value.empty).members).bind (Value.at? path) := by
        rw [hmember]
        cases below? <;> rfl
      rw [Value.onto, Value.at?, Value.member?_layMembers hlower hkeys, Value.at?, Value.members,
        hdeep]
      cases hfound : Value.member? name ms with
      | none => rfl
      | some w =>
        refine ih (Shape.isNamed_lookup hsh hinner).2 (Shape.fits_member hv hinner hfound)
          (fun x hx => ?_) hsub
        rw [hmember] at hx
        obtain ⟨below, hmem, hx⟩ := Option.bind_eq_some_iff.mp hx
        exact Shape.fits_member (hbelow below hmem) hinner hx

/-! ## A single leaf -/

/-- A value that stands alone at the end of a path. -/
def Value.alone : List String → Value → Value
  | [], v => v
  | name :: path, v => .table none [(name, alone path v)]

theorem fits_alone {sh : Shape} {k : Kind} {path : List String}
    (hsub : sh.at? path = some (.leaf k)) {o : Option Origin} {s : Scalar}
    (hs : (k.content? s).isSome = true) : sh.fits (.alone path (.scalar o s)) = true := by
  induction path generalizing sh with
  | nil =>
    cases hsub
    simpa [Value.alone, Shape.fits] using hs
  | cons name path ih =>
    cases sh with
    | leaf k => cases hsub
    | group parts =>
      obtain ⟨inner, hinner, hsub⟩ := Option.bind_eq_some_iff.mp hsub
      simp [Value.alone, Shape.fits, Shape.membersFit, hinner, ih hsub]

/-- Below what is no value a place is laid as below an empty table. -/
theorem lay_nothing (v : Value) (name : String) (steps : List Access) :
    v.lay (.member name :: steps) .nothing = v.lay (.member name :: steps) .empty := by
  cases steps <;> rfl

/-- A scalar is laid at the place of a leaf as the table is in which it stands alone. -/
theorem lay_eq_onto {sh : Shape} (hsh : sh.isNamed = true) {k : Kind} {path : List String}
    (hpath : path ≠ []) (hsub : sh.at? path = some (.leaf k)) (o : Option Origin) (s : Scalar)
    {target : Value} (htarget : sh.fits target = true) :
    (Value.scalar o s).lay (path.map .member) target
      = (Value.alone path (.scalar o s)).onto (some target) := by
  induction path generalizing sh target with
  | nil => exact absurd rfl hpath
  | cons name path ih =>
    cases path with
    | nil => rfl
    | cons next path =>
      cases sh with
      | leaf k => cases hsub
      | group parts =>
        obtain ⟨inner, hinner, hsub⟩ := Option.bind_eq_some_iff.mp hsub
        obtain ⟨o', ms, rfl, hms⟩ := Shape.exists_of_fits_group htarget
        have hrest : (Value.scalar o s).lay ((next :: path).map .member)
              ((Value.member? name ms).getD .nothing)
            = (Value.alone (next :: path) (.scalar o s)).onto (Value.member? name ms) := by
          cases hfound : Value.member? name ms with
          | none =>
            have hempty : inner.fits .empty = true := by
              cases inner with
              | leaf k => cases hsub
              | group parts => rfl
            rw [Option.getD_none, List.map_cons, lay_nothing]
            exact ih (Shape.isNamed_lookup hsh hinner).2 (by simp) hsub hempty
          | some w =>
            exact ih (Shape.isNamed_lookup hsh hinner).2 (by simp) hsub
              (Shape.fits_member htarget hinner hfound)
        have hlower := lower_of_isName (Shape.isNamed_lookup hsh hinner).1
        rw [List.map_cons, List.map_cons, Value.lay]
        · simp only [hlower, Value.members]
          have halone : (Value.alone (name :: next :: path) (.scalar o s)).onto
                (some (.table o' ms))
              = Value.layMembers [(name, .alone (next :: path) (.scalar o s))] (.table o' ms) := rfl
          rw [← List.map_cons, hrest, halone, Value.layMembers, hlower, Value.layMember_eq]
          rfl
        · simp

/-! ## Layers -/

/-- The members of a file are laid over a table one by one. -/
theorem over_eq_layMembers {layer : Layer} (h : ∀ m ∈ layer, isName m.1.toList = true)
    (target : Value) : layer.over target = Value.layMembers layer target := by
  induction layer generalizing target with
  | nil => rfl
  | cons m rest ih =>
    obtain ⟨name, v⟩ := m
    rw [Value.layMembers, ← ih fun n hn => h n (List.mem_cons_of_mem _ hn)]
    have hplace : placeOf name = [.member name] := placeOf_name (h (name, v) (by simp))
    show Layer.over rest (v.lay (placeOf name) target) = _
    rw [hplace]
    rfl

end ClusterFixture.Settings
