/-
What layers laid over each other define.

A value of the shape of settings defines what stands at the places of their leaves. Laid over
another one it defines what it defined before, and below that what the other one defined. For the
layer of a file this is so in one step; a layer of variables is laid variable by variable, each as a
value with a single leaf in it, and no two of them speak of one leaf.
-/

import ClusterFixture.Proofs.Layering

set_option autoImplicit false

namespace ClusterFixture.Settings

/-! ## The tree of settings -/

namespace Shape

theorem isNamed_harness : harness.isNamed = true := by decide

/-- The path of a leaf leads to it. -/
theorem at?_leaf (l : Leaf) : harness.at? l.path = some (.leaf l.kind) := by
  cases l <;> rfl

/-- The path of a section leads to one. -/
theorem at?_section (sec : Section) : ∃ parts, harness.at? sec.path = some (.group parts) := by
  cases sec <;> exact ⟨_, rfl⟩

theorem at?_append (p q : List String) (sh : Shape) :
    sh.at? (p ++ q) = (sh.at? p).bind (at? q) := by
  induction p generalizing sh with
  | nil => rfl
  | cons name p ih =>
    cases sh with
    | leaf k => rfl
    | group parts =>
      rw [List.cons_append, at?, at?, Option.bind_assoc]
      exact congrArg _ (funext ih)

end Shape

namespace Leaf

theorem areNames_path (l : Leaf) : AreNames l.path := by
  cases l <;> decide

theorem mem_all (l : Leaf) : l ∈ all := by
  cases l <;> decide

/-- No two leaves have the same path. -/
theorem path_injective {l l' : Leaf} (h : l.path = l'.path) : l = l' := by
  have hfind : ∀ k : Leaf, all.find? (fun j => j.path = k.path) = some k := by
    intro k
    cases k <;> decide
  have hl := hfind l
  rw [h, hfind l'] at hl
  exact (Option.some.inj hl).symm

/-- Nothing stands below a leaf, so no leaf is on the way to another one. -/
theorem path_prefix_iff {l l' : Leaf} : l'.path <+: l.path ↔ l' = l := by
  refine ⟨fun ⟨rest, hrest⟩ => ?_, fun h => h ▸ List.prefix_rfl⟩
  have hpath := Shape.at?_leaf l
  rw [← hrest, Shape.at?_append, Shape.at?_leaf, Option.bind_some] at hpath
  cases rest with
  | nil => exact path_injective (by simpa using hrest)
  | cons name rest => cases hpath

end Leaf

/-- Variables of two places have two names. -/
theorem variableOf_injective {p q : List String} (hp : AreNames p) (hq : AreNames q)
    (h : variableOf p = variableOf q) : p = q := by
  have hset := ofVariables_variableOf hp ""
  rw [h, ofVariables_variableOf hq] at hset
  have hplace : Text.joinWith "." q = Text.joinWith "." p := by simpa using hset
  have haccess := placeOf_joinWith hp
  rw [← hplace, placeOf_joinWith hq] at haccess
  exact ((List.map_inj_right fun _ _ => Access.member.inj).mp haccess).symm

theorem Leaf.variableName_inj {l l' : Leaf} : l.variableName = l'.variableName ↔ l = l' :=
  ⟨fun h => path_injective (variableOf_injective l.areNames_path l'.areNames_path h),
    congrArg variableName⟩

/-- The variable of the environment is that of a leaf which no record reads. -/
theorem environment_variableName : Environment.variableName = variableOf ["environment"] := by
  decide

theorem Leaf.variableName_ne_environment (l : Leaf) :
    l.variableName ≠ Environment.variableName := by
  rw [environment_variableName]
  intro h
  have hpath := variableOf_injective l.areNames_path (by decide) h
  cases l <;> exact absurd hpath (by decide)

/-! ## Drafts -/

namespace Draft

theorem value?_onto (d d' : Draft) (l : Leaf) :
    (d.onto d').value? l = (d.value? l).or (d'.value? l) := rfl

theorem isOpen_onto (d d' : Draft) (sec : Section) :
    (d.onto d').isOpen sec = (d.isOpen sec || d'.isOpen sec) := rfl

theorem value?_ofValue (v : Value) (l : Leaf) :
    (ofValue v).value? l = (v.at? l.path).bind (contentOf? l.kind) := rfl

theorem isOpen_ofValue (v : Value) (sec : Section) :
    (ofValue v).isOpen sec = (v.at? sec.path).isSome := rfl

/-- Variables open the sections on the way to their leaves. -/
theorem isOpen_ofBindings (bindings : List (String × String)) (sec : Section) :
    (ofBindings bindings).isOpen sec = true ↔
      ∃ l : Leaf, sec.path <+: l.path ∧ (bindings.lookup l.variableName).isSome = true := by
  rw [ofBindings, List.any_eq_true]
  simp only [Leaf.mem_all, true_and, Bool.and_eq_true, List.isPrefixOf_iff_prefix]

/-- Drafts that define the same are the same. -/
theorem eq_of_same {d d' : Draft} (hvalue : ∀ l, d.value? l = d'.value? l)
    (hopen : ∀ sec, d.isOpen sec = true ↔ d'.isOpen sec = true) : d = d' :=
  Draft.ext (funext hvalue) (funext fun sec => Bool.eq_iff_iff.mpr (hopen sec))

/-- What no source defines. -/
def nothing : Draft := ⟨fun _ => none, fun _ => false⟩

@[simp] theorem onto_nothing (d : Draft) : d.onto nothing = d :=
  eq_of_same (fun l => by simp [value?_onto, nothing]) fun sec => by simp [isOpen_onto, nothing]

@[simp] theorem nothing_onto (d : Draft) : nothing.onto d = d :=
  eq_of_same (fun l => by simp [value?_onto, nothing]) fun sec => by simp [isOpen_onto, nothing]

theorem onto_assoc (a b c : Draft) : (a.onto b).onto c = a.onto (b.onto c) :=
  eq_of_same (fun l => by simp [value?_onto, Option.or_assoc])
    fun sec => by simp [isOpen_onto, or_assoc]

/-- An empty table defines nothing. -/
@[simp] theorem ofValue_empty : ofValue .empty = nothing :=
  eq_of_same (fun l => by cases l <;> rfl)
    fun sec => by cases sec <;> simp [isOpen_ofValue, nothing, Section.path, Value.at?, Value.empty,
      Value.members, Value.member?]

/-- **Values laid over each other** define what the upper one defines, and else what the lower one
does. -/
theorem ofValue_onto {v w : Value} (hv : Shape.harness.fits v = true)
    (hw : Shape.harness.fits w = true) :
    ofValue (v.onto (some w)) = (ofValue v).onto (ofValue w) := by
  have hat : ∀ {path : List String} {sub : Shape}, Shape.harness.at? path = some sub →
      (v.onto (some w)).at? path
        = (v.at? path).elim (w.at? path) fun x => some (x.onto (w.at? path)) :=
    fun hsub => at?_onto Shape.isNamed_harness hv (by simpa using hw) hsub
  refine eq_of_same (fun l => ?_) fun sec => ?_
  · rw [value?_onto, value?_ofValue, value?_ofValue, value?_ofValue, hat (Shape.at?_leaf l)]
    cases hfound : v.at? l.path with
    | none => rfl
    | some leaf =>
      -- A leaf is laid over what it finds by taking its place.
      obtain ⟨o, s, c, rfl, hc⟩ :=
        Shape.exists_of_fits_leaf (fits_at? hv (Shape.at?_leaf l) hfound)
      simp [Value.onto, contentOf?, hc]
  · obtain ⟨parts, hparts⟩ := Shape.at?_section sec
    rw [isOpen_onto, isOpen_ofValue, isOpen_ofValue, isOpen_ofValue, hat hparts]
    cases v.at? sec.path <;> simp

/-! ## Layers of files -/

/-- **The layer of a file, laid over a value,** defines what it has and else what the value did. -/
theorem over_ofLayer {layer : Layer} (hlayer : Shape.harness.fits (.table none layer) = true)
    {target : Value} (htarget : Shape.harness.fits target = true) :
    Shape.harness.fits (layer.over target) = true ∧
      ofValue (layer.over target) = (ofLayer layer).onto (ofValue target) := by
  have hover : layer.over target = (Value.table none layer).onto (some target) :=
    over_eq_layMembers (Shape.isName_of_fits Shape.isNamed_harness hlayer) target
  rw [hover]
  exact ⟨Shape.fits_onto Shape.isNamed_harness hlayer (by simpa using htarget),
    ofValue_onto hlayer htarget⟩

/-! ## Layers of variables -/

/-- What stands alone at the end of a path is met on the way there only. -/
theorem isSome_at?_alone (p q : List String) (o : Option Origin) (s : Scalar) :
    ((Value.alone p (.scalar o s)).at? q).isSome = true ↔ q <+: p := by
  induction q generalizing p with
  | nil => simp [Value.at?]
  | cons name q ih =>
    cases p with
    | nil => simp [Value.alone, Value.at?, Value.members, Value.member?]
    | cons next p =>
      by_cases hname : name = next
      · subst hname
        simpa [Value.alone, Value.at?, Value.members, Value.member?] using ih p
      · simp [Value.alone, Value.at?, Value.members, Value.member?, List.lookup_cons,
          beq_false_of_ne hname, hname]

theorem at?_alone (p : List String) (v : Value) : (Value.alone p v).at? p = some v := by
  induction p with
  | nil => rfl
  | cons name p ih => simpa [Value.alone, Value.at?, Value.members, Value.member?] using ih

theorem lookup_bindings (b : String × String) (rest : List (String × String)) (name : String) :
    (b :: rest).lookup name = if name = b.1 then some b.2 else rest.lookup name := by
  obtain ⟨key, text⟩ := b
  by_cases h : name = key
  · simp [h]
  · simp [List.lookup_cons, beq_false_of_ne h, h]

/-- A text at the place of a leaf defines what its variable does. -/
theorem ofValue_alone (l : Leaf) (text : String) :
    ofValue (.alone l.path (.scalar (some .environment) (.text text)))
      = ofBindings [(l.variableName, text)] := by
  have hlookup : ∀ l' : Leaf, [(l.variableName, text)].lookup l'.variableName
      = if l' = l then some text else none := by
    intro l'
    rw [lookup_bindings, List.lookup_nil]
    simp only [Leaf.variableName_inj]
  refine eq_of_same (fun l' => ?_) fun sec => ?_
  · rw [value?_ofValue, ofBindings]
    simp only [hlookup]
    by_cases h : l' = l
    · subst h
      rw [at?_alone, if_pos rfl]
      rfl
    · have hnone := isSome_at?_alone l.path l'.path (some .environment) (.text text)
      rw [Leaf.path_prefix_iff, iff_false_right h] at hnone
      rw [Option.not_isSome_iff_eq_none.mp hnone, if_neg h]
      rfl
  · rw [isOpen_ofValue, isSome_at?_alone, isOpen_ofBindings]
    simp only [hlookup]
    constructor
    · exact fun h => ⟨l, h, by simp⟩
    · rintro ⟨l', h, hl'⟩
      by_cases heq : l' = l
      · exact heq ▸ h
      · simp [heq] at hl'

/-- Variables that are none of the settings' define nothing. -/
theorem ofBindings_other {name : String} (text : String)
    (h : ∀ l : Leaf, l.variableName ≠ name) : ofBindings [(name, text)] = nothing := by
  have hlookup : ∀ l : Leaf, [(name, text)].lookup l.variableName = none := by
    intro l
    rw [lookup_bindings, if_neg (h l), List.lookup_nil]
  exact eq_of_same (fun l => by simp [ofBindings, hlookup, nothing])
    fun sec => by simp [isOpen_ofBindings, hlookup, nothing]

/-- A variable of its own name defines its leaf, whatever others define theirs. -/
theorem ofBindings_cons {b : String × String} {rest : List (String × String)}
    (h : b.1 ∉ rest.map Prod.fst) :
    ofBindings (b :: rest) = (ofBindings rest).onto (ofBindings [b]) := by
  have hrest : rest.lookup b.1 = none := by
    rw [List.lookup_eq_none_iff]
    intro m hm
    have hne : b.1 ≠ m.1 := fun heq => h (heq ▸ List.mem_map_of_mem hm)
    simpa using hne
  -- Of a leaf either the first variable speaks or one of the others, never both.
  refine eq_of_same (fun l => ?_) fun sec => ?_
  · by_cases hname : l.variableName = b.1
    · simp [value?_onto, ofBindings, lookup_bindings, hname, hrest]
    · simp [value?_onto, ofBindings, lookup_bindings, hname]
  · have hopen : ∀ l : Leaf, ((b :: rest).lookup l.variableName).isSome = true ↔
        (rest.lookup l.variableName).isSome = true ∨
          ([b].lookup l.variableName).isSome = true := by
      intro l
      by_cases hname : l.variableName = b.1
      · simp [lookup_bindings, hname]
      · simp [lookup_bindings, hname]
    simp only [isOpen_onto, Bool.or_eq_true, isOpen_ofBindings, hopen, and_or_left, exists_or]

/-- A variable at the place of a leaf is laid as a value with that leaf alone. -/
theorem over_ofVariable_leaf {path : List String} (hpath : AreNames path) {k : Kind}
    (hk : Shape.harness.at? path = some (.leaf k)) {text : String}
    (htext : (k.content? (.text text)).isSome = true) {target : Value}
    (htarget : Shape.harness.fits target = true) :
    let single := Value.alone path (.scalar (some .environment) (.text text))
    Shape.harness.fits ((Layer.ofVariables [] [(variableOf path, text)]).over target) = true ∧
      ofValue ((Layer.ofVariables [] [(variableOf path, text)]).over target)
        = (ofValue single).onto (ofValue target) := by
  intro single
  have hlay : (Layer.ofVariables [] [(variableOf path, text)]).over target
      = single.onto (some target) := by
    rw [ofVariables_variableOf hpath]
    show Value.lay _ (placeOf _) target = _
    rw [placeOf_joinWith hpath]
    exact lay_eq_onto Shape.isNamed_harness hpath.1 hk _ _ htarget
  have hsingle : Shape.harness.fits single = true := fits_alone hk htext
  rw [hlay]
  exact ⟨Shape.fits_onto Shape.isNamed_harness hsingle (by simpa using htarget),
    ofValue_onto hsingle htarget⟩

/-- One variable, laid over a value, defines its leaf, and else what the value did is defined. -/
theorem over_ofVariable {b : String × String} (hb : AreSettings [b]) {target : Value}
    (htarget : Shape.harness.fits target = true) :
    Shape.harness.fits ((Layer.ofVariables [] [b]).over target) = true ∧
      ofValue ((Layer.ofVariables [] [b]).over target)
        = (ofBindings [b]).onto (ofValue target) := by
  obtain ⟨name, text⟩ := b
  by_cases hlead : Text.startsWith (Text.lower name) variableLead = true
  · -- The environment's own variable is laid as well, at a place that no leaf has.
    rcases hb.2 _ List.mem_cons_self hlead with rfl | ⟨l, rfl, htext⟩
    · have hsingle : ofValue (.alone ["environment"] (.scalar (some .environment) (.text text)))
          = nothing := by
        refine eq_of_same (fun l => ?_) fun sec => ?_
        · cases l <;> rfl
        · rw [isOpen_ofValue, isSome_at?_alone]
          cases sec <;> simp [Section.path, nothing]
      rw [ofBindings_other text Leaf.variableName_ne_environment, ← hsingle]
      exact over_ofVariable_leaf (show AreNames ["environment"] by decide) rfl rfl htarget
    · rw [← ofValue_alone]
      exact over_ofVariable_leaf l.areNames_path (Shape.at?_leaf l) htext htarget
  · rw [Bool.not_eq_true] at hlead
    have hother : ∀ l : Leaf, l.variableName ≠ name := by
      rintro l rfl
      rw [Leaf.variableName, lower_variableOf l.areNames_path, startsWith_lead] at hlead
      cases hlead
    rw [ofVariables_other text hlead, ofBindings_other text hother, nothing_onto]
    exact ⟨htarget, rfl⟩

/-- **The layer of variables, laid over a value,** defines what they do and else what the value
did. -/
theorem over_ofVariables {bindings : List (String × String)} (h : AreSettings bindings)
    {target : Value} (htarget : Shape.harness.fits target = true) :
    Shape.harness.fits ((Layer.ofVariables [] bindings).over target) = true ∧
      ofValue ((Layer.ofVariables [] bindings).over target)
        = (ofBindings bindings).onto (ofValue target) := by
  induction bindings generalizing target with
  | nil =>
    have hnone : ofBindings [] = nothing := eq_of_same (fun _ => rfl) fun sec => by
      simp [isOpen_ofBindings, nothing]
    exact ⟨htarget, by rw [hnone, nothing_onto]; rfl⟩
  | cons b rest ih =>
    obtain ⟨hkeys, hvalid⟩ := h
    rw [List.map_cons, List.nodup_cons] at hkeys
    obtain ⟨hfirst, hrest⟩ := List.forall_mem_cons.mp hvalid
    have hone := over_ofVariable (b := b) ⟨by simp, by simpa using hfirst⟩ htarget
    have hall := ih ⟨hkeys.2, hrest⟩ hone.1
    rw [ofVariables_cons, Layer.over, List.foldl_append]
    refine ⟨hall.1, ?_⟩
    rw [ofBindings_cons hkeys.1, onto_assoc, ← hone.2]
    exact hall.2

end Draft

end ClusterFixture.Settings
