/-
Loading settings from layers.

What the records of a value say and lack is gathered leaf by leaf, and the value is the layers laid
over each other. So a leaf holds what the last layer that defines it says, and loading fails only
where a leaf that must be there is in none of them.
-/

import ClusterFixture.Proofs.Drafts
import ClusterFixture.Proofs.LayeredRecords
import ClusterFixture.Proofs.SettingsFiles

set_option autoImplicit false

namespace ClusterFixture.Settings

/-! ## Leaves and their sections -/

theorem Value.at?_append (p q : List String) (v : Value) :
    v.at? (p ++ q) = (v.at? p).bind (Value.at? q) := by
  induction p generalizing v with
  | nil => rfl
  | cons name p ih =>
    rw [List.cons_append, Value.at?, Value.at?, Option.bind_assoc]
    exact congrArg _ (funext ih)

theorem Value.at?_single (name : String) (v : Value) :
    v.at? [name] = Value.member? name v.members := by
  show (Value.member? name v.members).bind some = _
  exact Option.bind_fun_some _

/-- A leaf that stands in no section is defined by what is given under its name. -/
theorem value?_of_no_section (v : Value) {l : Leaf} (h : l.section? = none) :
    (Draft.ofValue v).value? l = given? l.kind l.name v := by
  have hpath : l.path = [l.name] := by
    rw [Leaf.path, h]
    rfl
  rw [Draft.value?_ofValue, hpath, Value.at?_single, given?]

/-- A leaf of a section is defined by what is given under its name there. -/
theorem value?_of_section (v : Value) {l : Leaf} {sec : Section} (h : l.section? = some sec) :
    (Draft.ofValue v).value? l = (v.at? sec.path).bind (given? l.kind l.name) := by
  have hpath : l.path = sec.path ++ [l.name] := by
    rw [Leaf.path, h]
    rfl
  rw [Draft.value?_ofValue, hpath, Value.at?_append, Option.bind_assoc]
  simp only [Value.at?_single]
  rfl

theorem at?_connection (v : Value) :
    v.at? Section.connection.path = Value.member? "connection" v.members :=
  Value.at?_single _ v

theorem at?_tls (v : Value) :
    v.at? Section.tls.path
      = (Value.member? "connection" v.members).bind fun x => Value.member? "tls" x.members := by
  show (Value.member? "connection" v.members).bind (Value.at? ["tls"]) = _
  exact congrArg _ (funext (Value.at?_single "tls"))

/-! ## What is lacking -/

/-- The leaves that a section requires. -/
def requiredLeaves (sec : Section) : List Leaf :=
  Leaf.all.filter fun l => l.section? = some sec ∧ l.isRequired = true

theorem mem_requiredLeaves {sec : Section} {l : Leaf} :
    l ∈ requiredLeaves sec ↔ l.section? = some sec ∧ l.isRequired = true := by
  have hall : l ∈ Leaf.all := by cases l <;> decide
  rw [requiredLeaves, List.mem_filter, decide_eq_true_eq]
  exact and_iff_right hall

/-- Whether a section lacks one of its required leaves. -/
def SectionLacks (sec : Section) (x : Value) : Prop :=
  ∃ l ∈ requiredLeaves sec, given? l.kind l.name x = none

theorem sectionLacks_tls (x : Value) : SectionLacks .tls x ↔ TlsLacks x := by
  rw [SectionLacks, show requiredLeaves .tls = [.trustedRoots, .tlsEnabled] by decide]
  simp [TlsLacks, Leaf.kind, Leaf.name]

theorem sectionLacks_transitionPoll (x : Value) :
    SectionLacks .transitionPoll x ↔ PolicyLacks x := by
  rw [SectionLacks, show requiredLeaves .transitionPoll = [.transitionInterval, .transitionAttempts]
    by decide]
  simp [PolicyLacks, Leaf.kind, Leaf.name]

theorem sectionLacks_databaseRetry (x : Value) :
    SectionLacks .databaseRetry x ↔ PolicyLacks x := by
  rw [SectionLacks, show requiredLeaves .databaseRetry = [.retryInterval, .retryAttempts] by decide]
  simp [PolicyLacks, Leaf.kind, Leaf.name]

theorem sectionLacks_package (x : Value) : SectionLacks .package x ↔ PackageLacks x := by
  rw [SectionLacks, show requiredLeaves .package = [.packageDirectory, .packageName] by decide]
  simp [PackageLacks, Leaf.kind, Leaf.name]

theorem sectionLacks_transferSource (x : Value) :
    SectionLacks .transferSource x ↔ SourceLacks x := by
  rw [SectionLacks, show requiredLeaves .transferSource = [.sourceHost, .sourcePort, .sourceUser]
    by decide]
  simp [SourceLacks, Leaf.kind, Leaf.name]

/-- A connection lacks what it requires itself, or what its protection requires. -/
theorem connectionLacks_iff (x : Value) :
    ConnectionLacks x ↔ SectionLacks .connection x ∨
      ∃ t, Value.member? "tls" x.members = some t ∧ SectionLacks .tls t := by
  rw [SectionLacks, show requiredLeaves .connection = [.host, .port, .user] by decide]
  simp [ConnectionLacks, sectionLacks_tls, Leaf.kind, Leaf.name, or_assoc]

/-- Settings lack something when there is no connection or a section of theirs lacks something. -/
theorem harnessLacks_iff (v : Value) :
    HarnessLacks v ↔ v.at? Section.connection.path = none ∨
      ∃ sec x, v.at? sec.path = some x ∧ SectionLacks sec x := by
  constructor
  -- The connection is needed in any case; what is lacking there may be in its protection.
  · rintro (h | ⟨x, hx, h⟩ | ⟨x, hx, h⟩ | ⟨x, hx, h⟩ | ⟨x, hx, h⟩)
    · cases hfound : Value.member? "connection" v.members with
      | none => exact .inl ((at?_connection v).trans hfound)
      | some x =>
        rcases (connectionLacks_iff x).mp (h x hfound) with hlacks | ⟨t, ht, hlacks⟩
        · exact .inr ⟨.connection, x, (at?_connection v).trans hfound, hlacks⟩
        · exact .inr ⟨.tls, t, (at?_tls v).trans (by rw [hfound]; exact ht), hlacks⟩
    · exact .inr ⟨.transitionPoll, x, (Value.at?_single _ v).trans hx,
        (sectionLacks_transitionPoll x).mpr h⟩
    · exact .inr ⟨.databaseRetry, x, (Value.at?_single _ v).trans hx,
        (sectionLacks_databaseRetry x).mpr h⟩
    · exact .inr ⟨.package, x, (Value.at?_single _ v).trans hx, (sectionLacks_package x).mpr h⟩
    · exact .inr ⟨.transferSource, x, (Value.at?_single _ v).trans hx,
        (sectionLacks_transferSource x).mpr h⟩
  · rintro (hnone | ⟨sec, x, hx, h⟩)
    · rw [at?_connection] at hnone
      exact .inl fun x hx => by rw [hnone] at hx; cases hx
    · cases sec with
      | connection =>
        rw [at?_connection] at hx
        refine .inl fun y hy => ?_
        cases hx.symm.trans hy
        exact (connectionLacks_iff x).mpr (.inl h)
      | tls =>
        rw [at?_tls] at hx
        obtain ⟨y, hy, hx⟩ := Option.bind_eq_some_iff.mp hx
        refine .inl fun z hz => ?_
        cases hy.symm.trans hz
        exact (connectionLacks_iff y).mpr (.inr ⟨x, hx, h⟩)
      | transitionPoll =>
        exact .inr (.inl ⟨x, (Value.at?_single _ v).symm.trans hx,
          (sectionLacks_transitionPoll x).mp h⟩)
      | databaseRetry =>
        exact .inr (.inr (.inl ⟨x, (Value.at?_single _ v).symm.trans hx,
          (sectionLacks_databaseRetry x).mp h⟩))
      | package =>
        exact .inr (.inr (.inr (.inl ⟨x, (Value.at?_single _ v).symm.trans hx,
          (sectionLacks_package x).mp h⟩)))
      | transferSource =>
        exact .inr (.inr (.inr (.inr ⟨x, (Value.at?_single _ v).symm.trans hx,
          (sectionLacks_transferSource x).mp h⟩)))

/-- **Settings lack something exactly where a needed leaf is not defined.** -/
theorem harnessLacks_iff_needs (v : Value) :
    HarnessLacks v ↔
      ∃ l, (Draft.ofValue v).Needs l ∧ (Draft.ofValue v).value? l = none := by
  rw [harnessLacks_iff]
  constructor
  · rintro (hnone | ⟨sec, x, hx, l, hl, hgiven⟩)
    · -- Without a connection its first required leaf is one that is not defined.
      refine ⟨.host, ⟨rfl, by rintro _ ⟨⟩; exact .inl rfl⟩, ?_⟩
      rw [value?_of_section v (l := .host) rfl, hnone]
      rfl
    · obtain ⟨hsec, hrequired⟩ := mem_requiredLeaves.mp hl
      refine ⟨l, ⟨hrequired, ?_⟩, by rw [value?_of_section v hsec, hx]; exact hgiven⟩
      intro sec' hsec'
      cases hsec.symm.trans hsec'
      exact .inr (by rw [Draft.isOpen_ofValue, hx]; rfl)
  · rintro ⟨l, ⟨hrequired, hopen⟩, hnone⟩
    have hsection : ∃ sec, l.section? = some sec := by
      cases l <;> first | exact ⟨_, rfl⟩ | cases hrequired
    obtain ⟨sec, hsec⟩ := hsection
    rw [value?_of_section v hsec] at hnone
    cases hfound : v.at? sec.path with
    | some x =>
      rw [hfound] at hnone
      exact .inr ⟨sec, x, hfound, l, mem_requiredLeaves.mpr ⟨hsec, hrequired⟩, hnone⟩
    | none =>
      -- A section that is not there is not open, and needed only as the connection.
      rcases hopen sec hsec with rfl | h
      · exact .inl hfound
      · rw [Draft.isOpen_ofValue, hfound] at h
        cases h

/-! ## What is said -/

theorem eq_or_of_some {c : Content} {o d? : Option Content} (h : o = some c) :
    some c = o.or d? := by
  rw [h, Option.some_or]

theorem eq_or_of_getD {c d : Content} {o : Option Content} (h : c = o.getD d) :
    some c = o.or (some d) := by
  cases o <;> exact congrArg some h

/-- What a leaf holds whose section is there. -/
theorem or_default_of_section {v x : Value} {l : Leaf} {sec : Section}
    (hl : l.section? = some sec) (hx : v.at? sec.path = some x) :
    ((Draft.ofValue v).value? l).or l.default? = (given? l.kind l.name x).or l.default? := by
  rw [value?_of_section v hl, hx, Option.bind_some]

/-- What a leaf holds whose section is not. -/
theorem or_default_of_no_section {v : Value} {l : Leaf} {sec : Section}
    (hl : l.section? = some sec) (hnone : v.at? sec.path = none) :
    ((Draft.ofValue v).value? l).or l.default? = l.default? := by
  rw [value?_of_section v hl, hnone, Option.bind_none, Option.none_or]

variable {v : Value} {s : Harness}

theorem content?_connection (h : HarnessSays v s) {l : Leaf} (hl : l.section? = some .connection) :
    s.content? l = ((Draft.ofValue v).value? l).or l.default? := by
  obtain ⟨x, hx, hsays⟩ := h.connection
  rw [or_default_of_section hl ((at?_connection v).trans hx)]
  cases l <;> cases hl
  · exact eq_or_of_some hsays.host
  · exact eq_or_of_some hsays.port
  · exact eq_or_of_getD hsays.database
  · exact eq_or_of_some hsays.user
  · exact eq_or_of_getD hsays.password

theorem content?_tls (h : HarnessSays v s) {l : Leaf} (hl : l.section? = some .tls) :
    s.content? l = ((Draft.ofValue v).value? l).or l.default? := by
  obtain ⟨x, hx, hsays⟩ := h.connection
  have hat : v.at? Section.tls.path = Value.member? "tls" x.members := by
    rw [at?_tls, hx, Option.bind_some]
  rcases hsays.tls with ⟨hnone, htls⟩ | ⟨t, ht, htls⟩
  · rw [or_default_of_no_section hl (hat.trans hnone)]
    cases l <;> cases hl <;> simp [Harness.content?, htls, Leaf.default?]
  · rw [or_default_of_section hl (hat.trans ht)]
    cases l <;> cases hl
    · exact eq_or_of_some htls.trustedRoots
    · exact eq_or_of_some htls.enabled

theorem content?_transitionPoll (h : HarnessSays v s) {l : Leaf}
    (hl : l.section? = some .transitionPoll) :
    s.content? l = ((Draft.ofValue v).value? l).or l.default? := by
  rcases h.transitionPoll with ⟨hnone, hpoll⟩ | ⟨x, hx, hpoll⟩
  · rw [or_default_of_no_section hl ((Value.at?_single _ v).trans hnone)]
    cases l <;> cases hl <;> simp [Harness.content?, hpoll, Leaf.default?, PollPolicy.transition]
  · rw [or_default_of_section hl ((Value.at?_single _ v).trans hx)]
    cases l <;> cases hl
    · exact eq_or_of_some hpoll.interval
    · exact eq_or_of_some hpoll.attempts

theorem content?_databaseRetry (h : HarnessSays v s) {l : Leaf}
    (hl : l.section? = some .databaseRetry) :
    s.content? l = ((Draft.ofValue v).value? l).or l.default? := by
  rcases h.databaseRetry with ⟨hnone, hretry⟩ | ⟨x, hx, hretry⟩
  · rw [or_default_of_no_section hl ((Value.at?_single _ v).trans hnone)]
    cases l <;> cases hl <;>
      simp [Harness.content?, hretry, Leaf.default?, PollPolicy.databaseRetry]
  · rw [or_default_of_section hl ((Value.at?_single _ v).trans hx)]
    cases l <;> cases hl
    · exact eq_or_of_some hretry.interval
    · exact eq_or_of_some hretry.attempts

theorem content?_package (h : HarnessSays v s) {l : Leaf} (hl : l.section? = some .package) :
    s.content? l = ((Draft.ofValue v).value? l).or l.default? := by
  rcases h.package with ⟨hnone, hpackage⟩ | ⟨x, hx, p, hpackage, hsays⟩
  · rw [or_default_of_no_section hl ((Value.at?_single _ v).trans hnone)]
    cases l <;> cases hl <;> simp [Harness.content?, hpackage, Leaf.default?]
  · rw [or_default_of_section hl ((Value.at?_single _ v).trans hx)]
    cases l <;> cases hl <;> simp only [Harness.content?, hpackage]
    · exact eq_or_of_some hsays.directory
    · exact eq_or_of_some hsays.name

theorem content?_transferSource (h : HarnessSays v s) {l : Leaf}
    (hl : l.section? = some .transferSource) :
    s.content? l = ((Draft.ofValue v).value? l).or l.default? := by
  rcases h.transferSource with ⟨hnone, hsource⟩ | ⟨x, hx, t, hsource, hsays⟩
  · rw [or_default_of_no_section hl ((Value.at?_single _ v).trans hnone)]
    cases l <;> cases hl <;> simp [Harness.content?, hsource, Leaf.default?]
  · rw [or_default_of_section hl ((Value.at?_single _ v).trans hx)]
    cases l <;> cases hl <;> simp only [Harness.content?, hsource]
    · exact eq_or_of_some hsays.host
    · exact eq_or_of_some hsays.port
    · exact eq_or_of_some hsays.user

/-- **Settings hold what their leaves define**, and where they define nothing, what stands for
it. -/
theorem content?_of_says (h : HarnessSays v s) (l : Leaf) :
    s.content? l = ((Draft.ofValue v).value? l).or l.default? := by
  cases hl : l.section? with
  | none =>
    rw [value?_of_no_section v hl]
    cases l <;> cases hl
    · exact eq_or_of_getD h.masterDirectory
    · exact eq_or_of_getD h.home
    · exact eq_or_of_getD h.dataDirectory
    · exact eq_or_of_getD h.sampleDirectory
  | some sec =>
    cases sec with
    | connection => exact content?_connection h hl
    | tls => exact content?_tls h hl
    | transitionPoll => exact content?_transitionPoll h hl
    | databaseRetry => exact content?_databaseRetry h hl
    | package => exact content?_package h hl
    | transferSource => exact content?_transferSource h hl

/-! ## Loading -/

/-- What a missing base file means. -/
theorem loadHarnessFrom_of_no_base {s : Sources} {directory : String} (e : Environment)
    (h : s.found? (Path.join directory Sources.baseFile) = none) :
    s.loadHarnessFrom directory e = .error (.noFile (Path.join directory Sources.baseFile)) := by
  have hread : s.readFile (Path.join directory Sources.baseFile)
      = .error (.noFile (Path.join directory Sources.baseFile)) := by
    rw [Sources.readFile, h]
  rw [Sources.loadHarnessFrom, Sources.loadFrom, Sources.whole, Sources.fileLayer, hread]
  rfl

/-- The layer of a file of the environment: that of the file, or an empty one where there is
none. -/
def IsOverlay (s : Sources) (path : String) (overlay : Layer) : Prop :=
  (s.found? path = none ∧ overlay = []) ∨ s.fileLayer path = .ok overlay

theorem optionalLayer_of_isOverlay {s : Sources} {path : String} {overlay : Layer}
    (h : IsOverlay s path overlay) : s.optionalLayer path = .ok overlay := by
  rcases h with ⟨hnone, rfl⟩ | hlayer
  · have hread : s.readFile path = .error (.noFile path) := by rw [Sources.readFile, hnone]
    rw [Sources.optionalLayer, hread]
  · rw [Sources.fileLayer] at hlayer
    cases hread : s.readFile path with
    | error f => rw [hread] at hlayer; cases hlayer
    | ok found =>
      rw [hread] at hlayer
      rw [Sources.optionalLayer, hread]
      exact hlayer

/-- The layers laid over each other define what the last of them does that defines anything. -/
theorem whole_eq_ok {s : Sources} {directory : String} {e : Environment} {base overlay : Layer}
    (hbase : s.fileLayer (Path.join directory Sources.baseFile) = .ok base)
    (hoverlay : IsOverlay s (Path.join directory e.fileName) overlay)
    (hfitsBase : Shape.harness.fits (.table none base) = true)
    (hfitsOverlay : Shape.harness.fits (.table none overlay) = true)
    (hbindings : AreSettings s.bindings) :
    ∃ v, s.whole [] directory e = .ok v ∧ Shape.harness.fits v = true ∧
      Draft.ofValue v = (Draft.ofBindings s.bindings).onto
        ((Draft.ofLayer overlay).onto (Draft.ofLayer base)) := by
  -- Each layer keeps the shape that the next one needs below it.
  have hempty : Shape.harness.fits .empty = true := rfl
  obtain ⟨hfits, hdraft⟩ := Draft.over_ofLayer hfitsBase hempty
  obtain ⟨hfits', hdraft'⟩ := Draft.over_ofLayer hfitsOverlay hfits
  obtain ⟨hfits'', hdraft''⟩ := Draft.over_ofVariables hbindings hfits'
  refine ⟨_, ?_, hfits'', ?_⟩
  · rw [Sources.whole, hbase, optionalLayer_of_isOverlay hoverlay]
    rfl
  · rw [hdraft'', hdraft', hdraft, Draft.ofValue_empty, Draft.onto_nothing]

/-- Settings are read out of the layers laid over each other. -/
theorem answers_loadHarnessFrom {s : Sources} {directory : String} {e : Environment}
    {base overlay : Layer} (hbase : s.fileLayer (Path.join directory Sources.baseFile) = .ok base)
    (hoverlay : IsOverlay s (Path.join directory e.fileName) overlay)
    (hfitsBase : Shape.harness.fits (.table none base) = true)
    (hfitsOverlay : Shape.harness.fits (.table none overlay) = true)
    (hbindings : AreSettings s.bindings) :
    let defined := (Draft.ofBindings s.bindings).onto
      ((Draft.ofLayer overlay).onto (Draft.ofLayer base))
    ∃ result, s.loadHarnessFrom directory e = result.mapError .value ∧
      Answers (∃ l, defined.Needs l ∧ defined.value? l = none)
        (fun settings => ∀ l, settings.content? l = (defined.value? l).or l.default?) result := by
  obtain ⟨v, hwhole, hfits, hdraft⟩ :=
    whole_eq_ok hbase hoverlay hfitsBase hfitsOverlay hbindings
  refine ⟨layeredForm.harness (.whole v), ?_, ?_⟩
  · rw [Sources.loadHarnessFrom, Sources.loadFrom, hwhole]
    rfl
  · rw [← hdraft]
    exact (answers_harness [] hfits).congr (harnessLacks_iff_needs v)
      fun settings hsays l => content?_of_says hsays l

/-- **Loading gives each leaf what the last layer says that defines it,** or what stands for it
where none does. This goes leaf by leaf, so a layer with some leaves of a section leaves the others
as they were. Loading fails exactly where a leaf that is needed is in no layer, and without a base
file whatever else there is. -/
theorem loading_takes_the_last_layer (s : Sources) (directory : String) (e : Environment) :
    (s.found? (Path.join directory Sources.baseFile) = none →
      s.loadHarnessFrom directory e = .error (.noFile (Path.join directory Sources.baseFile))) ∧
    ∀ base overlay : Layer,
      s.fileLayer (Path.join directory Sources.baseFile) = .ok base →
      IsOverlay s (Path.join directory e.fileName) overlay →
      Shape.harness.fits (.table none base) = true →
      Shape.harness.fits (.table none overlay) = true →
      AreSettings s.bindings →
      let defined := (Draft.ofBindings s.bindings).onto
        ((Draft.ofLayer overlay).onto (Draft.ofLayer base))
      ((∃ name, s.loadHarnessFrom directory e = .error (.value (.missing name))) ↔
        ∃ l, defined.Needs l ∧ defined.value? l = none) ∧
      ((∀ l, defined.Needs l → defined.value? l ≠ none) → ∃ settings,
        s.loadHarnessFrom directory e = .ok settings ∧
        ∀ l, settings.content? l = (defined.value? l).or l.default?) := by
  refine ⟨loadHarnessFrom_of_no_base e, ?_⟩
  intro base overlay hbase hoverlay hfitsBase hfitsOverlay hbindings defined
  obtain ⟨result, hload, hresult⟩ :=
    answers_loadHarnessFrom hbase hoverlay hfitsBase hfitsOverlay hbindings
  rw [hload]
  cases result with
  | error f =>
    obtain ⟨⟨l, hneeds, hnone⟩, name, rfl⟩ := hresult
    exact ⟨⟨fun _ => ⟨l, hneeds, hnone⟩, fun _ => ⟨name, rfl⟩⟩,
      fun hall => absurd hnone (hall l hneeds)⟩
  | ok settings =>
    obtain ⟨hnothing, hcontent⟩ := hresult
    refine ⟨⟨?_, fun hlacks => absurd hlacks hnothing⟩, fun _ => ⟨settings, rfl, hcontent⟩⟩
    rintro ⟨name, h⟩
    cases h

/-! ## Three layers -/

/-- A base file with a section that could be left out. -/
def sampleBase : String :=
  "connection:\n  host: mdw\n  port: 5432\n  username: gpadmin\n" ++
    "transition_poll:\n  interval_ms: 500\n  max_attempts: 3\n"

/-- A file of an environment with one leaf of that section. -/
def sampleOverlay : String := "transition_poll:\n  max_attempts: 9\n"

/-- A variable of another leaf, and one of something else. -/
def sampleBindings : List (String × String) :=
  [("APP_CONNECTION__HOST", "sdw"), ("HOME", "/home/gpadmin")]

/-- The layer of a text in a file of the directory. -/
def layerIn (name text : String) : Layer :=
  (Layer.ofYaml? ((sourcesOf [] []).origin (Path.join "configuration" name)) text).getD []

/-- Whether a text in such a file is ASCII and has a layer, and this has the shape of settings. -/
def IsSettingsText (name text : String) : Prop :=
  (text.toList.all fun c => c.toNat < 0x80) = true ∧
    (Layer.ofYaml? ((sourcesOf [] []).origin (Path.join "configuration" name)) text).isSome = true ∧
    Shape.harness.fits (.table none (layerIn name text)) = true

instance (name text : String) : Decidable (IsSettingsText name text) :=
  inferInstanceAs (Decidable (_ ∧ _))

/-- A file of the directory has the layer of its text, if the text has one. -/
theorem fileLayer_layerIn {files : List (String × String)} (bindings : List (String × String))
    {name text : String} (hpath : IsPlainPath (Path.join "configuration" name) name)
    (hfile : files.lookup name = some text) (htext : IsSettingsText name text) :
    (sourcesOf files bindings).fileLayer (Path.join "configuration" name)
      = .ok (layerIn name text) := by
  have hascii : ∀ c ∈ text.toList, c.toNat < 0x80 := by simpa using htext.1
  refine fileLayer_sourcesOf files bindings hpath hfile hascii ?_
  obtain ⟨layer, hlayer⟩ := Option.isSome_iff_exists.mp htext.2.1
  rw [layerIn, hlayer]
  rfl

/-- What base file, file of the environment and variables define. -/
def sampleDraft : Draft :=
  (Draft.ofBindings sampleBindings).onto
    ((Draft.ofLayer (layerIn "dev.yaml" sampleOverlay)).onto
      (Draft.ofLayer (layerIn "base.yaml" sampleBase)))

theorem areSettings_sampleBindings : AreSettings sampleBindings := by
  refine ⟨by decide, ?_⟩
  simp only [sampleBindings, List.forall_mem_cons]
  refine ⟨fun _ => .inr ⟨.host, by decide, by decide⟩, fun hlead => ?_, List.forall_mem_nil _⟩
  exact absurd hlead (by decide)

/-- Each of three layers has its part in the settings, and without the base file there are none. -/
theorem loading_takes_the_last_layer_sample :
    (sourcesOf [("dev.yaml", sampleOverlay)] sampleBindings).loadHarnessFrom "configuration" .dev
      = .error (.noFile "configuration/base.yaml") ∧
    ∃ settings, (sourcesOf [("base.yaml", sampleBase), ("dev.yaml", sampleOverlay)]
        sampleBindings).loadHarnessFrom "configuration" .dev = .ok settings ∧
      settings.content? .host = some (.text "sdw") ∧
      settings.content? .transitionInterval = some (.number 500) ∧
      settings.content? .transitionAttempts = some (.number 9) ∧
      settings.content? .retryAttempts = some (.number 10) := by
  -- All is checked at once, so that the texts are read once.
  have hchecked : IsSettingsText "base.yaml" sampleBase ∧ IsSettingsText "dev.yaml" sampleOverlay ∧
      (∀ l ∈ Leaf.all, sampleDraft.Needs l → sampleDraft.value? l ≠ none) ∧
      sampleDraft.value? .host = some (.text "sdw") ∧
      sampleDraft.value? .transitionInterval = some (.number 500) ∧
      sampleDraft.value? .transitionAttempts = some (.number 9) ∧
      sampleDraft.value? .retryAttempts = none := by
    decide +kernel
  obtain ⟨hbase, hoverlay, hneeds, hhost, hinterval, hattempts, hretry⟩ := hchecked
  refine ⟨(loading_takes_the_last_layer _ _ _).1
    (found?_sourcesOf_eq_none "base.yaml" (by decide) (by decide)), ?_⟩
  obtain ⟨settings, hload, hcontent⟩ := ((loading_takes_the_last_layer
    (sourcesOf [("base.yaml", sampleBase), ("dev.yaml", sampleOverlay)] sampleBindings)
    "configuration" .dev).2 _ _
    (fileLayer_layerIn _ (by decide) rfl hbase)
    (.inr (fileLayer_layerIn _ (by decide) rfl hoverlay))
    hbase.2.2 hoverlay.2.2 areSettings_sampleBindings).2 fun l => hneeds l l.mem_all
  have hdraft : ∀ l, settings.content? l = (sampleDraft.value? l).or l.default? := hcontent
  refine ⟨settings, hload, ?_, ?_, ?_, ?_⟩
  · rw [hdraft, hhost, Option.some_or]
  · rw [hdraft, hinterval, Option.some_or]
  · rw [hdraft, hattempts, Option.some_or]
  · rw [hdraft, hretry, Option.none_or]
    rfl

/-! ## Large numbers -/

/-- A base file with a number of 64 bits that needs all of them. -/
def largeBase : String :=
  "connection:\n  host: mdw\n  port: 5432\n  username: gpadmin\n" ++
    "transition_poll:\n  interval_ms: 9223372036854775809\n  max_attempts: 80\n"

/-- What it defines, alone. -/
def largeDraft : Draft :=
  (Draft.ofBindings []).onto
    ((Draft.ofLayer []).onto (Draft.ofLayer (layerIn "base.yaml" largeBase)))

/-- Of such a number the nearest one is loaded that is a binary64 number. -/
theorem large_number_is_rounded :
    (Kind.count 64).content? (.integer 9223372036854775809)
      = some (.number 9223372036854775809) ∧
    ∃ settings,
      (sourcesOf [("base.yaml", largeBase)] []).loadHarnessFrom "configuration" .dev
        = .ok settings ∧
      settings.content? .transitionInterval = some (.number 9223372036854775808) := by
  have hchecked : IsSettingsText "base.yaml" largeBase ∧
      (∀ l ∈ Leaf.all, largeDraft.Needs l → largeDraft.value? l ≠ none) ∧
      largeDraft.value? .transitionInterval = some (.number 9223372036854775808) := by
    decide +kernel
  obtain ⟨hbase, hneeds, hinterval⟩ := hchecked
  have hoverlay : IsOverlay (sourcesOf [("base.yaml", largeBase)] []) "configuration/dev.yaml" [] :=
    .inl ⟨found?_sourcesOf_eq_none "dev.yaml" (by decide) (by decide), rfl⟩
  obtain ⟨result, hload, hresult⟩ := answers_loadHarnessFrom (e := .dev)
    (fileLayer_layerIn [] (by decide) rfl hbase) hoverlay hbase.2.2 rfl
    ⟨List.nodup_nil, List.forall_mem_nil _⟩
  refine ⟨by decide, ?_⟩
  cases result with
  | error f =>
    obtain ⟨⟨l, hl, hnone⟩, -⟩ := hresult
    exact absurd hnone (hneeds l l.mem_all hl)
  | ok settings =>
    have hdraft : ∀ l, settings.content? l = (largeDraft.value? l).or l.default? := hresult.2
    exact ⟨settings, hload, by rw [hdraft, hinterval, Option.some_or]⟩

end ClusterFixture.Settings
