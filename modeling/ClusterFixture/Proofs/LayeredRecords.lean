/-
The records of settings, read out of values of their shape.

Each record is said to lack what its required leaves lack, and those of the records in it; where it
lacks nothing it holds what the leaves say.
-/

import ClusterFixture.Proofs.Records

set_option autoImplicit false

namespace ClusterFixture.Settings

/-! ## Records of leaves -/

/-- What looking through the members needs to know of a leaf: it can be read. -/
theorem answers_check_leaf {α : Type} {v : Value} (way : List Step)
    {parts : List (String × Shape)} (hv : (Shape.group parts).fits v = true) (name : String)
    {k : Kind} (hk : parts.lookup name = some (.leaf k)) {read : Located → Except ValueFault α}
    {wrap : α → Content} (hread : Takes k read wrap) {B : Value → Prop} {A : Prop}
    (hB : ∀ x, ¬B x) (x : Value) (hx : Value.member? name v.members = some x) :
    Answers (B x) (fun _ => True) ((Form.member name read).check ⟨.member name :: way, x⟩) ∧
      (B x → A) :=
  ⟨.of_iff (by simp [hB]) (answers_check (answers_leaf way hv name hk hread x hx)),
    fun h => absurd h (hB x)⟩

variable {v : Value} (way : List Step)

/-- Whether a record that says how the connection is protected lacks something. -/
def TlsLacks (v : Value) : Prop :=
  given? .text "trusted_root_certs" v = none ∨ given? .flag "enabled" v = none

/-- What such a record says. -/
structure TlsSays (v : Value) (t : Tls) : Prop where
  trustedRoots : given? .text "trusted_root_certs" v = some (.text t.trustedRoots)
  enabled : given? .flag "enabled" v = some (.flag t.enabled)

theorem answers_tls (hv : Shape.tls.fits v = true) :
    Answers (TlsLacks v) (TlsSays v) (layeredForm.tls ⟨way, v⟩) := by
  refine answers_readRecord hv (L := fun _ _ => False) ?_ ?_
  · simp only [List.forall_mem_cons]
    exact ⟨answers_check_leaf way hv "trusted_root_certs" rfl takes_text (fun _ => id),
      answers_check_leaf way hv "enabled" rfl takes_flag (fun _ => id), List.forall_mem_nil _⟩
  · refine Answers.of_iff ?_
      (Answers.bind (answers_required_leaf way hv "trusted_root_certs" rfl takes_text)
        fun _ hroots =>
      Answers.bind (answers_required_leaf way hv "enabled" rfl takes_flag) fun _ henabled =>
      Answers.pure ⟨hroots, henabled⟩)
    simp [TlsLacks]

/-- Whether a polling policy lacks something. -/
def PolicyLacks (v : Value) : Prop :=
  given? (.count 64) "interval_ms" v = none ∨ given? (.count 32) "max_attempts" v = none

/-- What a polling policy says. -/
structure PolicySays (v : Value) (p : PollPolicy) : Prop where
  interval : given? (.count 64) "interval_ms" v = some (.number p.interval)
  attempts : given? (.count 32) "max_attempts" v = some (.number p.attempts)

theorem answers_policy (hv : Shape.policy.fits v = true) :
    Answers (PolicyLacks v) (PolicySays v) (layeredForm.policy ⟨way, v⟩) := by
  have h64 : Takes (.count 64) (Located.unsigned 64) .number := takes_count (by decide)
  have h32 : Takes (.count 32) (Located.unsigned 32) .number := takes_count (by decide)
  refine answers_readRecord hv (L := fun _ _ => False) ?_ ?_
  · simp only [List.forall_mem_cons]
    exact ⟨answers_check_leaf way hv "interval_ms" rfl h64 (fun _ => id),
      answers_check_leaf way hv "max_attempts" rfl h32 (fun _ => id), List.forall_mem_nil _⟩
  · refine Answers.of_iff ?_
      (Answers.bind (answers_required_leaf way hv "interval_ms" rfl h64) fun _ hinterval =>
      Answers.bind (answers_required_leaf way hv "max_attempts" rfl h32) fun _ hattempts =>
      Answers.pure ⟨hinterval, hattempts⟩)
    simp [PolicyLacks]

/-- Whether a package lacks something. -/
def PackageLacks (v : Value) : Prop :=
  given? .text "path" v = none ∨ given? .text "name" v = none

/-- What a package says. -/
structure PackageSays (v : Value) (p : Package) : Prop where
  directory : given? .text "path" v = some (.text p.directory)
  name : given? .text "name" v = some (.text p.name)

theorem answers_package (hv : Shape.package.fits v = true) :
    Answers (PackageLacks v) (PackageSays v) (layeredForm.package ⟨way, v⟩) := by
  refine answers_readRecord hv (L := fun _ _ => False) ?_ ?_
  · simp only [List.forall_mem_cons]
    exact ⟨answers_check_leaf way hv "path" rfl takes_text (fun _ => id),
      answers_check_leaf way hv "name" rfl takes_text (fun _ => id), List.forall_mem_nil _⟩
  · refine Answers.of_iff ?_
      (Answers.bind (answers_required_leaf way hv "path" rfl takes_text) fun _ hdirectory =>
      Answers.bind (answers_required_leaf way hv "name" rfl takes_text) fun _ hname =>
      Answers.pure ⟨hdirectory, hname⟩)
    simp [PackageLacks]

/-- Whether a transfer source lacks something. -/
def SourceLacks (v : Value) : Prop :=
  given? .text "host" v = none ∨ given? (.count 16) "port" v = none ∨ given? .text "user" v = none

/-- What a transfer source says. -/
structure SourceSays (v : Value) (t : TransferSource) : Prop where
  host : given? .text "host" v = some (.text t.host)
  port : given? (.count 16) "port" v = some (.number t.port)
  user : given? .text "user" v = some (.text t.user)

theorem answers_transferSource (hv : Shape.transferSource.fits v = true) :
    Answers (SourceLacks v) (SourceSays v) (layeredForm.transferSource ⟨way, v⟩) := by
  have h16 : Takes (.count 16) (Located.unsigned 16) .number := takes_count (by decide)
  refine answers_readRecord hv (L := fun _ _ => False) ?_ ?_
  · simp only [List.forall_mem_cons]
    exact ⟨answers_check_leaf way hv "host" rfl takes_text (fun _ => id),
      answers_check_leaf way hv "port" rfl h16 (fun _ => id),
      answers_check_leaf way hv "user" rfl takes_text (fun _ => id), List.forall_mem_nil _⟩
  · refine Answers.of_iff ?_
      (Answers.bind (answers_required_leaf way hv "host" rfl takes_text) fun _ hhost =>
      Answers.bind (answers_required_leaf way hv "port" rfl h16) fun _ hport =>
      Answers.bind (answers_required_leaf way hv "user" rfl takes_text) fun _ huser =>
      Answers.pure ⟨hhost, hport, huser⟩)
    simp [SourceLacks]

/-! ## Records with records in them -/

/-- A table is a record, not the absence of one. -/
theorem answers_orNone {α : Type} {parts : List (String × Shape)} {x : Value}
    (hx : (Shape.group parts).fits x = true) {read : Located → Except ValueFault α} {A : Prop}
    {P : α → Prop} (h : Answers A P (read ⟨way, x⟩)) :
    Answers A (fun o => ∃ a, o = some a ∧ P a) (layeredForm.orNone read ⟨way, x⟩) := by
  obtain ⟨o, ms, rfl, -⟩ := Shape.exists_of_fits_group hx
  show Answers A _ ((read ⟨way, .table o ms⟩).map some)
  cases hread : read ⟨way, .table o ms⟩ with
  | error e =>
    rw [hread] at h
    exact h
  | ok a =>
    rw [hread] at h
    exact ⟨h.1, a, rfl, h.2⟩

/-- Whether a connection lacks something. -/
def ConnectionLacks (v : Value) : Prop :=
  given? .text "host" v = none ∨ given? (.count 16) "port" v = none ∨
    given? .text "username" v = none ∨
    ∃ x, Value.member? "tls" v.members = some x ∧ TlsLacks x

/-- What a connection says. -/
structure ConnectionSays (v : Value) (c : Connection) : Prop where
  host : given? .text "host" v = some (.text c.host)
  port : given? (.count 16) "port" v = some (.number c.port)
  database : .text c.database = (given? .text "name" v).getD (.text "template1")
  user : given? .text "username" v = some (.text c.user)
  password : secretContent c.password = (given? .secret "password" v).getD .nothing
  tls : (Value.member? "tls" v.members = none ∧ c.tls = {}) ∨
    ∃ x, Value.member? "tls" v.members = some x ∧ TlsSays x c.tls

theorem answers_connection (hv : Shape.connection.fits v = true) :
    Answers (ConnectionLacks v) (ConnectionSays v) (layeredForm.connection ⟨way, v⟩) := by
  have h16 : Takes (.count 16) (Located.unsigned 16) .number := takes_count (by decide)
  have htls : ∀ x, Value.member? "tls" v.members = some x →
      Answers (TlsLacks x) (TlsSays x) (layeredForm.tls ⟨.member "tls" :: way, x⟩) :=
    fun x hx => answers_tls _ (Shape.fits_member hv rfl hx)
  refine answers_readRecord hv (L := fun name x => name = "tls" ∧ TlsLacks x) ?_ ?_
  · simp only [List.forall_mem_cons]
    refine ⟨answers_check_leaf way hv "host" rfl takes_text (by simp),
      answers_check_leaf way hv "port" rfl h16 (by simp),
      answers_check_leaf way hv "name" rfl takes_text (by simp),
      answers_check_leaf way hv "username" rfl takes_text (by simp),
      answers_check_leaf way hv "password" rfl takes_secret (by simp), fun x hx => ?_,
      List.forall_mem_nil _⟩
    exact ⟨.of_iff (by simp) (answers_check (htls x hx)),
      fun h => .inr (.inr (.inr ⟨x, hx, h.2⟩))⟩
  · refine Answers.of_iff ?_
      (Answers.bind (answers_required_leaf way hv "host" rfl takes_text) fun _ hhost =>
      Answers.bind (answers_required_leaf way hv "port" rfl h16) fun _ hport =>
      Answers.bind (answers_withDefault_leaf way hv "name" rfl takes_text Sql.templateDatabase)
        fun _ hdatabase =>
      Answers.bind (answers_required_leaf way hv "username" rfl takes_text) fun _ huser =>
      Answers.bind (answers_withDefault_leaf way hv "password" rfl takes_secret none)
        fun _ hpassword =>
      Answers.bind (answers_withDefault way "tls" {} htls) fun _ htls =>
      Answers.pure ⟨hhost, hport, hdatabase, huser, hpassword, htls⟩)
    simp [ConnectionLacks]

/-- Whether settings lack something: a connection, or something in one of their records. -/
def HarnessLacks (v : Value) : Prop :=
  (∀ x, Value.member? "connection" v.members = some x → ConnectionLacks x) ∨
    (∃ x, Value.member? "transition_poll" v.members = some x ∧ PolicyLacks x) ∨
    (∃ x, Value.member? "database_retry" v.members = some x ∧ PolicyLacks x) ∨
    (∃ x, Value.member? "gppkg" v.members = some x ∧ PackageLacks x) ∨
    ∃ x, Value.member? "transfer_source" v.members = some x ∧ SourceLacks x

/-- What a record that may be missing says, and what stands for it. -/
def Says {α : Type} (name : String) (v : Value) (otherwise : α) (P : Value → α → Prop) (a : α) :
    Prop :=
  (Value.member? name v.members = none ∧ a = otherwise) ∨
    ∃ x, Value.member? name v.members = some x ∧ P x a

/-- What settings say. -/
structure HarnessSays (v : Value) (s : Harness) : Prop where
  connection : ∃ x, Value.member? "connection" v.members = some x ∧ ConnectionSays x s.connection
  masterDirectory :
    .text s.masterDirectory = (given? .text "master_data_directory" v).getD (.text "")
  home : .text s.home = (given? .text "gphome" v).getD (.text "")
  dataDirectory :
    .text s.dataDirectory = (given? .text "data_dir" v).getD (.text "./gppylib/test/data")
  transitionPoll : Says "transition_poll" v .transition PolicySays s.transitionPoll
  databaseRetry : Says "database_retry" v .databaseRetry PolicySays s.databaseRetry
  package : Says "gppkg" v none (fun x o => ∃ p, o = some p ∧ PackageSays x p) s.package
  transferSource :
    Says "transfer_source" v none (fun x o => ∃ t, o = some t ∧ SourceSays x t) s.transferSource
  sampleDirectory : .text s.sampleDirectory = (given? .text "postgis_data_dir" v).getD (.text "")

/-- What the record of the given name lacks. -/
def Lacking (name : String) (x : Value) : Prop :=
  (name = "connection" ∧ ConnectionLacks x) ∨ (name = "transition_poll" ∧ PolicyLacks x) ∨
    (name = "database_retry" ∧ PolicyLacks x) ∨ (name = "gppkg" ∧ PackageLacks x) ∨
    (name = "transfer_source" ∧ SourceLacks x)

theorem answers_harness (hv : Shape.harness.fits v = true) :
    Answers (HarnessLacks v) (HarnessSays v) (layeredForm.harness ⟨way, v⟩) := by
  have hconnection : ∀ x, Value.member? "connection" v.members = some x →
      Answers (ConnectionLacks x) (ConnectionSays x)
        (layeredForm.connection ⟨.member "connection" :: way, x⟩) :=
    fun x hx => answers_connection _ (Shape.fits_member hv rfl hx)
  have htransition : ∀ x, Value.member? "transition_poll" v.members = some x →
      Answers (PolicyLacks x) (PolicySays x)
        (layeredForm.policy ⟨.member "transition_poll" :: way, x⟩) :=
    fun x hx => answers_policy _ (Shape.fits_member hv rfl hx)
  have hretry : ∀ x, Value.member? "database_retry" v.members = some x →
      Answers (PolicyLacks x) (PolicySays x)
        (layeredForm.policy ⟨.member "database_retry" :: way, x⟩) :=
    fun x hx => answers_policy _ (Shape.fits_member hv rfl hx)
  have hpackage : ∀ x, Value.member? "gppkg" v.members = some x →
      Answers (PackageLacks x) (fun o => ∃ p, o = some p ∧ PackageSays x p)
        (layeredForm.orNone layeredForm.package ⟨.member "gppkg" :: way, x⟩) :=
    fun x hx =>
      have hfits := Shape.fits_member hv rfl hx
      answers_orNone _ hfits (answers_package _ hfits)
  have hsource : ∀ x, Value.member? "transfer_source" v.members = some x →
      Answers (SourceLacks x) (fun o => ∃ t, o = some t ∧ SourceSays x t)
        (layeredForm.orNone layeredForm.transferSource ⟨.member "transfer_source" :: way, x⟩) :=
    fun x hx =>
      have hfits := Shape.fits_member hv rfl hx
      answers_orNone _ hfits (answers_transferSource _ hfits)
  refine answers_readRecord hv (L := Lacking) ?_ ?_
  · simp only [List.forall_mem_cons]
    refine ⟨fun x hx => ⟨.of_iff (by simp [Lacking]) (answers_check (hconnection x hx)), ?_⟩,
      answers_check_leaf way hv "master_data_directory" rfl takes_text (by simp [Lacking]),
      answers_check_leaf way hv "gphome" rfl takes_text (by simp [Lacking]),
      answers_check_leaf way hv "data_dir" rfl takes_text (by simp [Lacking]),
      fun x hx => ⟨.of_iff (by simp [Lacking]) (answers_check (htransition x hx)), ?_⟩,
      fun x hx => ⟨.of_iff (by simp [Lacking]) (answers_check (hretry x hx)), ?_⟩,
      fun x hx => ⟨.of_iff (by simp [Lacking]) (answers_check (hpackage x hx)), ?_⟩,
      fun x hx => ⟨.of_iff (by simp [Lacking]) (answers_check (hsource x hx)), ?_⟩,
      answers_check_leaf way hv "postgis_data_dir" rfl takes_text (by simp [Lacking]),
      List.forall_mem_nil _⟩
    · intro h
      refine .inl fun y hy => ?_
      cases hx.symm.trans hy
      simpa [Lacking] using h
    · exact fun h => .inr (.inl ⟨x, hx, by simpa [Lacking] using h⟩)
    · exact fun h => .inr (.inr (.inl ⟨x, hx, by simpa [Lacking] using h⟩))
    · exact fun h => .inr (.inr (.inr (.inl ⟨x, hx, by simpa [Lacking] using h⟩)))
    · exact fun h => .inr (.inr (.inr (.inr ⟨x, hx, by simpa [Lacking] using h⟩)))
  · refine Answers.of_iff ?_
      (Answers.bind (answers_required way "connection" hconnection) fun _ hconnection =>
      Answers.bind (answers_withDefault_leaf way hv "master_data_directory" rfl takes_text "")
        fun _ hmaster =>
      Answers.bind (answers_withDefault_leaf way hv "gphome" rfl takes_text "") fun _ hhome =>
      Answers.bind (answers_withDefault_leaf way hv "data_dir" rfl takes_text defaultDataDirectory)
        fun _ hdata =>
      Answers.bind (answers_withDefault way "transition_poll" .transition htransition)
        fun _ htransition =>
      Answers.bind (answers_withDefault way "database_retry" .databaseRetry hretry)
        fun _ hretry =>
      Answers.bind (answers_withDefault way "gppkg" none hpackage) fun _ hpackage =>
      Answers.bind (answers_withDefault way "transfer_source" none hsource) fun _ hsource =>
      Answers.bind (answers_withDefault_leaf way hv "postgis_data_dir" rfl takes_text "")
        fun _ hsample =>
      Answers.pure ⟨hconnection, hmaster, hhome, hdata, htransition, hretry, hpackage, hsource,
        hsample⟩)
    simp [HarnessLacks]

end ClusterFixture.Settings
