/-
What becomes of settings when the variables of a session are laid over them.

The overlay goes from variable to variable, and a port that cannot be read ends it at one of two
places. `overlay_of_badPort` and `overlay_of_port` say how far it gets: the directory of the master
and the host are set in any case (`begun`), all but the transfer source once the port is read
(`opened`), and the transfer source last (`laySource`). Everything else about the overlay follows
from these equations and from the fields of the records in them.
-/

import ClusterFixture.Settings.Basic

set_option autoImplicit false

namespace ClusterFixture.Settings

variable {lookup : String → Option String}

/-! ## Ports -/

/-- The port that a text names, blanks around it aside. -/
def portIn? (text : String) : Option Nat :=
  match Number.readInteger (Number.unsignedRange 16) (Text.trim text) with
  | .ok n => some n.toNat
  | .error _ => none

theorem readPort_eq (name text : String) :
    readPort name text =
      match portIn? text with
      | some n => .ok n
      | none => .error (.badVariable name text) := by
  unfold readPort portIn?
  cases Number.readInteger (Number.unsignedRange 16) (Text.trim text) <;> rfl

/-- A variable is set, to a text that names no port. -/
def BadPort (lookup : String → Option String) (name text : String) : Prop :=
  lookup name = some text ∧ portIn? text = none

/-- The port of a variable, if it is set. -/
def portOf (lookup : String → Option String) (name : String) :
    Except SettingsFault (Option Nat) :=
  match lookup name with
  | some text => (readPort name text).map some
  | none => .ok none

theorem portOf_eq_error_iff {name : String} {f : SettingsFault} :
    portOf lookup name = .error f ↔
      ∃ text, BadPort lookup name text ∧ f = .badVariable name text := by
  unfold portOf BadPort
  rcases lookup name with _ | text
  · simp
  · simp only [readPort_eq, Option.some.injEq]
    rcases hport : portIn? text with _ | n
    · constructor
      · intro h
        exact ⟨text, ⟨rfl, hport⟩, (Except.error.inj h).symm⟩
      · rintro ⟨_, ⟨rfl, _⟩, rfl⟩
        rfl
    · simp [Except.map, hport]

theorem portOf_eq_ok_iff {name : String} {port : Option Nat} :
    portOf lookup name = .ok port ↔
      (lookup name = none ∧ port = none) ∨
        ∃ text n, lookup name = some text ∧ portIn? text = some n ∧ port = some n := by
  unfold portOf
  rcases lookup name with _ | text
  · simp [eq_comm]
  · simp only [readPort_eq, Option.some.injEq]
    rcases hport : portIn? text with _ | n
    · simp [Except.map, hport]
    · simp [Except.map, hport, eq_comm]

/-! ## Groups of variables -/

/-- The package of the variables, if both are set. -/
def packageIn? (lookup : String → Option String) : Option Package := do
  return ⟨← lookup "GPPKG_PATH", ← lookup "GPPKG_NAME"⟩

/-- The host, the text of the port and the user of the transfer source, if all three are set. -/
def sourceTexts? (lookup : String → Option String) : Option (String × String × String) := do
  return (← lookup "GPTRANSFER_SOURCE_HOST", ← lookup "GPTRANSFER_SOURCE_PORT",
    ← lookup "GPTRANSFER_SOURCE_USER")

theorem sourceTexts?_eq_some_iff {host text user : String} :
    sourceTexts? lookup = some (host, text, user) ↔
      lookup "GPTRANSFER_SOURCE_HOST" = some host ∧
        lookup "GPTRANSFER_SOURCE_PORT" = some text ∧
          lookup "GPTRANSFER_SOURCE_USER" = some user := by
  unfold sourceTexts?
  rcases lookup "GPTRANSFER_SOURCE_HOST" with _ | host
  · simp
  rcases lookup "GPTRANSFER_SOURCE_PORT" with _ | text
  · simp
  rcases lookup "GPTRANSFER_SOURCE_USER" with _ | user
  · simp
  simp

/-- Without the host or the user there is no transfer source. -/
theorem sourceTexts?_eq_none
    (h : lookup "GPTRANSFER_SOURCE_HOST" = none ∨ lookup "GPTRANSFER_SOURCE_USER" = none) :
    sourceTexts? lookup = none := by
  rw [Option.eq_none_iff_forall_ne_some]
  rintro ⟨host, text, user⟩ hset
  obtain ⟨hhost, _, huser⟩ := sourceTexts?_eq_some_iff.mp hset
  rcases h with h | h
  · rw [h] at hhost
    cases hhost
  · rw [h] at huser
    cases huser

/-! ## Settings on the way -/

namespace Harness

/-- Settings with the directory of the master and the host that are set. -/
def begun (lookup : String → Option String) (s : Harness) : Harness :=
  { s with
    masterDirectory := (lookup "MASTER_DATA_DIRECTORY").getD s.masterDirectory
    connection := { s.connection with host := (lookup "PGHOST").getD s.connection.host } }

/-- Settings with all that is set but the transfer source, where the port is given. -/
def opened (lookup : String → Option String) (s : Harness) (port : Option Nat) : Harness :=
  { s with
    masterDirectory := (lookup "MASTER_DATA_DIRECTORY").getD s.masterDirectory
    connection := { s.connection with
      host := (lookup "PGHOST").getD s.connection.host
      port := port.getD s.connection.port
      user := (lookup "USER").getD s.connection.user
      database := (lookup "PGDATABASE").getD s.connection.database }
    home := (lookup "GPHOME").getD s.home
    package := (packageIn? lookup).or s.package }

/-- Settings with the transfer source that is set, and whether its port could be read. -/
def laySource (lookup : String → Option String) (s : Harness) :
    Harness × Except SettingsFault Unit :=
  match sourceTexts? lookup with
  | none => (s, .ok ())
  | some (host, text, user) =>
    match portIn? text with
    | none => (s, .error (.badVariable "GPTRANSFER_SOURCE_PORT" text))
    | some n => ({ s with transferSource := some ⟨host, n, user⟩ }, .ok ())

/-- The last turn of the overlay is that of the transfer source. -/
theorem laySource_eq (s : Harness) :
    s.laySource lookup =
      match lookup "GPTRANSFER_SOURCE_HOST", lookup "GPTRANSFER_SOURCE_PORT",
          lookup "GPTRANSFER_SOURCE_USER" with
      | some host, some text, some user =>
        match readPort "GPTRANSFER_SOURCE_PORT" text with
        | .error f => (s, .error f)
        | .ok n => ({ s with transferSource := some ⟨host, n, user⟩ }, .ok ())
      | _, _, _ => (s, .ok ()) := by
  unfold laySource sourceTexts?
  rcases lookup "GPTRANSFER_SOURCE_HOST" with _ | host
  · rfl
  rcases lookup "GPTRANSFER_SOURCE_PORT" with _ | text
  · rfl
  rcases lookup "GPTRANSFER_SOURCE_USER" with _ | user
  · rfl
  simp only [readPort_eq]
  rcases hport : portIn? text with _ | n <;> simp [hport]

/-- The overlay is the turn of the port after the first two variables, and then that of all
others. -/
theorem overlay_eq (s : Harness) :
    s.overlay lookup =
      match portOf lookup "PGPORT" with
      | .error f => (s.begun lookup, .error f)
      | .ok port => (s.opened lookup port).laySource lookup := by
  unfold overlay
  extract_lets -underBinder s₁ s₂ port?
  have hbegun : s₂ = s.begun lookup := by
    have h₁ : s₁ = { s with
        masterDirectory := (lookup "MASTER_DATA_DIRECTORY").getD s.masterDirectory } := by
      unfold s₁
      cases lookup "MASTER_DATA_DIRECTORY" <;> rfl
    unfold s₂
    rw [h₁]
    cases hhost : lookup "PGHOST" <;> rw [begun, hhost] <;> rfl
  clear_value s₂
  subst hbegun
  change (match portOf lookup "PGPORT" with
    | .error f => _
    | .ok port => _) = _
  rcases portOf lookup "PGPORT" with f | port
  · rfl
  simp -zeta only []
  -- One variable after the other; each changes one field of what the one before it left.
  extract_lets -underBinder s₃ s₄ s₅ s₆ s₇
  have h₃ : s₃ = { s.begun lookup with
      connection := { (s.begun lookup).connection with port := port.getD s.connection.port } } := by
    unfold s₃
    cases port <;> rfl
  have h₄ : s₄ = { s₃ with
      connection := { s₃.connection with user := (lookup "USER").getD s₃.connection.user } } := by
    unfold s₄
    cases lookup "USER" <;> rfl
  have h₅ : s₅ = { s₄ with
      connection := { s₄.connection with
        database := (lookup "PGDATABASE").getD s₄.connection.database } } := by
    unfold s₅
    cases lookup "PGDATABASE" <;> rfl
  have h₆ : s₆ = { s₅ with home := (lookup "GPHOME").getD s₅.home } := by
    unfold s₆
    cases lookup "GPHOME" <;> rfl
  have h₇ : s₇ = { s₆ with package := (packageIn? lookup).or s₆.package } := by
    unfold s₇ packageIn?
    cases lookup "GPPKG_PATH" <;> cases lookup "GPPKG_NAME" <;> rfl
  have hopened : s₇ = s.opened lookup port := by
    rw [h₇, h₆, h₅, h₄, h₃]
    rfl
  rw [← hopened]
  exact (laySource_eq s₇).symm

/-- A port that cannot be read ends the overlay before it. -/
theorem overlay_of_badPort {text : String} (h : BadPort lookup "PGPORT" text) (s : Harness) :
    s.overlay lookup = (s.begun lookup, .error (.badVariable "PGPORT" text)) := by
  rw [overlay_eq, portOf_eq_error_iff.mpr ⟨text, h, rfl⟩]

theorem overlay_of_port {port : Option Nat} (h : portOf lookup "PGPORT" = .ok port) (s : Harness) :
    s.overlay lookup = (s.opened lookup port).laySource lookup := by
  rw [overlay_eq, h]

/-- The overlay ends in one of three ways: at the port, at the port of the transfer source, or well,
with the transfer source that is set. -/
theorem overlay_cases (lookup : String → Option String) (s : Harness) :
    (∃ text, BadPort lookup "PGPORT" text ∧
      s.overlay lookup = (s.begun lookup, .error (.badVariable "PGPORT" text))) ∨
    ∃ port, portOf lookup "PGPORT" = .ok port ∧
      ((∃ host text user, sourceTexts? lookup = some (host, text, user) ∧ portIn? text = none ∧
          s.overlay lookup =
            (s.opened lookup port, .error (.badVariable "GPTRANSFER_SOURCE_PORT" text))) ∨
        ∃ source, (sourceTexts? lookup = none ∧ source = s.transferSource ∨
            ∃ host text user n, sourceTexts? lookup = some (host, text, user) ∧
              portIn? text = some n ∧ source = some ⟨host, n, user⟩) ∧
          s.overlay lookup = ({ s.opened lookup port with transferSource := source }, .ok ())) := by
  rcases hport : portOf lookup "PGPORT" with f | port
  · obtain ⟨text, hbad, rfl⟩ := portOf_eq_error_iff.mp hport
    exact .inl ⟨text, hbad, overlay_of_badPort hbad s⟩
  refine .inr ⟨port, rfl, ?_⟩
  rw [overlay_of_port hport, laySource]
  rcases sourceTexts? lookup with _ | ⟨host, text, user⟩
  · exact .inr ⟨_, .inl ⟨rfl, rfl⟩, rfl⟩
  rcases hread : portIn? text with _ | n
  · exact .inl ⟨host, text, user, rfl, hread, by simp only [hread]⟩
  · exact .inr ⟨_, .inr ⟨host, text, user, n, rfl, hread, rfl⟩, by simp only [hread]⟩

/-! ## A second overlay -/

/-- Laying the same variables over settings that hold them already changes nothing, whatever the
transfer source is. -/
theorem opened_opened (s : Harness) (port : Option Nat) (source : Option TransferSource) :
    ({ s.opened lookup port with transferSource := source }).opened lookup port =
      { s.opened lookup port with transferSource := source } := by
  simp only [opened, ← Option.getD_or, ← Option.or_assoc, Option.or_self]

/-- An overlay that succeeds leaves settings that a second one does not change. -/
theorem overlay_overlay {s s' : Harness} (h : s.overlay lookup = (s', .ok ())) :
    s'.overlay lookup = (s', .ok ()) := by
  rcases overlay_cases lookup s with ⟨text, _, hend⟩ |
      ⟨port, hport, ⟨host, text, user, _, _, hend⟩ | ⟨source, hsource, hend⟩⟩
  · rw [hend] at h
    cases h
  · rw [hend] at h
    cases h
  · rw [hend] at h
    obtain rfl : { s.opened lookup port with transferSource := source } = s' := congrArg Prod.fst h
    rw [overlay_of_port hport, opened_opened, laySource]
    rcases hsource with ⟨hnone, _⟩ | ⟨host, text, user, n, hset, hread, rfl⟩
    · rw [hnone]
    · simp only [hset, hread]

end Harness

/-! ## The whole overlay -/

/-- What no variable is for: dumps, sample data, policies, the password and protection. -/
structure SameElsewhere (s s' : Harness) : Prop where
  dataDirectory : s'.dataDirectory = s.dataDirectory
  sampleDirectory : s'.sampleDirectory = s.sampleDirectory
  transitionPoll : s'.transitionPoll = s.transitionPoll
  databaseRetry : s'.databaseRetry = s.databaseRetry
  password : s'.connection.password = s.connection.password
  tls : s'.connection.tls = s.connection.tls

/-- Each field with a variable of its own holds what the variable says, if it is set, and else what
it held before; the package is another one if both of its variables are set. -/
structure Overlaid (lookup : String → Option String) (s s' : Harness) : Prop where
  masterDirectory : s'.masterDirectory = (lookup "MASTER_DATA_DIRECTORY").getD s.masterDirectory
  host : s'.connection.host = (lookup "PGHOST").getD s.connection.host
  port : (lookup "PGPORT" = none ∧ s'.connection.port = s.connection.port) ∨
    ∃ text, lookup "PGPORT" = some text ∧ portIn? text = some s'.connection.port
  user : s'.connection.user = (lookup "USER").getD s.connection.user
  database : s'.connection.database = (lookup "PGDATABASE").getD s.connection.database
  home : s'.home = (lookup "GPHOME").getD s.home
  package : s'.package = (packageIn? lookup).or s.package

/-- The transfer source, which takes three variables, is another one if all of them are set. -/
def SourceOverlaid (lookup : String → Option String) (s s' : Harness) : Prop :=
  (sourceTexts? lookup = none ∧ s'.transferSource = s.transferSource) ∨
    ∃ host text user n, sourceTexts? lookup = some (host, text, user) ∧ portIn? text = some n ∧
      s'.transferSource = some ⟨host, n, user⟩

namespace Harness

theorem sameElsewhere_opened (s : Harness) (port : Option Nat) (source : Option TransferSource) :
    SameElsewhere s { s.opened lookup port with transferSource := source } :=
  ⟨rfl, rfl, rfl, rfl, rfl, rfl⟩

theorem overlaid_opened {port : Option Nat} (hport : portOf lookup "PGPORT" = .ok port)
    (s : Harness) (source : Option TransferSource) :
    Overlaid lookup s { s.opened lookup port with transferSource := source } := by
  refine ⟨rfl, rfl, ?_, rfl, rfl, rfl, rfl⟩
  rcases portOf_eq_ok_iff.mp hport with ⟨hunset, rfl⟩ | ⟨text, n, hset, hread, rfl⟩
  · exact .inl ⟨hunset, rfl⟩
  · exact .inr ⟨text, hset, hread⟩

/-- Variables that differ in the port of the transfer source only make no difference while there is
no transfer source. -/
theorem overlay_congr {lookup' : String → Option String}
    (hsame : ∀ name, name ≠ "GPTRANSFER_SOURCE_PORT" → lookup' name = lookup name)
    (hnone : sourceTexts? lookup = none) (hnone' : sourceTexts? lookup' = none) (s : Harness) :
    s.overlay lookup' = s.overlay lookup := by
  have hport : portOf lookup' "PGPORT" = portOf lookup "PGPORT" := by
    unfold portOf
    rw [hsame _ (by decide)]
  have hbegun : s.begun lookup' = s.begun lookup := by
    unfold begun
    rw [hsame _ (by decide), hsame _ (by decide)]
  have hopened : ∀ port, s.opened lookup' port = s.opened lookup port := by
    intro port
    simp only [opened, packageIn?, hsame _ (show "MASTER_DATA_DIRECTORY" ≠ _ by decide),
      hsame _ (show "PGHOST" ≠ _ by decide), hsame _ (show "USER" ≠ _ by decide),
      hsame _ (show "PGDATABASE" ≠ _ by decide), hsame _ (show "GPHOME" ≠ _ by decide),
      hsame _ (show "GPPKG_PATH" ≠ _ by decide), hsame _ (show "GPPKG_NAME" ≠ _ by decide)]
  rw [overlay_eq, overlay_eq, hport, hbegun]
  simp only [hopened, laySource, hnone, hnone']

/-- For all settings and variables: what no variable is for stays. The overlay succeeds exactly when
every port that it comes to can be read, and then all variables are laid over the settings, for good:
a second overlay changes nothing. When it fails, it names the variable and the text as it is. A bad
port of the server leaves all but the first two fields as they were, and a bad port of the transfer
source leaves that as it was and nothing else. The latter port does not matter where no host or no
user goes with it. -/
theorem overlay_outcome (s : Harness) (lookup : String → Option String) :
    let s' := (s.overlay lookup).1
    let verdict := (s.overlay lookup).2
    SameElsewhere s s' ∧
      (verdict = .ok () ↔ (∀ text, ¬BadPort lookup "PGPORT" text) ∧
        ∀ host text user, sourceTexts? lookup = some (host, text, user) → portIn? text ≠ none) ∧
      (verdict = .ok () → Overlaid lookup s s' ∧ SourceOverlaid lookup s s' ∧
        s'.overlay lookup = (s', .ok ())) ∧
      (∀ f, verdict = .error f →
        (∃ text, BadPort lookup "PGPORT" text ∧ f = .badVariable "PGPORT" text ∧
          s' = { s with
            masterDirectory := (lookup "MASTER_DATA_DIRECTORY").getD s.masterDirectory
            connection := { s.connection with
              host := (lookup "PGHOST").getD s.connection.host } }) ∨
        ∃ text, BadPort lookup "GPTRANSFER_SOURCE_PORT" text ∧
          f = .badVariable "GPTRANSFER_SOURCE_PORT" text ∧ Overlaid lookup s s' ∧
          s'.transferSource = s.transferSource) ∧
      (lookup "GPTRANSFER_SOURCE_HOST" = none ∨ lookup "GPTRANSFER_SOURCE_USER" = none →
        ∀ lookup' : String → Option String,
          (∀ name, name ≠ "GPTRANSFER_SOURCE_PORT" → lookup' name = lookup name) →
            s.overlay lookup' = s.overlay lookup) := by
  intro s' verdict
  have hharmless : lookup "GPTRANSFER_SOURCE_HOST" = none ∨
      lookup "GPTRANSFER_SOURCE_USER" = none →
      ∀ lookup' : String → Option String,
        (∀ name, name ≠ "GPTRANSFER_SOURCE_PORT" → lookup' name = lookup name) →
          s.overlay lookup' = s.overlay lookup := by
    intro hunset lookup' hsame
    refine overlay_congr hsame (sourceTexts?_eq_none hunset) (sourceTexts?_eq_none ?_) s
    rw [hsame _ (by decide), hsame _ (by decide)]
    exact hunset
  rcases overlay_cases lookup s with ⟨text, hbad, hend⟩ |
      ⟨port, hport, ⟨host, text, user, hset, hread, hend⟩ | ⟨source, hsource, hend⟩⟩
  · have hs' : s' = s.begun lookup := congrArg Prod.fst hend
    have hverdict : verdict = .error (.badVariable "PGPORT" text) := congrArg Prod.snd hend
    rw [hs', hverdict]
    exact ⟨⟨rfl, rfl, rfl, rfl, rfl, rfl⟩, iff_of_false nofun fun h => h.1 text hbad, nofun,
      fun f hf => .inl ⟨text, hbad, (Except.error.inj hf).symm, rfl⟩, hharmless⟩
  · have hs' : s' = s.opened lookup port := congrArg Prod.fst hend
    have hverdict : verdict = .error (.badVariable "GPTRANSFER_SOURCE_PORT" text) :=
      congrArg Prod.snd hend
    have hbad : BadPort lookup "GPTRANSFER_SOURCE_PORT" text :=
      ⟨(sourceTexts?_eq_some_iff.mp hset).2.1, hread⟩
    rw [hs', hverdict]
    exact ⟨sameElsewhere_opened s port s.transferSource,
      iff_of_false nofun fun h => h.2 host text user hset hread, nofun, fun f hf =>
        .inr ⟨text, hbad, (Except.error.inj hf).symm, overlaid_opened hport s s.transferSource, rfl⟩,
      hharmless⟩
  · have hs' : s' = { s.opened lookup port with transferSource := source } := congrArg Prod.fst hend
    have hverdict : verdict = .ok () := congrArg Prod.snd hend
    have hports : ∀ text, ¬BadPort lookup "PGPORT" text := by
      intro text hbad
      rw [portOf_eq_error_iff.mpr ⟨text, hbad, rfl⟩] at hport
      cases hport
    rw [hverdict, hs']
    refine ⟨sameElsewhere_opened s port source, iff_of_true rfl ⟨hports, ?_⟩, fun _ =>
      ⟨overlaid_opened hport s source, hsource, overlay_overlay hend⟩, nofun, hharmless⟩
    rintro host text user hset hbad
    rcases hsource with ⟨hnone, _⟩ | ⟨host', text', user', n, hset', hread, _⟩
    · rw [hset] at hnone
      cases hnone
    · rw [hset] at hset'
      cases hset'
      rw [hbad] at hread
      cases hread

/-- A source port that is no number matters once host and user are set: all else is overlaid. -/
example :
    let s := Harness.new ⟨"localhost", 5432, "template1", "gpadmin", none, {}⟩ ""
    s.overlay (fun name => if name = "PGPORT" then some " 15432 " else some "x") =
      (⟨⟨"x", 15432, "x", "x", none, {}⟩, "x", "x", defaultDataDirectory, .transition,
        .databaseRetry, some ⟨"x", "x"⟩, none, ""⟩,
        .error (.badVariable "GPTRANSFER_SOURCE_PORT" "x")) := by
  rfl

end Harness

end ClusterFixture.Settings
