/-
Settings that are written as JSON are read back.

Every member is written as a value of the kind that it is read as, and a member that is left out is
one that is missing where it is read. So it is enough to run the reader over what the writer makes of
each record, and the records that are part of another one are read back before it.
-/

import ClusterFixture.Proofs.JsonText
import ClusterFixture.Settings.Json
import Mathlib.Data.String.Basic

set_option autoImplicit false

namespace ClusterFixture.Settings

open ClusterFixture.Number

/-! ## Values of the right kind -/

@[simp] theorem jsonForm_record (title : String) (members : List (String × Json)) :
    jsonForm.record title (.object members) = .ok (.members members) := rfl

@[simp] theorem jsonForm_text (s : String) : jsonForm.text (.string s) = .ok s := rfl

@[simp] theorem jsonForm_path (s : String) : jsonForm.path (.string s) = .ok s := rfl

@[simp] theorem jsonForm_flag (b : Bool) : jsonForm.flag (.bool b) = .ok b := rfl

@[simp] theorem jsonForm_isNone_string (s : String) : jsonForm.isNone (.string s) = false := rfl

@[simp] theorem jsonForm_isNone_null : jsonForm.isNone .null = true := rfl

@[simp] theorem jsonForm_isNone_object (members : List (String × Json)) :
    jsonForm.isNone (.object members) = false := rfl

/-- A number of so many bits is read as itself. -/
theorem jsonForm_unsigned {bits n : Nat} (hn : n < twoTo bits) :
    jsonForm.unsigned bits (.integer n) = .ok n := by
  show jsonUnsigned bits (.integer n) = .ok n
  rw [jsonUnsigned, if_pos ((holds_unsignedRange bits n).mpr hn)]
  rfl

/-! ## Ranges of numbers -/

/-- Whether the numbers of a polling policy lie in their ranges. -/
structure PolicyFits (p : PollPolicy) : Prop where
  interval : p.interval < twoTo 64
  attempts : p.attempts < twoTo 32

/-- Whether the numbers of settings lie in their ranges. -/
structure Harness.Fits (s : Harness) : Prop where
  port : s.connection.port < twoTo 16
  transitionPoll : PolicyFits s.transitionPoll
  databaseRetry : PolicyFits s.databaseRetry
  sourcePort : ∀ t ∈ s.transferSource, t.port < twoTo 16

/-! ## Records -/

/-- How a connection is protected is read back. -/
theorem tls_write (t : Tls) : jsonForm.tls (t.write .ofMembers) = .ok t := by
  simp [Tls.write, Json.ofMembers, Json.insert, -String.lt_iff_ltb, Form.tls, Form.readRecord,
    Form.checkMembers, Form.member, Form.Reading.required, Form.value?, bind, Except.bind, pure,
    Except.pure]

/-- A polling policy is read back. -/
theorem policy_write {p : PollPolicy} (hp : PolicyFits p) :
    jsonForm.policy (writePolicy .ofMembers p) = .ok p := by
  simp [writePolicy, Json.ofMembers, Json.insert, -String.lt_iff_ltb, Form.policy, Form.readRecord,
    Form.checkMembers, Form.member, Form.Reading.required, Form.value?, bind, Except.bind, pure,
    Except.pure, jsonForm_unsigned hp.interval, jsonForm_unsigned hp.attempts]

/-- A package is read back as one that is there. -/
theorem package_write (p : Package) :
    jsonForm.orNone jsonForm.package (p.write .ofMembers) = .ok (some p) := by
  simp [Package.write, Json.ofMembers, Json.insert, -String.lt_iff_ltb, Form.package,
    Form.readRecord, Form.checkMembers, Form.member, Form.Reading.required, Form.value?,
    Form.orNone, Except.map, bind, Except.bind, pure, Except.pure]

/-- A transfer source is read back as one that is there. -/
theorem transferSource_write {t : TransferSource} (ht : t.port < twoTo 16) :
    jsonForm.orNone jsonForm.transferSource (t.write .ofMembers) = .ok (some t) := by
  simp [TransferSource.write, Json.ofMembers, Json.insert, -String.lt_iff_ltb, Form.transferSource,
    Form.readRecord, Form.checkMembers, Form.member, Form.Reading.required, Form.value?,
    Form.orNone, Except.map, bind, Except.bind, pure, Except.pure, jsonForm_unsigned ht]

/-- A connection is read back, with a password and without one. -/
theorem connection_write {c : Connection} (hc : c.port < twoTo 16) :
    jsonForm.connection (c.write .ofMembers) = .ok c := by
  obtain ⟨host, port, database, user, password, tls⟩ := c
  cases password <;>
    simp [Connection.write, Json.ofMembers, Json.insert, -String.lt_iff_ltb, Form.connection,
      Form.readRecord, Form.checkMembers, Form.member, Form.Reading.required,
      Form.Reading.withDefault, Form.value?, Form.orNone, Except.map, bind, Except.bind, pure,
      Except.pure, jsonForm_unsigned hc, tls_write]

/-- Settings are read back, with and without a package, with and without a transfer source. -/
theorem harness_write {s : Harness} (hs : s.Fits) :
    Harness.ofJson (s.write .ofMembers) = .ok s := by
  obtain ⟨connection, masterDirectory, home, dataDirectory, transitionPoll, databaseRetry, package,
    transferSource, sampleDirectory⟩ := s
  have hconnection := connection_write hs.port
  have htransition := policy_write hs.transitionPoll
  have hretry := policy_write hs.databaseRetry
  have hsource : ∀ t ∈ transferSource,
      jsonForm.orNone jsonForm.transferSource (t.write .ofMembers) = .ok (some t) :=
    fun t ht => transferSource_write (hs.sourcePort t ht)
  rw [Harness.ofJson]
  cases package <;> cases transferSource <;>
    simp [Harness.write, Json.ofMembers, Json.insert, -String.lt_iff_ltb, Form.harness,
      Form.readRecord, Form.checkMembers, Form.member, Form.Reading.required,
      Form.Reading.withDefault, Form.value?, bind, Except.bind, pure, Except.pure, hconnection,
      htransition, hretry, package_write, hsource]

/-- What is written of a connection and a data directory alone. -/
def minimal (object : List (String × Json) → Json) (c : Connection) (directory : String) : Json :=
  object [("connection", c.write object), ("master_data_directory", .string directory)]

/-- What the reader puts in for everything else is what the settings are made with. -/
theorem harness_minimal {c : Connection} (hc : c.port < twoTo 16) (directory : String) :
    Harness.ofJson (minimal .ofMembers c directory) = .ok (Harness.new c directory) := by
  simp [Harness.ofJson, minimal, Json.ofMembers, Json.insert, -String.lt_iff_ltb, Form.harness,
    Form.readRecord, Form.checkMembers, Form.member, Form.Reading.required,
    Form.Reading.withDefault, Form.value?, bind, Except.bind, pure, Except.pure,
    connection_write hc, Harness.new]

/-! ## Texts

Settings nest three levels deep, and their numbers have 64 bits at most: a text keeps them. The
members of its objects in order are the members of the value. -/

/-- A text keeps a number of 64 bits or fewer. -/
theorem kept_natural {bits n : Nat} (hn : n < twoTo bits) (hbits : bits ≤ 64) (levels : Nat) :
    Json.Kept levels (.integer n) := by
  have hle : twoTo bits ≤ twoTo 64 := Nat.pow_le_pow_right (by decide) hbits
  rw [Json.Kept, Json.KeptWith]
  omega

theorem kept_policy {p : PollPolicy} (hp : PolicyFits p) {levels : Nat} (hlevels : 1 < levels) :
    Json.Kept levels (writePolicy .object p) :=
  ⟨hlevels, kept_natural hp.interval (by decide) _, kept_natural hp.attempts (by decide) _,
    trivial⟩

theorem kept_connection {c : Connection} (hc : c.port < twoTo 16) {levels : Nat}
    (hlevels : 2 < levels) : Json.Kept levels (c.write .object) := by
  have htls : Json.Kept (levels - 1) (c.tls.write .object) :=
    ⟨by omega, trivial, trivial, trivial⟩
  refine ⟨by omega, trivial, kept_natural hc (by decide) _, trivial, trivial, ?_, htls, trivial⟩
  cases c.password <;> trivial

theorem kept_harness {s : Harness} (hs : s.Fits) :
    Json.Kept Json.depthLimit (s.write .object) := by
  have hconnection : Json.Kept (Json.depthLimit - 1) (s.connection.write .object) :=
    kept_connection hs.port (by decide)
  have hpolicy : ∀ p, PolicyFits p → Json.Kept (Json.depthLimit - 1) (writePolicy .object p) :=
    fun p hp => kept_policy hp (by decide)
  have htransition := hpolicy _ hs.transitionPoll
  have hretry := hpolicy _ hs.databaseRetry
  have hpackage : ∀ p : Package, Json.Kept (Json.depthLimit - 1) (p.write .object) :=
    fun p => ⟨by decide, trivial, trivial, trivial⟩
  have hsource : ∀ t ∈ s.transferSource, Json.Kept (Json.depthLimit - 1) (t.write .object) :=
    fun t ht => ⟨by decide, trivial, kept_natural (hs.sourcePort t ht) (by decide) _, trivial,
      trivial⟩
  obtain ⟨connection, masterDirectory, home, dataDirectory, transitionPoll, databaseRetry, package,
    transferSource, sampleDirectory⟩ := s
  refine ⟨by decide, hconnection, trivial, trivial, trivial, htransition, hretry, ?_⟩
  cases package with
  | none =>
    cases transferSource with
    | none => exact ⟨trivial, trivial⟩
    | some t => exact ⟨hsource t rfl, trivial, trivial⟩
  | some p =>
    cases transferSource with
    | none => exact ⟨hpackage p, trivial, trivial⟩
    | some t => exact ⟨hpackage p, hsource t rfl, trivial, trivial⟩

theorem ordered_connection (c : Connection) : (c.write .object).ordered = c.write .ofMembers := by
  obtain ⟨host, port, database, user, password, tls⟩ := c
  cases password <;> rfl

theorem ordered_harness (s : Harness) : (s.write .object).ordered = s.write .ofMembers := by
  have hpolicy : ∀ p, (writePolicy .object p).ordered = writePolicy .ofMembers p := fun _ => rfl
  have hpackage : ∀ p : Package, (p.write .object).ordered = p.write .ofMembers := fun _ => rfl
  have hsource : ∀ t : TransferSource, (t.write .object).ordered = t.write .ofMembers :=
    fun _ => rfl
  obtain ⟨connection, masterDirectory, home, dataDirectory, transitionPoll, databaseRetry, package,
    transferSource, sampleDirectory⟩ := s
  cases package <;> cases transferSource <;>
    simp [Harness.write, Json.ordered, Json.orderedMembers, ordered_connection, hpolicy, hpackage,
      hsource]

/-- **Settings come back from what is written of them**, in every member, from their text and from
their value. What names only the connection and the data directory holds the settings that are made
of these. -/
theorem written_settings_read_back {s : Harness} (hs : s.Fits) {c : Connection}
    (hc : c.port < twoTo 16) (directory : String) :
    (Json.read? (s.write .object).render).map Harness.ofJson = some (.ok s) ∧
      Harness.ofJson s.toJson = .ok s ∧
      (Json.read? (minimal .object c directory).render).map Harness.ofJson
        = some (.ok (Harness.new c directory)) ∧
      Harness.ofJson (minimal .ofMembers c directory) = .ok (Harness.new c directory) := by
  have hminimal : Json.Kept Json.depthLimit (minimal .object c directory) :=
    ⟨by decide, kept_connection hc (by decide), trivial, trivial⟩
  have hordered : (minimal .object c directory).ordered = minimal .ofMembers c directory := by
    simp [minimal, Json.ordered, Json.orderedMembers, ordered_connection]
  refine ⟨?_, harness_write hs, ?_, harness_minimal hc directory⟩
  · rw [Json.read?_render (kept_harness hs), ordered_harness, Option.map_some, harness_write hs]
  · rw [Json.read?_render hminimal, hordered, Option.map_some, harness_minimal hc]

/-- Settings with every part, and with numbers at the ends of their ranges. -/
def fullSettings : Harness :=
  ⟨⟨"mdw", 65535, "gptest", "gpadmin", some "p\"\\\n", ⟨"root.pem", true⟩⟩, "/data/master/gpseg-1",
    "/usr/local/gp", "./data", ⟨18446744073709551615, 0⟩, ⟨0, 4294967295⟩,
    some ⟨"/packages", "plr"⟩, some ⟨"sdw1", 0, "gpadmin"⟩, ""⟩

theorem fullSettings_fits : fullSettings.Fits :=
  ⟨by decide, ⟨by decide, by decide⟩, ⟨by decide, by decide⟩, by simp [fullSettings, twoTo]⟩

theorem written_settings_read_back_full :
    fullSettings.Fits ∧
      (Json.read? (fullSettings.write .object).render).map Harness.ofJson
        = some (.ok fullSettings) :=
  ⟨fullSettings_fits,
    (written_settings_read_back fullSettings_fits fullSettings_fits.port "").1⟩

end ClusterFixture.Settings
