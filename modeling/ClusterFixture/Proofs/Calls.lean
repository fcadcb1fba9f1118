/-
Which calls an operation makes.

An operation only ever adds calls to those of the world it starts from. `Makes` says of the calls
that are added, from any world, that they have a property; it goes from the parts of an operation to
the whole, so that a statement about all calls of a loop comes from one about a single round.
-/

import ClusterFixture.Proofs.Dumping

set_option autoImplicit false

namespace ClusterFixture

variable {σ : Type}

/-! ## Calls between two worlds -/

/-- Between two worlds only calls with a property were made. -/
def Adds (P : Call → Prop) (w w' : World σ) : Prop :=
  ∃ made, w'.calls = w.calls ++ made ∧ ∀ call ∈ made, P call

namespace Adds

variable {P Q : Call → Prop} {w w' w'' : World σ}

theorem of_calls_eq (h : w'.calls = w.calls) : Adds P w w' :=
  ⟨[], by rw [h, List.append_nil], by simp⟩

theorem trans (h : Adds P w w') (h' : Adds P w' w'') : Adds P w w'' := by
  obtain ⟨first, hfirst, hall⟩ := h
  obtain ⟨second, hsecond, hall'⟩ := h'
  refine ⟨first ++ second, by rw [hsecond, hfirst, List.append_assoc], ?_⟩
  intro call hcall
  rcases List.mem_append.mp hcall with hcall | hcall
  · exact hall call hcall
  · exact hall' call hcall

theorem mono (himp : ∀ call, P call → Q call) (h : Adds P w w') : Adds Q w w' := by
  obtain ⟨made, hmade, hall⟩ := h
  exact ⟨made, hmade, fun call hcall => himp call (hall call hcall)⟩

end Adds

/-! ## Calls of an operation -/

namespace Op

variable {α β : Type}

/-- From any world an operation makes only calls with a property. -/
def Makes (P : Call → Prop) (site : Site σ) (op : Op σ α) : Prop :=
  ∀ w, Adds P w (runAt op site w).2

namespace Makes

variable {P Q : Call → Prop} {site : Site σ}

theorem of_calls_eq {op : Op σ α} (h : ∀ w, (runAt op site w).2.calls = w.calls) :
    Makes P site op := fun w => .of_calls_eq (h w)

theorem mono (himp : ∀ call, P call → Q call) {op : Op σ α} (h : Makes P site op) :
    Makes Q site op := fun w => (h w).mono himp

theorem pure (a : α) : Makes P site (pure a : Op σ α) := .of_calls_eq fun _ => rfl

theorem throw (f : Fault) : Makes P site (throw f : Op σ α) := .of_calls_eq fun _ => rfl

theorem read : Makes P site (read : Op σ (Site σ)) := .of_calls_eq fun _ => rfl

theorem settings : Makes P site (settings : Op σ _) := .of_calls_eq fun _ => rfl

theorem check (c : Checked α) : Makes P site (check c) :=
  .of_calls_eq fun w => by rw [runAt_check]

theorem log (level : Telemetry.Level) (source : Telemetry.Source) (message : String)
    (fields : List (String × Json)) : Makes P site (log level source message fields) :=
  .of_calls_eq fun _ => rfl

theorem bind {op : Op σ α} {next : α → Op σ β} (h : Makes P site op)
    (hnext : ∀ a, Makes P site (next a)) : Makes P site (op >>= next) := by
  intro w
  have hfirst := h w
  rw [runAt_bind]
  rcases hrun : runAt op site w with ⟨f | a, w'⟩
  · rw [hrun] at hfirst
    exact hfirst
  · rw [hrun] at hfirst
    exact hfirst.trans (hnext a w')

/-- What follows an operation with one answer makes the calls that follow that answer. -/
theorem bind_of_value {op : Op σ α} {a : α} (h : ∀ w, runAt op site w = (.ok a, w))
    {next : α → Op σ β} (hnext : Makes P site (next a)) : Makes P site (op >>= next) := by
  intro w
  rw [runAt_bind_ok (h w)]
  exact hnext w

theorem attempt {op : Op σ α} (h : Makes P site op) : Makes P site (attempt op) := by
  intro w
  rw [runAt_attempt]
  exact h w

theorem forM {f : α → Op σ Unit} {as : List α} (h : ∀ a ∈ as, Makes P site (f a)) :
    Makes P site (as.forM f) := by
  induction as with
  | nil => exact .pure ()
  | cons a rest ih =>
    have hrest := ih fun b hb => h b (by simp [hb])
    exact .bind (h a (by simp)) fun _ => hrest

theorem single {database statement : String} (h : P (.query { database } statement)) :
    Makes P site (single database statement) := by
  intro w
  rw [runAt_single]
  exact ⟨[.query { database } statement], rfl, by simpa using h⟩

theorem count {database statement : String} (h : P (.query { database } statement)) :
    Makes P site (count database statement) :=
  .bind (.single h) fun _ => .check _

theorem execute {database statement : String} (h : P (.execute { database } statement)) :
    Makes P site (execute database statement) := by
  intro w
  unfold Op.execute
  rw [runAt_executeAt]
  exact ⟨[.execute { database } statement], rfl, by simpa using h⟩

/-! ## Files -/

theorem dataFile (name : String) : Makes P site (dataFile name) := by
  unfold Op.dataFile
  refine .bind .read fun here => .bind .settings fun s => ?_
  cases Path.absolute here.directory (Path.join s.dataDirectory name) with
  | ok path => exact .pure path
  | error text => exact .throw _

theorem compareFiles (backup restore : String) : Makes P site (compareFiles backup restore) :=
  .of_calls_eq fun w => by rw [runAt_compareFiles]

/-! ## Dumps -/

/-- A dump of a table asks for the order of its columns and copies to one path, whatever the order
is. That it ignores faults does not matter for its calls. -/
theorem dumpTable {file table database : String} (hfile : file ≠ "")
    (horder : P (.query { database } (Sql.Statement.columnOrder table)))
    (hcopy : ∀ order,
      P (.execute { database } (Sql.Statement.copyTable table order (site.dataPath file)))) :
    Makes P site (dumpTable file table database) := by
  have hcopies : Makes P site (copyTable file table database) := by
    unfold copyTable
    refine .bind_of_value (runAt_dataFile file hfile site) ?_
    exact .bind (.single horder) fun order => .bind (.log _ _ _ _) fun _ => .execute (hcopy order)
  unfold Op.dumpTable
  refine .bind (.attempt hcopies) fun result => ?_
  cases result with
  | ok _ => exact .pure ()
  | error f => exact .log _ _ _ _

end Makes

end Op

end ClusterFixture
