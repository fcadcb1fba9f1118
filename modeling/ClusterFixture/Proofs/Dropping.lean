/-
What it means that a table was dropped.

Dropping sends the statement and then looks the table up; the conditional forms look it up before as
well, and drop nothing where it is not found. A lookup that fails counts as one that finds nothing.
So success vouches for the statement, but for the absence of the table only as far as the lookup
could tell: a server that drops the table and cannot be asked any more gives success, and one that
cannot be asked in the first place gives success without a statement.
-/

import ClusterFixture.Operation.Tables
import ClusterFixture.Proofs.Comparison
import ClusterFixture.Proofs.Lookups

set_option autoImplicit false

namespace ClusterFixture.Op

open ClusterFixture.Sql (Row RelationKind)

variable {σ : Type}

/-! ## What a lookup counts as -/

/-- Answers on which a relation counts as absent: there is no row, or the row is of another kind
than asked for, or there is no answer at all. -/
inductive CountsAbsent (kind : Option RelationKind) : Checked (List Row) → Prop where
  | none : CountsAbsent kind (.ok [])
  | other {row : Row} {rest : List Row} {expected actual : RelationKind} :
    kind = some expected → kindOf row = .ok actual → actual ≠ expected →
      CountsAbsent kind (.ok (row :: rest))
  | failed (f : Fault) : CountsAbsent kind (.error f)

/-- Answers on which it counts as present: there is a row, of the kind that is asked for. -/
inductive CountsPresent (kind : Option RelationKind) : Checked (List Row) → Prop where
  | any {row : Row} {rest : List Row} : kind = none → CountsPresent kind (.ok (row :: rest))
  | same {row : Row} {rest : List Row} {expected : RelationKind} :
    kind = some expected → kindOf row = .ok expected → CountsPresent kind (.ok (row :: rest))

/-- An answer counts one way or the other, or it has a row whose kind cannot be read. -/
theorem judged_cases (kind : Option RelationKind) (answer : Checked (List Row)) :
    (CountsAbsent kind answer ∧ ¬CountsPresent kind answer ∧
      (judged kind answer).map Finding.found = .ok false) ∨
    (CountsPresent kind answer ∧ ¬CountsAbsent kind answer ∧
      (judged kind answer).map Finding.found = .ok true) ∨
    (¬CountsAbsent kind answer ∧ ¬CountsPresent kind answer ∧
      ∃ f, (judged kind answer).map Finding.found = .error f) := by
  rcases answer with f | _ | ⟨row, rest⟩
  · exact .inl ⟨.failed f, nofun, rfl⟩
  · exact .inl ⟨.none, nofun, rfl⟩
  rcases kind with _ | expected
  · refine .inr (.inl ⟨.any rfl, ?_, rfl⟩)
    rintro (_ | ⟨hkind, _, _⟩)
    cases hkind
  rcases hrow : kindOf row with f | actual
  · -- The third column is missing, or its code is not known.
    refine .inr (.inr ⟨?_, ?_, f, ?_⟩)
    · rintro (_ | ⟨_, hactual, _⟩)
      rw [hrow] at hactual
      cases hactual
    · rintro (hkind | ⟨_, hactual⟩)
      · cases hkind
      · rw [hrow] at hactual
        cases hactual
    · simp only [judged, hrow]
      rfl
  have hjudged : (judged (some expected) (.ok (row :: rest))).map Finding.found =
      .ok (actual == expected) := by
    simp only [judged, hrow]
    rfl
  by_cases hsame : actual = expected
  · subst hsame
    refine .inr (.inl ⟨.same rfl hrow, ?_, ?_⟩)
    · rintro (_ | ⟨hkind, hactual, hne⟩)
      cases hkind
      rw [hrow] at hactual
      exact hne (Except.ok.inj hactual).symm
    · rw [hjudged, beq_self_eq_true]
  · refine .inl ⟨.other rfl hrow hsame, ?_, ?_⟩
    · rintro (hkind | ⟨hkind, hactual⟩)
      · cases hkind
      · cases hkind
        rw [hrow] at hactual
        exact hsame (Except.ok.inj hactual)
    · rw [hjudged, beq_eq_false_iff_ne.mpr hsame]

/-- Asking whether a table exists is one call; the answer is what the lookup counts as. -/
theorem went_tableExists (database table : String) (kind : Option RelationKind) (site : Site σ)
    (w : World σ) :
    ∃ w', runAt (tableExists database table kind) site w =
        ((judged kind (storageAnswer site database table (w.server, w.files)).1).map Finding.found,
          w') ∧
      Went w [.query { database } (Sql.Statement.tableStorage table)]
        (storageAnswer site database table (w.server, w.files)).2 w' := by
  obtain ⟨w', hrun, hwent⟩ := went_findTable database table kind site w
  refine ⟨w', ?_, hwent⟩
  rw [tableExists, runAt_bind, hrun]
  rcases judged kind (storageAnswer site database table (w.server, w.files)).1 with f | finding
  · rfl
  · rfl

/-! ## Two ways to drop -/

/-- The kinds of tables that are dropped by statements of their own. -/
inductive Removal where
  | table
  | external
  deriving DecidableEq, Repr

namespace Removal

/-- The statement that drops. -/
def statement (u : Removal) (table : String) : String :=
  match u with
  | .table => Sql.Statement.dropTable table
  | .external => Sql.Statement.dropExternalTable table

/-- The kind of relation that must be gone afterwards; nothing stands for any kind. -/
def kind : Removal → Option RelationKind
  | .table => none
  | .external => some .external

/-- Drops a table and checks that it is gone. -/
def operation (u : Removal) (table database : String) : Op σ Unit :=
  match u with
  | .table => dropTable table database
  | .external => dropExternalTable table database

/-- Does so if the table is found. -/
def conditional (u : Removal) (table database : String) : Op σ Unit :=
  match u with
  | .table => dropTableIfPresent table database
  | .external => dropExternalTableIfPresent table database

/-- What the server answers to the statement. -/
def answer (u : Removal) (site : Site σ) (table database : String) (state : σ × FileTree) :
    Checked Unit × (σ × FileTree) :=
  (site.services.execute { database } (u.statement table)).run state

/-- From a state of the server, the statement succeeds, and the table counts as absent when it is
looked up right after. -/
def Succeeds (u : Removal) (site : Site σ) (table database : String) (state : σ × FileTree) :
    Prop :=
  (u.answer site table database state).1 = .ok () ∧
    CountsAbsent u.kind
      (storageAnswer site database table (u.answer site table database state).2).1

theorem operation_eq (u : Removal) (table database : String) :
    (u.operation table database : Op σ Unit) = (do
      execute database (u.statement table)
      if ← tableExists database table u.kind then throw (stillThere table)) := by
  cases u <;> rfl

theorem conditional_eq (u : Removal) (table database : String) :
    (u.conditional table database : Op σ Unit) = (do
      if ← tableExists database table u.kind then u.operation table database) := by
  cases u <;> rfl

/-- Dropping succeeds exactly when the statement does and the table counts as absent right after.
A statement that fails ends the operation with its fault. -/
theorem runAt_operation (u : Removal) (table database : String) (site : Site σ) (w : World σ) :
    ((runAt (u.operation table database) site w).1 = .ok () ↔
      u.Succeeds site table database (w.server, w.files)) ∧
    (runAt (u.operation table database) site w).2.calls = w.calls ++
      .execute { database } (u.statement table) ::
        match (u.answer site table database (w.server, w.files)).1 with
        | .ok _ => [.query { database } (Sql.Statement.tableStorage table)]
        | .error _ => [] := by
  obtain ⟨w₁, hexecute, hsent⟩ := went_executeAt { database } (u.statement table) site w
  rw [operation_eq, Succeeds, execute]
  rcases hanswer : u.answer site table database (w.server, w.files) with ⟨f | _, after⟩
  · rw [← answer, hanswer] at hexecute
    rw [runAt_bind_error hexecute]
    exact ⟨by simp, hsent.calls⟩
  rw [← answer, hanswer] at hexecute hsent
  rw [runAt_bind_ok hexecute]
  obtain ⟨w', hexists, hwent⟩ := went_tableExists database table u.kind site w₁
  have hcalls : w'.calls = w.calls ++ .execute { database } (u.statement table) ::
      [.query { database } (Sql.Statement.tableStorage table)] := by
    rw [hwent.calls, hsent.calls, List.append_assoc]
    rfl
  rw [hsent.server, hsent.files] at hexists
  rcases judged_cases u.kind (storageAnswer site database table after).1 with
    ⟨habsent, _, hjudged⟩ | ⟨_, habsent, hjudged⟩ | ⟨habsent, _, f, hjudged⟩
  · rw [hjudged] at hexists
    rw [runAt_bind_ok hexists]
    exact ⟨⟨fun _ => ⟨rfl, habsent⟩, fun _ => rfl⟩, hcalls⟩
  · rw [hjudged] at hexists
    rw [runAt_bind_ok hexists]
    exact ⟨iff_of_false (by simp) fun h => habsent h.2, hcalls⟩
  · rw [hjudged] at hexists
    rw [runAt_bind_error hexists]
    exact ⟨iff_of_false (by simp) fun h => habsent h.2, hcalls⟩

end Removal

/-- Dropping a table succeeds exactly when the statement succeeds and the lookup that follows does
not report the relation: it answers no row, or a row of another kind than the one to be dropped, or
it fails, with whatever fault. The conditional form succeeds exactly when the lookup before does not
report the relation in this sense, or reports it and dropping succeeds from there on; in the first
case, and where the kind of the relation cannot be read, it sends nothing but that lookup. -/
theorem dropping_ok_iff (u : Removal) (table database : String) (site : Site σ) (w : World σ) :
    let guard := storageAnswer site database table (w.server, w.files)
    let conditional := runAt (u.conditional table database) site w
    ((runAt (u.operation table database) site w).1 = .ok () ↔
      u.Succeeds site table database (w.server, w.files)) ∧
    (conditional.1 = .ok () ↔ CountsAbsent u.kind guard.1 ∨
      (CountsPresent u.kind guard.1 ∧ u.Succeeds site table database guard.2)) ∧
    (.execute { database } (u.statement table) ∈ conditional.2.calls.drop w.calls.length ↔
      CountsPresent u.kind guard.1) := by
  intro guard conditional
  refine ⟨(u.runAt_operation table database site w).1, ?_⟩
  obtain ⟨w', hexists, hwent⟩ := went_tableExists database table u.kind site w
  have hlookup : ∀ after : World σ, after.calls = w'.calls →
      .execute { database } (u.statement table) ∉ after.calls.drop w.calls.length := by
    intro after hafter
    rw [hafter, hwent.calls, List.drop_left]
    simp
  have hconditional : conditional = runAt (do
      if ← tableExists database table u.kind then u.operation table database) site w := by
    rw [← u.conditional_eq]
  rcases judged_cases u.kind guard.1 with
    ⟨habsent, hpresent, hjudged⟩ | ⟨hpresent, habsent, hjudged⟩ | ⟨habsent, hpresent, f, hjudged⟩
  · -- Nothing is dropped.
    rw [hjudged] at hexists
    rw [hconditional, runAt_bind_ok hexists]
    exact ⟨⟨fun _ => .inl habsent, fun _ => rfl⟩,
      iff_of_false (hlookup w' rfl) hpresent⟩
  · rw [hjudged] at hexists
    obtain ⟨hok, hcalls⟩ := u.runAt_operation table database site w'
    rw [hconditional, runAt_bind_ok hexists]
    simp only [if_true]
    rw [hwent.server, hwent.files] at hok hcalls
    refine ⟨hok.trans ⟨fun h => .inr ⟨hpresent, h⟩, ?_⟩, iff_of_true ?_ hpresent⟩
    · rintro (h | ⟨_, h⟩)
      · exact absurd h habsent
      · exact h
    · rw [hcalls, hwent.calls, List.append_assoc, List.drop_left]
      simp
  · rw [hjudged] at hexists
    rw [hconditional, runAt_bind_error hexists]
    refine ⟨⟨nofun, ?_⟩, iff_of_false (hlookup w' rfl) hpresent⟩
    rintro (h | ⟨h, _⟩)
    · exact absurd h habsent
    · exact absurd h hpresent

/-- A server that does every statement and answers no query. -/
def speechless : Services Unit where
  query _ _ := fun state => (.error (.plain .connectionFailed "cannot connect"), state)
  execute _ _ := fun state => (.ok (), state)
  run _ := fun state => (.error (.plain .commandFailed "no commands"), state)

/-- Where the connection fails, both ways to drop report success without having seen the table
absent, and their conditional forms report success without having sent the statement. -/
theorem dropping_ok_without_connection :
    (storageAnswer (dataSite speechless) "db" "public.t" ((), ⟨[]⟩)).1 =
        .error (.plain .connectionFailed "cannot connect") ∧
      (runAt (dropTable "public.t" "db") (dataSite speechless) ⟨(), ⟨[]⟩, [], []⟩).1 = .ok () ∧
      (runAt (dropExternalTable "public.t" "db") (dataSite speechless) ⟨(), ⟨[]⟩, [], []⟩).1 =
        .ok () ∧
      (runAt (dropTableIfPresent "public.t" "db") (dataSite speechless) ⟨(), ⟨[]⟩, [], []⟩).1 =
        .ok () ∧
      (runAt (dropTableIfPresent "public.t" "db") (dataSite speechless)
          ⟨(), ⟨[]⟩, [], []⟩).2.calls =
        [.query { database := "db" } (Sql.Statement.tableStorage "public.t")] ∧
      (runAt (dropExternalTableIfPresent "public.t" "db") (dataSite speechless)
          ⟨(), ⟨[]⟩, [], []⟩).1 = .ok () ∧
      (runAt (dropExternalTableIfPresent "public.t" "db") (dataSite speechless)
          ⟨(), ⟨[]⟩, [], []⟩).2.calls =
        [.query { database := "db" } (Sql.Statement.tableStorage "public.t")] :=
  ⟨rfl, rfl, rfl, rfl, rfl, rfl, rfl⟩

end ClusterFixture.Op
