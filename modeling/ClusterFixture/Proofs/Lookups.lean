/-
What a lookup of a table comes to.

A lookup sends one query. A row means that the relation is there, and where a kind is asked for, its
third column tells the kind. A query that fails counts as finding nothing, whatever the fault is; it
is kept beside the finding. Only a row whose kind cannot be read makes the lookup itself fail.
-/

import ClusterFixture.Operation.Catalog
import ClusterFixture.Proofs.Running

set_option autoImplicit false

namespace ClusterFixture.Op

open ClusterFixture.Sql (Row RelationKind)

variable {σ : Type}

/-- What a server answers when it is asked for the storage of a table. -/
def storageAnswer (site : Site σ) (database table : String) (state : σ × FileTree) :
    Checked (List Row) × (σ × FileTree) :=
  (site.services.query { database } (Sql.Statement.tableStorage table)).run state

/-- The kind that the row of a relation tells. -/
def kindOf (row : Row) : Checked RelationKind := do RelationKind.ofCode (← row.text 2)

/-- What a lookup makes of an answer. -/
def judged (kind : Option RelationKind) : Checked (List Row) → Checked Finding
  | .error f => .ok { found := false, failure := some f }
  | .ok [] => .ok { found := false }
  | .ok (row :: _) =>
    match kind with
    | none => .ok { found := true }
    | some expected => (kindOf row).map fun actual => { found := actual == expected }

/-- Asking for the first row is one call. -/
theorem went_firstRow? (database statement : String) (site : Site σ) (w : World σ) :
    ∃ w', runAt (firstRow? database statement) site w =
        (((site.services.query { database } statement).run (w.server, w.files)).1.map List.head?,
          w') ∧
      Went w [.query { database } statement]
        ((site.services.query { database } statement).run (w.server, w.files)).2 w' := by
  obtain ⟨w', hquery, hwent⟩ := went_queryAt { database } statement site w
  refine ⟨w', ?_, hwent⟩
  rw [firstRow?, query, runAt_bind, hquery]
  rcases ((site.services.query { database } statement).run (w.server, w.files)).1 with f | rows
  · rfl
  · rfl

/-- A lookup makes one call, and judges what the server answers. -/
theorem went_findTable (database table : String) (kind : Option RelationKind) (site : Site σ)
    (w : World σ) :
    ∃ w', runAt (findTable database table kind) site w =
        (judged kind (storageAnswer site database table (w.server, w.files)).1, w') ∧
      Went w [.query { database } (Sql.Statement.tableStorage table)]
        (storageAnswer site database table (w.server, w.files)).2 w' := by
  obtain ⟨w', hrow, hwent⟩ := went_firstRow? database (Sql.Statement.tableStorage table) site w
  refine ⟨w', ?_, hwent⟩
  rw [findTable, runAt_bind_ok (runAt_attempt _ site w), hrow, ← storageAnswer]
  rcases (storageAnswer site database table (w.server, w.files)).1 with f | _ | ⟨row, rest⟩
  · rfl
  · rfl
  cases kind with
  | none => rfl
  | some expected =>
    have hkind : runAt (check (kindOf row) >>= fun actual =>
        (pure { found := actual == expected } : Op σ Finding)) site w' =
        ((kindOf row).map fun actual => { found := actual == expected }, w') := by
      rw [runAt_bind, runAt_check]
      rcases kindOf row with f | actual
      · rfl
      · rfl
    exact hkind

end ClusterFixture.Op
