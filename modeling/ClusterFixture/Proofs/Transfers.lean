/-
What the comparison of a table with the source of a transfer reports, and what it does not.

The table is selected here and on the source, by two commands that are run loosely: how they ended
is noted in the log and then dropped. Only their outputs are compared. Two selects that fail print
nothing, so they agree, and the comparison succeeds although no row was read on either side.
-/

import ClusterFixture.Operation.Checks
import ClusterFixture.Proofs.Comparison

set_option autoImplicit false

namespace ClusterFixture.Op

open ClusterFixture.Settings (TransferSource)

variable {σ : Type}

/-! ## The two selects -/

/-- The statement that both sides run. -/
def transferSelect (table : String) (order : Option String) : String :=
  match order with
  | some o => "select * from " ++ table ++ " order by " ++ o
  | none => "select * from " ++ table

/-- The line that selects a table here. -/
def selectHere (table database : String) (order : Option String) : String :=
  "psql -d " ++ database ++ " -c '" ++ transferSelect table order ++ "'"

/-- The line that selects it on the source. -/
def selectThere (source : TransferSource) (table database : String) (order : Option String) :
    String :=
  "psql -p " ++ source.port.repr ++ " -h " ++ source.host ++ " -U " ++ source.user ++ " -d "
    ++ database ++ " -c '" ++ transferSelect table order ++ "'"

/-- The fault of a table that differs. -/
def transferMismatch (table database : String) : Fault :=
  .detailed .dataMismatch "Table differs between source and destination system"
    ("table " ++ table ++ " in database " ++ database)

/-- What two selects mean for the comparison: the first that could not be started decides, and else
their outputs do. -/
def transferVerdict (table database : String) :
    Checked CommandOutput → Checked CommandOutput → Checked Unit
  | .error f, _ => .error f
  | .ok _, .error f => .error f
  | .ok here, .ok there =>
    if here.stdout = there.stdout then .ok () else .error (transferMismatch table database)

/-- Comparing a table runs the select here and then the one on the source. -/
theorem runAt_compareWithSource (table database : String) (order : Option String) (site : Site σ)
    (w : World σ) {source : TransferSource} (hsource : site.settings.transferSource = some source) :
    (runAt (compareWithSource table database order) site w).1 =
      transferVerdict table database
        (lineAnswer site (selectHere table database order) (w.server, w.files)).1
        (lineAnswer site (selectThere source table database order)
          (lineAnswer site (selectHere table database order) (w.server, w.files)).2).1 := by
  have hopen : runAt (compareWithSource table database order) site w =
      runAt (do
        let here ← runLoosely (selectHere table database order)
        let there ← runLoosely (selectThere source table database order)
        if here.stdout != there.stdout then throw (transferMismatch table database)) site w := by
    unfold compareWithSource
    rw [runAt_bind_ok (runAt_settings site w), hsource]
    cases order <;> rfl
  rw [hopen, runAt_bind, runAt_runLoosely]
  rcases lineAnswer site (selectHere table database order) (w.server, w.files)
    with ⟨f | here, state⟩
  · rfl
  simp only []
  rw [runAt_bind, runAt_runLoosely]
  simp only [World.served_server, World.served_files]
  rcases lineAnswer site (selectThere source table database order) state with ⟨f | there, after⟩
  · rfl
  simp only [transferVerdict]
  by_cases hsame : here.stdout = there.stdout
  · rw [if_pos hsame, if_neg (by simp [hsame])]
    rfl
  · rw [if_neg hsame, if_pos (by simpa using hsame)]
    rfl

/-! ## What success means -/

/-- Both selects could be started, and printed the same. -/
def OutputsAgree (here there : Checked CommandOutput) : Prop :=
  ∃ a b, here = .ok a ∧ there = .ok b ∧ a.stdout = b.stdout

/-- Both selects could be started, and ended well. -/
def BothSelected (here there : Checked CommandOutput) : Prop :=
  ∃ a b, here = .ok a ∧ there = .ok b ∧ a.succeeded = true ∧ b.succeeded = true

theorem transferVerdict_eq_ok_iff (table database : String) (here there : Checked CommandOutput) :
    transferVerdict table database here there = .ok () ↔ OutputsAgree here there := by
  rcases here with f | a
  · exact iff_of_false nofun nofun
  rcases there with f | b
  · exact iff_of_false nofun nofun
  rw [transferVerdict]
  by_cases hsame : a.stdout = b.stdout
  · rw [if_pos hsame]
    exact iff_of_true rfl ⟨a, b, rfl, rfl, hsame⟩
  · rw [if_neg hsame]
    refine iff_of_false nofun ?_
    rintro ⟨_, _, hhere, hthere, h⟩
    cases hhere
    cases hthere
    exact hsame h

/-- A comparison with the source succeeds exactly when both selects could be started and printed the
same, however they ended. So what it is for, that a success vouches for two selects that ended well
and printed the same, holds exactly when both ended well, or when their outputs do not agree
anyway. -/
theorem compareWithSource_vouches_iff (table database : String) (order : Option String)
    (site : Site σ) (w : World σ) {source : TransferSource}
    (hsource : site.settings.transferSource = some source) :
    let here := lineAnswer site (selectHere table database order) (w.server, w.files)
    let there := lineAnswer site (selectThere source table database order) here.2
    let run := runAt (compareWithSource table database order) site w
    run.1 = transferVerdict table database here.1 there.1 ∧
      (run.1 = .ok () ↔ OutputsAgree here.1 there.1) ∧
      ((run.1 = .ok () → BothSelected here.1 there.1 ∧ OutputsAgree here.1 there.1) ↔
        BothSelected here.1 there.1 ∨ ¬OutputsAgree here.1 there.1) := by
  intro here there run
  have hverdict : run.1 = transferVerdict table database here.1 there.1 :=
    runAt_compareWithSource table database order site w hsource
  have hagree : run.1 = .ok () ↔ OutputsAgree here.1 there.1 := by
    rw [hverdict, transferVerdict_eq_ok_iff]
  refine ⟨hverdict, hagree, ?_⟩
  rw [hagree]
  constructor
  · intro h
    by_cases hsame : OutputsAgree here.1 there.1
    · exact .inl (h hsame).1
    · exact .inr hsame
  · rintro (hselected | hdiffer) hsame
    · exact ⟨hselected, hsame⟩
    · exact absurd hsame hdiffer

/-! ## Selects that fail unnoticed -/

/-- A site with a source for transfers. -/
def transferSite (services : Services σ) : Site σ where
  services := services
  settings := { (dataSite services).settings with
    transferSource := some ⟨"source", 5432, "gpadmin"⟩ }

/-- A host where every command ends with the same output. -/
def constantHost (output : CommandOutput) : Services Unit where
  query _ _ := fun state => (.error (.plain .queryFailed "no server"), state)
  execute _ _ := fun state => (.error (.plain .queryFailed "no server"), state)
  run _ := fun state => (.ok output, state)

/-- Where both sides print the same rows and end well, the comparison succeeds and vouches for
that. -/
theorem compareWithSource_vouches_iff_rows :
    (transferSite (constantHost ⟨0, " c1\n----\n 1\n", ""⟩)).settings.transferSource =
        some ⟨"source", 5432, "gpadmin"⟩ ∧
      (runAt (compareWithSource "public.t" "db" (some "c1"))
        (transferSite (constantHost ⟨0, " c1\n----\n 1\n", ""⟩)) ⟨(), ⟨[]⟩, [], []⟩).1 =
        .ok () := by
  have hsource : (transferSite (constantHost ⟨0, " c1\n----\n 1\n", ""⟩)).settings.transferSource =
      some ⟨"source", 5432, "gpadmin"⟩ := rfl
  obtain ⟨-, hagree, -⟩ := compareWithSource_vouches_iff "public.t" "db" (some "c1")
    (transferSite (constantHost ⟨0, " c1\n----\n 1\n", ""⟩)) ⟨(), ⟨[]⟩, [], []⟩ hsource
  exact ⟨hsource, hagree.mpr ⟨_, _, rfl, rfl, rfl⟩⟩

/-- Where no server can be reached, neither here nor on the source, both selects end with status 2
and print nothing, and the comparison succeeds. -/
theorem compareWithSource_unreachable :
    let site := transferSite (constantHost ⟨2, "", "psql: could not connect to server"⟩)
    lineAnswer site (selectHere "public.t" "db" none) ((), ⟨[]⟩) =
        (.ok ⟨2, "", "psql: could not connect to server"⟩, ((), ⟨[]⟩)) ∧
      lineAnswer site (selectThere ⟨"source", 5432, "gpadmin"⟩ "public.t" "db" none) ((), ⟨[]⟩) =
        (.ok ⟨2, "", "psql: could not connect to server"⟩, ((), ⟨[]⟩)) ∧
      (runAt (compareWithSource "public.t" "db" none) site ⟨(), ⟨[]⟩, [], []⟩).1 = .ok () := by
  intro site
  have hsource : site.settings.transferSource = some ⟨"source", 5432, "gpadmin"⟩ := rfl
  refine ⟨rfl, rfl, ?_⟩
  rw [runAt_compareWithSource "public.t" "db" none site ⟨(), ⟨[]⟩, [], []⟩ hsource,
    transferVerdict_eq_ok_iff]
  exact ⟨_, _, rfl, rfl, rfl⟩

end ClusterFixture.Op
