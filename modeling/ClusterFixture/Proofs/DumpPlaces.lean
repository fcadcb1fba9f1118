/-
Where the dumps of a listing are.

A dump has the trimmed name of its table with one of two endings, in the data directory. When the
names have no slash, each dump is a file right in one directory, the same for all; and the endings
and the names tell the dumps apart, also when a name ends like a dump itself. `Room` says that all
these files can be written and read, and that lasts while they are written.
-/

import ClusterFixture.Proofs.Dumping
import ClusterFixture.Proofs.Files
import ClusterFixture.Proofs.Paths
import Mathlib.Data.List.DropRight

set_option autoImplicit false

namespace ClusterFixture

open ClusterFixture.Sql (TableName)

variable {σ : Type}

/-! ## Trimming twice -/

namespace Text

theorem trimChars_trimChars (cs : List Char) : trimChars (trimChars cs) = trimChars cs := by
  have hend : ∀ ds, trimEndChars ds = ds.rdropWhile isBlank := fun _ => rfl
  have hstart : trimStartChars (trimChars cs) = trimChars cs := by
    -- Trimming at the end leaves a prefix, which begins as the whole does: with no blank.
    have hprefix : trimChars cs <+: trimStartChars cs := by
      rw [trimChars, hend]
      exact List.rdropWhile_prefix isBlank _
    rcases hcs : trimChars cs with _ | ⟨c, rest⟩
    · rfl
    · rw [hcs] at hprefix
      obtain ⟨more, hmore⟩ := hprefix
      have hself : (c :: (rest ++ more)).dropWhile isBlank = c :: (rest ++ more) := by
        rw [← List.cons_append, hmore]
        exact List.dropWhile_idempotent isBlank cs
      have hc : ¬isBlank c = true := List.dropWhile_eq_self_iff.mp hself (by simp)
      rw [trimStartChars, List.dropWhile_cons, if_neg hc]
  rw [trimChars, hstart, trimChars, hend, hend, List.rdropWhile_idempotent]

@[simp] theorem trim_trim (s : String) : trim (trim s) = trim s := by
  rw [trim, toList_trim, trimChars_trimChars, ← toList_trim, String.ofList_toList]

end Text

/-- Statements about a table do not see the blanks around its name. -/
theorem Sql.Statement.columnOrder_congr {a b : String} (h : Text.trim a = Text.trim b) :
    columnOrder a = columnOrder b := by
  rw [columnOrder, columnOrder, h]

theorem Sql.Statement.copyTable_congr {a b : String} (h : Text.trim a = Text.trim b)
    (order path : String) : copyTable a order path = copyTable b order path := by
  rw [copyTable, copyTable, h]

/-! ## Names -/

namespace Op

/-- The endings of the two dumps of a table. -/
def endings : List String := [backupEnding, restoreEnding]

section

variable {name : String} {ending : String}

theorem append_ending_ne_empty (hending : ending ∈ endings) : name ++ ending ≠ "" := by
  rcases List.mem_pair.mp hending with rfl | rfl
  · exact append_backupEnding_ne_empty _
  · exact append_restoreEnding_ne_empty _

/-- Both endings have a character that the other one does not end in. -/
theorem getLast?_append_endings (name : String) :
    (name ++ backupEnding).toList.getLast? = some 'p' ∧
      (name ++ restoreEnding).toList.getLast? = some 'e' := by
  have hbackup : backupEnding.toList = "_backu".toList ++ ['p'] := by decide
  have hrestore : restoreEnding.toList = "_restor".toList ++ ['e'] := by decide
  constructor
  · rw [String.toList_append, hbackup, ← List.append_assoc, List.getLast?_concat]
  · rw [String.toList_append, hrestore, ← List.append_assoc, List.getLast?_concat]

theorem getLast?_append_ending_ne_dot (hending : ending ∈ endings) :
    (name ++ ending).toList.getLast? ≠ some '.' := by
  obtain ⟨hbackup, hrestore⟩ := getLast?_append_endings name
  rcases List.mem_pair.mp hending with rfl | rfl
  · rw [hbackup]
    decide
  · rw [hrestore]
    decide

/-- What ends like a backup never ends like a restored dump. -/
theorem append_backup_ne_append_restore (name other : String) :
    name ++ backupEnding ≠ other ++ restoreEnding := by
  intro h
  have hlast := (getLast?_append_endings name).1
  rw [h, (getLast?_append_endings other).2] at hlast
  exact absurd hlast (by decide)

/-- The two endings are told apart, and so are the names before them. -/
theorem append_ending_inj {other : String} {ending' : String} (hending : ending ∈ endings)
    (hending' : ending' ∈ endings) :
    name ++ ending = other ++ ending' ↔ name = other ∧ ending = ending' := by
  refine ⟨fun h => ?_, fun ⟨hname, hend⟩ => by rw [hname, hend]⟩
  have hsame : ending = ending' := by
    rcases List.mem_pair.mp hending with rfl | rfl
    · rcases List.mem_pair.mp hending' with rfl | rfl
      · rfl
      · exact absurd h (append_backup_ne_append_restore name other)
    · rcases List.mem_pair.mp hending' with rfl | rfl
      · exact absurd h.symm (append_backup_ne_append_restore other name)
      · rfl
  subst hsame
  exact ⟨(String.append_left_inj ending).mp h, rfl⟩

/-- A name without a slash becomes a part of a path, whatever ending it gets. -/
theorem isPart_append_ending (hslash : '/' ∉ name.toList) (hending : ending ∈ endings) :
    Path.IsPart (name ++ ending) := by
  refine ⟨append_ending_ne_empty hending, ?_, ?_⟩
  · intro hdot
    exact getLast?_append_ending_ne_dot hending (by rw [hdot]; decide)
  · rw [String.toList_append, List.mem_append]
    rintro (hname | hend)
    · exact hslash hname
    · rcases List.mem_pair.mp hending with rfl | rfl
      · exact absurd hend (by decide)
      · exact absurd hend (by decide)

theorem append_ending_ne_up (hending : ending ∈ endings) : name ++ ending ≠ ".." := by
  intro hup
  exact getLast?_append_ending_ne_dot hending (by rw [hup]; decide)

end

/-- The name of a dump of a table. -/
def dumpName (t : TableName) (ending : String) : String := Text.trim t.qualified ++ ending

theorem dumpName_ne_empty (t : TableName) {ending : String} (hending : ending ∈ endings) :
    dumpName t ending ≠ "" :=
  append_ending_ne_empty hending

/-- The name of a backup is never that of a restored dump, not even when the name of one table ends
like the dump of another one. -/
theorem dumpName_backup_ne_restore (t u : TableName) :
    dumpName t backupEnding ≠ dumpName u restoreEnding :=
  append_backup_ne_append_restore _ _

theorem dumpName_inj {t u : TableName} {ending : String}
    (h : dumpName t ending = dumpName u ending) :
    Text.trim t.qualified = Text.trim u.qualified :=
  (String.append_left_inj ending).mp h

/-- The name of a dump is a part of a path, if the name of the table has no slash. -/
theorem isPart_dumpName {t : TableName} (hslash : '/' ∉ (Text.trim t.qualified).toList)
    {ending : String} (hending : ending ∈ endings) : Path.IsPart (dumpName t ending) :=
  isPart_append_ending hslash hending

/-! ## Places -/

/-- The path of a dump, as the server gets it. -/
def dumpPath (site : Site σ) (t : TableName) (ending : String) : String :=
  site.dataPath (dumpName t ending)

/-- The parts that lead to the data directory. -/
def dataParts (site : Site σ) : List String :=
  (if Path.isAbsolute site.settings.dataDirectory then [] else Path.parts site.directory) ++
    Path.parts site.settings.dataDirectory

theorem dumpPath_eq_ok (site : Site σ) (t : TableName) {ending : String}
    (hending : ending ∈ endings) :
    Path.absolute site.directory (Path.join site.settings.dataDirectory (dumpName t ending)) =
      .ok (dumpPath site t ending) := by
  obtain ⟨full, hfull⟩ := Path.exists_absolute site.directory
    (Path.join site.settings.dataDirectory (dumpName t ending))
    (Path.join_ne_empty _ _ (dumpName_ne_empty t hending))
  rw [dumpPath, Site.dataPath, hfull]

/-- A dump is a file right in the data directory. -/
theorem parts_dumpPath (site : Site σ) {t : TableName} {ending : String}
    (hending : ending ∈ endings) (hslash : '/' ∉ (Text.trim t.qualified).toList) :
    Path.parts (dumpPath site t ending) = dataParts site ++ [dumpName t ending] := by
  have hpart := isPart_dumpName hslash hending
  have hname := Path.isAbsolute_of_isPart hpart
  -- The name is one part, and it does not start at the root, so it stays behind the directory.
  rw [Path.parts_absolute (dumpPath_eq_ok site t hending), Path.isAbsolute_join _ _ hname,
    Path.parts_join _ _ hname, Path.parts_of_isPart hpart, dataParts, List.append_assoc]

/-- The path of a dump leads there from every working directory. -/
theorem isAbsolute_dumpPath {site : Site σ} (habsolute : Path.isAbsolute site.directory = true)
    (t : TableName) {ending : String} (hending : ending ∈ endings) :
    Path.isAbsolute (dumpPath site t ending) = true := by
  rw [Path.isAbsolute_absolute (dumpPath_eq_ok site t hending), habsolute, Bool.or_true]

/-- All dumps of some tables have room in one directory. -/
def Room (site : Site σ) (tables : List TableName) (dir : Place) (files : FileTree) : Prop :=
  ∀ t ∈ tables, ∀ ending ∈ endings,
    FileTree.Slot files site.place (dumpPath site t ending) dir (dumpName t ending)

theorem Room.put {site : Site σ} {tables : List TableName} {dir : Place} {files : FileTree}
    (hroom : Room site tables dir files) {t : TableName} (ht : t ∈ tables) {ending : String}
    (hending : ending ∈ endings) (content : Text.Bytes) {mode : Nat}
    (hopen : FileTree.IsOpen mode) :
    Room site tables dir (files.put (dir ++ [dumpName t ending]) (.file content mode)) :=
  fun u hu other hother => (hroom u hu other hother).put (hroom t ht ending hending) content hopen

/-- If every dump can be held, all of them have room, in the directory that their paths share. -/
theorem exists_room {site : Site σ} (habsolute : Path.isAbsolute site.directory = true)
    {tables : List TableName} {files : FileTree}
    (hslash : ∀ t ∈ tables, '/' ∉ (Text.trim t.qualified).toList)
    (hholds : ∀ t ∈ tables, ∀ ending ∈ endings,
      files.CanHold site.place (dumpPath site t ending)) :
    ∃ dir, Room site tables dir files := by
  have hslot : ∀ t ∈ tables, ∀ ending ∈ endings, ∃ dir,
      files.follow [] (dataParts site) = .ok dir ∧
        FileTree.Slot files site.place (dumpPath site t ending) dir (dumpName t ending) := by
    intro t ht ending hending
    have hslot := FileTree.exists_slot_of_canHold (parts_dumpPath site hending (hslash t ht))
      (append_ending_ne_up hending) (hholds t ht ending hending)
    rwa [FileTree.start, isAbsolute_dumpPath habsolute t hending, if_pos rfl] at hslot
  -- All paths share the way to the data directory. It fails only where there is no table at all,
  -- and then any directory will do.
  rcases hfollow : files.follow [] (dataParts site) with e | dir
  · refine ⟨[], fun t ht ending hending => ?_⟩
    obtain ⟨dir, hdir, _⟩ := hslot t ht ending hending
    rw [hfollow] at hdir
    cases hdir
  · refine ⟨dir, fun t ht ending hending => ?_⟩
    obtain ⟨dir', hdir, hroom⟩ := hslot t ht ending hending
    rw [hfollow] at hdir
    cases hdir
    exact hroom

end Op

end ClusterFixture
