/-
Writing one file and leaving the others alone.

Whether a path leads somewhere depends on the directories on its way, and a file that is written
never stands on the way of another one. So a path that can hold a file keeps doing so while other
files are written, and what it holds stays. `CanHold` says of a path that whatever is written there
can be read again; `Slot` is the same with the place and the permissions named, which is the form
that survives other writings. A file that is taken away stands on nobody's way either.
-/

import ClusterFixture.FileTree

set_option autoImplicit false

namespace ClusterFixture.FileTree

open ClusterFixture.Text (Bytes)

/-! ## Places -/

@[simp] theorem node?_nil (t : FileTree) : t.node? [] = some (.directory rootMode) := rfl

theorem node?_of_ne_nil (t : FileTree) {p : Place} (hp : p ≠ []) :
    t.node? p = (t.nodes.find? fun entry => entry.1 == p).map (·.2) := by
  rw [node?, if_neg (by simpa using hp)]

/-- Putting a node somewhere changes what is there and nothing else. -/
theorem node?_put (t : FileTree) {p : Place} (hp : p ≠ []) (n : FileNode) (q : Place) :
    (t.put p n).node? q = if q = p then some n else t.node? q := by
  by_cases hq : q = []
  · subst hq
    rw [if_neg (Ne.symm hp)]
    rfl
  · rw [node?_of_ne_nil _ hq, node?_of_ne_nil _ hq, put]
    split
    · next hany =>
      -- The place is taken: the entries keep their places, and those at `p` get the new node.
      rw [List.find?_map, Option.map_map]
      have hsame : ((fun entry : Place × FileNode => entry.1 == q) ∘
          fun entry => if (entry.1 == p) = true then (p, n) else entry) =
          fun entry => entry.1 == q := by
        funext entry
        by_cases h : entry.1 = p
        · simp [h]
        · simp [h]
      rw [hsame]
      by_cases hqp : q = p
      · subst hqp
        rw [if_pos rfl]
        rcases hfind : t.nodes.find? fun entry => entry.1 == q with _ | entry
        · obtain ⟨entry, hmem, hentry⟩ := List.any_eq_true.mp hany
          exact absurd hentry (List.find?_eq_none.mp hfind entry hmem)
        · have hentry := List.find?_some hfind
          rw [hfind]
          simp only [Option.map_some, Function.comp, hentry, if_true]
      · rw [if_neg hqp]
        rcases hfind : t.nodes.find? fun entry => entry.1 == q with _ | entry
        · rw [hfind]
          rfl
        · have hentry : entry.1 = q := by simpa using List.find?_some hfind
          have hne : (entry.1 == p) = false := by simpa [hentry] using hqp
          rw [hfind]
          simp only [Option.map_some, Function.comp, hne, Bool.false_eq_true, if_false]
    · next hany =>
      -- The place is free: the new entry stands last, and no other one is for `p`.
      rw [List.find?_append]
      by_cases hqp : q = p
      · subst hqp
        have hnone : t.nodes.find? (fun entry => entry.1 == q) = none := by
          rw [List.find?_eq_none]
          intro entry hmem hentry
          exact hany (List.any_eq_true.mpr ⟨entry, hmem, hentry⟩)
        rw [hnone, if_pos rfl]
        simp
      · rw [if_neg hqp]
        have hne : (p == q) = false := by simpa using Ne.symm hqp
        simp [hne]

/-- Putting a node where no directory is takes the place of none. -/
theorem node?_put_of_directory {t : FileTree} {p q : Place} {mode : Nat} (hp : p ≠ [])
    (hfree : ∀ m, t.node? p ≠ some (.directory m)) (n : FileNode)
    (hq : t.node? q = some (.directory mode)) : (t.put p n).node? q = some (.directory mode) := by
  have hne : q ≠ p := by
    rintro rfl
    exact hfree mode hq
  rw [node?_put t hp, if_neg hne, hq]

/-- Taking a node away leaves nothing there and everything else. -/
theorem node?_erase (t : FileTree) {p : Place} (hp : p ≠ []) (q : Place) :
    (t.erase p).node? q = if q = p then none else t.node? q := by
  by_cases hq : q = []
  · subst hq
    rw [if_neg (Ne.symm hp)]
    rfl
  · rw [node?_of_ne_nil _ hq, node?_of_ne_nil _ hq, erase, List.find?_filter]
    by_cases hqp : q = p
    · subst hqp
      rw [if_pos rfl, List.find?_eq_none.mpr]
      · rfl
      · simp
    · rw [if_neg hqp]
      congr 2
      funext entry
      by_cases hentry : entry.1 = q
      · simp [hentry, hqp]
      · simp [hentry]

/-! ## Ways -/

/-- Where a path starts: at the root, or where one is. -/
def start (here : Place) (path : String) : Place := if Path.isAbsolute path then [] else here

/-- From a directory that can be gone through, a way goes on where its first part leads. -/
theorem follow_cons {t : FileTree} {here next : Place} {part : String} {mode : Nat}
    (hdir : t.node? here = some (.directory mode)) (hpermits : permits mode ownerExecute = true)
    (hstep : step here part = .ok next) (rest : List String) :
    t.follow here (part :: rest) = t.follow next rest := by
  rw [follow, hdir]
  simp only [hpermits, hstep, Bool.not_true, Bool.false_eq_true, if_false]

/-- A way goes on to exist while the directories on it do. -/
theorem follow_of_directories {t t' : FileTree}
    (hdirs : ∀ q mode, t.node? q = some (.directory mode) → t'.node? q = some (.directory mode))
    {here p : Place} {parts : List String} (h : t.follow here parts = .ok p) :
    t'.follow here parts = .ok p := by
  induction parts generalizing here with
  | nil => exact h
  | cons part rest ih =>
    rw [follow] at h ⊢
    rcases hnode : t.node? here with _ | ⟨content, mode⟩ | mode
    · rw [hnode] at h
      cases h
    · rw [hnode] at h
      cases h
    · rw [hnode] at h
      rw [hdirs here mode hnode]
      simp only [] at h ⊢
      split at h
      · cases h
      · next hpermits =>
        rw [if_neg hpermits]
        rcases hstep : step here part with e | next
        · rw [hstep] at h
          cases h
        · rw [hstep] at h
          exact ih h

/-- A way whose last part is a name ends right below a directory that the parts before lead to. -/
theorem follow_append_name {t : FileTree} {here p : Place} {base : List String} {name : String}
    (hname : name ≠ "..") (h : t.follow here (base ++ [name]) = .ok p) :
    ∃ dir mode, t.follow here base = .ok dir ∧ t.node? dir = some (.directory mode) ∧
      p = dir ++ [name] := by
  induction base generalizing here with
  | nil =>
    rw [List.nil_append, follow] at h
    rcases hnode : t.node? here with _ | ⟨content, mode⟩ | mode
    · rw [hnode] at h
      cases h
    · rw [hnode] at h
      cases h
    · rw [hnode, step, if_neg hname] at h
      simp only [] at h
      split at h
      · cases h
      · split at h
        · cases h
        · next hsteps =>
          split at hsteps
          · cases hsteps
          · cases hsteps
            rw [follow] at h
            cases h
            exact ⟨here, mode, rfl, hnode, rfl⟩
  | cons part rest ih =>
    rw [List.cons_append, follow] at h
    rcases hnode : t.node? here with _ | ⟨content, mode⟩ | mode
    · rw [hnode] at h
      cases h
    · rw [hnode] at h
      cases h
    · rw [hnode] at h
      simp only [] at h
      split at h
      · cases h
      · next hpermits =>
        rcases hstep : step here part with e | next
        · rw [hstep] at h
          cases h
        · rw [hstep] at h
          obtain ⟨dir, dirMode, hfollow, hdir, hp⟩ := ih h
          refine ⟨dir, dirMode, ?_, hdir, hp⟩
          rw [follow, hnode]
          simp only []
          rw [if_neg hpermits, hstep]
          exact hfollow

/-- What it takes for a path to be located. -/
theorem locate_eq_ok_iff {t : FileTree} {here p : Place} {path : String} :
    t.locate here path = .ok p ↔
      (path.contains '\x00' = false ∧ path.isEmpty = false ∧ path.utf8ByteSize ≤ pathLimit) ∧
        t.follow (start here path) (Path.parts path) = .ok p ∧
        (asksDirectory path = true → ∀ content mode, t.node? p ≠ some (.file content mode)) := by
  rw [locate, ← start]
  split
  · next hnul => simp [hnul]
  split
  · next hempty => simp [hempty]
  split
  · next hlong => simp [Nat.not_le.mpr hlong]
  next hnul hempty hlong =>
    rw [and_iff_right ⟨by simpa using hnul, by simpa using hempty, Nat.le_of_not_lt hlong⟩]
    rcases t.follow (start here path) (Path.parts path) with e | q
    · simp
    · simp only [Except.ok.injEq]
      constructor
      · intro h
        split at h
        · next content mode hfile =>
          split at h
          · cases h
          · next hplain => exact ⟨Except.ok.inj h, fun hasks => absurd hasks hplain⟩
        · next hother =>
          cases h
          exact ⟨rfl, fun _ content mode hfile => hother content mode hfile⟩
      · rintro ⟨rfl, hdirectory⟩
        split
        · next content mode hfile =>
          rw [if_neg fun hasks => hdirectory hasks content mode hfile]
        · rfl

/-- An absolute path leads to the same place from everywhere. -/
theorem locate_of_isAbsolute (t : FileTree) (here there : Place) {path : String}
    (habs : Path.isAbsolute path = true) : t.locate here path = t.locate there path := by
  rw [locate, locate, if_pos habs, if_pos habs]

theorem write_of_isAbsolute (t : FileTree) (here there : Place) {path : String}
    (habs : Path.isAbsolute path = true) (content : Bytes) :
    t.write here path content = t.write there path content := by
  rw [write, write, locate_of_isAbsolute t here there habs]

/-- A file is read where its path leads, if its permissions allow it. -/
theorem read_eq_ok_iff {t : FileTree} {here : Place} {path : String} {content : Bytes} :
    t.read here path = .ok content ↔
      ∃ p mode, t.locate here path = .ok p ∧ t.node? p = some (.file content mode) ∧
        permits mode ownerRead = true := by
  rw [read, stat]
  constructor
  · intro h
    rcases hlocate : t.locate here path with e | p
    · simp [hlocate, bind, Except.bind] at h
    rcases hnode : t.node? p with _ | ⟨old, mode⟩ | mode
    · simp [hlocate, hnode, bind, Except.bind, throw, throwThe, MonadExceptOf.throw] at h
    · simp only [hlocate, hnode, bind, Except.bind, pure, Except.pure] at h
      split at h
      · next hread =>
        cases h
        exact ⟨p, mode, rfl, hnode, hread⟩
      · cases h
    · simp [hlocate, hnode, bind, Except.bind, pure, Except.pure, throw, throwThe,
        MonadExceptOf.throw] at h
  · rintro ⟨p, mode, hlocate, hfile, hread⟩
    simp [hlocate, hfile, hread, bind, Except.bind, pure, Except.pure]

/-- A file is written where its path leads: anew with its old permissions, or as a new file in a
directory that can be changed. -/
theorem write_eq_ok_iff {t t' : FileTree} {here : Place} {path : String} {content : Bytes} :
    t.write here path content = .ok t' ↔
      ∃ p, t.locate here path = .ok p ∧
        ((∃ old mode, t.node? p = some (.file old mode) ∧ permits mode ownerWrite = true ∧
            t.put p (.file content mode) = t') ∨
          (t.node? p = none ∧ asksDirectory path = false ∧ t.canChangeNames p = true ∧
            t.put p (.file content newFileMode) = t')) := by
  rw [write]
  constructor
  · intro h
    rcases hlocate : t.locate here path with e | p
    · simp [hlocate, bind, Except.bind] at h
    refine ⟨p, rfl, ?_⟩
    rcases hnode : t.node? p with _ | ⟨old, mode⟩ | mode
    · simp only [hlocate, hnode, bind, Except.bind, pure, Except.pure] at h
      split at h
      · cases h
      · next hplain =>
        split at h
        · next hchange => exact .inr ⟨rfl, by simpa using hplain, hchange, Except.ok.inj h⟩
        · cases h
    · simp only [hlocate, hnode, bind, Except.bind, pure, Except.pure] at h
      split at h
      · next hwrite => exact .inl ⟨old, mode, rfl, hwrite, Except.ok.inj h⟩
      · cases h
    · simp [hlocate, hnode, bind, Except.bind, throw, throwThe, MonadExceptOf.throw] at h
  · rintro ⟨p, hlocate, ⟨old, mode, hfile, hwrite, rfl⟩ | ⟨hnone, hplain, hchange, rfl⟩⟩
    · simp [hlocate, hfile, hwrite, bind, Except.bind, pure, Except.pure]
    · simp [hlocate, hnone, hplain, hchange, bind, Except.bind, pure, Except.pure]

/-! ## Room for a file -/

/-- Whatever is written to the path can be read from it again. -/
def CanHold (t : FileTree) (here : Place) (path : String) : Prop :=
  ∀ content, ∃ t', t.write here path content = .ok t' ∧ t'.read here path = .ok content

/-- Permissions under which a file can be written and read. -/
def IsOpen (mode : Nat) : Prop := permits mode ownerRead = true ∧ permits mode ownerWrite = true

theorem isOpen_newFileMode : IsOpen newFileMode := by
  constructor <;> decide

/-- Room for a file of a name in a directory: the path leads there, and the file is missing and can
be added, or is there and open. -/
structure Slot (t : FileTree) (here : Place) (path : String) (dir : Place) (name : String) :
    Prop where
  located : t.locate here path = .ok (dir ++ [name])
  inside : ∃ mode, t.node? dir = some (.directory mode)
  plain : asksDirectory path = false
  ready : (t.node? (dir ++ [name]) = none ∧ t.canChangeNames (dir ++ [name]) = true) ∨
    ∃ content mode, t.node? (dir ++ [name]) = some (.file content mode) ∧ IsOpen mode

/-- A file of this content is at a place. -/
def Holds (t : FileTree) (p : Place) (content : Bytes) : Prop :=
  ∃ mode, t.node? p = some (.file content mode)

namespace Slot

variable {t : FileTree} {here : Place} {path : String} {dir : Place} {name : String}

/-- There is room where a lookup finds it. -/
theorem of_lookup {dirMode : Nat} (hnul : '\x00' ∉ path.toList) (hempty : path.isEmpty = false)
    (hshort : path.utf8ByteSize ≤ pathLimit) (hplain : asksDirectory path = false)
    (hfollow : t.follow (start here path) (Path.parts path) = .ok (dir ++ [name]))
    (hdir : t.node? dir = some (.directory dirMode))
    (hready : (t.node? (dir ++ [name]) = none ∧ t.canChangeNames (dir ++ [name]) = true) ∨
      ∃ content mode, t.node? (dir ++ [name]) = some (.file content mode) ∧ IsOpen mode) :
    Slot t here path dir name := by
  refine ⟨locate_eq_ok_iff.mpr ⟨⟨?_, hempty, hshort⟩, hfollow, fun hasks => ?_⟩, ⟨dirMode, hdir⟩,
    hplain, hready⟩
  · rw [String.contains_char_eq]
    exact decide_eq_false hnul
  · rw [hplain] at hasks
    cases hasks

theorem not_directory (h : Slot t here path dir name) (mode : Nat) :
    t.node? (dir ++ [name]) ≠ some (.directory mode) := by
  rcases h.ready with ⟨hnone, _⟩ | ⟨content, fileMode, hfile, _⟩
  · rw [hnone]
    simp
  · rw [hfile]
    simp

/-- Writing where there is room puts the file there and does nothing else. -/
theorem write (h : Slot t here path dir name) (content : Bytes) :
    ∃ mode, IsOpen mode ∧
      t.write here path content = .ok (t.put (dir ++ [name]) (.file content mode)) := by
  rcases h.ready with ⟨hnone, hchange⟩ | ⟨old, mode, hfile, hopen⟩
  · exact ⟨newFileMode, isOpen_newFileMode,
      write_eq_ok_iff.mpr ⟨_, h.located, .inr ⟨hnone, h.plain, hchange, rfl⟩⟩⟩
  · exact ⟨mode, hopen, write_eq_ok_iff.mpr ⟨_, h.located, .inl ⟨old, mode, hfile, hopen.2, rfl⟩⟩⟩

/-- What a slot holds can be read. -/
theorem read (h : Slot t here path dir name) {content : Bytes}
    (hholds : Holds t (dir ++ [name]) content) : t.read here path = .ok content := by
  obtain ⟨mode, hfile⟩ := hholds
  rcases h.ready with ⟨hnone, _⟩ | ⟨old, oldMode, hold, hopen⟩
  · rw [hnone] at hfile
    cases hfile
  · obtain ⟨rfl, rfl⟩ : old = content ∧ oldMode = mode := by
      rw [hold] at hfile
      simpa using hfile
    exact read_eq_ok_iff.mpr ⟨_, oldMode, h.located, hfile, hopen.1⟩

/-- Room is never lost by writing where there is room. -/
theorem put (h : Slot t here path dir name) {there : Place} {path' : String} {dir' : Place}
    {name' : String} (h' : Slot t there path' dir' name') (content : Bytes) {mode : Nat}
    (hopen : IsOpen mode) :
    Slot (t.put (dir' ++ [name']) (.file content mode)) here path dir name := by
  obtain ⟨hlegal, hfollow, _⟩ := locate_eq_ok_iff.mp h.located
  obtain ⟨dirMode, hdir⟩ := h.inside
  have hkeeps : ∀ q m, t.node? q = some (.directory m) →
      (t.put (dir' ++ [name']) (.file content mode)).node? q = some (.directory m) :=
    fun _ _ hq => node?_put_of_directory (by simp) h'.not_directory _ hq
  have hdir' := hkeeps dir dirMode hdir
  refine ⟨?_, ⟨dirMode, hdir'⟩, h.plain, ?_⟩
  · refine locate_eq_ok_iff.mpr ⟨hlegal, ?_, fun hasks => ?_⟩
    · exact follow_of_directories hkeeps hfollow
    · rw [h.plain] at hasks
      cases hasks
  · -- Either the file itself was written, and is open now, or it is as it was.
    by_cases hsame : dir ++ [name] = dir' ++ [name']
    · right
      refine ⟨content, mode, ?_, hopen⟩
      rw [node?_put t (by simp), if_pos hsame]
    · rw [node?_put t (by simp), if_neg hsame]
      refine h.ready.imp_left fun hmissing => ⟨hmissing.1, ?_⟩
      -- The directory is the same, so names can still be added to it.
      have hchange := hmissing.2
      rw [canChangeNames, List.dropLast_concat, hdir] at hchange
      rw [canChangeNames, List.dropLast_concat, hdir']
      exact hchange

/-- Where there is room, anything can be held. -/
theorem canHold (h : Slot t here path dir name) : CanHold t here path := by
  intro content
  obtain ⟨mode, hopen, hwrite⟩ := h.write content
  refine ⟨_, hwrite, (h.put h content hopen).read ⟨mode, ?_⟩⟩
  rw [node?_put t (by simp), if_pos rfl]

end Slot

/-- A path whose last part is a name and that can hold a file has room for it, in the directory that
the parts before the name lead to. -/
theorem exists_slot_of_canHold {t : FileTree} {here : Place} {path : String} {base : List String}
    {name : String} (hparts : Path.parts path = base ++ [name]) (hname : name ≠ "..")
    (h : CanHold t here path) :
    ∃ dir, t.follow (start here path) base = .ok dir ∧ Slot t here path dir name := by
  obtain ⟨t', hwrite, hread⟩ := h []
  obtain ⟨p, hlocate, hput⟩ := write_eq_ok_iff.mp hwrite
  obtain ⟨hlegal, hfollow, hasks⟩ := locate_eq_ok_iff.mp hlocate
  rw [hparts] at hfollow
  obtain ⟨dir, dirMode, hbase, hdir, rfl⟩ := follow_append_name hname hfollow
  refine ⟨dir, hbase, hlocate, ⟨dirMode, hdir⟩, ?_, ?_⟩
  · rcases hput with ⟨old, mode, hfile, _⟩ | ⟨_, hplain, _⟩
    · rw [Bool.eq_false_iff]
      exact fun hdirectory => hasks hdirectory old mode hfile
    · exact hplain
  · rcases hput with ⟨old, mode, hfile, hpermits, rfl⟩ | ⟨hnone, _, hchange, _⟩
    · right
      refine ⟨old, mode, hfile, ?_, hpermits⟩
      -- The file keeps its permissions, and it was read after the writing.
      obtain ⟨p, readMode, hlocate', hfile', hreadable⟩ := read_eq_ok_iff.mp hread
      have hfree : ∀ m, t.node? (dir ++ [name]) ≠ some (.directory m) := by
        rw [hfile]
        simp
      have hfollow' : (t.put (dir ++ [name]) (.file [] mode)).follow (start here path)
          (base ++ [name]) = .ok (dir ++ [name]) :=
        follow_of_directories (fun _ _ hq => node?_put_of_directory (by simp) hfree _ hq) hfollow
      have hsame : p = dir ++ [name] := by
        have hp := (locate_eq_ok_iff.mp hlocate').2.1
        rw [hparts, hfollow'] at hp
        exact (Except.ok.inj hp).symm
      rw [hsame, node?_put t (by simp), if_pos rfl] at hfile'
      cases hfile'
      exact hreadable
    · exact .inl ⟨hnone, hchange⟩

/-! ## Taking files away -/

/-- A file is taken away where names of its directory can be changed. -/
theorem remove_eq_ok {t : FileTree} {here p : Place} {path : String} {content : Bytes}
    (hlocated : t.locate here path = .ok p) (hholds : Holds t p content)
    (hchange : t.canChangeNames p = true) : t.remove here path = .ok (t.erase p) := by
  obtain ⟨mode, hfile⟩ := hholds
  rw [remove, hlocated]
  simp only [bind, Except.bind, hfile, hchange, if_true]
  rfl

/-- Then its path leads nowhere any more. -/
theorem isPresent_erase {t : FileTree} {here p : Place} {path : String} {content : Bytes}
    (hlocated : t.locate here path = .ok p) (hholds : Holds t p content) :
    (t.erase p).isPresent here path = .ok false := by
  obtain ⟨mode, hfile⟩ := hholds
  have hp : p ≠ [] := by
    rintro rfl
    cases hfile
  obtain ⟨hlegal, hfollow, -⟩ := locate_eq_ok_iff.mp hlocated
  have hgone : (t.erase p).node? p = none := by rw [node?_erase t hp, if_pos rfl]
  have hkeeps : ∀ q m, t.node? q = some (.directory m) →
      (t.erase p).node? q = some (.directory m) := by
    intro q m hq
    have hne : q ≠ p := by
      rintro rfl
      rw [hfile] at hq
      cases hq
    rw [node?_erase t hp, if_neg hne, hq]
  have hlocated' : (t.erase p).locate here path = .ok p := by
    refine locate_eq_ok_iff.mpr ⟨hlegal, follow_of_directories hkeeps hfollow, ?_⟩
    intro _ content mode
    rw [hgone]
    nofun
  have hstat : (t.erase p).stat here path = .error (.system .notFound) := by
    rw [stat, hlocated']
    simp only [bind, Except.bind, hgone]
    rfl
  rw [isPresent, hstat]
  rfl

end ClusterFixture.FileTree
