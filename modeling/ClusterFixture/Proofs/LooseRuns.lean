/-
What the success of an operation vouches for that runs its lines loosely.

A line that is run loosely has to be started; how it ends is noted in the log and dropped. So
installing a package with its sample data, and making the directories of a filespace anew, go
through all of their lines in order whatever the lines come to, and succeed exactly if each of them
can be started. That they succeeded means that all lines ended well only where all of them did.
-/

import ClusterFixture.Operation.Packages
import ClusterFixture.Proofs.FilespaceLayout

set_option autoImplicit false

namespace ClusterFixture.Op

variable {σ : Type}

/-- All commands ended with zero. -/
def EndedWell (outputs : List CommandOutput) : Prop := ∀ output ∈ outputs, output.status = 0

instance (outputs : List CommandOutput) : Decidable (EndedWell outputs) :=
  inferInstanceAs (Decidable (∀ output ∈ outputs, output.status = 0))

theorem endedWell_append {a b : List CommandOutput} :
    EndedWell (a ++ b) ↔ EndedWell a ∧ EndedWell b := List.forall_mem_append

/-! ## Lines -/

/-- Lines that went through could all be started. -/
theorem exists_prints_of_runAll {site : Site σ} {lines : List String} {w : World σ}
    (h : (runAt (runAll lines) site w).1 = .ok ()) :
    ∃ outputs, Prints site (w.server, w.files) lines outputs := by
  induction lines generalizing w with
  | nil => exact ⟨[], .nil _⟩
  | cons line rest ih =>
    rw [runAt_runAll_cons] at h
    rcases hanswer : lineAnswer site line (w.server, w.files) with ⟨f | output, state⟩
    · rw [hanswer] at h
      cases h
    · rw [hanswer] at h
      obtain ⟨outputs, hrest⟩ := ih h
      exact ⟨output :: outputs, .cons (by rw [hanswer]) (by rw [hanswer]; exact hrest)⟩

/-- Lines go through exactly where all of them can be started. -/
theorem runAll_eq_ok_iff (lines : List String) (site : Site σ) (w : World σ) :
    (runAt (runAll lines) site w).1 = .ok () ↔
      ∃ outputs, Prints site (w.server, w.files) lines outputs := by
  constructor
  · exact exists_prints_of_runAll
  · rintro ⟨outputs, hprints⟩
    obtain ⟨w', hrun, -⟩ := went_runAll hprints
    rw [hrun]

/-- A line whose outcome is discarded is run loosely. -/
theorem runAt_discard_runLine (line : String) (site : Site σ) (w : World σ) :
    runAt (discard (runLine line)) site w = runAt (discard (runLoosely line)) site w := by
  rw [runAt_discard, runAt_discard, runLoosely, runAt_bind]
  rcases runAt (runLine line) site w with ⟨_ | _, _⟩ <;> rfl

/-! ## Sample data -/

/-- The line that installs a package. -/
def installLine (p : Settings.Package) : String :=
  "gppkg --install " ++ p.directory ++ "/" ++ p.name ++ ".gppkg"

/-- The line that loads a file into the database of the sample data. -/
def loadLine (file : String) : String := "psql -d " ++ sampleDatabase ++ " -f " ++ file

/-- The lines that install a package and load its scripts and samples, in order, where the settings
name the package and the home of the cluster's programs. -/
def sampleLines? (s : Settings.Harness) (version : PostgisVersion) : Option (List String) :=
  if s.home.isEmpty then none
  else s.package.map fun p => installLine p :: (postgisFiles s version).map loadLine

/-- The package is one line, and the files are seven. -/
theorem length_of_sampleLines? {s : Settings.Harness} {version : PostgisVersion}
    {lines : List String} (h : sampleLines? s version = some lines) : lines.length = 1 + 7 := by
  unfold sampleLines? at h
  split at h
  case isTrue => cases h
  case isFalse =>
    obtain ⟨p, -, rfl⟩ := Option.map_eq_some_iff.mp h
    cases version <;> rfl

/-- Where they are named, these lines are run loosely. -/
theorem runAt_enablePostgis {site : Site σ} {version : PostgisVersion} {lines : List String}
    (h : sampleLines? site.settings version = some lines) (w : World σ) :
    runAt (enablePostgis version) site w = runAt (runAll lines) site w := by
  unfold sampleLines? at h
  split at h
  case isTrue => cases h
  case isFalse hhome =>
    obtain ⟨p, hpackage, rfl⟩ := Option.map_eq_some_iff.mp h
    have hinstall : runAt installPackage site w = runAt (runLine (installLine p)) site w := by
      unfold installPackage
      rw [runAt_bind_ok (runAt_settings site w), hpackage]
      rfl
    have hloads : runAll ((postgisFiles site.settings version).map loadLine) =
        (postgisFiles site.settings version).forM
          fun file => (discard (runLoosely (loadLine file)) : Op σ Unit) := by
      rw [runAll, List.forM_eq_forM, List.forM_map]
    have hcons : runAll (installLine p :: (postgisFiles site.settings version).map loadLine) =
        (discard (runLoosely (installLine p)) : Op σ Unit) >>=
          fun _ => runAll ((postgisFiles site.settings version).map loadLine) := rfl
    have hdiscarded : runAt (discard installPackage) site w =
        runAt (discard (runLoosely (installLine p))) site w := by
      rw [runAt_discard, hinstall, ← runAt_discard, runAt_discard_runLine]
    unfold enablePostgis
    rw [runAt_bind_ok (runAt_settings site w), if_neg hhome, hcons, runAt_bind, runAt_bind,
      ← hdiscarded, hloads]
    rfl

/-- Where they are not, nothing is run. -/
theorem runAt_enablePostgis_of_none {site : Site σ} {version : PostgisVersion}
    (h : sampleLines? site.settings version = none) (w : World σ) :
    ∃ f, runAt (enablePostgis version) site w = (.error f, w) := by
  unfold enablePostgis
  rw [runAt_bind_ok (runAt_settings site w)]
  by_cases hhome : site.settings.home.isEmpty = true
  · rw [if_pos hhome]
    exact ⟨_, rfl⟩
  · rw [sampleLines?, if_neg hhome, Option.map_eq_none_iff] at h
    have hinstall : ∃ f, runAt installPackage site w = (.error f, w) := by
      unfold installPackage
      rw [runAt_bind_ok (runAt_settings site w), h]
      exact ⟨_, rfl⟩
    obtain ⟨f, hf⟩ := hinstall
    rw [if_neg hhome]
    refine ⟨f, runAt_bind_error ?_ _⟩
    rw [runAt_discard, hf]
    rfl

/-- Installing the package and loading its data succeeds exactly where all the lines of it are named
and can be started, however they end. -/
theorem enablePostgis_eq_ok_iff (version : PostgisVersion) (site : Site σ) (w : World σ) :
    (runAt (enablePostgis version) site w).1 = .ok () ↔
      ∃ lines outputs, sampleLines? site.settings version = some lines ∧
        Prints site (w.server, w.files) lines outputs := by
  rcases hlines : sampleLines? site.settings version with _ | lines
  · obtain ⟨f, hf⟩ := runAt_enablePostgis_of_none hlines w
    simp [hf]
  · rw [runAt_enablePostgis hlines, runAll_eq_ok_iff]
    simp

/-! ## The filespace -/

section

variable {host : String} {port : Nat} {user : String} {site : Site σ} {w : World σ}

/-- A group that was listed answered with a table. -/
theorem exists_output_of_listFilespace {workingDirectory : String} {role : FilespaceRole}
    {entries : List FilespaceEntry} {w' : World σ}
    (h : runAt (listFilespace host port user workingDirectory role) site w = (.ok entries, w')) :
    ∃ output, (lineAnswer site (listingLine host port user role) (w.server, w.files)).1 =
        .ok output ∧
      Tabular output ∧
      (w'.server, w'.files) =
        (lineAnswer site (listingLine host port user role) (w.server, w.files)).2 := by
  rcases hanswer : (lineAnswer site (listingLine host port user role) (w.server, w.files)).1
    with f | output
  · have hfails := runAt_runLoosely (listingLine host port user role) site w
    rw [hanswer] at hfails
    have hlist : runAt (listFilespace host port user workingDirectory role) site w =
        (.error f, _) := runAt_bind_error hfails _
    rw [hlist] at h
    cases h
  · obtain ⟨result, w₁, hrun, hwent, -, hbad⟩ := went_listFilespace workingDirectory hanswer
    rw [h] at hrun
    cases hrun
    refine ⟨output, rfl, ?_, hwent.left⟩
    by_contra htabular
    obtain ⟨f, hf⟩ := hbad htabular
    cases hf

/-- So did all groups, where all were listed. -/
theorem exists_prints_of_listings {workingDirectory : String} {roles : List FilespaceRole}
    {entries : List (List FilespaceEntry)} {w' : World σ}
    (h : runAt (roles.mapM (listFilespace host port user workingDirectory)) site w =
      (.ok entries, w')) :
    ∃ outputs, Prints site (w.server, w.files) (roles.map (listingLine host port user)) outputs ∧
      ∀ output ∈ outputs, Tabular output := by
  induction roles generalizing w w' entries with
  | nil => exact ⟨[], .nil _, by simp⟩
  | cons role rest ih =>
    rw [runAt_mapM_cons] at h
    rcases hfirst : runAt (listFilespace host port user workingDirectory role) site w
      with ⟨f | listed, w₁⟩
    · rw [hfirst] at h
      cases h
    · rw [hfirst] at h
      obtain ⟨output, hanswer, htabular, hleft⟩ := exists_output_of_listFilespace hfirst
      rcases hrest : runAt (rest.mapM (listFilespace host port user workingDirectory)) site w₁
        with ⟨f | more, w₂⟩
      · simp only [hrest] at h
        cases h
      · obtain ⟨outputs, hprints, hall⟩ := ih hrest
        rw [hleft] at hprints
        exact ⟨output :: outputs, .cons hanswer hprints,
          List.forall_mem_cons.mpr ⟨htabular, hall⟩⟩

end

/-- The lines that make the directories of listed locations anew. -/
def remakes (workingDirectory : String) (listed : List CommandOutput) : List String :=
  (allEntries workingDirectory listed).flatMap remakeLines

/-- The state that the listings leave. -/
def afterListings (site : Site σ) (state : σ × FileTree) (host : String) (port : Nat)
    (user : String) : σ × FileTree :=
  afterLines site state (listingLines host port user)

/-- What it takes for a filespace to be laid out: tables from the four listings, a place for the
list, and lines that can be started for its directories. -/
structure LaysOut (site : Site σ) (state : σ × FileTree) (host : String) (port : Nat)
    (user name listFile workingDirectory : String) (listed remade : List CommandOutput)
    (files : FileTree) : Prop where
  listings : Prints site state (listingLines host port user) listed
  tabular : ∀ output ∈ listed, Tabular output
  written : (afterListings site state host port user).2.write site.place listFile
    (Text.utf8 (filespaceText name (allEntries workingDirectory listed))) = .ok files
  remade : Prints site ((afterListings site state host port user).1, files)
    (remakes workingDirectory listed) remade

section

variable {site : Site σ} {w : World σ} {host : String} {port : Nat}
  {user name listFile workingDirectory : String}

/-- What is left to do when the locations are listed. -/
def writeAndRemake (name listFile workingDirectory : String) (listed : List CommandOutput) :
    Op σ Unit := do
  changeFiles fun files here => files.write here listFile
    (Text.utf8 (filespaceText name (allEntries workingDirectory listed)))
  runAll (remakes workingDirectory listed)

theorem runAt_layOutFilespace_of_listed {listed : List CommandOutput}
    (hprints : Prints site (w.server, w.files) (listingLines host port user) listed)
    (htabular : ∀ output ∈ listed, Tabular output) :
    ∃ w', runAt (layOutFilespace host port user name listFile workingDirectory) site w =
        runAt (writeAndRemake name listFile workingDirectory listed) site w' ∧
      Went w (lineCalls site (listingLines host port user))
        (afterListings site (w.server, w.files) host port user) w' := by
  obtain ⟨w', hlist, hwent⟩ := went_listings_of_tabular workingDirectory hprints htabular
  refine ⟨w', ?_, hwent⟩
  rw [writeAndRemake, remakes, ← remake_eq]
  exact runAt_bind_ok hlist _

/-- Then all of these lines are run in order, those for the directories however they end. -/
theorem went_layOutFilespace {listed remade : List CommandOutput} {files : FileTree}
    (h : LaysOut site (w.server, w.files) host port user name listFile workingDirectory listed
      remade files) :
    ∃ w', runAt (layOutFilespace host port user name listFile workingDirectory) site w =
        (.ok (), w') ∧
      Went w (lineCalls site (listingLines host port user ++ remakes workingDirectory listed))
        (afterLines site ((afterListings site (w.server, w.files) host port user).1, files)
          (remakes workingDirectory listed)) w' := by
  obtain ⟨w₁, hrun, hwent₁⟩ := runAt_layOutFilespace_of_listed h.listings h.tabular
  obtain ⟨w₂, hchange, hwent₂⟩ := went_changeFiles (w := w₁) (fun files here =>
    files.write here listFile
      (Text.utf8 (filespaceText name (allEntries workingDirectory listed))))
    (by rw [hwent₁.files]; exact h.written)
  rw [hwent₁.server] at hwent₂
  obtain ⟨w₃, hremade, hwent₃⟩ := went_runAll (w := w₂) (by rw [hwent₂.left]; exact h.remade)
  rw [hwent₂.left] at hwent₃
  refine ⟨w₃, (hrun.trans (runAt_bind_ok hchange _)).trans hremade, ?_⟩
  rw [lineCalls, List.map_append]
  have hwent := hwent₁.trans (hwent₂.trans hwent₃)
  rwa [List.nil_append] at hwent

/-- A filespace is laid out exactly where it can be, however the lines for its directories end. -/
theorem layOutFilespace_eq_ok_iff :
    (runAt (layOutFilespace host port user name listFile workingDirectory) site w).1 = .ok () ↔
      ∃ listed remade files, LaysOut site (w.server, w.files) host port user name listFile
        workingDirectory listed remade files := by
  constructor
  · intro h
    rcases hlist : runAt (FilespaceRole.all.mapM
      (listFilespace host port user workingDirectory)) site w with ⟨f | entries, w₁⟩
    · have hfails : runAt (layOutFilespace host port user name listFile workingDirectory) site w =
          (.error f, w₁) := runAt_bind_error hlist _
      rw [hfails] at h
      cases h
    · obtain ⟨listed, hprints, htabular⟩ := exists_prints_of_listings hlist
      obtain ⟨w', hrun, hwent⟩ := runAt_layOutFilespace_of_listed hprints htabular
      rw [hrun, writeAndRemake, runAt_bind, runAt_changeFiles] at h
      rcases hwritten : w'.files.write site.place listFile
        (Text.utf8 (filespaceText name (allEntries workingDirectory listed))) with e | files
      · rw [hwritten] at h
        cases h
      · rw [hwritten] at h
        obtain ⟨remade, hremade⟩ := exists_prints_of_runAll h
        rw [hwent.files] at hwritten
        simp only [hwent.server] at hremade
        exact ⟨listed, remade, files, hprints, htabular, hwritten, hremade⟩
  · rintro ⟨listed, remade, files, hlays⟩
    obtain ⟨w', hrun, -⟩ := went_layOutFilespace hlays
    rw [hrun]

end

/-! ## What a success vouches for -/

/-- Installing a package with its sample data succeeds exactly where its lines, first the package
and then the seven files, are named and can be started; then all of them are run in order, and a
success means that they ended well exactly if they did. Laying out a filespace succeeds exactly
where its listings are tables, its list can be written and the lines for its directories can be
started; then all of them are run in order, and a success means that those for the directories ended
well exactly if they did. -/
theorem loose_runs_vouch_iff (site : Site σ) (w : World σ) :
    (∀ version,
      let run := runAt (enablePostgis version) site w
      (run.1 = .ok () ↔
        ∃ lines outputs, sampleLines? site.settings version = some lines ∧
          Prints site (w.server, w.files) lines outputs) ∧
      ∀ lines outputs, sampleLines? site.settings version = some lines →
        Prints site (w.server, w.files) lines outputs →
        lines.length = 1 + 7 ∧
          Went w (lineCalls site lines) (afterLines site (w.server, w.files) lines) run.2 ∧
          ((run.1 = .ok () → EndedWell outputs) ↔ EndedWell outputs)) ∧
    ∀ host port user name listFile workingDirectory,
      let run := runAt (layOutFilespace host port user name listFile workingDirectory) site w
      (run.1 = .ok () ↔
        ∃ listed remade files, LaysOut site (w.server, w.files) host port user name listFile
          workingDirectory listed remade files) ∧
      ∀ listed remade files, LaysOut site (w.server, w.files) host port user name listFile
          workingDirectory listed remade files →
        Went w (lineCalls site (listingLines host port user ++ remakes workingDirectory listed))
            (afterLines site ((afterListings site (w.server, w.files) host port user).1, files)
              (remakes workingDirectory listed)) run.2 ∧
          ((run.1 = .ok () → EndedWell (listed ++ remade)) ↔ EndedWell remade) := by
  refine ⟨fun version => ?_, fun host port user name listFile workingDirectory => ?_⟩
  · intro run
    refine ⟨enablePostgis_eq_ok_iff version site w, fun lines outputs hlines hprints => ?_⟩
    obtain ⟨w', hrun, hwent⟩ := went_runAll hprints
    rw [← runAt_enablePostgis hlines] at hrun
    have hok : run = (.ok (), w') := hrun
    rw [hok]
    exact ⟨length_of_sampleLines? hlines, hwent, fun h => h rfl, fun h _ => h⟩
  · intro run
    refine ⟨layOutFilespace_eq_ok_iff, fun listed remade files hlays => ?_⟩
    obtain ⟨w', hrun, hwent⟩ := went_layOutFilespace hlays
    have hok : run = (.ok (), w') := hrun
    -- a listing that is a table has been looked at, unlike the lines that follow
    have hlisted : EndedWell listed := fun output houtput =>
      (hlays.tabular output houtput).succeeded
    rw [hok, endedWell_append]
    exact ⟨hwent, fun h => (h rfl).2, fun h _ => ⟨hlisted, h⟩⟩

/-! ## A host that fails late -/

/-- A host that lists one segment to each of the first four commands, and where all that come later
end in one way. -/
def listingFour (output : CommandOutput) : Services Nat where
  query _ _ := fun state => (.error (.plain .queryFailed "no server"), state)
  execute _ _ := fun state => (.error (.plain .queryFailed "no server"), state)
  run _ := fun state => (.ok (if state.1 < 4 then oneSegment else output), (state.1 + 1, state.2))

/-- A site of such a host that names a package and the home of the cluster's programs. -/
def packageSite (output : CommandOutput) : Site Nat where
  services := listingFour output
  settings := { (dataSite (listingFour output)).settings with
    home := "/usr/local/gpdb", package := some ⟨"/packages", "postgis"⟩,
    sampleDirectory := "/data/postgis" }

/-- The world of this host after so many commands, with an empty data directory. -/
def worldAfter (commands : Nat) : World Nat := ⟨commands, emptyDataWorld.files, [], []⟩

/-- What comes later all ends in the one way. -/
theorem prints_packageSite (output : CommandOutput) (files : FileTree) (lines : List String)
    {n : Nat} (hn : 4 ≤ n) :
    Prints (packageSite output) (n, files) lines (List.replicate lines.length output) := by
  induction lines generalizing n with
  | nil => exact .nil _
  | cons line rest ih =>
    have hanswer : lineAnswer (packageSite output) line (n, files) =
        (.ok (if n < 4 then oneSegment else output), (n + 1, files)) := rfl
    rw [if_neg (by omega)] at hanswer
    refine .cons (by rw [hanswer]) ?_
    rw [hanswer]
    exact ih (by omega)

/-- The lines of this site for the sample data. -/
def packageLines (version : PostgisVersion) : List String :=
  (sampleLines? (packageSite .silent).settings version).getD []

theorem sampleLines?_packageSite (output : CommandOutput) (version : PostgisVersion) :
    sampleLines? (packageSite output).settings version = some (packageLines version) := rfl

/-- What this host prints for them when it has listed what it lists. -/
theorem prints_packageLines (output : CommandOutput) (version : PostgisVersion) :
    Prints (packageSite output) ((worldAfter 4).server, (worldAfter 4).files) (packageLines version)
      (List.replicate 8 output) := by
  have hlength : (packageLines version).length = 8 :=
    length_of_sampleLines? (sampleLines?_packageSite output version)
  rw [← hlength]
  exact prints_packageSite output _ _ (Nat.le_refl 4)

/-- What this host makes of a filespace, with a list below the data directory. -/
theorem exists_laysOut_packageSite (output : CommandOutput) :
    ∃ files, LaysOut (packageSite output) ((worldAfter 0).server, (worldAfter 0).files) "mdw" 5432
      "gpadmin" "fs1" "/data/fs.config" "/tmp" (List.replicate 4 oneSegment)
      (List.replicate 8 output) files := by
  have hroom : emptyDataWorld.files.CanHold (packageSite output).place "/data/fs.config" := by
    have hslot : FileTree.Slot emptyDataWorld.files (packageSite output).place "/data/fs.config"
        ["data"] "fs.config" :=
      .of_lookup (by decide) (by decide) (by decide) (by decide) rfl rfl (.inl ⟨rfl, rfl⟩)
    exact hslot.canHold
  obtain ⟨files, hwrite, -⟩ :=
    hroom (Text.utf8 (filespaceText "fs1" (allEntries "/tmp" (List.replicate 4 oneSegment))))
  refine ⟨files, .cons rfl (.cons rfl (.cons rfl (.cons rfl (.nil _)))), ?_, hwrite, ?_⟩
  · intro listing hlisting
    rw [List.eq_of_mem_replicate hlisting]
    exact tabular_oneSegment
  · exact prints_packageSite output files (remakes "/tmp" (List.replicate 4 oneSegment))
      (Nat.le_refl 4)

/-- Where all lines end well, the operations succeed, and that means it. -/
theorem loose_runs_vouch_iff_quiet :
    Prints (packageSite .silent) ((worldAfter 4).server, (worldAfter 4).files) (packageLines .V2)
        (List.replicate 8 .silent) ∧
      EndedWell (List.replicate 8 .silent) ∧
      (runAt (enablePostgis .V2) (packageSite .silent) (worldAfter 4)).1 = .ok () ∧
      (runAt (enablePostgis .V2) (packageSite .silent) (worldAfter 4)).2.calls =
        lineCalls (packageSite .silent) (packageLines .V2) ∧
      (runAt (layOutFilespace "mdw" 5432 "gpadmin" "fs1" "/data/fs.config" "/tmp")
        (packageSite .silent) (worldAfter 0)).1 = .ok () := by
  obtain ⟨hpackage, -⟩ := loose_runs_vouch_iff (packageSite .silent) (worldAfter 4)
  obtain ⟨-, hfilespace⟩ := loose_runs_vouch_iff (packageSite .silent) (worldAfter 0)
  have hprints := prints_packageLines .silent .V2
  have hlines := sampleLines?_packageSite .silent .V2
  obtain ⟨hok, hall⟩ := hpackage .V2
  obtain ⟨-, hwent, -⟩ := hall _ _ hlines hprints
  obtain ⟨files, hlays⟩ := exists_laysOut_packageSite .silent
  exact ⟨hprints, by decide, hok.mpr ⟨_, _, hlines, hprints⟩, hwent.calls,
    (hfilespace _ _ _ _ _ _).1.mpr ⟨_, _, files, hlays⟩⟩

/-- Where all lines fail but the listings, the operations succeed as well. -/
theorem loose_runs_fail_unnoticed :
    let failed : CommandOutput := ⟨1, "", "no space left on device"⟩
    Prints (packageSite failed) ((worldAfter 4).server, (worldAfter 4).files) (packageLines .V2)
        (List.replicate 8 failed) ∧
      ¬EndedWell (List.replicate 8 failed) ∧
      (runAt (enablePostgis .V2) (packageSite failed) (worldAfter 4)).1 = .ok () ∧
      (runAt (enablePostgis .V1) (packageSite failed) (worldAfter 4)).1 = .ok () ∧
      (∃ files, LaysOut (packageSite failed) ((worldAfter 0).server, (worldAfter 0).files) "mdw"
        5432 "gpadmin" "fs1" "/data/fs.config" "/tmp" (List.replicate 4 oneSegment)
        (List.replicate 8 failed) files) ∧
      (runAt (layOutFilespace "mdw" 5432 "gpadmin" "fs1" "/data/fs.config" "/tmp")
        (packageSite failed) (worldAfter 0)).1 = .ok () := by
  intro failed
  have hok : ∀ version,
      (runAt (enablePostgis version) (packageSite failed) (worldAfter 4)).1 = .ok () :=
    fun version => (enablePostgis_eq_ok_iff version _ _).mpr
      ⟨_, _, sampleLines?_packageSite failed version, prints_packageLines failed version⟩
  obtain ⟨files, hlays⟩ := exists_laysOut_packageSite failed
  exact ⟨prints_packageLines failed .V2, by decide, hok .V2, hok .V1, ⟨files, hlays⟩,
    layOutFilespace_eq_ok_iff.mpr ⟨_, _, files, hlays⟩⟩

end ClusterFixture.Op
