/-
Extension packages, and the sample data of one of them. What was installed and loaded is not noted
in the log.
-/

import ClusterFixture.Operation.Basic

set_option autoImplicit false

namespace ClusterFixture.Op

variable {σ : Type}

/-- The database of the sample data. -/
def sampleDatabase : String := "opengeo"

/-- The versions of the geographic extension. -/
inductive PostgisVersion where
  | V1
  | V2
  deriving DecidableEq, Repr

namespace PostgisVersion

/-- All versions. -/
def all : List PostgisVersion := [.V1, .V2]

/-- The name of a version, as reports show it. -/
def name : PostgisVersion → String
  | .V1 => "V1"
  | .V2 => "V2"

/-- Where the scripts of a version are, below the shared files of the cluster. -/
def scriptDirectory : PostgisVersion → String
  | .V1 => "contrib"
  | .V2 => "contrib/postgis-2.0"

/-- The sample files of a version, in the order of loading. -/
def sampleFiles : PostgisVersion → List String
  | .V1 => ["nyc_census_blocks_1.sql", "nyc_neighborhoods_1.sql", "nyc_subway_stations_1.sql",
      "nyc_census_sociodata.sql", "nyc_streets_1.sql"]
  | .V2 => ["nyc_census_blocks.sql", "nyc_neighborhoods.sql", "nyc_subway_stations.sql",
      "nyc_census_sociodata.sql", "nyc_streets.sql"]

end PostgisVersion

/-- Installs the configured package, however the utility ends. -/
def installPackage : Op σ CommandOutcome := do
  match (← settings).package with
  | none =>
    throw (.plain .configError "GPPKG_PATH and GPPKG_NAME need to be set to install gppkg")
  | some p => runLine ("gppkg --install " ++ p.directory ++ "/" ++ p.name ++ ".gppkg")

/-- The files to load for a version, in order. -/
def postgisFiles (s : Settings.Harness) (version : PostgisVersion) : List String :=
  let scripts := Path.join (Path.join s.home "share/postgresql") version.scriptDirectory
  ["postgis.sql", "spatial_ref_sys.sql"].map (Path.join scripts)
    ++ version.sampleFiles.map (Path.join s.sampleDirectory)

/-- Installs the package and loads scripts and sample data, however each load ends. -/
def enablePostgis (version : PostgisVersion) : Op σ Unit := do
  let s ← settings
  if s.home.isEmpty then
    throw (.plain .configError "GPHOME needs to be set in the environment")
  discard installPackage
  (postgisFiles s version).forM fun file =>
    discard (runLoosely ("psql -d " ++ sampleDatabase ++ " -f " ++ file))

end ClusterFixture.Op
