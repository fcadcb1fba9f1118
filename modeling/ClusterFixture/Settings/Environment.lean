/-
The environment that a harness runs in.

It chooses one of the settings files and where the log goes.
-/

import ClusterFixture.Text.Blank
import ClusterFixture.Text.Case

set_option autoImplicit false

namespace ClusterFixture.Settings

/-- The environments. -/
inductive Environment where
  /-- Clusters that run for long. -/
  | prod
  /-- Clusters shared before a release. -/
  | staging
  /-- A cluster for trying things out. -/
  | dev
  deriving DecidableEq, Repr, Inhabited

/-- A text that names no environment, blanks around it removed and in lower case. -/
structure UnknownEnvironment where
  text : String
  deriving DecidableEq, Repr

/-- What is said of it. -/
def UnknownEnvironment.message (e : UnknownEnvironment) : String :=
  e.text ++ " is not a supported environment. Use either `prod`/`staging`/`dev`."

namespace Environment

/-- The variable that names the environment. -/
def variableName : String := "APP_ENVIRONMENT"

/-- The name of an environment. -/
def name : Environment → String
  | .prod => "prod"
  | .staging => "staging"
  | .dev => "dev"

/-- The environment that a text names, in any letter case and blanks around it aside. -/
def ofText (text : String) : Except UnknownEnvironment Environment :=
  match Text.lower (Text.trim text) with
  | "prod" => .ok .prod
  | "staging" => .ok .staging
  | "dev" => .ok .dev
  | other => .error ⟨other⟩

/-- The environment that the variable names; without it, the first one. -/
def ofVariable (value : Option String) : Except UnknownEnvironment Environment :=
  ofText (value.getD prod.name)

/-- Whether the log goes to files. -/
def isProd : Environment → Bool
  | .prod => true
  | .staging => true
  | .dev => false

/-- The name of its settings file. -/
def fileName (e : Environment) : String := e.name ++ ".yaml"

end Environment

end ClusterFixture.Settings
