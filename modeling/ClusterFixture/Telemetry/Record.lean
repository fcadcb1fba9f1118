/-
Records of the log.
-/

import ClusterFixture.Json.Basic

set_option autoImplicit false

namespace ClusterFixture.Telemetry

/-- How grave a record is, the gravest first. -/
inductive Level where
  | error
  | warn
  | info
  | debug
  | trace
  deriving DecidableEq, Repr, Inhabited

/-- The name of a level in the log. -/
def Level.name : Level → String
  | .error => "ERROR"
  | .warn => "WARN"
  | .info => "INFO"
  | .debug => "DEBUG"
  | .trace => "TRACE"

/-- The place of a level, the gravest first. -/
def Level.rank : Level → Nat
  | .error => 1
  | .warn => 2
  | .info => 3
  | .debug => 4
  | .trace => 5

/-- The parts of the program that write records. -/
inductive Source where
  /-- The command line. -/
  | program
  /-- What runs one command of the command line. -/
  | session
  | database
  | waiting
  | dumps
  deriving DecidableEq, Repr, Inhabited

/-- The name of a part, which log filters select by. -/
def Source.path : Source → String
  | .program => "gpfixture"
  | .session => "gpfixture::core"
  | .database => "gpfixture::database"
  | .waiting => "gpfixture::sync"
  | .dumps => "gpfixture::backup"

/-- A record of the log. -/
structure Record where
  level : Level
  source : Source
  message : String
  fields : List (String × Json) := []
  deriving Repr, Inhabited

end ClusterFixture.Telemetry
