/-
What settings are meant to be, leaf by leaf.

Settings are a tree: sections with names, and leaves that hold a text, a number or a flag. A source
defines some of the leaves and opens some of the sections. Of several sources the last one that
defines a leaf counts, and a section is open as soon as one of them opens it. A leaf that none of
them defines has a value of its own, unless it must be there: those of the connection always, those
of another section as soon as it is open.

No layers are laid over each other here. That loading does what is said here is proved elsewhere.
-/

import ClusterFixture.Settings.Loading

set_option autoImplicit false

namespace ClusterFixture.Settings

/-! ## What leaves hold -/

/-- What a leaf holds. -/
inductive Content where
  | text (s : String)
  | number (n : Nat)
  | flag (b : Bool)
  /-- That there is none. -/
  | nothing
  deriving DecidableEq, Repr

/-- What is wanted of a leaf. -/
inductive Kind where
  | text
  /-- A text, or that there is none. -/
  | secret
  /-- A number of so many bits without a sign. -/
  | count (bits : Nat)
  | flag
  deriving DecidableEq, Repr

/-- The words for a flag that is set. -/
def onWords : List String := ["true", "on", "yes", "1"]

/-- The words for a flag that is not set. -/
def offWords : List String := ["false", "off", "no", "0"]

/-- The number of so many bits that an integer is. -/
def Content.count? (bits : Nat) (n : Int) : Option Content :=
  if (Number.unsignedRange bits).holds n then some (.number n.toNat) else none

/-- What a scalar of the right type says. A whole number that has no place among the integers of 64
bits with a sign arrives as a binary64 number, and stands for the integer nearest to that. -/
def Kind.content? : Kind → Scalar → Option Content
  | .text, .text s => some (.text s)
  | .secret, .text s => some (.text s)
  | .secret, .nothing => some .nothing
  | .count bits, .integer n => Content.count? bits n
  | .count bits, .number x => Content.count? bits (Located.rounded (Number.unsignedRange 64) x)
  | .count bits, .text s =>
    match Number.readInteger (Number.unsignedRange bits) s with
    | .ok n => some (.number n.toNat)
    | .error _ => none
  | .flag, .flag b => some (.flag b)
  | .flag, .text s =>
    if onWords.contains (Text.lower s) then some (.flag true)
    else if offWords.contains (Text.lower s) then some (.flag false)
    else none
  | _, _ => none

/-! ## The tree -/

/-- A tree of settings. -/
inductive Shape where
  | leaf (k : Kind)
  | group (parts : List (String × Shape))

namespace Shape

/-- How the connection is protected. -/
def tls : Shape := .group [("trusted_root_certs", .leaf .text), ("enabled", .leaf .flag)]

/-- How to reach the master. -/
def connection : Shape :=
  .group [("host", .leaf .text), ("port", .leaf (.count 16)), ("name", .leaf .text),
    ("username", .leaf .text), ("password", .leaf .secret), ("tls", tls)]

/-- A polling policy. -/
def policy : Shape :=
  .group [("interval_ms", .leaf (.count 64)), ("max_attempts", .leaf (.count 32))]

/-- An extension package. -/
def package : Shape := .group [("path", .leaf .text), ("name", .leaf .text)]

/-- The cluster that a transfer reads from. -/
def transferSource : Shape :=
  .group [("host", .leaf .text), ("port", .leaf (.count 16)), ("user", .leaf .text)]

/-- The settings of a harness. Beside them the variable that names the environment leaves its text,
which no record reads. -/
def harness : Shape :=
  .group [("connection", connection), ("master_data_directory", .leaf .text),
    ("gphome", .leaf .text), ("data_dir", .leaf .text), ("transition_poll", policy),
    ("database_retry", policy), ("gppkg", package), ("transfer_source", transferSource),
    ("postgis_data_dir", .leaf .text), ("environment", .leaf .text)]

/-- The part of a tree that a path of names leads to. -/
def at? : List String → Shape → Option Shape
  | [], sh => some sh
  | _ :: _, .leaf _ => none
  | name :: path, .group parts => (parts.lookup name).bind (at? path)

mutual

/-- Whether a value has the shape of a tree: its tables have members of the tree only, each name
once, and its leaves are scalars of the right type. -/
def fits (sh : Shape) : Value → Bool
  | .scalar _ s => match sh with
    | .leaf k => (k.content? s).isSome
    | .group _ => false
  | .table _ ms => match sh with
    | .leaf _ => false
    | .group parts => membersFit parts ms
  | .list _ _ => false

/-- Whether members belong to a section. -/
def membersFit (parts : List (String × Shape)) : List (String × Value) → Bool
  | [] => true
  | (name, v) :: rest =>
    (match parts.lookup name with
      | some sh => fits sh v
      | none => false)
    && (rest.all fun m => m.1 ≠ name) && membersFit parts rest

end

end Shape

/-- The part of a value that a path of names leads to. -/
def Value.at? : List String → Value → Option Value
  | [], v => some v
  | name :: path, v => (member? name v.members).bind (at? path)

/-! ## The leaves and the sections of a harness -/

/-- The sections. -/
inductive Section where
  | connection
  | tls
  | transitionPoll
  | databaseRetry
  | package
  | transferSource
  deriving DecidableEq, Repr

/-- The leaves. -/
inductive Leaf where
  | host
  | port
  | database
  | user
  | password
  | trustedRoots
  | tlsEnabled
  | masterDirectory
  | home
  | dataDirectory
  | transitionInterval
  | transitionAttempts
  | retryInterval
  | retryAttempts
  | packageDirectory
  | packageName
  | sourceHost
  | sourcePort
  | sourceUser
  | sampleDirectory
  deriving DecidableEq, Repr

/-- The variable of a place: its names in upper case, two underscores between each two. -/
def variableOf (path : List String) : String :=
  "APP_" ++ Text.upperAscii (Text.joinWith "__" path)

/-- The names that lead to a section. -/
def Section.path : Section → List String
  | .connection => ["connection"]
  | .tls => ["connection", "tls"]
  | .transitionPoll => ["transition_poll"]
  | .databaseRetry => ["database_retry"]
  | .package => ["gppkg"]
  | .transferSource => ["transfer_source"]

namespace Leaf

/-- All leaves. -/
def all : List Leaf :=
  [.host, .port, .database, .user, .password, .trustedRoots, .tlsEnabled, .masterDirectory, .home,
    .dataDirectory, .transitionInterval, .transitionAttempts, .retryInterval, .retryAttempts,
    .packageDirectory, .packageName, .sourceHost, .sourcePort, .sourceUser, .sampleDirectory]

/-- The section of a leaf, if it stands in one. -/
def section? : Leaf → Option Section
  | .host | .port | .database | .user | .password => some .connection
  | .trustedRoots | .tlsEnabled => some .tls
  | .transitionInterval | .transitionAttempts => some .transitionPoll
  | .retryInterval | .retryAttempts => some .databaseRetry
  | .packageDirectory | .packageName => some .package
  | .sourceHost | .sourcePort | .sourceUser => some .transferSource
  | .masterDirectory | .home | .dataDirectory | .sampleDirectory => none

/-- The name of a leaf in its section. -/
def name : Leaf → String
  | .host | .sourceHost => "host"
  | .port | .sourcePort => "port"
  | .database | .packageName => "name"
  | .user => "username"
  | .password => "password"
  | .trustedRoots => "trusted_root_certs"
  | .tlsEnabled => "enabled"
  | .masterDirectory => "master_data_directory"
  | .home => "gphome"
  | .dataDirectory => "data_dir"
  | .transitionInterval | .retryInterval => "interval_ms"
  | .transitionAttempts | .retryAttempts => "max_attempts"
  | .packageDirectory => "path"
  | .sourceUser => "user"
  | .sampleDirectory => "postgis_data_dir"

/-- What is wanted of a leaf. -/
def kind : Leaf → Kind
  | .port | .sourcePort => .count 16
  | .transitionInterval | .retryInterval => .count 64
  | .transitionAttempts | .retryAttempts => .count 32
  | .tlsEnabled => .flag
  | .password => .secret
  | _ => .text

/-- What a leaf holds that no source defines; nothing where it must be defined, and where it belongs
to a part that may be missing as a whole. -/
def default? : Leaf → Option Content
  | .database => some (.text "template1")
  | .password => some .nothing
  | .trustedRoots | .masterDirectory | .home | .sampleDirectory => some (.text "")
  | .tlsEnabled => some (.flag false)
  | .dataDirectory => some (.text "./gppylib/test/data")
  | .transitionInterval => some (.number 30000)
  | .transitionAttempts => some (.number 80)
  | .retryInterval => some (.number 1000)
  | .retryAttempts => some (.number 10)
  | .host | .port | .user | .packageDirectory | .packageName | .sourceHost | .sourcePort
  | .sourceUser => none

/-- Whether a leaf must be defined where its section is open. -/
def isRequired : Leaf → Bool
  | .database | .password | .masterDirectory | .home | .dataDirectory | .sampleDirectory => false
  | _ => true

/-- The names that lead to a leaf. -/
def path (l : Leaf) : List String := (l.section?.map Section.path).getD [] ++ [l.name]

/-- The variable of a leaf. -/
def variableName (l : Leaf) : String := variableOf l.path

end Leaf

/-- What a leaf of settings holds, if the part that it belongs to is there. -/
def Harness.content? (s : Harness) : Leaf → Option Content
  | .host => some (.text s.connection.host)
  | .port => some (.number s.connection.port)
  | .database => some (.text s.connection.database)
  | .user => some (.text s.connection.user)
  | .password => some ((s.connection.password.map Content.text).getD .nothing)
  | .trustedRoots => some (.text s.connection.tls.trustedRoots)
  | .tlsEnabled => some (.flag s.connection.tls.enabled)
  | .masterDirectory => some (.text s.masterDirectory)
  | .home => some (.text s.home)
  | .dataDirectory => some (.text s.dataDirectory)
  | .transitionInterval => some (.number s.transitionPoll.interval)
  | .transitionAttempts => some (.number s.transitionPoll.attempts)
  | .retryInterval => some (.number s.databaseRetry.interval)
  | .retryAttempts => some (.number s.databaseRetry.attempts)
  | .packageDirectory => s.package.map fun p => .text p.directory
  | .packageName => s.package.map fun p => .text p.name
  | .sourceHost => s.transferSource.map fun t => .text t.host
  | .sourcePort => s.transferSource.map fun t => .number t.port
  | .sourceUser => s.transferSource.map fun t => .text t.user
  | .sampleDirectory => some (.text s.sampleDirectory)

/-! ## Drafts -/

/-- What sources define. -/
@[ext] structure Draft where
  /-- What is defined of a leaf. -/
  value? : Leaf → Option Content
  /-- Whether a section is open. -/
  isOpen : Section → Bool

namespace Draft

/-- What a later source and those before it define. -/
def onto (later earlier : Draft) : Draft where
  value? l := (later.value? l).or (earlier.value? l)
  isOpen sec := later.isOpen sec || earlier.isOpen sec

/-- What a scalar at the place of a leaf says. -/
def contentOf? (k : Kind) : Value → Option Content
  | .scalar _ s => k.content? s
  | _ => none

/-- What a value defines. -/
def ofValue (v : Value) : Draft where
  value? l := (v.at? l.path).bind (contentOf? l.kind)
  isOpen sec := (v.at? sec.path).isSome

/-- What the members of a file define. -/
def ofLayer (layer : Layer) : Draft := ofValue (.table none layer)

/-- What variables define. -/
def ofBindings (bindings : List (String × String)) : Draft where
  value? l := (bindings.lookup l.variableName).bind fun text => l.kind.content? (.text text)
  isOpen sec := Leaf.all.any fun l =>
    sec.path.isPrefixOf l.path && (bindings.lookup l.variableName).isSome

/-- Whether a leaf must be defined. -/
def Needs (d : Draft) (l : Leaf) : Prop :=
  l.isRequired = true ∧ ∀ sec ∈ l.section?, sec = .connection ∨ d.isOpen sec = true

instance (d : Draft) (l : Leaf) : Decidable (d.Needs l) :=
  inferInstanceAs (Decidable (_ ∧ _))

end Draft

/-- Whether variables are of those that settings have: each name once, and every name that begins
like one of theirs is one of theirs, with a text of the leaf's type, or that of the environment. -/
def AreSettings (bindings : List (String × String)) : Prop :=
  (bindings.map Prod.fst).Nodup ∧ ∀ b ∈ bindings,
    Text.startsWith (Text.lower b.1) variableLead = true →
    b.1 = Environment.variableName ∨
      ∃ l : Leaf, b.1 = l.variableName ∧ (l.kind.content? (.text b.2)).isSome = true

end ClusterFixture.Settings
