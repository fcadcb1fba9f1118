/-
Segments: the servers that make up a cluster, as its catalog lists them.
-/

import ClusterFixture.Sql.Row
import ClusterFixture.Text.Quoted

set_option autoImplicit false

namespace ClusterFixture.Cluster

open ClusterFixture.Number

/-- The content number of the master and of its standby. -/
def masterContent : Int := -1

/-- How a segment stands to its mirror. -/
inductive SegmentMode where
  | synchronized
  | resynchronizing
  | changeTracking
  | notSynchronized
  /-- A code that none of the others has. -/
  | other (code : String)
  deriving DecidableEq, Repr

/-- The mode that a code of the catalog denotes, blanks around it aside. -/
def SegmentMode.ofCode (code : String) : SegmentMode :=
  match Text.trim code with
  | "s" => .synchronized
  | "r" => .resynchronizing
  | "c" => .changeTracking
  | "n" => .notSynchronized
  | code => .other code

/-- The name of a mode, as reports show it. -/
def SegmentMode.name : SegmentMode → String
  | .synchronized => "Synchronized"
  | .resynchronizing => "Resynchronizing"
  | .changeTracking => "ChangeTracking"
  | .notSynchronized => "NotSynchronized"
  | .other code => "Other(" ++ Text.quoted code ++ ")"

/-- Whether a segment serves or stands by. -/
inductive SegmentRole where
  | primary
  | mirror
  deriving DecidableEq, Repr

/-- The role that a code of the catalog denotes, blanks around it aside. -/
def SegmentRole.ofCode (code : String) : Checked SegmentRole :=
  match Text.trim code with
  | "p" => .ok .primary
  | "m" => .ok .mirror
  | other => .error (.detailed .conversionError "Unknown segment role" other)

/-- The name of a role, as reports show it. -/
def SegmentRole.name : SegmentRole → String
  | .primary => "Primary"
  | .mirror => "Mirror"

/-- Whether a segment answers. -/
inductive SegmentStatus where
  | up
  | down
  deriving DecidableEq, Repr

/-- The status that a code of the catalog denotes, blanks around it aside. -/
def SegmentStatus.ofCode (code : String) : Checked SegmentStatus :=
  match Text.trim code with
  | "u" => .ok .up
  | "d" => .ok .down
  | other => .error (.detailed .conversionError "Unknown segment status" other)

/-- The name of a status, as reports show it. -/
def SegmentStatus.name : SegmentStatus → String
  | .up => "Up"
  | .down => "Down"

/-- One server of the cluster. -/
structure Segment where
  /-- The number of the server. -/
  dbid : Int
  /-- The number of the share of data that it holds. -/
  content : Int
  role : SegmentRole
  preferredRole : SegmentRole
  mode : SegmentMode
  status : SegmentStatus
  port : Nat
  hostname : String
  address : String
  deriving DecidableEq, Repr

namespace Segment

/-- The segment that a row of the configuration query describes. The first column that is not what
it should be decides the fault. -/
def ofRow (row : Sql.Row) : Checked Segment := do
  let dbid ← row.integerIn (signedRange 32) 0
  let content ← row.integerIn (signedRange 32) 1
  let role ← SegmentRole.ofCode (← row.text 2)
  let preferredRole ← SegmentRole.ofCode (← row.text 3)
  let mode := SegmentMode.ofCode (← row.text 4)
  let status ← SegmentStatus.ofCode (← row.text 5)
  let port ← row.integerIn (unsignedRange 16) 6
  let hostname := Text.trim (← row.text 7)
  let address := Text.trim (← row.text 8)
  return ⟨dbid, content, role, preferredRole, mode, status, port.toNat, hostname, address⟩

/-- Whether a segment is the master. -/
def isMaster (s : Segment) : Bool := s.content == masterContent && s.role == .primary

/-- Whether a segment stands by for the master. -/
def isStandby (s : Segment) : Bool := s.content == masterContent && s.role == .mirror

/-- Whether a segment serves a share of the data. -/
def isPrimary (s : Segment) : Bool := 0 ≤ s.content && s.role == .primary

/-- Whether a segment mirrors a share of the data. -/
def isMirror (s : Segment) : Bool := 0 ≤ s.content && s.role == .mirror

end Segment

end ClusterFixture.Cluster
