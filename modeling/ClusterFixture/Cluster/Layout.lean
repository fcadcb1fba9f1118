/-
The layout of a cluster: all of its segments, in the order of the catalog.
-/

import ClusterFixture.Cluster.Segment

set_option autoImplicit false

namespace ClusterFixture.Cluster

/-- All segments of a cluster, the master and its standby included. -/
structure Layout where
  segments : List Segment
  deriving DecidableEq, Repr

namespace Layout

/-- The layout that the rows of the configuration query describe. -/
def ofRows (rows : List Sql.Row) : Checked Layout := do return ⟨← rows.mapM Segment.ofRow⟩

/-- The segments that serve a share of the data. -/
def primaries (l : Layout) : List Segment := l.segments.filter Segment.isPrimary

/-- The segments that mirror a share of the data. -/
def mirrors (l : Layout) : List Segment := l.segments.filter Segment.isMirror

/-- The first master. -/
def master? (l : Layout) : Option Segment := l.segments.find? Segment.isMaster

/-- The first standby of the master. -/
def standby? (l : Layout) : Option Segment := l.segments.find? Segment.isStandby

/-- Whether all segments agree with their mirrors. -/
def isSynchronized (l : Layout) : Bool := l.segments.all fun s => s.mode == .synchronized

/-- Whether all segments answer. -/
def isRunning (l : Layout) : Bool := l.segments.all fun s => s.status == .up

/-- The first segment that tracks changes for a lost mirror. -/
def changeTracking? (l : Layout) : Option Segment :=
  l.segments.find? fun s => s.mode == .changeTracking

/-- The number of segments of the selected kinds. -/
def count (l : Layout) (primary mirror master standby : Bool) : Nat :=
  (if primary then l.primaries.length else 0)
    + (if mirror then l.mirrors.length else 0)
    + (if master && l.master?.isSome then 1 else 0)
    + (if standby && l.standby?.isSome then 1 else 0)

end Layout

end ClusterFixture.Cluster
