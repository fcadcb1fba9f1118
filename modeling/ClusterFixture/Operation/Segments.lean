/-
The segments of a cluster, and running statements on each of them. Which segment is next is not
noted in the log, the statement itself is.
-/

import ClusterFixture.Cluster.Layout
import ClusterFixture.Operation.Basic
import ClusterFixture.Sql.Statement

set_option autoImplicit false

namespace ClusterFixture.Op

variable {σ : Type}

/-- The layout that the catalog reports. -/
def layout : Op σ Cluster.Layout := do
  check (Cluster.Layout.ofRows (← queryAt .template Sql.Statement.segmentConfiguration))

/-- Whether all segments agree with their mirrors. -/
def segmentsSynchronized : Op σ Bool := return (← layout).isSynchronized

/-- Whether all segments answer. -/
def segmentsRunning : Op σ Bool := return (← layout).isRunning

/-- The port and the host of the first segment that tracks changes. -/
def changeTrackingSegment : Op σ (Option (Nat × String)) :=
  return (← layout).changeTracking?.map fun s => (s.port, s.hostname)

/-- The number of segments of the selected kinds. -/
def segmentCount (primary mirror master standby : Bool) : Op σ Nat :=
  return (← layout).count primary mirror master standby

/-- The place of a segment for statements that concern it alone. -/
def segmentTarget (database : String) (s : Cluster.Segment) : Sql.Target :=
  (Sql.Target.onHost { database } s.hostname s.port).inUtilityMode

/-- Runs statements on every primary. -/
def executeOnPrimaries (database statement : String) : Op σ Unit := do
  (← layout).primaries.forM fun s => executeAt (segmentTarget database s) statement

end ClusterFixture.Op
