/-
Transitions of the mirrors, and how they are told from counts over the catalog.
-/

import ClusterFixture.Sql.Statement
import ClusterFixture.Sql.Target

set_option autoImplicit false

namespace ClusterFixture.Cluster

/-- A state of the mirrors that a scenario waits for. -/
inductive Transition where
  /-- Some segment tracks changes for a lost mirror. -/
  | changeTracking
  /-- All segments agree with their mirrors and answer. -/
  | inSync
  /-- All segments that disagree with their mirrors are catching up. -/
  | resync
  deriving DecidableEq, Repr

namespace Transition

/-- The words for a transition. -/
def name : Transition → String
  | .changeTracking => "change tracking"
  | .inSync => "insync"
  | .resync => "resync"

/-- The counting queries of one probe, in order. -/
def queries : Transition → List String
  | .changeTracking => [Sql.Statement.changeTrackingCount]
  | .inSync => [Sql.Statement.notInSyncOrDownCount]
  | .resync => [Sql.Statement.resyncCount, Sql.Statement.notInSyncCount]

/-- Whether the counts of one probe show the transition complete. -/
def isReached : Transition → List Int → Bool
  | .changeTracking, [tracking] => 0 < tracking
  | .inSync, [outOfSync] => outOfSync == 0
  | .resync, [catchingUp, outOfSync] => catchingUp == outOfSync
  | _, _ => false

/-- What is said of a transition that did not come. -/
def timeoutText : Transition → String
  | .changeTracking => "cluster not in change tracking"
  | .inSync => "cluster not in sync transition"
  | .resync => "cluster not in sync transition"

end Transition

/-- The server that a transition is watched from. -/
structure Endpoint where
  host : String
  port : Nat
  user : String
  deriving DecidableEq, Repr

/-- The template database of an endpoint. -/
def Endpoint.target (e : Endpoint) : Sql.Target :=
  (Sql.Target.template.onHost e.host e.port).asUser e.user

end ClusterFixture.Cluster
