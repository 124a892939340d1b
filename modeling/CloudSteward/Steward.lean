import CloudSteward.Memory.World
import CloudSteward.Reconcile.Node
import CloudSteward.Reconcile.Service
import CloudSteward.Route.Sync

/-!
# The steward of a cluster

The steward runs the reconcilers for a cluster, one object at a time. It keeps
what outlives a single reconciliation: the world, the view of the cluster and
the failures counted for each object.
-/

namespace CloudSteward

/-! ## Attempts -/

/-- The result of a program that has to end before a deadline: one that never
    returns is cut off there. A program that was stopped by a fault has none. -/
def Outcome.byDeadline? {α : Type} (deadline : Span) : Outcome α → Option (Except SyncError α)
  | .done a => some (.ok a)
  | .failed e => some (.error e)
  | .aborted => none
  | .hung => some (.error (.timeout deadline))

/-- The result of a program without a deadline; one that never returns has
    none. -/
def Outcome.result? {α : Type} : Outcome α → Option (Except SyncError α)
  | .done a => some (.ok a)
  | .failed e => some (.error e)
  | .aborted | .hung => none

/-- What came of a reconciliation, and when the object is visited again. -/
structure Attempt where
  /-- The error, if it failed. -/
  error : Option SyncError
  visit : NextVisit

/-- The attempt of a result. -/
def Attempt.ofResult (result : Except SyncError NextVisit) (visit : NextVisit) : Attempt :=
  match result with
  | .ok _ => ⟨none, visit⟩
  | .error e => ⟨some e, visit⟩

/-! ## The steward -/

/-- A steward at work. -/
structure Steward where
  settings : Settings
  cluster : Cluster
  world : World
  /-- Failures of the services. -/
  services : Backoff ObjectKey
  /-- Failures of the nodes. -/
  nodes : Backoff ObjectKey

namespace Steward

/-- A steward before its first reconciliation. -/
def start (settings : Settings) (cluster : Cluster) (world : World) : Steward :=
  ⟨settings, cluster, world, .start .default, .start .default⟩

/-- Runs a program in the steward's world. -/
def run {α : Type} (s : Steward) (p : Program α) : Outcome α × Steward :=
  let (outcome, world) := p.run s.world
  (outcome, { s with world })

/-! ## Objects -/

/-- Reconciles a service; none if a fault stopped it. It is a fault if there is
    no key to count the failures of the service under. -/
def reconcileService (s : Steward) (service : Service) : Option Attempt × Steward :=
  let (outcome, s) := s.run (CloudSteward.reconcileService s.settings s.cluster service)
  match outcome.byDeadline? serviceDeadline, service.metadata.key? with
  | some result, some key =>
    let (visit, services) := settle s.services key result
    (some (.ofResult result visit), { s with services })
  | _, _ => (none, s)

/-- Reconciles a node; none if it never ends or a fault stopped it, and it is a
    fault if there is no key to count its failures under. -/
def reconcileNode (s : Steward) (node : Node) : Option Attempt × Steward :=
  let (outcome, s) := s.run (CloudSteward.reconcileNode s.settings node)
  match outcome.result?, node.metadata.key? with
  | some result, some key =>
    let (visit, nodes) := settle s.nodes key result
    (some (.ofResult result visit), { s with nodes })
  | _, _ => (none, s)

/-- The failures of a service since its last success. -/
def serviceFailures (s : Steward) (service : Service) : Nat :=
  (service.metadata.key?.map s.services.failures).getD 0

/-! ## The cluster as a whole -/

/-- Brings the target groups in line with the nodes of the cluster. -/
def syncTargetGroups (s : Steward) : Outcome Unit × Steward :=
  s.run (CloudSteward.syncTargetGroups s.settings s.cluster.services s.cluster.nodes)

/-- Syncs the target groups once for each change of the node set, whether a sync
    succeeds or not, and counts the changes that are handed on to the services.
    The services take no more than `room` changes at once and lose the others.
    Without services to hand the changes on to, the first sync is the last. -/
def followNodeChanges (s : Steward) (room : Option Nat) : Nat → Nat × Steward
  | 0 => (0, s)
  | changes + 1 =>
    match s.syncTargetGroups, room with
    | (.hung, s), _ => (0, s)
    | (_, s), none => (0, s)
    | (_, s), some 0 => s.followNodeChanges (some 0) changes
    | (_, s), some (room + 1) =>
      let (handed, s) := s.followNodeChanges (some room) changes
      (handed + 1, s)

/-- Brings the routes in line with the nodes for some seconds, if there is a
    route table. A pass that never ends is the last one. -/
def syncRoutes (s : Steward) (tableId : String) (seconds : Nat) : Steward :=
  (s.run (routePasses s.cluster tableId (passesWithin seconds))).2

end Steward

end CloudSteward
