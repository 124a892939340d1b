import CloudSteward.Instance.Addresses
import CloudSteward.Reconcile.Visit

/-!
# Reconciling a node

A new node carries a taint until the cloud's part of its description is filled
in: its providerID, addresses, zone, region and instance type. From then on the
node is compared with its instance from time to time. A node that is not ready
is deleted when its instance is gone and carries another taint while the
instance is stopped.
-/

namespace CloudSteward

open Program

/-- The time between two visits of a node. -/
def monitorPeriod : Span := .ofSeconds 300

/-- Addresses with the name of the node as hostname, unless they have one. -/
def withHostname (addresses : List NodeAddress) (name : String) : List NodeAddress :=
  if addresses.any (·.type == "Hostname") then addresses
  else addresses ++ [⟨"Hostname", name⟩]

/-! ## Initialization -/

/-- What the cloud knows of a new node. -/
structure NodeDescription where
  /-- Present if the node has no providerID yet. -/
  providerId : Option String
  addresses : List NodeAddress
  instanceType : String
  zone : Zone
deriving DecidableEq, Repr

/-- The description of the instance of a name. -/
def describeByName (s : Settings) (name : String) : Program NodeDescription := do
  let path ← instancePath name
  let addresses ← addressesByName s name
  let type ← instanceType name
  let zone ← zoneByName name
  return ⟨some (providerScheme ++ path), addresses, type, zone⟩

/-- The description of the instance that a providerID names. -/
def describeByProviderId (s : Settings) (raw : String) : Program NodeDescription := do
  let addresses ← addressesByProviderId s raw
  let type ← instanceTypeByProviderId raw
  let zone ← zoneByProviderId raw
  return ⟨none, addresses, type, zone⟩

/-- The description of a new node. A node of another provider is refused. -/
def describeNode (s : Settings) (n : Node) : Program NodeDescription :=
  if n.providerId.isEmpty then describeByName s n.name
  else if ProviderId.belongs n.providerId then describeByProviderId s n.providerId
  else
    .fail (.invalidProviderId
      s!"node {n.name} carries {n.providerId} but belongs to another provider")

/-- The labels that a description gives a node. -/
def NodeDescription.labels (d : NodeDescription) : SortedMap String String :=
  SortedMap.ofList [(zoneLabel, d.zone.failureDomain), (regionLabel, d.zone.region),
    (instanceTypeLabel, d.instanceType)]

/-- The patch that makes a new node an initialized one. -/
def initialPatch (n : Node) (d : NodeDescription) : NodePatch :=
  ⟨d.providerId, d.labels, some (n.taintsWithout uninitializedTaint)⟩

/-- Describes a new node; its addresses are known before it takes any pods. -/
def initializeNode (s : Settings) (n : Node) : Program Unit := do
  let d ← describeNode s n
  change (.setAddresses n (withHostname d.addresses n.name))
  change (.patchNode n (initialPatch n d))

/-! ## Monitoring -/

/-- The taints of a node that is, or is not, on a stopped instance. -/
def Node.shutdownTaints (n : Node) (stopped : Bool) : List Taint :=
  n.taintsWithout shutdownTaint ++
    if stopped then [⟨shutdownTaint, "NoSchedule", none, none⟩] else []

/-- Deletes a node; one that is gone already is no failure. -/
def removeNode (n : Node) : Program Unit :=
  .write (.deleteNode n) fun
    | .ok _ | .error (.refused 404) => .pure ()
    | .error e => .fail (.kube e)

/-- Whether the instance of a node that is not ready is gone. -/
def isOrphaned (n : Node) : Program Bool :=
  if n.isReady then .pure false
  else do return !(← instanceExists n.providerId)

/-- Whether a node is not ready because its instance is stopped. -/
def isStopped (n : Node) : Program Bool :=
  if n.isReady then .pure false else instanceIsStopped n.providerId

/-- Brings the taint and the addresses of a node in line with its instance. -/
def refreshNode (s : Settings) (n : Node) : Program Unit := do
  let stopped ← isStopped n
  unless stopped = n.hasTaint shutdownTaint do
    change (.patchNode n ⟨none, .empty, some (n.shutdownTaints stopped)⟩)
  let addresses := withHostname (← addressesByProviderId s n.providerId) n.name
  unless addresses = n.addresses do
    change (.setAddresses n addresses)

/-- Compares an initialized node with its instance. -/
def monitorNode (s : Settings) (n : Node) : Program Unit := do
  if ← isOrphaned n then removeNode n else refreshNode s n

/-- Brings a node in line with its instance. Initialized nodes of other providers
    are left alone. -/
def reconcileNode (s : Settings) (n : Node) : Program NextVisit := do
  if n.hasTaint uninitializedTaint then
    initializeNode s n
    return .after monitorPeriod
  else if ProviderId.belongs n.providerId then
    monitorNode s n
    return .after monitorPeriod
  else return .onChange

end CloudSteward
