import CloudSteward.Instance.Addresses
import CloudSteward.TargetGroup.Name

/-!
# Membership of target groups

Every interface of every eligible node is a target in the group of its network.
A sync resolves all instances before it changes anything, then brings one group
after the other to exactly the desired targets by additions and removals; a
group is never replaced. A sync of the same node names as the last complete one
does nothing.

Without nodes, all groups of the cluster are deleted, unless a service still
wants a balancer.
-/

namespace CloudSteward

open Program

/-! ## Desired targets -/

/-- The desired targets by group name. -/
abbrev DesiredTargets := SortedMap String TargetSet

/-- One more target in a group. -/
def addDesired (desired : DesiredTargets) (groupName : String) (t : Target) : DesiredTargets :=
  desired.insert groupName (SortedSet.add ((desired.get? groupName).getD .empty) t)

/-- Whether a node takes part in target groups: it has a providerID of this
    provider, and balancers may send traffic to it. -/
def Node.isEligible (n : Node) : Bool :=
  !n.providerId.isEmpty && ProviderId.belongs n.providerId && n.takesTraffic

/-- The prefix of a node's groups, as the node spells it. -/
def Node.groupPrefix (n : Node) : String :=
  (n.metadata.annotations.get? targetGroupPrefixAnnotation).getD ""

/-- Adds the interfaces of an instance to the desired targets. -/
def desiredOfInterfaces (s : Settings) (groupPrefix instanceName : String) :
    SubnetMemo → DesiredTargets → List Interface → Program (SubnetMemo × DesiredTargets)
  | memo, desired, [] => .pure (memo, desired)
  | memo, desired, i :: rest => do
    let address ← require i.address? (.invalidInstance instanceName
      s!"interface in subnet {i.subnetId} has no primary IPv4 address")
    let (networkId, memo) ← networkOf memo i.subnetId
    let groupName := targetGroupName groupPrefix s.clusterName networkId
    desiredOfInterfaces s groupPrefix instanceName memo
      (addDesired desired groupName ⟨i.subnetId, address⟩) rest

/-- Adds nodes to the desired targets. -/
def desiredOfNodes (s : Settings) :
    SubnetMemo → DesiredTargets → List Node → Program DesiredTargets
  | _, desired, [] => .pure desired
  | memo, desired, n :: rest => do
    let found ← require (← instanceByProviderId n.providerId) (.instanceNotFound n.name)
    let (memo, desired) ←
      desiredOfInterfaces s n.groupPrefix found.name memo desired found.interfaces
    desiredOfNodes s memo desired rest

/-- The desired targets of eligible nodes. -/
def desiredTargets (s : Settings) (nodes : List Node) : Program DesiredTargets :=
  desiredOfNodes s .empty .empty nodes

/-! ## Converging a group -/

/-- The group of a name, if it exists. -/
def fetchGroup (name : String) : Program (Option TargetGroup) := do
  match ← answer (.findTargetGroup name) with
  | .ok found => return found
  | .error e => if e.isNotFound then return none else .fail (.cloud e)

/-- Adds what is missing from an existing group and removes what is too much. -/
def adjustGroup (group : TargetGroup) (targets : TargetSet) : Program Unit := do
  let actual := SortedSet.ofMembers group.targets
  let missing := SortedSet.diff targets actual
  let surplus := SortedSet.diff actual targets
  unless missing.isEmpty do
    let _ ← ask (.addTargets group.id missing)
  unless surplus.isEmpty do
    let _ ← ask (.removeTargets group.id surplus)

/-- The request for a group with the given targets. -/
def groupRequest (s : Settings) (name : String) (targets : TargetSet) : TargetGroupRequest :=
  ⟨s.folderId, name, s.regionId, SortedSet.toList targets, .empty⟩

/-- Creates a group; one that has appeared in the meantime is adjusted. -/
def createGroup (s : Settings) (name : String) (targets : TargetSet) : Program Unit := do
  match ← answer (.createTargetGroup (groupRequest s name targets)) with
  | .ok _ => return ()
  | .error e =>
    if e.isAlreadyExists then adjustGroup (← require (← fetchGroup name) (.cloud e)) targets
    else .fail (.cloud e)

/-- Brings one group to exactly the given targets. -/
def convergeGroup (s : Settings) (name : String) (targets : TargetSet) : Program Unit := do
  match ← fetchGroup name with
  | some group => adjustGroup group targets
  | none => createGroup s name targets

/-- Brings several groups to their targets, one after the other. -/
def convergeGroups (s : Settings) : List (String × TargetSet) → Program Unit
  | [] => .pure ()
  | (name, targets) :: rest => do
    convergeGroup s name targets
    convergeGroups s rest

/-! ## Cleanup -/

/-- Whether a group belongs to a cluster, as its name tells. -/
def TargetGroup.belongsTo (g : TargetGroup) (clusterName : String) : Bool :=
  (afterPrefix? clusterName.toList g.name.toList).isSome

/-- Deletes every group of the cluster. -/
def deleteClusterGroups (s : Settings) : Program Unit := do
  let groups ← ask .listTargetGroups
  let owned := groups.filter (·.belongsTo s.clusterName)
  .deleteGroups (owned.map (·.id)) fun
    | .ok _ => .pure ()
    | .error e => .fail (.cloud e)

/-! ## Sync -/

/-- The names of nodes. -/
def nodeNames (nodes : List Node) : NameSet :=
  SortedSet.ofMembers (nodes.map Node.name)

/-- Brings the target groups in line with some nodes. -/
def syncTargetGroups (s : Settings) (services : List Service) (nodes : List Node) :
    Program Unit :=
  if nodes.isEmpty then
    if services.any Service.isActive then .pure ()
    else do
      deleteClusterGroups s
      .remember none (.pure ())
  else
    let eligible := nodes.filter Node.isEligible
    let names := nodeNames eligible
    .visited fun last =>
      if last = some names then .pure ()
      else do
        let desired ← desiredTargets s eligible
        convergeGroups s desired.entries
        .remember (some names) (.pure ())

end CloudSteward
