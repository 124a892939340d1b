import CloudSteward.Memory.Inventory
import CloudSteward.Program
import CloudSteward.Text.Quoted

/-!
# A cloud in memory

The store holds the resources of one folder under their ids. Each call has its
effect at once. The ids of new resources and the addresses of new listeners come
from one counter; a call that fails in the end may have used it up already.
-/

namespace CloudSteward

/-- Resources to be put into a store. -/
structure Supply where
  instances : List Instance
  subnets : List Subnet
  routeTables : List RouteTable
  targetGroups : List TargetGroup
  balancers : List Balancer

/-- The resources of a folder by id. -/
structure Store where
  folderId : String
  instances : Inventory Instance Instance.id
  subnets : Inventory Subnet Subnet.id
  routeTables : Inventory RouteTable RouteTable.id
  targetGroups : Inventory TargetGroup TargetGroup.id
  balancers : Inventory Balancer Balancer.id
  /-- The next number for an id or address. -/
  counter : Nat

namespace Store

/-- A store without resources. -/
def empty (folderId : String) : Store :=
  ⟨folderId, .empty, .empty, .empty, .empty, .empty, 1⟩

/-- Adds resources, replacing those with the same id. -/
def put (s : Store) (supply : Supply) : Store :=
  { s with
    instances := s.instances.putAll supply.instances
    subnets := s.subnets.putAll supply.subnets
    routeTables := s.routeTables.putAll supply.routeTables
    targetGroups := s.targetGroups.putAll supply.targetGroups
    balancers := s.balancers.putAll supply.balancers }

/-! ## Answers -/

/-- A resource that has to exist. -/
def existing {α : Type} (kind id : String) : Option α → Except CloudError α
  | some a => .ok a
  | none => .error (.notFound s!"{kind} {id} not found")

/-- The resource of a unique name. -/
def unique {α : Type} (s : Store) (kinds name : String) : List α → Except CloudError (Option α)
  | [] => .ok none
  | [a] => .ok (some a)
  | found =>
    .error (.ambiguous
      s!"{found.length} {kinds} named {Text.quoted name} found in folder {s.folderId}")

/-- A number with at least four digits. -/
def fourDigits (n : Nat) : String :=
  String.ofList (List.replicate (4 - (toString n).length) '0') ++ toString n

/-- The id that a number gives a resource. -/
def idOf (n : Nat) : String := "enp" ++ fourDigits n

/-! ## Instances and networks -/

/-- The instance of an id. -/
def getInstance (s : Store) (id : String) : Except CloudError Instance :=
  existing "Instance" id (s.instances.get? id)

/-- The instances of a name. -/
def instancesNamed (s : Store) (name : String) : List Instance :=
  s.instances.values.filter (·.name == name)

/-- The instance of a name. -/
def findInstance (s : Store) (name : String) : Except CloudError (Option Instance) :=
  s.unique "instances" name (s.instancesNamed name)

/-- The subnet of an id. -/
def getSubnet (s : Store) (id : String) : Except CloudError Subnet :=
  existing "Subnet" id (s.subnets.get? id)

/-- The route table of an id. -/
def getRouteTable (s : Store) (id : String) : Except CloudError RouteTable :=
  existing "Route table" id (s.routeTables.get? id)

/-- Replaces the routes of a table. -/
def setRoutes (s : Store) (id : String) (routes : List StaticRoute) :
    Except CloudError RouteTable × Store :=
  match s.getRouteTable id with
  | .error e => (.error e, s)
  | .ok table =>
    let table := { table with routes }
    (.ok table, { s with routeTables := s.routeTables.put table })

/-! ## Target groups -/

/-- All groups, by name. -/
def listTargetGroups (s : Store) : List TargetGroup :=
  s.targetGroups.values.mergeSort fun a b => a.name ≤ b.name

/-- The groups of a name. -/
def groupsNamed (s : Store) (name : String) : List TargetGroup :=
  s.targetGroups.values.filter (·.name == name)

/-- The group of a name. -/
def findTargetGroup (s : Store) (name : String) : Except CloudError (Option TargetGroup) :=
  s.unique "target groups" name (s.groupsNamed name)

/-- Creates a group, unless there is one of its name. -/
def createTargetGroup (s : Store) (r : TargetGroupRequest) :
    Except CloudError TargetGroup × Store :=
  if s.targetGroups.values.any (·.name == r.name) then
    (.error (.alreadyExists s!"Target group {r.name} already exists"), s)
  else
    let id := idOf s.counter
    let group : TargetGroup := ⟨id, r.folderId, r.name, r.regionId, r.targets, r.labels⟩
    (.ok group,
      { s with targetGroups := s.targetGroups.put group, counter := s.counter + 1 })

/-- Changes the targets of a group. -/
def changeTargets (s : Store) (id : String) (update : List Target → List Target) :
    Except CloudError TargetGroup × Store :=
  match existing "Target group" id (s.targetGroups.get? id) with
  | .error e => (.error e, s)
  | .ok group =>
    let group := { group with targets := update group.targets }
    (.ok group, { s with targetGroups := s.targetGroups.put group })

/-- Adds those targets that a group lacks. -/
def addTargets (s : Store) (id : String) (targets : List Target) :
    Except CloudError TargetGroup × Store :=
  s.changeTargets id fun present =>
    targets.foldl (fun l t => if l.contains t then l else l ++ [t]) present

/-- Removes targets from a group. -/
def removeTargets (s : Store) (id : String) (targets : List Target) :
    Except CloudError TargetGroup × Store :=
  s.changeTargets id fun present => present.filter fun t => !targets.contains t

/-- Deletes a group, which need not exist. -/
def deleteTargetGroup (s : Store) (id : String) : Store :=
  { s with targetGroups := s.targetGroups.erase id }

/-! ## Balancers -/

/-- The balancers of a name. -/
def balancersNamed (s : Store) (name : String) : List Balancer :=
  s.balancers.values.filter (·.name == name)

/-- The balancer of a name. -/
def findBalancer (s : Store) (name : String) : Except CloudError (Option Balancer) :=
  s.unique "network load balancers" name (s.balancersNamed name)

/-- The listener that a description becomes when `n` is the next number; the
    second component tells whether the number was needed for an address. -/
def listenerFrom (n : Nat) (l : ListenerSpec) : Listener × Bool :=
  let listener (address subnetId : String) (version : IpVersion) : Listener :=
    ⟨l.name, address, l.port, l.protocol, l.targetPort, subnetId, version⟩
  match l.internal, l.external with
  | some ⟨some address, subnetId, version⟩, _ => (listener address subnetId version, false)
  | some ⟨none, subnetId, version⟩, _ => (listener s!"10.128.0.{n}" subnetId version, true)
  | none, some ⟨some address, version⟩ => (listener address "" version, false)
  | none, some ⟨none, version⟩ => (listener s!"203.0.113.{n}" "" version, true)
  | none, none => (listener "" "" .ipv4, false)

/-- The listeners that descriptions become, and the next number after them. -/
def listenersFrom (n : Nat) : List ListenerSpec → List Listener × Nat
  | [] => ([], n)
  | l :: rest =>
    let (listener, used) := listenerFrom n l
    let (more, n) := listenersFrom (if used then n + 1 else n) rest
    (listener :: more, n)

/-- Creates a balancer, unless there is one of its name. -/
def createBalancer (s : Store) (r : BalancerRequest) : Except CloudError Balancer × Store :=
  if s.balancers.values.any (·.name == r.name) then
    (.error (.alreadyExists s!"Network load balancer {r.name} already exists"), s)
  else
    let (listeners, n) := listenersFrom s.counter r.listeners
    let id := idOf n
    let balancer : Balancer :=
      ⟨id, r.folderId, r.name, r.regionId, "ACTIVE", r.type, listeners, r.attachments⟩
    (.ok balancer, { s with balancers := s.balancers.put balancer, counter := n + 1 })

/-- Deletes a balancer, which need not exist. -/
def deleteBalancer (s : Store) (id : String) : Store :=
  { s with balancers := s.balancers.erase id }

/-- Changes a balancer, unless the change is refused. -/
def changeBalancer (s : Store) (id : String) (update : Balancer → Except CloudError Balancer) :
    Except CloudError Balancer × Store :=
  match existing "Network load balancer" id (s.balancers.get? id) with
  | .error e => (.error e, s)
  | .ok balancer =>
    match update balancer with
    | .error e => (.error e, s)
    | .ok balancer => (.ok balancer, { s with balancers := s.balancers.put balancer })

/-- Adds a listener, unless there is one of its name. -/
def addListener (s : Store) (id : String) (l : ListenerSpec) :
    Except CloudError Balancer × Store :=
  let (listener, used) := listenerFrom s.counter l
  let s := if used then { s with counter := s.counter + 1 } else s
  s.changeBalancer id fun b =>
    if b.listeners.any (·.name == listener.name) then
      .error (.alreadyExists s!"Listener {listener.name} already exists")
    else .ok { b with listeners := b.listeners ++ [listener] }

/-- Removes the listeners of a name. -/
def removeListener (s : Store) (id name : String) : Except CloudError Balancer × Store :=
  s.changeBalancer id fun b => .ok { b with listeners := b.listeners.filter (·.name != name) }

/-- Attaches a target group, unless it is attached already. -/
def attachTargetGroup (s : Store) (id : String) (a : Attachment) :
    Except CloudError Balancer × Store :=
  s.changeBalancer id fun b =>
    if b.attachments.any (·.targetGroupId == a.targetGroupId) then
      .error (.alreadyExists s!"Target group {a.targetGroupId} already attached")
    else .ok { b with attachments := b.attachments ++ [a] }

/-- Detaches a target group. -/
def detachTargetGroup (s : Store) (id group : String) : Except CloudError Balancer × Store :=
  s.changeBalancer id fun b =>
    .ok { b with attachments := b.attachments.filter (·.targetGroupId != group) }

/-! ## Calls -/

/-- The answer to a call and the store afterwards. -/
def answer (s : Store) : (c : Call) → Except CloudError c.Reply × Store
  | .getInstance id => (s.getInstance id, s)
  | .findInstance name => (s.findInstance name, s)
  | .getSubnet id => (s.getSubnet id, s)
  | .getRouteTable id => (s.getRouteTable id, s)
  | .setRoutes id routes => s.setRoutes id routes
  | .listTargetGroups => (.ok s.listTargetGroups, s)
  | .findTargetGroup name => (s.findTargetGroup name, s)
  | .createTargetGroup r => s.createTargetGroup r
  | .addTargets id targets => s.addTargets id targets
  | .removeTargets id targets => s.removeTargets id targets
  | .deleteTargetGroup id => (.ok (), s.deleteTargetGroup id)
  | .findBalancer name => (s.findBalancer name, s)
  | .createBalancer r => s.createBalancer r
  | .deleteBalancer id => (.ok (), s.deleteBalancer id)
  | .addListener id l => s.addListener id l
  | .removeListener id name => s.removeListener id name
  | .attachTargetGroup id a => s.attachTargetGroup id a
  | .detachTargetGroup id group => s.detachTargetGroup id group

end Store

end CloudSteward
