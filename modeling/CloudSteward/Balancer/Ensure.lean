import CloudSteward.Balancer.Spec
import CloudSteward.Balancer.Status
import CloudSteward.TargetGroup.Sync

/-!
# The balancer of a service

A balancer is found by the name of its service and brought to the description
with the fewest changes: listeners that nobody wants are removed, missing ones
added, and only then attachments change. A listener is known by protocol, port
and target port. Only a change between internal and public makes a new balancer
necessary.
-/

namespace CloudSteward

open Program

/-! ## Listeners -/

/-- What tells one listener from another. -/
structure ListenerKey where
  protocol : Protocol
  port : Int
  targetPort : Int
deriving DecidableEq, Repr

/-- The key of a listener. -/
def Listener.key (l : Listener) : ListenerKey := ⟨l.protocol, l.port, l.targetPort⟩

/-- The key of a listener to be. -/
def ListenerSpec.key (l : ListenerSpec) : ListenerKey := ⟨l.protocol, l.port, l.targetPort⟩

/-- The names of the listeners that the description does not want. -/
def staleListeners (b : Balancer) (wanted : List ListenerSpec) : List String :=
  (b.listeners.filter fun l => !(wanted.map (·.key)).contains l.key).map (·.name)

/-- The wanted listeners that a balancer lacks. -/
def missingListeners (b : Balancer) (wanted : List ListenerSpec) : List ListenerSpec :=
  wanted.filter fun l => !(b.listeners.map (·.key)).contains l.key

/-- The groups whose attachment is not the wanted one. -/
def strangeGroups (b : Balancer) (wanted : Attachment) : List String :=
  (b.attachments.filter (· ≠ wanted)).map (·.targetGroupId)

/-! ## Changes -/

/-- Removes listeners one by one; gives the balancer as it is afterwards. -/
def removeListeners (id : String) : List String → Balancer → Program Balancer
  | [], current => .pure current
  | name :: rest, _ => do removeListeners id rest (← ask (.removeListener id name))

/-- Adds listeners one by one. -/
def addListeners (id : String) : List ListenerSpec → Balancer → Program Balancer
  | [], current => .pure current
  | listener :: rest, _ => do addListeners id rest (← ask (.addListener id listener))

/-- Detaches groups one by one. -/
def detachGroups (id : String) : List String → Balancer → Program Balancer
  | [], current => .pure current
  | group :: rest, _ => do detachGroups id rest (← ask (.detachTargetGroup id group))

/-- Brings a balancer to the description; all changes are planned beforehand. -/
def convergeBalancer (b : Balancer) (spec : BalancerSpec) (attachment : Attachment) :
    Program Balancer := do
  let current ← removeListeners b.id (staleListeners b spec.listeners) b
  let current ← addListeners b.id (missingListeners b spec.listeners) current
  let current ← detachGroups b.id (strangeGroups b attachment) current
  if b.attachments.contains attachment then return current
  else ask (.attachTargetGroup b.id attachment)

/-! ## Ensuring -/

/-- The request for the balancer of a description. -/
def balancerRequest (s : Settings) (spec : BalancerSpec) (attachment : Attachment) :
    BalancerRequest :=
  ⟨s.folderId, spec.name, s.regionId, spec.type, spec.listeners, [attachment]⟩

/-- Creates the balancer; one that has appeared in the meantime is converged. -/
def createBalancer (s : Settings) (spec : BalancerSpec) (attachment : Attachment) :
    Program Balancer := do
  match ← answer (.createBalancer (balancerRequest s spec attachment)) with
  | .ok b => return b
  | .error e =>
    if e.isAlreadyExists then
      let found ← ask (.findBalancer spec.name)
      convergeBalancer (← require found (.cloud e)) spec attachment
    else .fail (.cloud e)

/-- The attachment of a description, once its group is known. -/
def attachmentFor (spec : BalancerSpec) (group : TargetGroup) : Attachment :=
  ⟨group.id, [spec.healthCheck]⟩

/-- Brings the balancer of a name to the description, whatever is there. -/
def placeBalancer (s : Settings) (spec : BalancerSpec) (attachment : Attachment) :
    Program Balancer := do
  match ← ask (.findBalancer spec.name) with
  | none => createBalancer s spec attachment
  | some existing =>
    if existing.type = spec.type then convergeBalancer existing spec attachment
    else do
      let _ ← ask (.deleteBalancer existing.id)
      createBalancer s spec attachment

/-- The description as the start of a program. -/
def describedBalancer (s : Settings) (service : Service) : Program BalancerSpec :=
  match balancerSpec service s with
  | .ok spec => .pure spec
  | .error (.rejected cause) => .fail (.validation (cause.message service.fullName))
  | .error .brokenName => .abort

/-- The name of a service's balancer as the start of a program. -/
def namedBalancer (service : Service) : Program String :=
  match balancerName? service with
  | some name => .pure name
  | none => .abort

/-- Brings the balancer of a service to its description. Nothing is called for a
    service that cannot be served or without nodes. -/
def ensureBalancer (s : Settings) (services : List Service) (service : Service)
    (nodes : List Node) : Program Balancer := do
  let spec ← describedBalancer s service
  if nodes.isEmpty then
    .fail (.validation s!"no nodes available for load balancer {spec.name}")
  else do
    syncTargetGroups s services nodes
    let group ← ask (.findTargetGroup spec.targetGroupName)
    let group ← require group (.targetGroupNotFound spec.targetGroupName)
    placeBalancer s spec (attachmentFor spec group)

/-- Ensures the balancer of a service and tells its addresses. -/
def ensureLoadBalancer (s : Settings) (services : List Service) (service : Service)
    (nodes : List Node) : Program BalancerStatus := do
  return ingressStatus (← ensureBalancer s services service nodes)

/-- Ensures the balancer of a service after a change of its nodes. -/
def updateLoadBalancer (s : Settings) (services : List Service) (service : Service)
    (nodes : List Node) : Program Unit := do
  let _ ← ensureBalancer s services service nodes

/-- The addresses of a service's balancer, if there is one. -/
def getLoadBalancer (service : Service) : Program (Option BalancerStatus) := do
  return (← ask (.findBalancer (← namedBalancer service))).map ingressStatus

/-- Deletes a balancer; one that is gone already is no failure. -/
def removeBalancer (id : String) : Program Unit := do
  match ← answer (.deleteBalancer id) with
  | .ok _ => return ()
  | .error e => if e.isNotFound then return () else .fail (.cloud e)

/-- Deletes the balancer of a service, then the target groups if no service
    needs them any more. -/
def ensureLoadBalancerDeleted (s : Settings) (services : List Service) (service : Service) :
    Program Unit := do
  let name ← namedBalancer service
  match ← ask (.findBalancer name) with
  | some b => removeBalancer b.id
  | none => Pure.pure ()
  syncTargetGroups s services []

end CloudSteward
