import CloudSteward.Placement
import CloudSteward.Program
import CloudSteward.ProviderId

/-!
# The instance behind a node

A node with a providerID belongs to the instance that it names; a node without
one belongs to the instance of its own name. A providerID with folder and zone
is looked up by the instance name alone. That an instance is gone is an answer
like any other; every other failure of the look-up is an error.
-/

namespace CloudSteward

open Program

/-- The instance of a name, if there is one. -/
def instanceByName (name : String) : Program (Option Instance) :=
  ask (.findInstance name)

/-- The instance of an id, if it exists. -/
def instanceById (id : String) : Program (Option Instance) := do
  match ← answer (.getInstance id) with
  | .ok found => return some found
  | .error e => if e.isNotFound then return none else .fail (.cloud e)

/-- The instance that a providerID names, if it exists. -/
def instanceByProviderId (raw : String) : Program (Option Instance) :=
  match ProviderId.parse raw with
  | .error e => .fail (.invalidProviderId e.message)
  | .ok (.legacy _ _ instanceName) => instanceByName instanceName
  | .ok (.instance instanceId) => instanceById instanceId

/-- The instance behind a node, if it exists. -/
def instanceOfNode (n : Node) : Program (Option Instance) :=
  if n.providerId.isEmpty then instanceByName n.name else instanceByProviderId n.providerId

/-- The instance of a name, which has to exist. -/
def namedInstance (name : String) : Program Instance := do
  require (← instanceByName name) (.instanceNotFound name)

/-- The instance that a providerID names, which has to exist. -/
def providedInstance (raw : String) : Program Instance := do
  require (← instanceByProviderId raw) (.instanceNotFound raw)

/-! ## What the cluster asks about instances -/

/-- Folder, zone and name of an instance, as in a providerID. -/
def Instance.path (i : Instance) : String := s!"{i.folderId}/{i.zoneId}/{i.name}"

/-- The path of the instance of a name. -/
def instancePath (name : String) : Program String := do
  return (← namedInstance name).path

/-- The type of the instance of a name. -/
def instanceType (name : String) : Program String := do
  return (← namedInstance name).platformId

/-- The type of the instance that a providerID names. -/
def instanceTypeByProviderId (raw : String) : Program String := do
  return (← providedInstance raw).platformId

/-- Whether the instance that a providerID names exists. -/
def instanceExists (raw : String) : Program Bool := do
  return (← instanceByProviderId raw).isSome

/-- Whether the instance that a providerID names is stopped. -/
def instanceIsStopped (raw : String) : Program Bool := do
  return (← providedInstance raw).status == .stopped

/-- The zone of the instance of a name. -/
def zoneByName (name : String) : Program Zone := do
  return Zone.ofId (← namedInstance name).zoneId

/-- The zone of the instance that a providerID names. -/
def zoneByProviderId (raw : String) : Program Zone := do
  return Zone.ofId (← providedInstance raw).zoneId

end CloudSteward
