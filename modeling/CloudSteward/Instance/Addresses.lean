import CloudSteward.Instance.Lookup
import CloudSteward.Settings

/-!
# Addresses of a node

The addresses of a node are those of its instance's interfaces. Without lists of
networks every private address is internal, and the public address of the first
interface is the only external one. With lists, the network of an interface's
subnet decides: an address may be internal, external, both or neither, and a
public address is external with its private one.
-/

namespace CloudSteward

open Program

/-! ## Networks of subnets -/

/-- The networks of the subnets that were looked up before. -/
abbrev SubnetMemo := SortedMap String String

/-- The network of a subnet, looked up at most once. -/
def networkOf (memo : SubnetMemo) (subnetId : String) : Program (String × SubnetMemo) :=
  match memo.get? subnetId with
  | some networkId => .pure (networkId, memo)
  | none => do
    let subnet ← ask (.getSubnet subnetId)
    return (subnet.networkId, memo.insert subnetId subnet.networkId)

/-! ## Addresses of an interface -/

/-- The private address of an interface, unless it is empty. -/
def Interface.address? (i : Interface) : Option String :=
  (i.primary.map (·.address)).filter (!·.isEmpty)

/-- The public address of an interface, unless it is empty. -/
def Interface.publicAddress? (i : Interface) : Option String :=
  ((i.primary.bind (·.nat)).map (·.address)).filter (!·.isEmpty)

/-- An internal address. -/
def internalAddress (address : String) : NodeAddress := ⟨"InternalIP", address⟩

/-- An external address. -/
def externalAddress (address : String) : NodeAddress := ⟨"ExternalIP", address⟩

/-- Whether lists of networks decide about addresses. -/
def Settings.classifiesNetworks (s : Settings) : Bool :=
  !s.internalNetworkIds.isEmpty || !s.externalNetworkIds.isEmpty

/-- The addresses of an interface at a position, by position alone. -/
def addressesByPosition (index : Nat) (address : String) (public? : Option String) :
    List NodeAddress :=
  internalAddress address ::
    if index = 0 then (public?.map externalAddress).toList else []

/-- The addresses of an interface in a network. -/
def addressesByNetwork (s : Settings) (networkId address : String) (public? : Option String) :
    List NodeAddress :=
  (if SortedSet.has s.internalNetworkIds networkId then [internalAddress address] else []) ++
    if SortedSet.has s.externalNetworkIds networkId then
      externalAddress address :: (public?.map externalAddress).toList
    else []

/-- The addresses of interfaces from a position on. -/
def interfacesAddresses (s : Settings) (instanceName : String) :
    Nat → SubnetMemo → List Interface → Program (List NodeAddress)
  | _, _, [] => .pure []
  | index, memo, i :: rest => do
    let address ← require i.address?
      (.invalidInstance instanceName s!"interface {index} has no primary IPv4 address")
    if s.classifiesNetworks then
      let (networkId, memo) ← networkOf memo i.subnetId
      let more ← interfacesAddresses s instanceName (index + 1) memo rest
      return addressesByNetwork s networkId address i.publicAddress? ++ more
    else
      let more ← interfacesAddresses s instanceName (index + 1) memo rest
      return addressesByPosition index address i.publicAddress? ++ more

/-- The addresses of a node with the given instance. -/
def addressesOfInstance (s : Settings) (i : Instance) : Program (List NodeAddress) :=
  if i.interfaces.isEmpty then .fail (.invalidInstance i.name "no network interfaces")
  else interfacesAddresses s i.name 0 .empty i.interfaces

/-- The addresses of the node with the instance of a name. -/
def addressesByName (s : Settings) (name : String) : Program (List NodeAddress) := do
  addressesOfInstance s (← namedInstance name)

/-- The addresses of the node with the instance that a providerID names. -/
def addressesByProviderId (s : Settings) (raw : String) : Program (List NodeAddress) := do
  addressesOfInstance s (← providedInstance raw)

end CloudSteward
