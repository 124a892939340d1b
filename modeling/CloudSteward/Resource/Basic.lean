import CloudSteward.Sorted
import CloudSteward.Span
import CloudSteward.Json.Value

/-!
# Cloud resources

The resources of the cloud that a cluster depends on: compute instances with
their interfaces, subnets, route tables, target groups and network load
balancers, together with the requests that create the last two and the
operation that every change returns.

Ports, thresholds and other 64-bit fields are integers; the readers keep them in
range.
-/

namespace CloudSteward

/-- A map from label names to values. -/
abbrev Labels := SortedMap String String

/-! ## Compute -/

/-- Lifecycle of an instance. -/
inductive InstanceStatus where
  | provisioning
  | running
  | stopping
  | stopped
  | starting
  | restarting
  | updating
  | error
  | crashed
  | deleting
  | unspecified
deriving DecidableEq, Repr

/-- Version of an address. -/
inductive IpVersion where
  | ipv4
  | ipv6
deriving DecidableEq, Repr

/-- A public address mapped onto a private one. -/
structure NatAddress where
  address : String
  ipVersion : Option IpVersion
deriving DecidableEq, Repr

/-- The private address of an interface. -/
structure PrimaryAddress where
  address : String
  nat : Option NatAddress
deriving DecidableEq, Repr

/-- A network interface of an instance. -/
structure Interface where
  index : String
  subnetId : String
  primary : Option PrimaryAddress
deriving DecidableEq, Repr

/-- A compute instance. -/
structure Instance where
  id : String
  folderId : String
  zoneId : String
  name : String
  platformId : String
  status : InstanceStatus
  interfaces : List Interface
  labels : Labels
deriving DecidableEq

/-! ## Networks -/

/-- A subnet of a network. -/
structure Subnet where
  id : String
  folderId : String
  name : String
  networkId : String
  zoneId : String
  cidrBlocks : List String
deriving DecidableEq, Repr

/-- An entry of a route table. -/
structure StaticRoute where
  destination : String
  nextHop : String
  labels : Labels
deriving DecidableEq

/-- A route table; the order of its routes matters. -/
structure RouteTable where
  id : String
  folderId : String
  name : String
  networkId : String
  routes : List StaticRoute
deriving DecidableEq

/-! ## Target groups -/

/-- An address in a subnet that may receive traffic. -/
structure Target where
  subnetId : String
  address : String
deriving DecidableEq, Repr

/-- Targets are ordered by subnet, then by address. -/
instance : Ord Target where
  compare := compareLex (compareOn Target.subnetId) (compareOn Target.address)

instance : Std.TransOrd Target :=
  inferInstanceAs (Std.TransCmp (compareLex (compareOn Target.subnetId) (compareOn Target.address)))

theorem compare_target (a b : Target) :
    compare a b = (compare a.subnetId b.subnetId).then (compare a.address b.address) := rfl

instance : Std.LawfulEqOrd Target where
  compare_self := Std.ReflCmp.compare_self
  eq_of_compare {a b} h := by
    rw [compare_target, Ordering.then_eq_eq] at h
    obtain ⟨h1, h2⟩ := h
    obtain ⟨s, t⟩ := a
    obtain ⟨s', t'⟩ := b
    cases Std.LawfulEqOrd.eq_of_compare h1
    cases Std.LawfulEqOrd.eq_of_compare h2
    rfl

/-- A set of targets. -/
abbrev TargetSet := SortedSet Target

/-- A named group of targets. -/
structure TargetGroup where
  id : String
  folderId : String
  name : String
  regionId : String
  targets : List Target
  labels : Labels
deriving DecidableEq

/-- What a new target group shall be. -/
structure TargetGroupRequest where
  folderId : String
  name : String
  regionId : String
  targets : List Target
  labels : Labels
deriving DecidableEq

/-! ## Network load balancers -/

/-- From where a balancer can be reached. -/
inductive BalancerType where
  | external
  | internal
deriving DecidableEq, Repr

/-- The protocol of a listener. -/
inductive Protocol where
  | tcp
  | udp
deriving DecidableEq, Repr

/-- A listener of a balancer. -/
structure Listener where
  name : String
  address : String
  port : Int
  protocol : Protocol
  targetPort : Int
  subnetId : String
  ipVersion : IpVersion
deriving DecidableEq, Repr

/-- A public listener address; without `address` the cloud picks one. -/
structure ExternalAddress where
  address : Option String
  ipVersion : IpVersion
deriving DecidableEq, Repr

/-- A listener address in a subnet; without `address` the cloud picks one. -/
structure InternalAddress where
  address : Option String
  subnetId : String
  ipVersion : IpVersion
deriving DecidableEq, Repr

/-- What a new listener shall be. -/
structure ListenerSpec where
  name : String
  port : Int
  protocol : Protocol
  targetPort : Int
  external : Option ExternalAddress
  internal : Option InternalAddress
deriving DecidableEq, Repr

/-- A probe by HTTP. -/
structure HttpProbe where
  port : Int
  path : String
deriving DecidableEq, Repr

/-- A probe by connecting. -/
structure TcpProbe where
  port : Int
deriving DecidableEq, Repr

/-- How a balancer finds out which targets are alive. -/
structure HealthCheck where
  name : String
  interval : Span
  timeout : Span
  unhealthyThreshold : Int
  healthyThreshold : Int
  http : Option HttpProbe
  tcp : Option TcpProbe
deriving DecidableEq, Repr

/-- A target group attached to a balancer. -/
structure Attachment where
  targetGroupId : String
  healthChecks : List HealthCheck
deriving DecidableEq, Repr

/-- A network load balancer. -/
structure Balancer where
  id : String
  folderId : String
  name : String
  regionId : String
  status : String
  type : BalancerType
  listeners : List Listener
  attachments : List Attachment
deriving DecidableEq, Repr

/-- What a new balancer shall be. -/
structure BalancerRequest where
  folderId : String
  name : String
  regionId : String
  type : BalancerType
  listeners : List ListenerSpec
  attachments : List Attachment
deriving DecidableEq, Repr

/-! ## Operations -/

/-- The status that a failed call or operation reports. -/
structure RpcStatus where
  code : Int
  message : String
  details : List Json

/-- A change in progress. -/
structure Operation where
  id : String
  description : String
  createdAt : Option String
  done : Bool
  metadata : Option Json
  error : Option RpcStatus
  response : Option Json

/-- One page of a listing. -/
structure Page (α : Type) where
  items : List α
  nextPageToken : Option String

end CloudSteward
