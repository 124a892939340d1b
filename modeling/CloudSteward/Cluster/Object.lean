import CloudSteward.Moment
import CloudSteward.Sorted

/-!
# Nodes and services

The parts of the cluster's objects that matter here. A part that an object may
lack is optional; a service without spec, for instance, is one without type and
ports.
-/

namespace CloudSteward

/-! ## Names shared with operators -/

/-- A node or service starts the name of its target group with this annotation. -/
def targetGroupPrefixAnnotation : String := "yandex.cpi.flant.com/target-group-name-prefix"

/-- A service names the network whose target group it attaches. -/
def targetGroupNetworkAnnotation : String := "yandex.cpi.flant.com/target-group-network-id"

/-- A service asks for an internal or for a public balancer. -/
def internalAnnotation : String := "yandex.cpi.flant.com/loadbalancer-internal"

/-- A service names the subnet of its internal listeners. -/
def listenerSubnetAnnotation : String := "yandex.cpi.flant.com/listener-subnet-id"

/-- A service fixes the address of its listeners. -/
def listenerAddressAnnotation : String := "yandex.cpi.flant.com/listener-address-ipv4"

/-- Seconds between two health checks. -/
def intervalAnnotation : String := "yandex.cpi.flant.com/healthcheck-interval-seconds"

/-- Seconds until a health check has failed. -/
def timeoutAnnotation : String := "yandex.cpi.flant.com/healthcheck-timeout-seconds"

/-- Health checks until a target is healthy. -/
def healthyAnnotation : String := "yandex.cpi.flant.com/healthcheck-healthy-threshold"

/-- Failed health checks until a target is unhealthy. -/
def unhealthyAnnotation : String := "yandex.cpi.flant.com/healthcheck-unhealthy-threshold"

/-- A static route names its node with this label. -/
def nodeRoleLabel : String := "yandex.cpi.flant.com/node-role"

/-- A node with this label takes no traffic from balancers. -/
def excludeLabel : String := "node.kubernetes.io/exclude-from-external-load-balancers"

/-- A service with this finalizer stays until its balancer is gone. -/
def cleanupFinalizer : String := "service.kubernetes.io/load-balancer-cleanup"

/-- A node with this taint waits for the cloud's part of its description. -/
def uninitializedTaint : String := "node.cloudprovider.kubernetes.io/uninitialized"

/-- A node with this taint has a stopped instance. -/
def shutdownTaint : String := "node.cloudprovider.kubernetes.io/shutdown"

/-- Label of a node's zone. -/
def zoneLabel : String := "topology.kubernetes.io/zone"

/-- Label of a node's region. -/
def regionLabel : String := "topology.kubernetes.io/region"

/-- Label of a node's instance type. -/
def instanceTypeLabel : String := "node.kubernetes.io/instance-type"

/-! ## Metadata -/

/-- What every object has. -/
structure ObjectMeta where
  name : Option String
  generateName : Option String
  namespaceName : Option String
  uid : Option String
  labels : SortedMap String String
  annotations : SortedMap String String
  finalizers : List String
  deletionTimestamp : Option Moment
  resourceVersion : Option String
deriving DecidableEq, Inhabited

/-- The name of an object, or the start of a name still to be generated. -/
def ObjectMeta.anyName (m : ObjectMeta) : String :=
  m.name.getD (m.generateName.getD "")

/-! ## Nodes -/

/-- A mark that keeps pods off a node. -/
structure Taint where
  key : String
  effect : String
  value : Option String
  timeAdded : Option Moment
deriving DecidableEq, Repr

/-- An address of a node, with its kind. -/
structure NodeAddress where
  type : String
  address : String
deriving DecidableEq, Repr

/-- A condition of a node. -/
structure NodeCondition where
  type : String
  status : String
deriving DecidableEq, Repr

/-- A node. -/
structure Node where
  metadata : ObjectMeta
  providerId? : Option String
  podCidr? : Option String
  taints : List Taint
  addresses : List NodeAddress
  conditions : List NodeCondition
deriving DecidableEq, Inhabited

namespace Node

/-- The name of a node. -/
def name (n : Node) : String := n.metadata.anyName

/-- The providerID of a node, empty while it has none. -/
def providerId (n : Node) : String := n.providerId?.getD ""

/-- Whether balancers may send traffic to a node. -/
def takesTraffic (n : Node) : Bool := !n.metadata.labels.contains excludeLabel

/-- The first internal address a node reports. -/
def internalIp? (n : Node) : Option String :=
  (n.addresses.find? (·.type == "InternalIP")).map (·.address)

/-- The addresses of a node's pods, once they are assigned. -/
def podCidr (n : Node) : Option String :=
  n.podCidr?.filter (!·.isEmpty)

/-- Whether a node has a taint. -/
def hasTaint (n : Node) (key : String) : Bool :=
  n.taints.any (·.key == key)

/-- The taints of a node but for one key. -/
def taintsWithout (n : Node) (key : String) : List Taint :=
  n.taints.filter (·.key != key)

/-- Whether the first condition that says so calls the node ready. -/
def isReady (n : Node) : Bool :=
  ((n.conditions.find? (·.type == "Ready")).map (·.status == "True")).getD false

end Node

/-! ## Services -/

/-- A port of a service. -/
structure ServicePort where
  name : Option String
  protocol : Option String
  port : Int
  nodePort : Option Int
deriving DecidableEq, Repr

/-- The state of a port of an address. -/
structure PortStatus where
  port : Int
  protocol : String
  error : Option String
deriving DecidableEq, Repr

/-- An address under which a service can be reached. -/
structure Ingress where
  ip : Option String
  hostname : Option String
  ipMode : Option String
  ports : Option (List PortStatus)
deriving DecidableEq, Repr

/-- What a service reports of its balancer. -/
structure BalancerStatus where
  ingress : Option (List Ingress)
deriving DecidableEq, Repr

/-- A service. -/
structure Service where
  metadata : ObjectMeta
  type? : Option String
  ports : List ServicePort
  externalTrafficPolicy : Option String
  healthCheckNodePort : Option Int
  balancerStatus : Option BalancerStatus
deriving DecidableEq, Inhabited

namespace Service

/-- The name of a service. -/
def name (s : Service) : String := s.metadata.anyName

/-- The namespace of a service, empty if it has none. -/
def namespaceName (s : Service) : String := s.metadata.namespaceName.getD ""

/-- Namespace and name of a service. -/
def fullName (s : Service) : String := s!"{s.namespaceName}/{s.name}"

/-- Whether a service wants a balancer. -/
def isLoadBalancer (s : Service) : Bool := s.type? == some "LoadBalancer"

/-- Whether a service is on its way out. -/
def isDeleting (s : Service) : Bool := s.metadata.deletionTimestamp.isSome

/-- Whether a service wants a balancer and stays. -/
def isActive (s : Service) : Bool := s.isLoadBalancer && !s.isDeleting

/-- Whether a service waits for its balancer to be cleaned up. -/
def hasCleanupFinalizer (s : Service) : Bool :=
  s.metadata.finalizers.contains cleanupFinalizer

end Service

/-- The nodes and services of a cluster, as last seen. -/
structure Cluster where
  nodes : List Node
  services : List Service
deriving Inhabited

/-- The first node of a name. -/
def Cluster.node? (c : Cluster) (name : String) : Option Node :=
  c.nodes.find? (·.name == name)

end CloudSteward
