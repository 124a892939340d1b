import CloudSteward.Cluster.Object
import CloudSteward.Cluster.RequestTarget
import CloudSteward.Error
import CloudSteward.Json.Value

/-!
# Writes to the cluster

Objects of the cluster are changed by merge patches and deleted by name. A patch
of metadata or spec carries the version of the object it was made from, so that
the cluster refuses it if the object has changed in between; a patch of the
status does not.
-/

namespace CloudSteward

open Json

/-- Changes to metadata and spec of a node. -/
structure NodePatch where
  /-- Set only when the node has none. -/
  providerId : Option String
  /-- Merged into the labels of the node. -/
  labels : SortedMap String String
  /-- Replaces the taints of the node. -/
  taints : Option (List Taint)
deriving DecidableEq

/-- A change to an object of the cluster. -/
inductive ClusterWrite where
  | patchNode (node : Node) (patch : NodePatch)
  | setAddresses (node : Node) (addresses : List NodeAddress)
  | deleteNode (node : Node)
  | setFinalizers (service : Service) (finalizers : List String)
  /-- Sets the addresses a service reports; none clears them. -/
  | setIngress (service : Service) (ingress : Option (List Ingress))
deriving DecidableEq

/-- A request to the cluster. -/
structure ClusterRequest where
  method : String
  target : RequestTarget
  contentType : String
  body : Json

/-! ## Bodies -/

/-- Writes a taint. -/
def Taint.toJson (t : Taint) : Json :=
  object [("effect", some (.str t.effect)), ("key", some (.str t.key)),
    ("timeAdded", t.timeAdded.map fun m => .str m.encode), ("value", t.value.map .str)]

/-- Writes an address of a node. -/
def NodeAddress.toJson (a : NodeAddress) : Json :=
  .obj [("address", .str a.address), ("type", .str a.type)]

/-- Writes the state of a port. -/
def PortStatus.toJson (p : PortStatus) : Json :=
  object [("error", p.error.map .str), ("port", some (.int p.port)),
    ("protocol", some (.str p.protocol))]

/-- Writes an address of a service. -/
def Ingress.toJson (i : Ingress) : Json :=
  object [("hostname", i.hostname.map .str), ("ip", i.ip.map .str), ("ipMode", i.ipMode.map .str),
    ("ports", i.ports.map fun l => .arr (l.map PortStatus.toJson))]

/-- Writes what a service reports of its balancer. -/
def BalancerStatus.toJson (s : BalancerStatus) : Json :=
  object [("ingress", s.ingress.map fun l => .arr (l.map Ingress.toJson))]

namespace ClusterWrite

/-- The object a write is about, by its name. -/
def subject : ClusterWrite → String
  | .patchNode node _ | .setAddresses node _ | .deleteNode node => node.name
  | .setFinalizers service _ | .setIngress service _ => service.name

/-- The kind of the object a write is about. -/
def kind : ClusterWrite → ObjectKind
  | .patchNode _ _ | .setAddresses _ _ | .deleteNode _ => .node
  | .setFinalizers _ _ | .setIngress _ _ => .service

/-- The path of a node. -/
def nodePath (node : Node) : String := s!"/api/v1/nodes/{node.name}"

/-- The path of a service. -/
def servicePath (service : Service) : String :=
  s!"/api/v1/namespaces/{service.namespaceName}/services/{service.name}"

/-- The path of a write. -/
def path : ClusterWrite → String
  | .patchNode node _ | .deleteNode node => nodePath node
  | .setAddresses node _ => nodePath node ++ "/status"
  | .setFinalizers service _ => servicePath service
  | .setIngress service _ => servicePath service ++ "/status"

/-- The body of a write. -/
def body : ClusterWrite → Json
  | .patchNode node patch =>
    .obj [
      ("metadata", .obj [("labels", ofLabels patch.labels),
        ("resourceVersion", ofOption .str node.metadata.resourceVersion)]),
      ("spec", object [("providerID", patch.providerId.map .str),
        ("taints", patch.taints.map fun l => .arr (l.map Taint.toJson))])]
  | .setAddresses _ addresses =>
    .obj [("status", .obj [("addresses", .arr (addresses.map NodeAddress.toJson))])]
  | .deleteNode _ => .obj []
  | .setFinalizers service finalizers =>
    .obj [("metadata", .obj [("finalizers", .arr (finalizers.map .str)),
      ("resourceVersion", ofOption .str service.metadata.resourceVersion)])]
  | .setIngress _ ingress =>
    .obj [("status", .obj [("loadBalancer", .obj [("ingress",
      ofOption (fun l => .arr (l.map Ingress.toJson)) ingress)])])]

/-- Whether a write deletes its object. -/
def isDelete : ClusterWrite → Bool
  | .deleteNode _ => true
  | _ => false

/-- The request of a write; there is none if the object has no name or its path
    is no target. -/
def request? (w : ClusterWrite) : Option ClusterRequest :=
  if w.subject.isEmpty then none
  else (RequestTarget.ofPath? w.path).map fun target => {
    method := if w.isDelete then "DELETE" else "PATCH"
    target
    contentType := if w.isDelete then "application/json" else "application/merge-patch+json"
    body := w.body }

end ClusterWrite

end CloudSteward
