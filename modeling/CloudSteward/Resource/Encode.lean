import CloudSteward.Resource.Decode

/-!
# Resources as JSON

One writer for each resource, with all fields in their order. 64-bit fields are
written as numbers. Optional fields of a request are left out when they have no
value, and so are the labels of a route or of a new target group; elsewhere a
missing value is null.
-/

namespace CloudSteward

open Json

/-! ## Enumerations -/

/-- A status as a document. -/
def InstanceStatus.toJson (s : InstanceStatus) : Json := .str s.word

/-- An address version as a document. -/
def IpVersion.toJson (v : IpVersion) : Json := .str v.word

/-- A balancer type as a document. -/
def BalancerType.toJson (t : BalancerType) : Json := .str t.word

/-- A protocol as a document. -/
def Protocol.toJson (p : Protocol) : Json := .str p.word

/-- A span as a document. -/
def Span.toJson (t : Span) : Json := .str t.encode

/-- A list as a document. -/
def listToJson {α : Type} (f : α → Json) (items : List α) : Json := .arr (items.map f)

/-- Labels, left out when there are none. -/
def labelsIfAny (labels : Labels) : Option Json :=
  if labels.isEmpty then none else some (ofLabels labels)

/-! ## Compute -/

/-- Writes a public address. -/
def NatAddress.toJson (a : NatAddress) : Json :=
  .obj [("address", .str a.address), ("ipVersion", ofOption IpVersion.toJson a.ipVersion)]

/-- Writes a private address. -/
def PrimaryAddress.toJson (a : PrimaryAddress) : Json :=
  .obj [("address", .str a.address), ("oneToOneNat", ofOption NatAddress.toJson a.nat)]

/-- Writes an interface. -/
def Interface.toJson (i : Interface) : Json :=
  .obj [("index", .str i.index), ("subnetId", .str i.subnetId),
    ("primaryV4Address", ofOption PrimaryAddress.toJson i.primary)]

/-- Writes an instance. -/
def Instance.toJson (i : Instance) : Json :=
  .obj [("id", .str i.id), ("folderId", .str i.folderId), ("zoneId", .str i.zoneId),
    ("name", .str i.name), ("platformId", .str i.platformId), ("status", i.status.toJson),
    ("networkInterfaces", listToJson Interface.toJson i.interfaces), ("labels", ofLabels i.labels)]

/-! ## Networks -/

/-- Writes a subnet. -/
def Subnet.toJson (s : Subnet) : Json :=
  .obj [("id", .str s.id), ("folderId", .str s.folderId), ("name", .str s.name),
    ("networkId", .str s.networkId), ("zoneId", .str s.zoneId),
    ("v4CidrBlocks", listToJson .str s.cidrBlocks)]

/-- Writes a route. -/
def StaticRoute.toJson (r : StaticRoute) : Json :=
  object [("destinationPrefix", some (.str r.destination)),
    ("nextHopAddress", some (.str r.nextHop)), ("labels", labelsIfAny r.labels)]

/-- Writes a route table. -/
def RouteTable.toJson (t : RouteTable) : Json :=
  .obj [("id", .str t.id), ("folderId", .str t.folderId), ("name", .str t.name),
    ("networkId", .str t.networkId), ("staticRoutes", listToJson StaticRoute.toJson t.routes)]

/-! ## Target groups -/

/-- Writes a target. -/
def Target.toJson (t : Target) : Json :=
  .obj [("subnetId", .str t.subnetId), ("address", .str t.address)]

/-- Writes a target group. -/
def TargetGroup.toJson (g : TargetGroup) : Json :=
  .obj [("id", .str g.id), ("folderId", .str g.folderId), ("name", .str g.name),
    ("regionId", .str g.regionId), ("targets", listToJson Target.toJson g.targets),
    ("labels", ofLabels g.labels)]

/-- Writes a request for a target group. -/
def TargetGroupRequest.toJson (r : TargetGroupRequest) : Json :=
  object [("folderId", some (.str r.folderId)), ("name", some (.str r.name)),
    ("regionId", some (.str r.regionId)),
    ("targets", some (listToJson Target.toJson r.targets)), ("labels", labelsIfAny r.labels)]

/-! ## Network load balancers -/

/-- Writes a listener. -/
def Listener.toJson (l : Listener) : Json :=
  .obj [("name", .str l.name), ("address", .str l.address), ("port", .int l.port),
    ("protocol", l.protocol.toJson), ("targetPort", .int l.targetPort),
    ("subnetId", .str l.subnetId), ("ipVersion", l.ipVersion.toJson)]

/-- Writes a public listener address. -/
def ExternalAddress.toJson (a : ExternalAddress) : Json :=
  object [("address", a.address.map .str), ("ipVersion", some a.ipVersion.toJson)]

/-- Writes a listener address in a subnet. -/
def InternalAddress.toJson (a : InternalAddress) : Json :=
  object [("address", a.address.map .str), ("subnetId", some (.str a.subnetId)),
    ("ipVersion", some a.ipVersion.toJson)]

/-- Writes what a new listener shall be. -/
def ListenerSpec.toJson (l : ListenerSpec) : Json :=
  object [("name", some (.str l.name)), ("port", some (.int l.port)),
    ("protocol", some l.protocol.toJson), ("targetPort", some (.int l.targetPort)),
    ("externalAddressSpec", l.external.map ExternalAddress.toJson),
    ("internalAddressSpec", l.internal.map InternalAddress.toJson)]

/-- Writes a probe by HTTP. -/
def HttpProbe.toJson (p : HttpProbe) : Json :=
  .obj [("port", .int p.port), ("path", .str p.path)]

/-- Writes a probe by connecting. -/
def TcpProbe.toJson (p : TcpProbe) : Json :=
  .obj [("port", .int p.port)]

/-- Writes a health check. -/
def HealthCheck.toJson (h : HealthCheck) : Json :=
  object [("name", some (.str h.name)), ("interval", some h.interval.toJson),
    ("timeout", some h.timeout.toJson), ("unhealthyThreshold", some (.int h.unhealthyThreshold)),
    ("healthyThreshold", some (.int h.healthyThreshold)),
    ("httpOptions", h.http.map HttpProbe.toJson), ("tcpOptions", h.tcp.map TcpProbe.toJson)]

/-- Writes an attached target group. -/
def Attachment.toJson (a : Attachment) : Json :=
  .obj [("targetGroupId", .str a.targetGroupId),
    ("healthChecks", listToJson HealthCheck.toJson a.healthChecks)]

/-- Writes a balancer. -/
def Balancer.toJson (b : Balancer) : Json :=
  .obj [("id", .str b.id), ("folderId", .str b.folderId), ("name", .str b.name),
    ("regionId", .str b.regionId), ("status", .str b.status), ("type", b.type.toJson),
    ("listeners", listToJson Listener.toJson b.listeners),
    ("attachedTargetGroups", listToJson Attachment.toJson b.attachments)]

/-- Writes a request for a balancer. -/
def BalancerRequest.toJson (r : BalancerRequest) : Json :=
  .obj [("folderId", .str r.folderId), ("name", .str r.name), ("regionId", .str r.regionId),
    ("type", r.type.toJson), ("listenerSpecs", listToJson ListenerSpec.toJson r.listeners),
    ("attachedTargetGroups", listToJson Attachment.toJson r.attachments)]

/-! ## Operations and pages -/

/-- Writes a status. -/
def RpcStatus.toJson (s : RpcStatus) : Json :=
  .obj [("code", .int s.code), ("message", .str s.message), ("details", .arr s.details)]

/-- Writes an operation. -/
def Operation.toJson (o : Operation) : Json :=
  .obj [("id", .str o.id), ("description", .str o.description),
    ("createdAt", ofOption .str o.createdAt), ("done", .bool o.done),
    ("metadata", o.metadata.getD .null), ("error", ofOption RpcStatus.toJson o.error),
    ("response", o.response.getD .null)]

/-- Writes a page. -/
def Page.toJson {α : Type} (f : α → Json) (p : Page α) : Json :=
  .obj [("items", listToJson f p.items), ("nextPageToken", ofOption .str p.nextPageToken)]

end CloudSteward
