import CloudSteward.Json.Record
import CloudSteward.Resource.Basic

/-!
# Resources from JSON

One reader for each resource. Names are in camel case, enumerations in upper
case; 64-bit fields come as numbers or as texts, durations as decimal seconds
with the suffix `s`. A field without default has to be present, and null is a
value for optional fields only.
-/

namespace CloudSteward

open Json

/-! ## Enumerations -/

/-- The word of a status that is not `unspecified`. -/
def InstanceStatus.word : InstanceStatus → String
  | .provisioning => "PROVISIONING"
  | .running => "RUNNING"
  | .stopping => "STOPPING"
  | .stopped => "STOPPED"
  | .starting => "STARTING"
  | .restarting => "RESTARTING"
  | .updating => "UPDATING"
  | .error => "ERROR"
  | .crashed => "CRASHED"
  | .deleting => "DELETING"
  | .unspecified => "STATUS_UNSPECIFIED"

/-- Every status that has a word of its own. -/
def InstanceStatus.all : List InstanceStatus :=
  [.provisioning, .running, .stopping, .stopped, .starting, .restarting, .updating, .error,
    .crashed, .deleting]

/-- The status of a word; an unknown word is no reason to refuse an instance. -/
def InstanceStatus.ofWord (s : String) : InstanceStatus :=
  (InstanceStatus.all.find? (·.word == s)).getD .unspecified

/-- The status in a document. -/
def InstanceStatus.ofJson? (j : Json) : Option InstanceStatus :=
  (word? j).map InstanceStatus.ofWord

/-- The word of an address version. -/
def IpVersion.word : IpVersion → String
  | .ipv4 => "IPV4"
  | .ipv6 => "IPV6"

/-- The address version in a document. -/
def IpVersion.ofJson? (j : Json) : Option IpVersion :=
  (word? j).bind fun s => [IpVersion.ipv4, .ipv6].find? (·.word == s)

/-- The word of a balancer type. -/
def BalancerType.word : BalancerType → String
  | .external => "EXTERNAL"
  | .internal => "INTERNAL"

/-- The balancer type in a document. -/
def BalancerType.ofJson? (j : Json) : Option BalancerType :=
  (word? j).bind fun s => [BalancerType.external, .internal].find? (·.word == s)

/-- The word of a protocol. -/
def Protocol.word : Protocol → String
  | .tcp => "TCP"
  | .udp => "UDP"

/-- The protocol in a document. -/
def Protocol.ofJson? (j : Json) : Option Protocol :=
  (word? j).bind fun s => [Protocol.tcp, .udp].find? (·.word == s)

/-- The span in a document. -/
def Span.ofJson? (j : Json) : Option Span :=
  (text? j).bind Span.decode?

/-! ## Compute -/

/-- Reads a public address. -/
def NatAddress.ofJson? (j : Json) : Option NatAddress := do
  let fs ← record? ["address", "ipVersion"] j
  return {
    address := ← fs.withDefault "address" "" text?
    ipVersion := ← fs.optional "ipVersion" IpVersion.ofJson? }

/-- Reads a private address. -/
def PrimaryAddress.ofJson? (j : Json) : Option PrimaryAddress := do
  let fs ← record? ["address", "oneToOneNat"] j
  return {
    address := ← fs.withDefault "address" "" text?
    nat := ← fs.optional "oneToOneNat" NatAddress.ofJson? }

/-- Reads an interface. -/
def Interface.ofJson? (j : Json) : Option Interface := do
  let fs ← record? ["index", "subnetId", "primaryV4Address"] j
  return {
    index := ← fs.withDefault "index" "" text?
    subnetId := ← fs.required "subnetId" text?
    primary := ← fs.optional "primaryV4Address" PrimaryAddress.ofJson? }

/-- Reads an instance. -/
def Instance.ofJson? (j : Json) : Option Instance := do
  let fs ← record?
    ["id", "folderId", "zoneId", "name", "platformId", "status", "networkInterfaces", "labels"] j
  return {
    id := ← fs.required "id" text?
    folderId := ← fs.required "folderId" text?
    zoneId := ← fs.required "zoneId" text?
    name := ← fs.required "name" text?
    platformId := ← fs.withDefault "platformId" "" text?
    status := ← fs.withDefault "status" .unspecified InstanceStatus.ofJson?
    interfaces := ← fs.withDefault "networkInterfaces" [] (list? Interface.ofJson?)
    labels := ← fs.withDefault "labels" .empty labels? }

/-! ## Networks -/

/-- Reads a subnet. -/
def Subnet.ofJson? (j : Json) : Option Subnet := do
  let fs ← record? ["id", "folderId", "name", "networkId", "zoneId", "v4CidrBlocks"] j
  return {
    id := ← fs.required "id" text?
    folderId := ← fs.required "folderId" text?
    name := ← fs.withDefault "name" "" text?
    networkId := ← fs.required "networkId" text?
    zoneId := ← fs.withDefault "zoneId" "" text?
    cidrBlocks := ← fs.withDefault "v4CidrBlocks" [] (list? text?) }

/-- Reads a route. -/
def StaticRoute.ofJson? (j : Json) : Option StaticRoute := do
  let fs ← record? ["destinationPrefix", "nextHopAddress", "labels"] j
  return {
    destination := ← fs.required "destinationPrefix" text?
    nextHop := ← fs.required "nextHopAddress" text?
    labels := ← fs.withDefault "labels" .empty labels? }

/-- Reads a route table. -/
def RouteTable.ofJson? (j : Json) : Option RouteTable := do
  let fs ← record? ["id", "folderId", "name", "networkId", "staticRoutes"] j
  return {
    id := ← fs.required "id" text?
    folderId := ← fs.required "folderId" text?
    name := ← fs.withDefault "name" "" text?
    networkId := ← fs.withDefault "networkId" "" text?
    routes := ← fs.withDefault "staticRoutes" [] (list? StaticRoute.ofJson?) }

/-! ## Target groups -/

/-- Reads a target. -/
def Target.ofJson? (j : Json) : Option Target := do
  let fs ← record? ["subnetId", "address"] j
  return {
    subnetId := ← fs.required "subnetId" text?
    address := ← fs.required "address" text? }

/-- Reads a target group. -/
def TargetGroup.ofJson? (j : Json) : Option TargetGroup := do
  let fs ← record? ["id", "folderId", "name", "regionId", "targets", "labels"] j
  return {
    id := ← fs.required "id" text?
    folderId := ← fs.required "folderId" text?
    name := ← fs.required "name" text?
    regionId := ← fs.withDefault "regionId" "" text?
    targets := ← fs.withDefault "targets" [] (list? Target.ofJson?)
    labels := ← fs.withDefault "labels" .empty labels? }

/-- Reads a request for a target group. -/
def TargetGroupRequest.ofJson? (j : Json) : Option TargetGroupRequest := do
  let fs ← record? ["folderId", "name", "regionId", "targets", "labels"] j
  return {
    folderId := ← fs.required "folderId" text?
    name := ← fs.required "name" text?
    regionId := ← fs.required "regionId" text?
    targets := ← fs.required "targets" (list? Target.ofJson?)
    labels := ← fs.withDefault "labels" .empty labels? }

/-! ## Network load balancers -/

/-- Reads a listener. -/
def Listener.ofJson? (j : Json) : Option Listener := do
  let fs ← record?
    ["name", "address", "port", "protocol", "targetPort", "subnetId", "ipVersion"] j
  return {
    name := ← fs.required "name" text?
    address := ← fs.withDefault "address" "" text?
    port := ← fs.required "port" int64OrText?
    protocol := ← fs.required "protocol" Protocol.ofJson?
    targetPort := ← fs.required "targetPort" int64OrText?
    subnetId := ← fs.withDefault "subnetId" "" text?
    ipVersion := ← fs.withDefault "ipVersion" .ipv4 IpVersion.ofJson? }

/-- Reads a public listener address. -/
def ExternalAddress.ofJson? (j : Json) : Option ExternalAddress := do
  let fs ← record? ["address", "ipVersion"] j
  return {
    address := ← fs.optional "address" text?
    ipVersion := ← fs.required "ipVersion" IpVersion.ofJson? }

/-- Reads a listener address in a subnet. -/
def InternalAddress.ofJson? (j : Json) : Option InternalAddress := do
  let fs ← record? ["address", "subnetId", "ipVersion"] j
  return {
    address := ← fs.optional "address" text?
    subnetId := ← fs.required "subnetId" text?
    ipVersion := ← fs.required "ipVersion" IpVersion.ofJson? }

/-- Reads what a new listener shall be. -/
def ListenerSpec.ofJson? (j : Json) : Option ListenerSpec := do
  let fs ← record?
    ["name", "port", "protocol", "targetPort", "externalAddressSpec", "internalAddressSpec"] j
  return {
    name := ← fs.required "name" text?
    port := ← fs.required "port" int64OrText?
    protocol := ← fs.required "protocol" Protocol.ofJson?
    targetPort := ← fs.required "targetPort" int64OrText?
    external := ← fs.optional "externalAddressSpec" ExternalAddress.ofJson?
    internal := ← fs.optional "internalAddressSpec" InternalAddress.ofJson? }

/-- Reads a probe by HTTP. -/
def HttpProbe.ofJson? (j : Json) : Option HttpProbe := do
  let fs ← record? ["port", "path"] j
  return {
    port := ← fs.required "port" int64OrText?
    path := ← fs.required "path" text? }

/-- Reads a probe by connecting. -/
def TcpProbe.ofJson? (j : Json) : Option TcpProbe := do
  let fs ← record? ["port"] j
  return { port := ← fs.required "port" int64OrText? }

/-- Reads a health check. -/
def HealthCheck.ofJson? (j : Json) : Option HealthCheck := do
  let fs ← record?
    ["name", "interval", "timeout", "unhealthyThreshold", "healthyThreshold", "httpOptions",
      "tcpOptions"] j
  return {
    name := ← fs.required "name" text?
    interval := ← fs.required "interval" Span.ofJson?
    timeout := ← fs.required "timeout" Span.ofJson?
    unhealthyThreshold := ← fs.required "unhealthyThreshold" int64OrText?
    healthyThreshold := ← fs.required "healthyThreshold" int64OrText?
    http := ← fs.optional "httpOptions" HttpProbe.ofJson?
    tcp := ← fs.optional "tcpOptions" TcpProbe.ofJson? }

/-- Reads an attached target group. -/
def Attachment.ofJson? (j : Json) : Option Attachment := do
  let fs ← record? ["targetGroupId", "healthChecks"] j
  return {
    targetGroupId := ← fs.required "targetGroupId" text?
    healthChecks := ← fs.withDefault "healthChecks" [] (list? HealthCheck.ofJson?) }

/-- Reads a balancer. -/
def Balancer.ofJson? (j : Json) : Option Balancer := do
  let fs ← record?
    ["id", "folderId", "name", "regionId", "status", "type", "listeners",
      "attachedTargetGroups"] j
  return {
    id := ← fs.required "id" text?
    folderId := ← fs.required "folderId" text?
    name := ← fs.required "name" text?
    regionId := ← fs.withDefault "regionId" "" text?
    status := ← fs.withDefault "status" "" text?
    type := ← fs.required "type" BalancerType.ofJson?
    listeners := ← fs.withDefault "listeners" [] (list? Listener.ofJson?)
    attachments := ← fs.withDefault "attachedTargetGroups" [] (list? Attachment.ofJson?) }

/-- Reads a request for a balancer. -/
def BalancerRequest.ofJson? (j : Json) : Option BalancerRequest := do
  let fs ← record?
    ["folderId", "name", "regionId", "type", "listenerSpecs", "attachedTargetGroups"] j
  return {
    folderId := ← fs.required "folderId" text?
    name := ← fs.required "name" text?
    regionId := ← fs.required "regionId" text?
    type := ← fs.required "type" BalancerType.ofJson?
    listeners := ← fs.required "listenerSpecs" (list? ListenerSpec.ofJson?)
    attachments := ← fs.required "attachedTargetGroups" (list? Attachment.ofJson?) }

/-! ## Operations and pages -/

/-- Documents that stand for nothing in particular may be nested up to this
    depth, the documents around them counted. -/
def greatestDepth : Nat := 127

/-- Reads a status inside `around` arrays and objects. -/
def RpcStatus.ofJson? (around : Nat) (j : Json) : Option RpcStatus := do
  let fs ← record? ["code", "message", "details"] j
  return {
    code := ← fs.required "code" int32?
    message := ← fs.withDefault "message" "" text?
    details := ← fs.withDefault "details" [] (list? (any? (greatestDepth - (around + 2)))) }

/-- Reads an operation. -/
def Operation.ofJson? (j : Json) : Option Operation := do
  let fs ← record?
    ["id", "description", "createdAt", "done", "metadata", "error", "response"] j
  return {
    id := ← fs.required "id" text?
    description := ← fs.withDefault "description" "" text?
    createdAt := ← fs.optional "createdAt" text?
    done := ← fs.withDefault "done" false flag?
    metadata := ← fs.optional "metadata" (any? (greatestDepth - 1))
    error := ← fs.optional "error" (RpcStatus.ofJson? 1)
    response := ← fs.optional "response" (any? (greatestDepth - 1)) }

/-- The fields of a page; its items have a name for each kind of resource. -/
def pageFields : List Field :=
  [{ name := "items"
     aliases := ["instances", "targetGroups", "networkLoadBalancers", "subnets", "routeTables"] },
    { name := "nextPageToken" }]

/-- Reads a page. -/
def Page.ofJson? {α : Type} (item? : Json → Option α) (j : Json) : Option (Page α) := do
  let fs ← fields? pageFields j
  return {
    items := ← fs.withDefault "items" [] (list? item?)
    nextPageToken := ← fs.optional "nextPageToken" text? }

end CloudSteward
