import CloudSteward.Proofs.Resource.Respelling
import CloudSteward.Proofs.Resource.RoundTrip

/-!
# Documents that are exchanged with the cloud

Resources, pages of resources and requests are read from documents and written
to documents. A balancer that was read is compared with one that was planned,
and what was read is sent back in requests, so a value must not drift on its
way through a document: neither by being written and read again nor by the
spelling of its numbers.

Results:

* `DocumentKind.decode_encode`: what was read is read again after it was
  written, if its health checks wait for whole seconds.
* `DocumentKind.unseen`: decimal texts in the place of numbers in
  64-bit fields change nothing.
* `documents_keep_values`: both, for every kind of document.
-/

namespace CloudSteward

open Json

/-- The kinds of documents that are exchanged. -/
inductive DocumentKind where
  | computeInstance
  | subnet
  | routeTable
  | targetGroup
  | balancer
  | listener
  | listenerSpec
  | healthCheck
  | attachment
  | targetGroupRequest
  | balancerRequest
  | targetGroupPage
  | instancePage
deriving DecidableEq, Repr

namespace DocumentKind

/-- What the documents of a kind stand for. -/
def Value : DocumentKind → Type
  | computeInstance => Instance
  | subnet => Subnet
  | routeTable => RouteTable
  | targetGroup => TargetGroup
  | balancer => Balancer
  | listener => Listener
  | listenerSpec => ListenerSpec
  | healthCheck => HealthCheck
  | attachment => Attachment
  | targetGroupRequest => TargetGroupRequest
  | balancerRequest => BalancerRequest
  | targetGroupPage => Page TargetGroup
  | instancePage => Page Instance

/-- The reader of a kind. -/
def decode : (k : DocumentKind) → Json → Option k.Value
  | computeInstance => Instance.ofJson?
  | subnet => Subnet.ofJson?
  | routeTable => RouteTable.ofJson?
  | targetGroup => TargetGroup.ofJson?
  | balancer => Balancer.ofJson?
  | listener => Listener.ofJson?
  | listenerSpec => ListenerSpec.ofJson?
  | healthCheck => HealthCheck.ofJson?
  | attachment => Attachment.ofJson?
  | targetGroupRequest => TargetGroupRequest.ofJson?
  | balancerRequest => BalancerRequest.ofJson?
  | targetGroupPage => Page.ofJson? TargetGroup.ofJson?
  | instancePage => Page.ofJson? Instance.ofJson?

/-- The writer of a kind. -/
def encode : (k : DocumentKind) → k.Value → Json
  | computeInstance => Instance.toJson
  | subnet => Subnet.toJson
  | routeTable => RouteTable.toJson
  | targetGroup => TargetGroup.toJson
  | balancer => Balancer.toJson
  | listener => Listener.toJson
  | listenerSpec => ListenerSpec.toJson
  | healthCheck => HealthCheck.toJson
  | attachment => Attachment.toJson
  | targetGroupRequest => TargetGroupRequest.toJson
  | balancerRequest => BalancerRequest.toJson
  | targetGroupPage => Page.toJson TargetGroup.toJson
  | instancePage => Page.toJson Instance.toJson

/-- The health checks inside a value. -/
def healthChecks : (k : DocumentKind) → k.Value → List HealthCheck
  | healthCheck, (h : HealthCheck) => [h]
  | attachment, (a : Attachment) => a.healthChecks
  | balancer, (b : Balancer) => b.attachments.flatMap (·.healthChecks)
  | balancerRequest, (r : BalancerRequest) => r.attachments.flatMap (·.healthChecks)
  | _, _ => []

/-- How a document of a kind may be written; most kinds have no 64-bit field. -/
def respelling : DocumentKind → Respelling
  | balancer => Balancer.respelling
  | listener => Listener.respelling
  | listenerSpec => ListenerSpec.respelling
  | healthCheck => HealthCheck.respelling
  | attachment => Attachment.respelling
  | balancerRequest => BalancerRequest.respelling
  | _ => .same

theorem decode_encode (k : DocumentKind) {v : k.Value} (h : Readable k.decode v)
    (whole : ∀ c ∈ k.healthChecks v, c.IsWhole) : k.decode (k.encode v) = some v := by
  cases k with
  | computeInstance => exact Instance.ofJson?_toJson v
  | subnet => exact Subnet.ofJson?_toJson v
  | routeTable => exact RouteTable.ofJson?_toJson v
  | targetGroup => exact TargetGroup.ofJson?_toJson v
  | balancer => exact Balancer.ofJson?_toJson h whole
  | listener => exact Listener.ofJson?_toJson h
  | listenerSpec => exact ListenerSpec.ofJson?_toJson h
  | healthCheck => exact HealthCheck.ofJson?_toJson h (whole v List.mem_cons_self)
  | attachment => exact Attachment.ofJson?_toJson h whole
  | targetGroupRequest => exact TargetGroupRequest.ofJson?_toJson v
  | balancerRequest => exact BalancerRequest.ofJson?_toJson h whole
  | targetGroupPage => exact Page.ofJson?_toJson TargetGroup.ofJson?_toJson v
  | instancePage => exact Page.ofJson?_toJson Instance.ofJson?_toJson v

theorem unseen (k : DocumentKind) : k.respelling.UnseenBy k.decode := by
  cases k with
  | balancer => exact Balancer.unseen
  | listener => exact Listener.unseen
  | listenerSpec => exact ListenerSpec.unseen
  | healthCheck => exact HealthCheck.unseen
  | attachment => exact Attachment.unseen
  | balancerRequest => exact BalancerRequest.unseen
  | _ => exact Respelling.same_unseen

end DocumentKind

/-- Whatever was read from a document is read again after it was written, if its
    health checks wait for whole seconds; and it is read as well from every
    document that has decimal texts in place of numbers in 64-bit fields. -/
theorem documents_keep_values (k : DocumentKind) {j : Json} {v : k.Value}
    (accepted : k.decode j = some v) :
    ((∀ c ∈ k.healthChecks v, c.interval.IsWhole ∧ c.timeout.IsWhole) →
        k.decode (k.encode v) = some v) ∧
      ∀ j', k.respelling.rel j j' → k.decode j' = some v :=
  ⟨k.decode_encode ⟨j, accepted⟩, fun _ hr => (k.unseen hr).trans accepted⟩

namespace Sample

/-- A listener as the cloud may send it, but for the spelling of its port. -/
def sentListener (port : Json) : Json :=
  .obj [("name", .str "http"), ("port", port), ("protocol", .str "TCP"),
    ("targetPort", .str "30080")]

/-- An attached target group as the cloud may send it. -/
def sentAttachment : Json :=
  .obj [("targetGroupId", .str "tg1"),
    ("healthChecks", .arr [.obj [("name", .str "alive"), ("interval", .str "2s"),
      ("timeout", .str "1.0s"), ("unhealthyThreshold", .int 2), ("healthyThreshold", .str "2"),
      ("tcpOptions", .obj [("port", .int 10256)])]])]

/-- A balancer with a member that is no field. -/
def sentBalancer (port : Json) : Json :=
  .obj [("id", .str "nlb1"), ("folderId", .str "b1g"), ("name", .str "web"),
    ("createdAt", .str "2024-05-01T10:00:00Z"), ("type", .str "EXTERNAL"),
    ("listeners", .arr [sentListener port]), ("attachedTargetGroups", .arr [sentAttachment])]

/-- The balancer it stands for. -/
def sentValue : Balancer where
  id := "nlb1"
  folderId := "b1g"
  name := "web"
  regionId := ""
  status := ""
  type := .external
  listeners := [{
    name := "http"
    address := ""
    port := 80
    protocol := .tcp
    targetPort := 30080
    subnetId := ""
    ipVersion := .ipv4 }]
  attachments := [{
    targetGroupId := "tg1"
    healthChecks := [{
      name := "alive"
      interval := .ofSeconds 2
      timeout := .ofSeconds 1
      unhealthyThreshold := 2
      healthyThreshold := 2
      http := none
      tcp := some { port := 10256 } }] }]

theorem sentBalancer_read : Balancer.ofJson? (sentBalancer (.int 80)) = some sentValue := by
  decide +kernel

theorem sentListener_respelled :
    Listener.respelling.rel (sentListener (.int 80)) (sentListener (.str "80")) := by
  refine Respelling.record_at ?_ [("name", .str "http")]
    [("protocol", .str "TCP"), ("targetPort", .str "30080")]
  exact .inr ⟨80, rfl, rfl⟩

theorem sentBalancer_respelled :
    Balancer.respelling.rel (sentBalancer (.int 80)) (sentBalancer (.str "80")) := by
  refine Respelling.record_at ?_ [("id", .str "nlb1"), ("folderId", .str "b1g"),
      ("name", .str "web"), ("createdAt", .str "2024-05-01T10:00:00Z"), ("type", .str "EXTERNAL")]
    [("attachedTargetGroups", .arr [sentAttachment])]
  exact Respelling.list_at sentListener_respelled [] []

end Sample

open Sample in
theorem documents_keep_values_balancer :
    DocumentKind.balancer.decode (sentBalancer (.int 80)) = some sentValue ∧
      (∀ c ∈ DocumentKind.balancer.healthChecks sentValue,
        c.interval.IsWhole ∧ c.timeout.IsWhole) ∧
      DocumentKind.balancer.decode (DocumentKind.balancer.encode sentValue) = some sentValue ∧
      DocumentKind.balancer.decode (sentBalancer (.str "80")) = some sentValue := by
  obtain ⟨again, respelled⟩ := documents_keep_values .balancer sentBalancer_read
  have whole : ∀ c ∈ DocumentKind.balancer.healthChecks sentValue,
      c.interval.IsWhole ∧ c.timeout.IsWhole := by
    decide
  exact ⟨sentBalancer_read, whole, again whole, respelled _ sentBalancer_respelled⟩

end CloudSteward
