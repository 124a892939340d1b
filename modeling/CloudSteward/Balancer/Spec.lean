import CloudSteward.Cluster.Object
import CloudSteward.Resource.Basic
import CloudSteward.Settings
import CloudSteward.TargetGroup.Name
import CloudSteward.Text.Cut

/-!
# The balancer a service asks for

A service of balancer type describes its balancer by its ports and annotations;
what an annotation leaves open comes from the settings. `balancerSpec` derives
the balancer, or says why the service cannot be served. The checks are made in
a fixed order and the first that fails is reported: uid, ports, reachability,
each port in turn, then the health check.

Results:

* `checkShape_eq_ok_iff`: a service has the right shape exactly when it has a uid
  and one to ten ports.
-/

namespace CloudSteward

/-! ## Limits and defaults -/

/-- Greatest number of listeners of a balancer. -/
def greatestPortCount : Nat := 10

/-- Greatest length of a balancer's name, in bytes. -/
def greatestNameLength : Nat := 32

/-- Name of the health check. -/
def healthCheckName : String := "kube-health-check"

/-- Path of the health check. -/
def healthCheckPath : String := "/healthz"

/-- Port on every node that answers health checks. -/
def nodeHealthPort : Int := 10256

/-- Seconds between two health checks unless set. -/
def defaultInterval : Int := 2

/-- Seconds until a health check has failed unless set. -/
def defaultTimeout : Int := 1

/-- Both thresholds of a health check unless set. -/
def defaultThreshold : Int := 2

/-! ## The description -/

/-- The balancer of a service. -/
structure BalancerSpec where
  name : String
  type : BalancerType
  listeners : List ListenerSpec
  targetGroupName : String
  healthCheck : HealthCheck
deriving DecidableEq, Repr

/-- Why a service cannot be served. -/
inductive Rejection where
  | noUid
  | noPorts
  | tooManyPorts (count : Nat)
  | notABoolean (value : String)
  | noListenerSubnet
  | unknownProtocol (word : String)
  | noNodePort (port : Int)
  | notPositive (key : String) (value : String)
deriving DecidableEq, Repr

/-- The text for the operator. -/
def Rejection.message (service : String) : Rejection → String
  | .noUid => s!"service {service} has no UID"
  | .noPorts => s!"service {service} has no ports"
  | .tooManyPorts count =>
    s!"service {service} has {count} ports, a network load balancer supports at most " ++
      s!"{greatestPortCount}"
  | .notABoolean value =>
    s!"service {service}: {internalAnnotation} must be \"true\" or \"false\", got " ++
      Text.quoted value
  | .noListenerSubnet =>
    s!"service {service} asks for an internal balancer but no listener subnet is set " ++
      s!"({listenerSubnetAnnotation} annotation or cluster default)"
  | .unknownProtocol word =>
    s!"service {service}: protocol {word} is not supported by network load balancers"
  | .noNodePort port => s!"service {service}: port {port} has no node port allocated"
  | .notPositive key value =>
    s!"service {service}: {key} must be a positive integer, got {Text.quoted value}"

/-- Why no description was made: the service is refused, or its name would end
    inside a character, which is a fault of the caller and stops the work. -/
inductive SpecError where
  | rejected (cause : Rejection)
  | brokenName
deriving DecidableEq, Repr

/-! ## Parts of the description -/

/-- The balancer name of a service: `a` and the uid without hyphens, within the
    limit. There is none if the limit falls inside a character. -/
def balancerName? (s : Service) : Option String :=
  let uid := (s.metadata.uid.getD "").toList.filter (· ≠ '-')
  (Text.cutBytes? greatestNameLength ('a' :: uid)).map String.ofList

/-- The trimmed value of an annotation, unless it is blank. -/
def Service.remark? (s : Service) (key : String) : Option String :=
  (s.metadata.annotations.get? key).bind Text.nonBlank?

/-- The words for the two truth values. -/
def boolean? (s : String) : Option Bool :=
  if s = "true" then some true else if s = "false" then some false else none

/-- The subnet of internal listeners that a service names or the settings give. -/
def listenerSubnet? (s : Service) (settings : Settings) : Option String :=
  (s.remark? listenerSubnetAnnotation).or settings.listenerSubnetId

/-- The subnet of the listeners of an internal balancer; none for a public one. -/
def internalSubnet (s : Service) (settings : Settings) : Except Rejection (Option String) :=
  let subnet := listenerSubnet? s settings
  match s.remark? internalAnnotation with
  | none => .ok subnet
  | some value =>
    match boolean? value, subnet with
    | none, _ => .error (.notABoolean value)
    | some true, none => .error .noListenerSubnet
    | some true, some subnet => .ok (some subnet)
    | some false, _ => .ok none

/-- The protocol of a port. -/
def portProtocol (p : ServicePort) : Except Rejection Protocol :=
  let word := p.protocol.getD "TCP"
  if word = "TCP" then .ok .tcp
  else if word = "UDP" then .ok .udp
  else .error (.unknownProtocol word)

/-- The port on every node that a port of a service leads to. -/
def portOnNodes (p : ServicePort) : Except Rejection Int :=
  match p.nodePort.filter (0 < ·) with
  | some port => .ok port
  | none => .error (.noNodePort p.port)

/-- The listener of the port at a position. -/
def listenerOf (subnet address : Option String) (index : Nat) (p : ServicePort) :
    Except Rejection ListenerSpec := do
  let protocol ← portProtocol p
  let nodePort ← portOnNodes p
  return {
    name := (p.name.filter (!·.isEmpty)).getD s!"listener-{index}"
    port := p.port
    protocol
    targetPort := nodePort
    external := if subnet.isNone then some ⟨address, .ipv4⟩ else none
    internal := subnet.map fun id => ⟨address, id, .ipv4⟩ }

/-- The listeners of ports from a position on. -/
def listenersFrom (subnet address : Option String) :
    Nat → List ServicePort → Except Rejection (List ListenerSpec)
  | _, [] => .ok []
  | index, p :: ps => do
    let listener ← listenerOf subnet address index p
    return listener :: (← listenersFrom subnet address (index + 1) ps)

/-- The positive integer in an annotation, or its default if it is blank. -/
def positiveSetting (s : Service) (key : String) (default : Int) : Except Rejection Int :=
  match s.remark? key with
  | none => .ok default
  | some value =>
    match (Text.int64? value).filter (0 < ·) with
    | some n => .ok n
    | none => .error (.notPositive key value)

/-- The port that health checks go to. A service that keeps traffic on its nodes
    has a port of its own for them. -/
def healthCheckPort (s : Service) : Int :=
  match s.healthCheckNodePort with
  | some port =>
    if s.externalTrafficPolicy = some "Local" ∧ 0 < port then port else nodeHealthPort
  | none => nodeHealthPort

/-- The health check of a service. -/
def healthCheckOf (s : Service) : Except Rejection HealthCheck := do
  let interval ← positiveSetting s intervalAnnotation defaultInterval
  let timeout ← positiveSetting s timeoutAnnotation defaultTimeout
  let unhealthy ← positiveSetting s unhealthyAnnotation defaultThreshold
  let healthy ← positiveSetting s healthyAnnotation defaultThreshold
  return {
    name := healthCheckName
    interval := Span.ofSeconds interval.toNat
    timeout := Span.ofSeconds timeout.toNat
    unhealthyThreshold := unhealthy
    healthyThreshold := healthy
    http := some ⟨healthCheckPort s, healthCheckPath⟩
    tcp := none }

/-- The target group that a service attaches. -/
def attachedGroupName (s : Service) (settings : Settings) : String :=
  targetGroupName ((s.remark? targetGroupPrefixAnnotation).getD "") settings.clusterName
    ((s.remark? targetGroupNetworkAnnotation).getD settings.targetGroupNetworkId)

/-- Refuses a service without uid or with a number of ports that cannot be
    served. -/
def checkShape (s : Service) : Except Rejection Unit :=
  if (s.metadata.uid.getD "").isEmpty then .error .noUid
  else if s.ports.isEmpty then .error .noPorts
  else if greatestPortCount < s.ports.length then .error (.tooManyPorts s.ports.length)
  else .ok ()

theorem checkShape_eq_ok_iff (s : Service) :
    checkShape s = .ok () ↔
      s.metadata.uid.getD "" ≠ "" ∧ s.ports ≠ [] ∧ s.ports.length ≤ greatestPortCount := by
  unfold checkShape
  split
  · simp_all
  · split
    · simp_all
    · split
      · simp_all
      · simp_all

/-- Turns a refusal into the reason why there is no description. -/
def orRejected {α : Type} : Except Rejection α → Except SpecError α
  | .ok a => .ok a
  | .error e => .error (.rejected e)

/-- The balancer of a service. -/
def balancerSpec (s : Service) (settings : Settings) : Except SpecError BalancerSpec := do
  orRejected (checkShape s)
  let subnet ← orRejected (internalSubnet s settings)
  let address := s.remark? listenerAddressAnnotation
  let listeners ← orRejected (listenersFrom subnet address 0 s.ports)
  match balancerName? s with
  | none => .error .brokenName
  | some name =>
    let healthCheck ← orRejected (healthCheckOf s)
    return {
      name
      type := if subnet.isSome then .internal else .external
      listeners
      targetGroupName := attachedGroupName s settings
      healthCheck }

end CloudSteward
