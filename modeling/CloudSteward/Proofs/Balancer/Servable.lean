import CloudSteward.Proofs.Balancer.Address
import CloudSteward.Proofs.Events

/-!
# Services that can be served

Whether a service can have a balancer is told by its uid, its ports and six of its
annotations, each read without the blanks around it. The derivation of the balancer accepts
exactly the services that can be served. It refuses every other one for good and before the
first call.

Results:

* `remark?_eq_none_iff`, `remark?_eq_some_iff`: an annotation in terms of its trimmed text.
* `internalSubnet_ok_iff`, `exists_listenersFrom_iff`, `exists_healthCheckOf_iff`: when each
  part of the derivation succeeds.
* `exists_balancerSpec_iff`: when the whole does.
* `ensureLoadBalancer_of_rejected`: a refused service leads to no call.
* `balancerSpec_ok_iff_servable`: acceptance, refusal and what an accepted service gets.
-/

namespace CloudSteward

open Program

/-! ## Annotations -/

/-- The text of an annotation without the blanks around it; empty if there is none. -/
def Service.word (service : Service) (key : String) : String :=
  Text.trim ((service.metadata.annotations.get? key).getD "")

theorem remark?_eq {service : Service} (key : String) :
    service.remark? key = if service.word key = "" then none else some (service.word key) := by
  rw [Service.remark?, Service.word]
  cases service.metadata.annotations.get? key with
  | none => rfl
  | some text => simp [Text.nonBlank?, String.isEmpty_iff]

theorem remark?_eq_none_iff {service : Service} {key : String} :
    service.remark? key = none ↔ service.word key = "" := by
  rw [remark?_eq]
  split <;> simp_all

theorem remark?_eq_some_iff {service : Service} {key value : String} :
    service.remark? key = some value ↔ service.word key = value ∧ value ≠ "" := by
  rw [remark?_eq]
  split <;> grind

/-- The subnet for internal listeners: the one that the service names or, if it names none,
    the one of the settings. -/
def Service.ListensIn (service : Service) (settings : Settings) (id : String) : Prop :=
  service.word listenerSubnetAnnotation = id ∧ id ≠ "" ∨
    service.word listenerSubnetAnnotation = "" ∧ settings.listenerSubnetId = some id

theorem listenerSubnet?_eq_some_iff {service : Service} {settings : Settings} {id : String} :
    listenerSubnet? service settings = some id ↔ service.ListensIn settings id := by
  rw [listenerSubnet?, Service.ListensIn, Option.or_eq_some_iff, remark?_eq_some_iff,
    remark?_eq_none_iff]

/-! ## Servable services -/

/-- A port that a listener can be made for. -/
structure ServicePort.Servable (p : ServicePort) : Prop where
  protocol : p.protocol = none ∨ p.protocol = some "TCP" ∨ p.protocol = some "UDP"
  nodePort : ∃ n, p.nodePort = some n ∧ 0 < n

/-- A service that a balancer can be made for. -/
structure Service.Servable (service : Service) (settings : Settings) : Prop where
  uid : service.metadata.uid.getD "" ≠ ""
  portCount : 1 ≤ service.ports.length ∧ service.ports.length ≤ 10
  ports : ∀ p ∈ service.ports, p.Servable
  internal : service.word internalAnnotation ∈ ["", "true", "false"]
  subnet : service.word internalAnnotation = "true" → ∃ id, service.ListensIn settings id
  healthCheck : ∀ key ∈ [ intervalAnnotation, timeoutAnnotation, unhealthyAnnotation,
    healthyAnnotation], service.word key = "" ∨ ∃ n, Text.int64? (service.word key) = some n ∧ 0 < n

/-! ## Parts of the derivation -/

theorem rejected_of_orRejected_error {α : Type} {x : Except Rejection α} {e : SpecError}
    (h : orRejected x = .error e) : ∃ cause, e = .rejected cause := by
  cases x with
  | ok a => cases h
  | error cause => exact ⟨cause, (Except.error.inj h).symm⟩

theorem checkShape_ok_iff {service : Service} :
    checkShape service = .ok () ↔ service.metadata.uid.getD "" ≠ "" ∧
      1 ≤ service.ports.length ∧ service.ports.length ≤ 10 := by
  rw [checkShape_eq_ok_iff, ← List.length_pos_iff]
  rfl

/-- The listeners are internal if the annotation says so or, when it says nothing, if there
    is a subnet for them. -/
theorem internalSubnet_ok_iff {service : Service} {settings : Settings} {subnet : Option String} :
    internalSubnet service settings = .ok subnet ↔
      service.word internalAnnotation = "" ∧ subnet = listenerSubnet? service settings ∨
      service.word internalAnnotation = "true" ∧ subnet = listenerSubnet? service settings ∧
        subnet.isSome = true ∨
      service.word internalAnnotation = "false" ∧ subnet = none := by
  rw [internalSubnet]
  cases hword : service.remark? internalAnnotation with
  | none =>
    rw [remark?_eq_none_iff] at hword
    simp only [hword, Except.ok.injEq, true_and, String.reduceEq, false_and, or_false]
    exact eq_comm
  | some value =>
    obtain ⟨rfl, hvalue⟩ := remark?_eq_some_iff.mp hword
    cases hsubnet : listenerSubnet? service settings <;> grind [boolean?]

theorem exists_portProtocol_iff {p : ServicePort} :
    (∃ protocol, portProtocol p = .ok protocol) ↔
      p.protocol = none ∨ p.protocol = some "TCP" ∨ p.protocol = some "UDP" := by
  rw [portProtocol]
  cases p.protocol with
  | none => simp
  | some word =>
    simp only [Option.getD_some, reduceCtorEq, Option.some.injEq, false_or]
    split
    · simp_all
    · split <;> simp_all

theorem exists_portOnNodes_iff {p : ServicePort} :
    (∃ port, portOnNodes p = .ok port) ↔ ∃ n, p.nodePort = some n ∧ 0 < n := by
  rw [portOnNodes]
  cases p.nodePort with
  | none => simp
  | some n => by_cases hn : 0 < n <;> simp [Option.filter, hn]

theorem exists_listenerOf_iff (subnet address : Option String) (index : Nat) (p : ServicePort) :
    (∃ l, listenerOf subnet address index p = .ok l) ↔ p.Servable := by
  rw [listenerOf, exists_bind_ok_iff]
  simp only [exists_bind_ok_iff]
  constructor
  · rintro ⟨protocol, hprotocol, nodePort, hport, -⟩
    exact ⟨exists_portProtocol_iff.mp ⟨_, hprotocol⟩, exists_portOnNodes_iff.mp ⟨_, hport⟩⟩
  · intro h
    obtain ⟨protocol, hprotocol⟩ := exists_portProtocol_iff.mpr h.protocol
    obtain ⟨nodePort, hport⟩ := exists_portOnNodes_iff.mpr h.nodePort
    exact ⟨protocol, hprotocol, nodePort, hport, _, rfl⟩

theorem exists_listenersFrom_iff (subnet address : Option String) (index : Nat)
    (ports : List ServicePort) :
    (∃ l, listenersFrom subnet address index ports = .ok l) ↔ ∀ p ∈ ports, p.Servable := by
  induction ports generalizing index with
  | nil => simp [listenersFrom]
  | cons p rest ih =>
    rw [List.forall_mem_cons, ← ih (index + 1), ← exists_listenerOf_iff subnet address index,
      listenersFrom, exists_bind_ok_iff]
    simp only [exists_bind_ok_iff]
    constructor
    · rintro ⟨l, hl, more, hmore, -⟩
      exact ⟨⟨l, hl⟩, more, hmore⟩
    · rintro ⟨⟨l, hl⟩, more, hmore⟩
      exact ⟨l, hl, more, hmore, _, rfl⟩

theorem exists_positiveSetting_iff (service : Service) (key : String) (default : Int) :
    (∃ n, positiveSetting service key default = .ok n) ↔
      service.word key = "" ∨ ∃ n, Text.int64? (service.word key) = some n ∧ 0 < n := by
  rw [positiveSetting]
  cases hword : service.remark? key with
  | none =>
    rw [remark?_eq_none_iff] at hword
    simp [hword]
  | some value =>
    obtain ⟨rfl, hvalue⟩ := remark?_eq_some_iff.mp hword
    simp only [hvalue, false_or]
    cases Text.int64? (service.word key) with
    | none => simp
    | some n => by_cases hn : 0 < n <;> simp [Option.filter, hn]

theorem exists_healthCheckOf_iff {service : Service} :
    (∃ check, healthCheckOf service = .ok check) ↔
      ∀ key ∈ [ intervalAnnotation, timeoutAnnotation, unhealthyAnnotation, healthyAnnotation],
        service.word key = "" ∨ ∃ n, Text.int64? (service.word key) = some n ∧ 0 < n := by
  simp only [List.forall_mem_cons, List.not_mem_nil, false_implies, implies_true, and_true]
  rw [← exists_positiveSetting_iff service _ defaultInterval,
    ← exists_positiveSetting_iff service _ defaultTimeout,
    ← exists_positiveSetting_iff service _ defaultThreshold,
    ← exists_positiveSetting_iff service _ defaultThreshold, healthCheckOf]
  simp only [exists_bind_ok_iff]
  constructor
  · rintro ⟨interval, hi, timeout, ht, unhealthy, hu, healthy, hh, -⟩
    exact ⟨⟨_, hi⟩, ⟨_, ht⟩, ⟨_, hu⟩, _, hh⟩
  · rintro ⟨⟨interval, hi⟩, ⟨timeout, ht⟩, ⟨unhealthy, hu⟩, healthy, hh⟩
    exact ⟨interval, hi, timeout, ht, unhealthy, hu, healthy, hh, _, rfl⟩

/-! ## The whole derivation -/

section Derivation

variable {service : Service} {settings : Settings} {name : String}

/-- The subnet of the listeners is settled exactly if the annotation has one of its values
    and an internal balancer has a subnet. -/
theorem exists_internalSubnet_iff :
    (∃ subnet, internalSubnet service settings = .ok subnet) ↔
      service.word internalAnnotation ∈ ["", "true", "false"] ∧
      (service.word internalAnnotation = "true" → ∃ id, service.ListensIn settings id) := by
  simp only [internalSubnet_ok_iff, ← listenerSubnet?_eq_some_iff, ← Option.isSome_iff_exists]
  constructor
  · rintro ⟨subnet, ⟨hword, -⟩ | ⟨hword, rfl, hsome⟩ | ⟨hword, -⟩⟩
    · simp [hword]
    · simp [hword, hsome]
    · simp [hword]
  · rintro ⟨hword, hsubnet⟩
    simp only [List.mem_cons, List.not_mem_nil, or_false] at hword
    rcases hword with hword | hword | hword
    · exact ⟨_, .inl ⟨hword, rfl⟩⟩
    · exact ⟨_, .inr (.inl ⟨hword, rfl, hsubnet hword⟩)⟩
    · exact ⟨_, .inr (.inr ⟨hword, rfl⟩)⟩

theorem exists_balancerSpec_iff (hname : balancerName? service = some name) :
    (∃ spec, balancerSpec service settings = .ok spec) ↔ service.Servable settings := by
  rw [balancerSpec]
  simp only [exists_bind_ok_iff, orRejected_eq_ok_iff, hname]
  constructor
  · rintro ⟨_, hshape, subnet, hsubnet, listeners, hlisteners, check, hcheck, -⟩
    obtain ⟨huid, hcount⟩ := checkShape_ok_iff.mp hshape
    obtain ⟨hinternal, hknown⟩ := exists_internalSubnet_iff.mp ⟨subnet, hsubnet⟩
    exact ⟨huid, hcount, (exists_listenersFrom_iff _ _ _ _).mp ⟨_, hlisteners⟩, hinternal, hknown,
      exists_healthCheckOf_iff.mp ⟨_, hcheck⟩⟩
  · intro h
    obtain ⟨subnet, hsubnet⟩ := exists_internalSubnet_iff.mpr ⟨h.internal, h.subnet⟩
    obtain ⟨listeners, hlisteners⟩ := (exists_listenersFrom_iff _ _ 0 _).mpr h.ports
    obtain ⟨check, hcheck⟩ := exists_healthCheckOf_iff.mpr h.healthCheck
    exact ⟨(), checkShape_ok_iff.mpr ⟨h.uid, h.portCount⟩, subnet, hsubnet, listeners, hlisteners,
      check, hcheck, _, rfl⟩

/-- With a name at hand the only way to fail is a refusal. -/
theorem rejected_of_balancerSpec_error {e : SpecError} (hname : balancerName? service = some name)
    (h : balancerSpec service settings = .error e) : ∃ cause, e = .rejected cause := by
  simp only [balancerSpec, hname] at h
  rcases bind_eq_error_iff.mp h with h | ⟨_, -, h⟩
  · exact rejected_of_orRejected_error h
  rcases bind_eq_error_iff.mp h with h | ⟨subnet, -, h⟩
  · exact rejected_of_orRejected_error h
  rcases bind_eq_error_iff.mp h with h | ⟨listeners, -, h⟩
  · exact rejected_of_orRejected_error h
  rcases bind_eq_error_iff.mp h with h | ⟨check, -, h⟩
  · exact rejected_of_orRejected_error h
  · cases h

/-- A refused service is refused before anything is called. -/
theorem ensureLoadBalancer_of_rejected {cause : Rejection}
    (h : balancerSpec service settings = .error (.rejected cause)) (services : List Service)
    (nodes : List Node) :
    ensureLoadBalancer settings services service nodes =
      .fail (.validation (cause.message service.fullName)) := by
  simp only [ensureLoadBalancer, ensureBalancer, describedBalancer, h]
  rfl

/-! ## What an accepted service gets -/

/-- The listeners and the type of a balancer are those that a service asks for. All listeners
    are in the one subnet, or all of them are public. -/
structure BalancerSpec.Serves (spec : BalancerSpec) (service : Service) (settings : Settings) :
    Prop where
  listeners : List.Forall₂ (fun p l => p.HasKey l.key) service.ports spec.listeners
  type : spec.type = .internal ↔ service.word internalAnnotation = "true" ∨
    service.word internalAnnotation = "" ∧ ∃ id, service.ListensIn settings id
  inside : spec.type = .internal → ∃ id, service.ListensIn settings id ∧
    ∀ l ∈ spec.listeners, l.external = none ∧ ∃ inner, l.internal = some inner ∧
      inner.subnetId = id
  outside : spec.type ≠ .internal →
    ∀ l ∈ spec.listeners, l.internal = none ∧ l.external.isSome = true

/-- There is one listener for each port, in the order of the ports. -/
theorem forall₂_listenersFrom {subnet address : Option String} {index : Nat}
    {ports : List ServicePort} {l : List ListenerSpec}
    (h : listenersFrom subnet address index ports = .ok l) :
    List.Forall₂ (fun p l => p.HasKey l.key) ports l := by
  induction ports generalizing index l with
  | nil =>
    cases h
    exact .nil
  | cons p rest ih =>
    obtain ⟨first, hfirst, h⟩ := bind_eq_ok_iff.mp h
    obtain ⟨more, hmore, h⟩ := bind_eq_ok_iff.mp h
    cases h
    exact .cons (listenerOf_key hfirst) (ih hmore)

/-- Listeners have a subnet exactly if the service asks for internal ones, in words or by
    a subnet. -/
theorem isSome_of_internalSubnet {subnet : Option String}
    (h : internalSubnet service settings = .ok subnet) :
    subnet.isSome = true ↔ service.word internalAnnotation = "true" ∨
      service.word internalAnnotation = "" ∧ ∃ id, service.ListensIn settings id := by
  simp only [← listenerSubnet?_eq_some_iff, ← Option.isSome_iff_exists]
  rcases internalSubnet_ok_iff.mp h with ⟨hword, rfl⟩ | ⟨hword, rfl, hsome⟩ | ⟨hword, rfl⟩
  · simp [hword]
  · simp [hword, hsome]
  · simp [hword]

theorem balancerSpec_serves {spec : BalancerSpec}
    (h : balancerSpec service settings = .ok spec) : spec.Serves service settings := by
  obtain ⟨-, subnet, hsubnet, htype, hlisteners⟩ := balancerSpec_parts h
  have hinternal : spec.type = .internal ↔ subnet.isSome = true := by
    rw [htype]
    split <;> simp_all
  refine ⟨forall₂_listenersFrom hlisteners,
    hinternal.trans (isSome_of_internalSubnet hsubnet), fun hin => ?_, fun hout l hl => ?_⟩
  · obtain ⟨id, rfl⟩ := Option.isSome_iff_exists.mp (hinternal.mp hin)
    refine ⟨id, listenerSubnet?_eq_some_iff.mp ?_, fun l hl => ?_⟩
    · rcases internalSubnet_ok_iff.mp hsubnet with ⟨-, hid⟩ | ⟨-, hid, -⟩ | ⟨-, hid⟩
      · exact hid.symm
      · exact hid.symm
      · cases hid
    · obtain ⟨hexternal, hinner⟩ := addresses_of_mem_listenersFrom hlisteners hl
      exact ⟨hexternal, _, hinner, rfl⟩
  · obtain rfl : subnet = none := by simpa using mt hinternal.mpr hout
    obtain ⟨hexternal, hinner⟩ := addresses_of_mem_listenersFrom hlisteners hl
    exact ⟨hinner, by rw [hexternal]; rfl⟩

/-! ## Acceptance -/

/-- **Accepted services.** Of the services whose balancer has a name, exactly those that can
    be served are accepted. Such a service gets one listener for each port and the type
    that it asks for. Every other service is refused with an error that no retry follows,
    and ensuring its balancer makes no request whatsoever. -/
theorem balancerSpec_ok_iff_servable (settings : Settings)
    (hname : balancerName? service = some name) :
    ((∃ spec, balancerSpec service settings = .ok spec) ↔ service.Servable settings) ∧
      (∀ spec, balancerSpec service settings = .ok spec → spec.Serves service settings) ∧
      (¬ service.Servable settings → ∃ cause error,
        balancerSpec service settings = .error (.rejected cause) ∧
        error = .validation (cause.message service.fullName) ∧
        SyncError.isRetryable error = false ∧
        ∀ services nodes w,
          (ensureLoadBalancer settings services service nodes).run w = (.failed error, w) ∧
          (ensureLoadBalancer settings services service nodes).events w = []) := by
  refine ⟨exists_balancerSpec_iff hname, fun spec => balancerSpec_serves, fun hnot => ?_⟩
  cases hspec : balancerSpec service settings with
  | ok spec => exact absurd ((exists_balancerSpec_iff hname).mp ⟨spec, hspec⟩) hnot
  | error e =>
    obtain ⟨cause, rfl⟩ := rejected_of_balancerSpec_error hname hspec
    refine ⟨cause, _, rfl, rfl, rfl, fun services nodes w => ?_⟩
    rw [ensureLoadBalancer_of_rejected hspec]
    exact ⟨rfl, rfl⟩

end Derivation

namespace Sample

/-- The annotations of a service with an internal balancer and odd spacing. -/
def spacedInside : List (String × String) :=
  [( internalAnnotation, " true "), ( listenerSubnetAnnotation, "e9b-a\t"),
    ( intervalAnnotation, " +5 ")]

/-- The annotations of a service that asks for an internal balancer without a subnet. -/
def subnetless : List (String × String) :=
  [( internalAnnotation, "true"), ( listenerSubnetAnnotation, "  ")]

end Sample

open Sample in
/-- One annotated service is accepted and internal; another lacks a subnet, and ensuring its
    balancer calls for nothing. -/
theorem balancerSpec_ok_iff_servable_annotated :
    (annotated spacedInside service).Servable settings ∧
      (∃ spec, balancerSpec (annotated spacedInside service) settings = .ok spec ∧
        spec.type = .internal) ∧
      ¬ (annotated subnetless service).Servable settings ∧
      (ensureLoadBalancer settings [] (annotated subnetless service) nodes).events
        (.ofStore store) = [] := by
  have hname : balancerName? (annotated spacedInside service) = some "a0f1e2d" := by decide
  have hname' : balancerName? (annotated subnetless service) = some "a0f1e2d" := by decide
  obtain ⟨hiff, hserves, -⟩ := balancerSpec_ok_iff_servable settings hname
  obtain ⟨hiff', -, hrefused⟩ := balancerSpec_ok_iff_servable settings hname'
  obtain ⟨spec, hspec⟩ : ∃ spec, balancerSpec (annotated spacedInside service) settings =
      .ok spec := ⟨_, rfl⟩
  have hnot : ¬ (annotated subnetless service).Servable settings := by
    rw [← hiff']
    rintro ⟨spec, h⟩
    have hfails : balancerSpec (annotated subnetless service) settings =
        .error (.rejected .noListenerSubnet) := rfl
    rw [hfails] at h
    cases h
  obtain ⟨cause, error, -, -, -, hsilent⟩ := hrefused hnot
  refine ⟨hiff.mp ⟨spec, hspec⟩, ⟨spec, hspec, ?_⟩, hnot, (hsilent [] nodes _).2⟩
  exact (hserves spec hspec).type.mpr (.inl (by decide))

end CloudSteward
