import CloudSteward.Proofs.Balancer.Converge
import CloudSteward.Proofs.TargetGroup.Wanted

/-!
# What ensuring a balancer leaves behind

A run of `ensureLoadBalancer` that ends well has synced the target groups, found
the group that the service attaches and placed the balancer. Nothing of what one
part has found is changed by the next, so all of it still holds in the end.

Results:

* `mem_keys_listenersFrom`: the keys of the described listeners are read off the
  ports.
* `firstOccurrences_eq_eraseDups`: the reported addresses are the distinct ones.
* `ensureBalancer_split`, `ensureBalancer_done`: the parts of a run that ends well, and the
  balancer of the service after it.
* `ensureLoadBalancer_places`: the store and the reported status in terms of the
  service alone.
-/

namespace CloudSteward

open Program

/-! ## What a service describes -/

/-- The port of a service that a listener of the given key serves. -/
structure ServicePort.HasKey (p : ServicePort) (k : ListenerKey) : Prop where
  protocol : portProtocol p = .ok k.protocol
  port : p.port = k.port
  targetPort : portOnNodes p = .ok k.targetPort

theorem orRejected_eq_ok_iff {α : Type} {x : Except Rejection α} {a : α} :
    orRejected x = .ok a ↔ x = .ok a := by
  cases x <;> simp [orRejected]

theorem listenerOf_key {subnet address : Option String} {index : Nat} {p : ServicePort}
    {l : ListenerSpec} (h : listenerOf subnet address index p = .ok l) : p.HasKey l.key := by
  obtain ⟨protocol, hprotocol, h⟩ := bind_eq_ok_iff.mp h
  obtain ⟨nodePort, hport, h⟩ := bind_eq_ok_iff.mp h
  cases h
  exact ⟨hprotocol, rfl, hport⟩

theorem ServicePort.HasKey.unique {p : ServicePort} {k k' : ListenerKey} (h : p.HasKey k)
    (h' : p.HasKey k') : k = k' := by
  obtain ⟨protocol, port, targetPort⟩ := k
  obtain ⟨protocol', port', targetPort'⟩ := k'
  have hp := h.protocol.symm.trans h'.protocol
  have ht := h.targetPort.symm.trans h'.targetPort
  have hn := h.port.symm.trans h'.port
  simp_all

/-- The described listeners have the keys of the ports and no others. -/
theorem mem_keys_listenersFrom {subnet address : Option String} {index : Nat}
    {ports : List ServicePort} {l : List ListenerSpec}
    (h : listenersFrom subnet address index ports = .ok l) (k : ListenerKey) :
    k ∈ l.map (·.key) ↔ ∃ p ∈ ports, p.HasKey k := by
  induction ports generalizing index l with
  | nil =>
    cases h
    simp
  | cons p rest ih =>
    obtain ⟨spec, hspec, h⟩ := bind_eq_ok_iff.mp h
    obtain ⟨more, hmore, h⟩ := bind_eq_ok_iff.mp h
    cases h
    have hkey := listenerOf_key hspec
    have hhead : k = spec.key ↔ p.HasKey k := by
      constructor
      · rintro rfl
        exact hkey
      · exact fun hk => hk.unique hkey
    rw [List.map_cons, List.mem_cons, ih hmore, hhead]
    simp

/-- The parts of a description, as the service and the settings give them. -/
theorem balancerSpec_parts {service : Service} {s : Settings} {spec : BalancerSpec}
    (h : balancerSpec service s = .ok spec) :
    balancerName? service = some spec.name ∧
      ∃ subnet, internalSubnet service s = .ok subnet ∧
        spec.type = (if subnet.isSome then .internal else .external) ∧
        listenersFrom subnet (service.remark? listenerAddressAnnotation) 0 service.ports =
          .ok spec.listeners := by
  obtain ⟨_, -, h⟩ := bind_eq_ok_iff.mp h
  obtain ⟨subnet, hsubnet, h⟩ := bind_eq_ok_iff.mp h
  obtain ⟨listeners, hl, h⟩ := bind_eq_ok_iff.mp h
  split at h
  · cases h
  · rename_i name hname
    obtain ⟨healthCheck, -, h⟩ := bind_eq_ok_iff.mp h
    cases h
    exact ⟨hname, subnet, orRejected_eq_ok_iff.mp hsubnet, rfl, orRejected_eq_ok_iff.mp hl⟩

/-- The name of a description is that of its service, and its listeners are those of the
    ports. -/
theorem balancerSpec_eq_ok {service : Service} {s : Settings} {spec : BalancerSpec}
    (h : balancerSpec service s = .ok spec) :
    balancerName? service = some spec.name ∧
      ∀ k, k ∈ spec.listeners.map (·.key) ↔ ∃ p ∈ service.ports, p.HasKey k := by
  obtain ⟨hname, subnet, -, -, hlisteners⟩ := balancerSpec_parts h
  exact ⟨hname, mem_keys_listenersFrom hlisteners⟩

/-! ## What a service reports -/

theorem unseen_eq_eraseDups (seen l : List String) :
    unseen seen l = (l.filter fun a => a ∉ seen).eraseDups := by
  induction l generalizing seen with
  | nil => rfl
  | cons a rest ih =>
    rw [unseen]
    split
    · rename_i ha
      rw [ih, List.filter_cons_of_neg (by simpa using ha)]
    · rename_i ha
      rw [ih, List.filter_cons_of_pos (by simpa using ha), List.eraseDups_cons,
        List.filter_filter]
      refine congrArg (fun l => a :: List.eraseDups l) (List.filter_congr fun b _ => ?_)
      by_cases hb : b = a <;> simp [hb]

theorem firstOccurrences_eq_eraseDups (l : List String) : firstOccurrences l = l.eraseDups := by
  rw [firstOccurrences, unseen_eq_eraseDups]
  simp

/-! ## Ensuring -/

section Runs

variable {w w' : World} {s : Settings} {services : List Service} {service : Service}
  {nodes : List Node}

theorem describedBalancer_done {spec : BalancerSpec}
    (h : (describedBalancer s service).run w = (.done spec, w')) :
    balancerSpec service s = .ok spec ∧ w = w' := by
  rw [describedBalancer] at h
  split at h <;> cases h
  exact ⟨‹_›, rfl⟩

theorem namedBalancer_done {name : String}
    (h : (namedBalancer service).run w = (.done name, w')) :
    balancerName? service = some name ∧ w = w' := by
  rw [namedBalancer] at h
  split at h <;> cases h
  exact ⟨‹_›, rfl⟩

/-- The parts of a run that ends well: the groups are synced, the group of the described
    name is found, and the balancer is placed. -/
theorem ensureBalancer_split {b : Balancer}
    (h : (ensureBalancer s services service nodes).run w = (.done b, w')) :
    ∃ spec group w₁ w₂, balancerSpec service s = .ok spec ∧
      (syncTargetGroups s services nodes).run w = (.done (), w₁) ∧
      (ask (.findTargetGroup spec.targetGroupName)).run w₁ = (.done (some group), w₂) ∧
      (placeBalancer s spec (attachmentFor spec group)).run w₂ = (.done b, w') := by
  obtain ⟨spec, w₁, hdescribed, h₁⟩ := run_bind_eq_done.mp h
  obtain ⟨hspec, rfl⟩ := describedBalancer_done hdescribed
  split at h₁
  · cases h₁
  obtain ⟨_, w₂, hsync, h₂⟩ := run_bind_eq_done.mp h₁
  obtain ⟨found, w₃, hfind, h₃⟩ := run_bind_eq_done.mp h₂
  obtain ⟨group, w₄, hr, h₄⟩ := run_bind_eq_done.mp h₃
  obtain ⟨rfl, rfl⟩ := run_require_eq_done.mp hr
  exact ⟨spec, group, w₂, w₃, hspec, hsync, hfind, h₄⟩

/-- A look-up that finds a group has found the only one of the name, and changes none. -/
theorem findTargetGroup_done {name : String} {group : TargetGroup}
    (hk : w.incidents.Keep Store.targetGroups)
    (h : (ask (.findTargetGroup name)).run w = (.done (some group), w')) :
    w'.store.groupsNamed name = [group] := by
  have hreads : (ask (.findTargetGroup name)).Within (·.Calls Method.isRead) := within_ask rfl
  have hcall := congrArg Prod.fst (answer_eq_ok (run_ask_eq_done.mp h))
  have hnamed := unique_eq_some_iff.mp hcall
  rw [Store.groupsNamed, part_met hk] at hnamed
  rw [Store.groupsNamed, targetGroups_of_reads hreads hk h, hnamed]

/-- Neither the sync nor the look-up touches a balancer. -/
theorem balancers_before_placing {w₁ w₂ : World} {name : String} {found : Option TargetGroup}
    (hk : w.incidents.Keep Store.balancers)
    (hsync : (syncTargetGroups s services nodes).run w = (.done (), w₁))
    (hfind : (ask (.findTargetGroup name)).run w₁ = (.done found, w₂)) :
    w₂.store.balancers = w.store.balancers := by
  rw [part_run (within_ask (fun s => (s.answer_parts _).balancers rfl)) (keep_run hk hsync) hfind,
    balancers_syncTargetGroups hk hsync]

/-- The balancer of a service after a run that ends well: it is described by the
    service, attaches the only group of the described name, and is placed. -/
theorem ensureBalancer_done {b : Balancer} (hgroups : w.incidents.Keep Store.targetGroups)
    (hbalancers : w.incidents.Keep Store.balancers)
    (hd : ∀ name, balancerName? service = some name →
      ∀ b ∈ w.store.balancersNamed name, b.Distinct)
    (h : (ensureBalancer s services service nodes).run w = (.done b, w')) :
    ∃ spec group, balancerSpec service s = .ok spec ∧
      w'.store.groupsNamed spec.targetGroupName = [group] ∧
      BalancerPlaced spec (attachmentFor spec group) b w'.store := by
  obtain ⟨spec, group, w₁, w₂, hspec, hsync, hfind, hplace⟩ := ensureBalancer_split h
  have hgroups₁ := keep_run hgroups hsync
  have hbalancers₂ := keep_run (keep_run hbalancers hsync) hfind
  refine ⟨spec, group, hspec, ?_, placeBalancer_done hbalancers₂ ?_ hplace⟩
  · rw [Store.groupsNamed, targetGroups_of_places (within_placeBalancer s spec _)
      (keep_run hgroups₁ hfind) hplace]
    exact findTargetGroup_done hgroups₁ hfind
  · rw [Store.balancersNamed, balancers_before_placing hbalancers hsync hfind]
    exact hd spec.name (balancerSpec_eq_ok hspec).1

/-- **Ensured balancer.** A run that ends well, whatever calls have failed in
    between, leaves exactly one balancer of the service's name. It has the type of
    the description, the listeners of the ports, and one attachment: the only group
    of the described name with the described health check. The reported status
    lists the distinct addresses of its listeners in their order. -/
theorem ensureLoadBalancer_places {status : BalancerStatus}
    (hgroups : w.incidents.Keep Store.targetGroups)
    (hbalancers : w.incidents.Keep Store.balancers)
    (hd : ∀ name, balancerName? service = some name →
      ∀ b ∈ w.store.balancersNamed name, b.Distinct)
    (h : (ensureLoadBalancer s services service nodes).run w = (.done status, w')) :
    ∃ spec b group, balancerSpec service s = .ok spec ∧
      balancerName? service = some spec.name ∧
      w'.store.balancersNamed spec.name = [b] ∧
      b.type = spec.type ∧
      (∀ k, k ∈ b.listeners.map (·.key) ↔ ∃ p ∈ service.ports, p.HasKey k) ∧
      w'.store.groupsNamed spec.targetGroupName = [group] ∧
      b.attachments = [⟨group.id, [spec.healthCheck]⟩] ∧
      status = ⟨some (((b.listeners.map (·.address)).filter (!·.isEmpty)).eraseDups.map
        fun ip => ⟨some ip, none, none, none⟩)⟩ := by
  obtain ⟨b, w₁, hb, h⟩ := run_bind_eq_done.mp h
  cases h
  obtain ⟨spec, group, hspec, hgroup, hplaced⟩ := ensureBalancer_done hgroups hbalancers hd hb
  obtain ⟨hname, hkeys⟩ := balancerSpec_eq_ok hspec
  refine ⟨spec, b, group, hspec, hname, hplaced.named, hplaced.type, fun k => ?_, hgroup,
    hplaced.matching.attachments, ?_⟩
  · rw [hplaced.matching.keys, hkeys]
  · rw [ingressStatus, Balancer.addresses, firstOccurrences_eq_eraseDups]

end Runs

namespace Sample

/-- A service with one port. -/
def service : Service where
  metadata := ⟨some "web", none, some "default", some "0f1e-2d", .empty, .empty, [], none, none⟩
  type? := some "LoadBalancer"
  ports := [⟨some "http", none, 80, some 30080⟩]
  externalTrafficPolicy := none
  healthCheckNodePort := none
  balancerStatus := none

/-- The balancer of the service, with another port and another group. -/
def outdated : Balancer :=
  ⟨"nlb", "b1g", "a0f1e2d", "zone", "ACTIVE", .external,
    [⟨"old", "203.0.113.9", 81, .tcp, 30081, "", .ipv4⟩], [⟨"gone", []⟩]⟩

/-- The small cluster with the outdated balancer. -/
def outdatedWorld : World :=
  .ofStore { store with balancers := Inventory.empty.put outdated }

end Sample

open Sample in
/-- The outdated balancer is converged. -/
theorem ensureLoadBalancer_places_outdated :
    ((ensureLoadBalancer settings [] service nodes).run outdatedWorld).1 =
        .done ⟨some [⟨some "203.0.113.2", none, none, none⟩]⟩ ∧
      ∃ b, ((ensureLoadBalancer settings [] service nodes).run outdatedWorld).2.store.balancersNamed
          "a0f1e2d" = [b] ∧
        ∀ k, k ∈ b.listeners.map (·.key) ↔ ∃ p ∈ service.ports, p.HasKey k := by
  have h : (ensureLoadBalancer settings [] service nodes).run outdatedWorld =
      (.done ⟨some [⟨some "203.0.113.2", none, none, none⟩]⟩,
        ((ensureLoadBalancer settings [] service nodes).run outdatedWorld).2) := by
    rfl
  have hd : ∀ name, balancerName? service = some name →
      ∀ b ∈ outdatedWorld.store.balancersNamed name, b.Distinct := by
    intro name _ b hb
    have hmem := Inventory.mem_values.mp (List.mem_filter.mp hb).1
    rcases Inventory.mem_put.mp hmem with rfl | ⟨-, hmem⟩
    · exact ⟨by decide, by decide⟩
    · cases hmem
  obtain ⟨spec, b, group, -, hname, hb, -, hkeys, -⟩ :=
    ensureLoadBalancer_places (keep_of_no_intrusions (fun _ => rfl) _)
      (keep_of_no_intrusions (fun _ => rfl) _) hd h
  have hspec : spec.name = "a0f1e2d" := by
    have hgiven : balancerName? service = some "a0f1e2d" := by decide
    rw [hgiven] at hname
    exact (Option.some.inj hname).symm
  rw [hspec] at hb
  exact ⟨by rw [h], b, hb, hkeys⟩

end CloudSteward
