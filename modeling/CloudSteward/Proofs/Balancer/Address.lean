import CloudSteward.Proofs.Balancer.Edit

/-!
# Addresses and subnets of listeners

A service may fix the address of its listeners, and an internal one has a subnet for
them. Both are settled when a listener is made. A balancer that is converged keeps
the listeners whose keys are wanted, and the key tells neither address nor subnet. So
a listener has the settings of the version that it was made for, which may be an
earlier one than that which is ensured.

Results:

* `obeys_of_made`: a listener that is made for a version has its settings.
* `PlacedFrom.listeners`: a placed balancer has the survivors and new listeners.
* `LeftBy.obeys`: every listener has the settings of a version that has wanted it ever
  since.
* `settings_apply_iff`: when exactly the settings of a version take effect.
* `fixed_address_ignored`: a fixed address that does not.
-/

namespace CloudSteward

open Program

/-! ## Made listeners -/

/-- A listener has the address that a service fixes, if it does, and is in the subnet that
    the service or else the settings name, if the described balancer is internal. -/
structure Listener.Obeys (l : Listener) (service : Service) (s : Settings) : Prop where
  address : ∀ a, service.remark? listenerAddressAnnotation = some a → l.address = a
  subnet : ∀ spec id, balancerSpec service s = .ok spec → spec.type = .internal →
    listenerSubnet? service s = some id → l.subnetId = id

/-- The listeners of an internal balancer get the subnet that is named, if one is. -/
theorem internalSubnet_of_named {service : Service} {s : Settings} {subnet : Option String}
    {id : String} (h : internalSubnet service s = .ok subnet) (hinternal : subnet.isSome = true)
    (hid : listenerSubnet? service s = some id) : subnet = some id := by
  simp only [internalSubnet, hid] at h
  split at h
  · exact (Except.ok.inj h).symm
  · split at h <;> cases h
    · cases ‹some id = some _›
      rfl
    · cases hinternal

/-- A described listener has the address and the subnet that all of them have. -/
theorem addresses_of_mem_listenersFrom {subnet address : Option String} {index : Nat}
    {ports : List ServicePort} {l : List ListenerSpec}
    (h : listenersFrom subnet address index ports = .ok l) {d : ListenerSpec} (hd : d ∈ l) :
    d.external = (if subnet.isNone then some ⟨address, .ipv4⟩ else none) ∧
      d.internal = subnet.map fun id => ⟨address, id, .ipv4⟩ := by
  induction ports generalizing index l with
  | nil =>
    cases h
    cases hd
  | cons p rest ih =>
    obtain ⟨first, hfirst, h⟩ := bind_eq_ok_iff.mp h
    obtain ⟨more, hmore, h⟩ := bind_eq_ok_iff.mp h
    cases h
    rcases List.mem_cons.mp hd with rfl | hd
    · obtain ⟨protocol, -, hfirst⟩ := bind_eq_ok_iff.mp hfirst
      obtain ⟨nodePort, -, hfirst⟩ := bind_eq_ok_iff.mp hfirst
      cases hfirst
      exact ⟨rfl, rfl⟩
    · exact ih hmore hd

/-- A listener that is made for a version of a service has its settings. -/
theorem obeys_of_made {service : Service} {s : Settings} {spec : BalancerSpec}
    (hspec : balancerSpec service s = .ok spec) {d : ListenerSpec} (hd : d ∈ spec.listeners)
    {l : Listener} (hl : l.MadeOf d) : l.Obeys service s := by
  obtain ⟨-, subnet, hsubnet, htype, hlisteners⟩ := balancerSpec_parts hspec
  obtain ⟨hexternal, hinternal⟩ := addresses_of_mem_listenersFrom hlisteners hd
  obtain ⟨n, rfl⟩ := hl
  rw [Store.listenerFrom, hexternal, hinternal]
  constructor
  · intro a ha
    rw [ha]
    cases subnet <;> rfl
  · intro described id hdescribed hkind hid
    cases hspec.symm.trans hdescribed
    have hsome : subnet.isSome = true := by
      by_contra hnone
      rw [htype, if_neg hnone] at hkind
      cases hkind
    rw [internalSubnet_of_named hsubnet hsome hid]
    cases service.remark? listenerAddressAnnotation <;> rfl

/-! ## Surviving listeners -/

/-- The listeners of a store that a description keeps: those that are not stale, of a
    balancer that already has the right type. -/
def Store.survivors (st : Store) (spec : BalancerSpec) : List Listener :=
  ((st.balancersNamed spec.name).filter (·.type = spec.type)).flatMap
    (keptListeners · spec.listeners)

theorem mem_survivors {st : Store} {spec : BalancerSpec} {l : Listener} :
    l ∈ st.survivors spec ↔ ∃ b ∈ st.balancersNamed spec.name, b.type = spec.type ∧
      l ∈ keptListeners b spec.listeners := by
  simp only [Store.survivors, List.mem_flatMap, List.mem_filter, decide_eq_true_eq, and_assoc]

/-- A kept listener was there before, and its key is wanted. -/
theorem of_mem_keptListeners {b : Balancer} {wanted : List ListenerSpec} {l : Listener}
    (h : l ∈ keptListeners b wanted) : l ∈ b.listeners ∧ l.key ∈ wanted.map (·.key) := by
  obtain ⟨hl, hname⟩ := List.mem_filter.mp h
  refine ⟨hl, by_contra fun hkey => of_decide_eq_true hname ?_⟩
  exact List.mem_map_of_mem (List.mem_filter.mpr ⟨hl, by simpa using hkey⟩)

theorem exists_of_made {new : List Listener} {l : List ListenerSpec}
    (h : List.Forall₂ Listener.MadeOf new l) {listener : Listener} (hl : listener ∈ new) :
    ∃ d ∈ l, listener.MadeOf d := by
  induction h with
  | nil => cases hl
  | cons hmade _ ih =>
    rcases List.mem_cons.mp hl with rfl | hl
    · exact ⟨_, List.mem_cons_self, hmade⟩
    · obtain ⟨d, hd, hmade⟩ := ih hl
      exact ⟨d, List.mem_cons_of_mem _ hd, hmade⟩

/-- A placed balancer has the survivors and new listeners. -/
theorem PlacedFrom.listeners {st : Store} {spec : BalancerSpec} {attachment : Attachment}
    {r : Balancer} (h : PlacedFrom st spec attachment r) :
    ∃ new, (∀ l ∈ new, ∃ d ∈ spec.listeners, l.MadeOf d) ∧
      r.listeners = st.survivors spec ++ new := by
  cases h with
  | converged b here type h =>
    obtain ⟨new, hnew, hr⟩ := h.listeners
    refine ⟨new, fun l hl => ?_, by rw [hr, Store.survivors, here]; simp [type]⟩
    obtain ⟨d, hd, hmade⟩ := exists_of_made hnew hl
    exact ⟨d, (List.mem_filter.mp hd).1, hmade⟩
  | created gone h =>
    have hnone : st.survivors spec = [] := by
      rw [Store.survivors, List.filter_eq_nil_iff.mpr (by simpa using gone)]
      rfl
    exact ⟨r.listeners, fun l hl => exists_of_made h.listeners hl, by rw [hnone]; rfl⟩

section Runs

variable {s : Settings} {w w' : World} {services : List Service} {service : Service}
  {nodes : List Node} {status : BalancerStatus}

/-- The balancer that a run has placed, and where it comes from. -/
theorem ensureLoadBalancer_placed (hk : w.incidents.Keep Store.balancers)
    (h : (ensureLoadBalancer s services service nodes).run w = (.done status, w')) :
    ∃ spec attachment b, balancerSpec service s = .ok spec ∧
      PlacedFrom w.store spec attachment b ∧ w'.store.balancersNamed spec.name = [b] := by
  obtain ⟨b, w₁, hb, h⟩ := run_bind_eq_done.mp h
  cases h
  obtain ⟨spec, group, w₂, w₃, hspec, hsync, hfind, hplace⟩ := ensureBalancer_split hb
  obtain ⟨hfrom, hnamed⟩ := placeBalancer_cases (keep_run (keep_run hk hsync) hfind) hplace
  have hsame : w₃.store.balancersNamed spec.name = w.store.balancersNamed spec.name := by
    rw [Store.balancersNamed, balancers_before_placing hk hsync hfind, Store.balancersNamed]
  refine ⟨spec, attachmentFor spec group, b, hspec, ?_, hnamed⟩
  cases hfrom with
  | converged old here type h => exact .converged old (hsame ▸ here) type h
  | created gone h => exact .created (hsame ▸ gone) h

/-! ## Earlier versions -/

/-- A version of a service describes a balancer of a type with a listener of a key. -/
def Service.wants (service : Service) (s : Settings) (type : BalancerType) (key : ListenerKey) :
    Bool :=
  match balancerSpec service s with
  | .ok spec => spec.type = type && (spec.listeners.map (·.key)).contains key
  | .error _ => false

theorem wants_of_mem {type : BalancerType} {key : ListenerKey} {spec : BalancerSpec}
    (hspec : balancerSpec service s = .ok spec) (htype : spec.type = type)
    (hkey : key ∈ spec.listeners.map (·.key)) : service.wants s type key = true := by
  rw [Service.wants, hspec]
  simpa [htype] using hkey

/-- The versions of a service that have been ensured, the newest first, since there was
    no balancer of its name. In between nobody else has changed the balancer. -/
inductive LeftBy (s : Settings) (name : String) : List Service → Store → Prop
  | absent {st : Store} (unused : st.balancersNamed name = []) : LeftBy s name [] st
  | ensured {versions services : List Service} {service : Service} {nodes : List Node}
      {status : BalancerStatus} {w w' : World} (before : LeftBy s name versions w.store)
      (keep : w.incidents.Keep Store.balancers) (same : balancerName? service = some name)
      (run : (ensureLoadBalancer s services service nodes).run w = (.done status, w')) :
      LeftBy s name (service :: versions) w'.store
  | elsewhere {versions : List Service} {st st' : Store} (before : LeftBy s name versions st)
      (same : st'.balancersNamed name = st.balancersNamed name) : LeftBy s name versions st'

/-- A listener was made for a version, and it has been wanted ever since. -/
def Listener.Traced (l : Listener) (s : Settings) (type : BalancerType)
    (versions : List Service) : Prop :=
  ∃ old ∈ versions.takeWhile (·.wants s type l.key), l.Obeys old s

theorem Listener.Traced.cons {l : Listener} {type : BalancerType} {versions : List Service}
    (h : l.Traced s type versions) (hwants : service.wants s type l.key = true) :
    l.Traced s type (service :: versions) := by
  obtain ⟨old, hold, hobeys⟩ := h
  refine ⟨old, ?_, hobeys⟩
  rw [List.takeWhile_cons, if_pos hwants]
  exact List.mem_cons_of_mem service hold

theorem Listener.Traced.head {l : Listener} {type : BalancerType} (versions : List Service)
    (hobeys : l.Obeys service s) (hwants : service.wants s type l.key = true) :
    l.Traced s type (service :: versions) := by
  refine ⟨service, ?_, hobeys⟩
  rw [List.takeWhile_cons, if_pos hwants]
  exact List.mem_cons_self

/-- Every listener has the settings of a version that has wanted it ever since. -/
theorem LeftBy.obeys {name : String} {versions : List Service} {st : Store}
    (h : LeftBy s name versions st) :
    ∀ b ∈ st.balancersNamed name, ∀ l ∈ b.listeners, l.Traced s b.type versions := by
  induction h with
  | absent unused => simp [unused]
  | elsewhere _ same ih => rwa [same]
  | @ensured versions _ service _ _ w _ before keep hname run ih =>
    obtain ⟨spec, attachment, r, hspec, hfrom, hnamed⟩ := ensureLoadBalancer_placed keep run
    obtain rfl := Option.some.inj (hname.symm.trans (balancerSpec_parts hspec).1)
    obtain ⟨new, hnew, hlisteners⟩ := hfrom.listeners
    rw [hnamed]
    intro b hb l hl
    obtain rfl := List.mem_singleton.mp hb
    rw [hlisteners] at hl
    rcases List.mem_append.mp hl with hl | hl
    · obtain ⟨old, hold, htype, hkept⟩ := mem_survivors.mp hl
      obtain ⟨hthere, hkey⟩ := of_mem_keptListeners hkept
      have htraced := ih old hold l hthere
      rw [htype, ← hfrom.type] at htraced
      exact htraced.cons (wants_of_mem hspec hfrom.type.symm hkey)
    · obtain ⟨d, hd, hmade⟩ := hnew l hl
      have hkey : l.key ∈ spec.listeners.map (·.key) := by
        obtain ⟨n, rfl⟩ := hmade
        rw [listenerFrom_key]
        exact List.mem_map_of_mem hd
      exact .head versions (obeys_of_made hspec hd hmade)
        (wants_of_mem hspec hfrom.type.symm hkey)

/-- **Settings of listeners.** The balancer was absent or left by earlier versions of the
    service. If the next version is ensured, then its address and subnet are those of all
    wanted listeners exactly if they were those of all listeners that survive. These have
    the settings of an earlier version, from which on all versions have wanted them. -/
theorem settings_apply_iff {name : String} {versions : List Service}
    (hbefore : LeftBy s name versions w.store) (hname : balancerName? service = some name)
    (hk : w.incidents.Keep Store.balancers)
    (h : (ensureLoadBalancer s services service nodes).run w = (.done status, w')) :
    ∃ spec b, balancerSpec service s = .ok spec ∧ w'.store.balancersNamed name = [b] ∧
      ((∀ l ∈ b.listeners, l.key ∈ spec.listeners.map (·.key) → l.Obeys service s) ↔
        ∀ l ∈ w.store.survivors spec, l.Obeys service s) ∧
      ∀ l ∈ w.store.survivors spec, l ∈ b.listeners ∧ l.key ∈ spec.listeners.map (·.key) ∧
        ∃ old ∈ versions.takeWhile (·.wants s spec.type l.key), l.Obeys old s := by
  obtain ⟨spec, attachment, b, hspec, hfrom, hnamed⟩ := ensureLoadBalancer_placed hk h
  obtain rfl := Option.some.inj (hname.symm.trans (balancerSpec_parts hspec).1)
  obtain ⟨new, hnew, hlisteners⟩ := hfrom.listeners
  have hsurvives : ∀ l ∈ w.store.survivors spec, l ∈ b.listeners ∧
      l.key ∈ spec.listeners.map (·.key) ∧ l.Traced s spec.type versions := by
    intro l hl
    obtain ⟨old, hold, htype, hkept⟩ := mem_survivors.mp hl
    obtain ⟨hthere, hkey⟩ := of_mem_keptListeners hkept
    exact ⟨by rw [hlisteners]; exact List.mem_append_left _ hl, hkey,
      htype ▸ hbefore.obeys old hold l hthere⟩
  refine ⟨spec, b, hspec, hnamed, ⟨fun hall l hl => ?_, fun hall l hl _ => ?_⟩, hsurvives⟩
  · obtain ⟨hl, hkey, -⟩ := hsurvives l hl
    exact hall l hl hkey
  · rw [hlisteners] at hl
    rcases List.mem_append.mp hl with hl | hl
    · exact hall l hl
    · obtain ⟨d, hd, hmade⟩ := hnew l hl
      exact obeys_of_made hspec hd hmade

end Runs

namespace Sample

/-- A service with some annotations. -/
def annotated (annotations : List (String × String)) (service : Service) : Service :=
  { service with
    metadata := { service.metadata with
      annotations := annotations.foldl (fun m e => m.insert e.1 e.2) .empty } }

/-- The annotations of a public service with a fixed address. -/
def fixedAt (address : String) : List (String × String) := [( listenerAddressAnnotation, address)]

/-- The annotations of an internal service with a fixed address. -/
def fixedInside : List (String × String) :=
  [( listenerAddressAnnotation, "10.0.0.9"), ( listenerSubnetAnnotation, "e9b-a")]

/-- The world after a service was ensured. -/
def worldAfter (service : Service) : World :=
  ((ensureLoadBalancer settings [] service nodes).run (.ofStore store)).2

/-- The world after a second service was ensured. -/
def worldAfterBoth (service next : Service) : World :=
  ((ensureLoadBalancer settings [] next nodes).run (worldAfter service)).2

theorem keep_worldAfter (service : Service) :
    (worldAfter service).incidents.Keep Store.balancers :=
  keep_run (keep_of_no_intrusions (fun _ => rfl) _)
    (rfl : (ensureLoadBalancer settings [] service nodes).run (.ofStore store) =
      (_, worldAfter service))

theorem leftBy_worldAfter {service : Service} {status : BalancerStatus}
    (hname : balancerName? service = some "a0f1e2d")
    (h : ((ensureLoadBalancer settings [] service nodes).run (.ofStore store)).1 = .done status) :
    LeftBy settings "a0f1e2d" [service] (worldAfter service).store :=
  .ensured (w := .ofStore store) (.absent rfl) (keep_of_no_intrusions (fun _ => rfl) _) hname
    (Prod.ext h rfl)

end Sample

open Sample in
/-- A port joins an internal service with a fixed address: all listeners have its
    settings. -/
theorem settings_apply_of_extended :
    ∃ spec b, balancerSpec (annotated fixedInside (withPorts extended)) settings = .ok spec ∧
      (worldAfterBoth (annotated fixedInside service)
        (annotated fixedInside (withPorts extended))).store.balancersNamed "a0f1e2d" = [b] ∧
      ∀ l ∈ b.listeners, l.key ∈ spec.listeners.map (·.key) →
        l.Obeys (annotated fixedInside (withPorts extended)) settings := by
  have hbefore : LeftBy settings "a0f1e2d" [annotated fixedInside service]
      (worldAfter (annotated fixedInside service)).store := leftBy_worldAfter rfl rfl
  have hrun : (ensureLoadBalancer settings [] (annotated fixedInside (withPorts extended))
      nodes).run (worldAfter (annotated fixedInside service)) =
        (.done ⟨some [⟨some "10.0.0.9", none, none, none⟩]⟩,
          worldAfterBoth (annotated fixedInside service)
            (annotated fixedInside (withPorts extended))) := by
    rfl
  obtain ⟨spec, b, hspec, hb, happly, hsurvive⟩ :=
    settings_apply_iff hbefore rfl (keep_worldAfter _) hrun
  refine ⟨spec, b, hspec, hb, happly.mpr fun l hl => ?_⟩
  -- both versions fix the same address and name the same subnet
  obtain ⟨-, -, old, hold, hobeys⟩ := hsurvive l hl
  obtain rfl := List.mem_singleton.mp ((List.takeWhile_sublist _).subset hold)
  exact ⟨hobeys.address, fun _ id _ _ hid => hobeys.subnet _ id rfl rfl hid⟩

open Sample in
/-- A service whose fixed address changes keeps the old one. -/
theorem fixed_address_ignored :
    LeftBy settings "a0f1e2d" [annotated (fixedAt "198.51.100.10") service]
        (worldAfter (annotated (fixedAt "198.51.100.10") service)).store ∧
      ((ensureLoadBalancer settings [] (annotated (fixedAt "198.51.100.20") service) nodes).run
        (worldAfter (annotated (fixedAt "198.51.100.10") service))).1.isDone = true ∧
      ∃ spec b, balancerSpec (annotated (fixedAt "198.51.100.20") service) settings = .ok spec ∧
        (worldAfterBoth (annotated (fixedAt "198.51.100.10") service)
          (annotated (fixedAt "198.51.100.20") service)).store.balancersNamed "a0f1e2d" = [b] ∧
        ¬ ∀ l ∈ b.listeners, l.key ∈ spec.listeners.map (·.key) →
          l.Obeys (annotated (fixedAt "198.51.100.20") service) settings := by
  refine ⟨leftBy_worldAfter rfl rfl, rfl, _, _, rfl, rfl, fun hall => ?_⟩
  have hobeys := hall ⟨"http", "198.51.100.10", 80, .tcp, 30080, "", .ipv4⟩ List.mem_cons_self
    (by decide)
  exact absurd (hobeys.address "198.51.100.20" rfl) (by decide)

end CloudSteward
