import CloudSteward.Proofs.Node.Initialization

/-!
# What is known of a node before pods are admitted to it

A new node admits no pods until its first taint is lifted, and the addresses are written
before that. They need not be addresses under which the node is reached: with lists of
networks, interfaces in none of these networks are skipped, and if all of them are, the name of
the node is the only thing written. An instance without interfaces, and one with an interface
without an address, is an error instead.

Results:

* `withHostname_of_reaches`: the hostname is put behind the addresses of the cloud.
* `writes_of_patched`: a new node that is patched has been described, and its addresses have
  been accepted.
* `admitted_reachable_iff`: when a node that is admitted to has an address.
* `admitted_unreachable`: a node that is admitted to although it has none.
-/

namespace CloudSteward

open Program

variable {s : Settings} {n : Node} {w : World}

theorem withHostname_of_reaches {addresses : List NodeAddress}
    (h : ∀ a ∈ addresses, a.Reaches) (name : String) :
    withHostname addresses name = addresses ++ [⟨"Hostname", name⟩] := by
  have hnone : addresses.any (·.type == "Hostname") = false := by
    rw [List.any_eq_false]
    intro a ha
    rcases h a ha with htype | htype <;> simp [htype]
  simp [withHostname, hnone]

theorem not_reaches_hostname (name : String) : ¬ (⟨"Hostname", name⟩ : NodeAddress).Reaches := by
  simp [NodeAddress.Reaches]

/-- The addresses behind which the hostname is put reach the node if there are any. -/
theorem exists_reaches_withHostname_iff {addresses : List NodeAddress}
    (h : ∀ a ∈ addresses, a.Reaches) (name : String) :
    (∃ a ∈ withHostname addresses name, a.Reaches) ↔ addresses ≠ [] := by
  rw [withHostname_of_reaches h]
  constructor
  · rintro ⟨a, ha, hreaches⟩ rfl
    rw [List.nil_append, List.mem_singleton] at ha
    subst ha
    exact not_reaches_hostname name hreaches
  · intro hne
    obtain ⟨a, ha⟩ := List.exists_mem_of_ne_nil addresses hne
    exact ⟨a, List.mem_append_left _ ha, h a ha⟩

/-- If a new node is patched, it was described before, its addresses were accepted, and the
    patch is the one that makes it an initialized node. -/
theorem writes_of_patched {node : Node} {patch : NodePatch} {reply : Except WriteError Unit}
    (h : (.patchNode node patch, reply) ∈ (initializeNode s n).writes w) :
    ∃ d w₁, (describeNode s n).run w = (.done d, w₁) ∧ node = n ∧ patch = initialPatch n d ∧
      (initializeNode s n).writes w =
        [(.setAddresses n (withHostname d.addresses n.name), .ok ()),
          (.patchNode n patch, reply)] := by
  rcases hd : (describeNode s n).run w with ⟨d | _ | _ | _, w₁⟩
  · rcases writes_of_described hd with ⟨e, w₂, -, hwrites⟩ | ⟨w₂, -, hwrites⟩
    · rw [hwrites] at h
      simp at h
    · have hlast := h
      rw [hwrites] at hlast
      simp only [List.mem_cons, Prod.mk.injEq, reduceCtorEq, false_and, false_or,
        ClusterWrite.patchNode.injEq, List.not_mem_nil, or_false] at hlast
      obtain ⟨⟨rfl, rfl⟩, rfl⟩ := hlast
      exact ⟨d, w₁, rfl, rfl, rfl, hwrites⟩
  all_goals
    rw [writes_of_not_described (by rw [hd]; rfl)] at h
    cases h

/-- What is written of a new node that is initialized, by its description. -/
theorem writes_of_admitted {d : NodeDescription} (htaint : n.hasTaint uninitializedTaint = true)
    (hd : ((describeNode s n).run w).1 = .done d)
    (h : ((initializeNode s n).run w).1 = .done ()) :
    (reconcileNode s n).writes w =
      [(.setAddresses n (withHostname d.addresses n.name), .ok ()),
        (.patchNode n (initialPatch n d), .ok ())] := by
  obtain ⟨d', w₁, hd', hwrites⟩ := writes_of_initialized (Prod.ext h rfl)
  rw [hd'] at hd
  cases hd
  rw [writes_of_tainted htaint]
  exact hwrites

/-- **Admission.** Reconcile a node with the taint of a new node while nobody changes instances
    and subnets. If a patch is sent, it is the second of two writes and lifts the taint, and the
    addresses that were accepted before it are those of the instance behind the node. There is
    an internal or an external one among them exactly if no list of networks is set or the
    network of some interface is in a list. Otherwise the node has its hostname alone. -/
theorem admitted_reachable_iff {node : Node} {patch : NodePatch} {reply : Except WriteError Unit}
    (htaint : n.hasTaint uninitializedTaint = true) (hw : w.Steady w.store)
    (hpatch : (.patchNode node patch, reply) ∈ (reconcileNode s n).writes w) :
    ∃ i addresses, w.store.instanceBehind? n = some i ∧
      (reconcileNode s n).writes w =
        [(.setAddresses n addresses, .ok ()), (.patchNode n patch, reply)] ∧
      patch.taints = some (n.taintsWithout uninitializedTaint) ∧
      ((∃ a ∈ addresses, a.Reaches) ↔
        s.classifiesNetworks = false ∨ ∃ interface ∈ i.interfaces, w.store.Listed s interface) ∧
      ((¬ ∃ a ∈ addresses, a.Reaches) → addresses = [⟨"Hostname", n.name⟩]) := by
  rw [writes_of_tainted htaint] at hpatch ⊢
  obtain ⟨d, w₁, hd, rfl, rfl, hwrites⟩ := writes_of_patched hpatch
  obtain ⟨i, addresses, hi, haddresses, rfl⟩ := describeNode_done hw hd
  have hreaches : ∀ a ∈ addresses, a.Reaches := fun a ha => reaches_of_addressesOf? haddresses ha
  have hexists := exists_reaches_withHostname_iff hreaches node.name
  refine ⟨i, _, hi, hwrites, rfl, ?_, ?_⟩
  · rw [hexists]
    exact addressesOf?_ne_nil_iff haddresses
  · intro hnone
    obtain rfl : addresses = [] := by
      rw [hexists] at hnone
      exact Classical.not_not.mp hnone
    rfl

open Sample in
/-- Without lists of networks, the joining node has an address when pods are admitted to it. -/
theorem admitted_reachable_joining :
    ∃ addresses patch,
      (reconcileNode settings joining).writes (.ofStore store) =
        [(.setAddresses joining addresses, .ok ()), (.patchNode joining patch, .ok ())] ∧
      ∃ a ∈ addresses, a.Reaches := by
  have hsteady : (World.ofStore store).Steady (World.ofStore store).store :=
    ⟨rfl, rfl, keep_of_no_intrusions (fun _ => rfl) _, keep_of_no_intrusions (fun _ => rfl) _⟩
  have hdone : ((initializeNode settings joining).run (.ofStore store)).1 = .done () := by rfl
  have hinitial := writes_of_admitted (s := settings) (n := joining) (by decide) rfl hdone
  obtain ⟨i, addresses, -, hwrites, -, hreached, -⟩ :=
    admitted_reachable_iff (s := settings) (n := joining) (by decide) hsteady
      (by rw [hinitial]; exact .tail _ (.head _))
  exact ⟨addresses, _, hwrites, hreached.mpr (.inl (by decide))⟩

namespace Sample

/-- The settings of the cluster with a list that its one network is not in. -/
def fenced : Settings :=
  { settings with internalNetworkIds := SortedSet.ofMembers ["enpother"] }

end Sample

open Sample in
/-- The network of the joining node is not the listed one. Its hostname is written, and then
    the taint is lifted. -/
theorem admitted_unreachable :
    ∃ addresses patch, (reconcileNode fenced joining).writes (.ofStore store) =
        [(.setAddresses joining addresses, .ok ()), (.patchNode joining patch, .ok ())] ∧
      patch.taints = some (joining.taintsWithout uninitializedTaint) ∧
      (¬ ∃ a ∈ addresses, a.Reaches) ∧ addresses = [⟨"Hostname", "worker-0"⟩] := by
  have hdescription : ((describeNode fenced joining).run (.ofStore store)).1 =
      .done ⟨some "yandex://b1g/zone-a/worker-0", [], "standard", Zone.ofId "zone-a"⟩ := by
    rfl
  have hdone : ((initializeNode fenced joining).run (.ofStore store)).1 = .done () := by rfl
  refine ⟨_, _, writes_of_admitted (by decide) hdescription hdone, rfl, ?_, rfl⟩
  rw [exists_reaches_withHostname_iff (by simp)]
  simp

end CloudSteward
