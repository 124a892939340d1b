import CloudSteward.Cluster.Effect
import CloudSteward.Proofs.Node.Addresses
import CloudSteward.Proofs.Node.Deletion

/-!
# Initializing a node

A new node is described from its instance, which is looked up four times by name or three
times by providerID, and an instance without a providerID on its node is given one. All of
these look-ups find the same instance. A look-up that fails ends the whole before anything is
written. The addresses are written first and the taint is lifted last, so a node that the
cloud could not describe keeps it.

Results:

* `describeNode_done`: what a description is made from.
* `strict_describeNode`: a node is described only if every call is answered.
* `providedInstance?_path`: a providerID that a node is given leads back to its instance.
* `writes_of_not_described`, `writes_of_described`: the writes, by what the cloud and the
  cluster answer.
* `initialization_consistent`: what an initialized node is given, and what one that is not
  keeps.
-/

namespace CloudSteward

open Program

/-! ## The instance behind a node -/

/-- The instance of a name, if the store has exactly one. -/
def Store.namedInstance? (st : Store) (name : String) : Option Instance :=
  match st.instancesNamed name with
  | [found] => some found
  | _ => none

/-- The instance behind a node: the one that its providerID names or, if it has none, the one
    of its own name. -/
def Store.instanceBehind? (st : Store) (n : Node) : Option Instance :=
  if n.providerId.isEmpty then st.namedInstance? n.name else st.providedInstance? n.providerId

theorem namedInstance?_eq_some_iff {st : Store} {name : String} {i : Instance} :
    st.namedInstance? name = some i ↔ st.instancesNamed name = [i] := by
  rw [Store.namedInstance?]
  split <;> simp_all

/-- Folder, zone and name of an instance can be told apart in a path. -/
structure Instance.Addressable (i : Instance) : Prop where
  folder : i.folderId ≠ "" ∧ '/' ∉ i.folderId.toList
  zone : i.zoneId ≠ "" ∧ '/' ∉ i.zoneId.toList
  name : i.name ≠ "" ∧ '/' ∉ i.name.toList

theorem parse_path {i : Instance} (h : i.Addressable) :
    ProviderId.parse (providerScheme ++ i.path) = .ok (.legacy i.folderId i.zoneId i.name) := by
  have hpath : (ProviderId.legacy i.folderId i.zoneId i.name).render = providerScheme ++ i.path :=
    ProviderId.render_legacy i.folderId i.zoneId i.name
  rw [← hpath]
  exact ProviderId.parse_render (ProviderId.plain_legacy_iff.mpr ⟨h.folder, h.zone, h.name⟩)

/-- The providerID of an instance that was found by its name leads back to it. -/
theorem providedInstance?_path {st : Store} {name : String} {i : Instance}
    (hi : st.namedInstance? name = some i) (h : i.Addressable) :
    st.providedInstance? (providerScheme ++ i.path) = some i := by
  have hnamed := namedInstance?_eq_some_iff.mp hi
  have hmem : i ∈ st.instancesNamed name := by simp [hnamed]
  have hname : i.name = name := by simpa using (List.mem_filter.mp hmem).2
  simp only [Store.providedInstance?, parse_path h, hname, hnamed]

/-! ## The description of a node -/

section Description

variable {s : Settings} {st : Store} {w w' : World}

theorem namedInstance_done {name : String} {i : Instance} (hw : w.Steady st)
    (h : (namedInstance name).run w = (.done i, w')) : st.namedInstance? name = some i := by
  obtain ⟨found, w₁, hf, h⟩ := run_bind_eq_done.mp h
  obtain ⟨rfl, rfl⟩ := run_require_eq_done.mp h
  have hfind := answer_eq_ok (run_ask_eq_done.mp hf)
  have hnamed := unique_eq_some_iff.mp (congrArg Prod.fst hfind)
  rw [Store.instancesNamed, part_met hw.keepInstances, hw.instances] at hnamed
  exact namedInstance?_eq_some_iff.mpr hnamed

theorem providedInstance_done {raw : String} {i : Instance} (hw : w.Steady st)
    (h : (providedInstance raw).run w = (.done i, w')) : st.providedInstance? raw = some i := by
  obtain ⟨found, w₁, hf, h⟩ := run_bind_eq_done.mp h
  obtain ⟨rfl, rfl⟩ := run_require_eq_done.mp h
  exact instanceByProviderId_done hw hf

/-- Reading something off an instance that is looked up. -/
theorem readOff_done {α : Type} {lookUp : Program Instance} {f : Instance → α} {a : α}
    (h : (do return f (← lookUp)).run w = (.done a, w')) :
    ∃ i, lookUp.run w = (.done i, w') ∧ a = f i := by
  obtain ⟨i, w₁, hi, h⟩ := run_bind_eq_done.mp h
  cases h
  exact ⟨i, hi, rfl⟩

theorem describeByName_done {name : String} {d : NodeDescription} (hw : w.Steady st)
    (h : (describeByName s name).run w = (.done d, w')) :
    ∃ i addresses, st.namedInstance? name = some i ∧ st.addressesOf? s i = some addresses ∧
      d = ⟨some (providerScheme ++ i.path), addresses, i.platformId, Zone.ofId i.zoneId⟩ := by
  obtain ⟨path, w₁, hpath, h⟩ := run_bind_eq_done.mp h
  obtain ⟨addresses, w₃, haddresses, h⟩ := run_bind_eq_done.mp h
  obtain ⟨type, w₄, htype, h⟩ := run_bind_eq_done.mp h
  obtain ⟨zone, w₅, hzone, h⟩ := run_bind_eq_done.mp h
  cases h
  obtain ⟨i, hi, rfl⟩ := readOff_done hpath
  obtain ⟨i₁, w₂, hi₁, haddresses⟩ := run_bind_eq_done.mp haddresses
  obtain ⟨i₂, hi₂, rfl⟩ := readOff_done htype
  obtain ⟨i₃, hi₃, rfl⟩ := readOff_done hzone
  have hw₁ := hw.run hi
  have hw₂ := hw₁.run hi₁
  have hw₃ := hw₂.run haddresses
  -- every look-up finds the instance that the store has under the name
  have hfound := namedInstance_done hw hi
  cases hfound.symm.trans (namedInstance_done hw₁ hi₁)
  cases hfound.symm.trans (namedInstance_done hw₃ hi₂)
  cases hfound.symm.trans (namedInstance_done (hw₃.run hi₂) hi₃)
  exact ⟨i, addresses, hfound, addressesOfInstance_done hw₂ haddresses, rfl⟩

theorem describeByProviderId_done {raw : String} {d : NodeDescription} (hw : w.Steady st)
    (h : (describeByProviderId s raw).run w = (.done d, w')) :
    ∃ i addresses, st.providedInstance? raw = some i ∧ st.addressesOf? s i = some addresses ∧
      d = ⟨none, addresses, i.platformId, Zone.ofId i.zoneId⟩ := by
  obtain ⟨addresses, w₂, haddresses, h⟩ := run_bind_eq_done.mp h
  obtain ⟨type, w₃, htype, h⟩ := run_bind_eq_done.mp h
  obtain ⟨zone, w₄, hzone, h⟩ := run_bind_eq_done.mp h
  cases h
  obtain ⟨i, w₁, hi, haddresses⟩ := run_bind_eq_done.mp haddresses
  obtain ⟨i₁, hi₁, rfl⟩ := readOff_done htype
  obtain ⟨i₂, hi₂, rfl⟩ := readOff_done hzone
  have hw₁ := hw.run hi
  have hw₂ := hw₁.run haddresses
  have hfound := providedInstance_done hw hi
  cases hfound.symm.trans (providedInstance_done hw₂ hi₁)
  cases hfound.symm.trans (providedInstance_done (hw₂.run hi₁) hi₂)
  exact ⟨i, addresses, hfound, addressesOfInstance_done hw₁ haddresses, rfl⟩

/-- A description is made from the one instance behind the node. It brings a providerID only
    if the node has none. -/
theorem describeNode_done {n : Node} {d : NodeDescription} (hw : w.Steady st)
    (h : (describeNode s n).run w = (.done d, w')) :
    ∃ i addresses, st.instanceBehind? n = some i ∧ st.addressesOf? s i = some addresses ∧
      d = ⟨if n.providerId.isEmpty then some (providerScheme ++ i.path) else none, addresses,
        i.platformId, Zone.ofId i.zoneId⟩ := by
  rw [describeNode] at h
  rw [Store.instanceBehind?]
  split at h
  · rename_i hempty
    simp only [hempty, if_true]
    exact describeByName_done hw h
  · rename_i hset
    split at h
    · simp only [hset, Bool.false_eq_true, if_false]
      exact describeByProviderId_done hw h
    · cases h

end Description

/-! ## Calls that are not answered -/

theorem strict_namedInstance (name : String) : (namedInstance name).Strict :=
  strict_bind (strict_ask _) fun _ => strict_require _ _

/-- Although a missing instance is no error of the look-up, it is one here. -/
theorem strict_providedInstance (raw : String) : (providedInstance raw).Strict := by
  rw [providedInstance, instanceByProviderId]
  rcases ProviderId.parse raw with e | ⟨folderId, zoneId, name⟩ | id
  · exact strict_bind (strict_fail _) fun _ => strict_require _ _
  · exact strict_bind (strict_ask _) fun _ => strict_require _ _
  · change (instanceById id >>= fun found => require found (.instanceNotFound raw)).Strict
    intro w i w' h e he
    obtain ⟨found, w₁, hf, h⟩ := run_bind_eq_done.mp h
    obtain ⟨rfl, rfl⟩ := run_require_eq_done.mp h
    obtain ⟨reply, w₂, ha, hreply⟩ := run_bind_eq_done.mp hf
    cases reply with
    | error e' =>
      dsimp only at hreply
      split at hreply <;> cases hreply
    | ok found =>
      rw [events_bind, hf, instanceById, events_bind, events_answer, ha] at he
      obtain rfl : e = .called w (.getInstance id) := by simpa [require, Program.events] using he
      exact ⟨found, congrArg Prod.fst (run_answer_eq_done.mp ha)⟩

theorem strict_networkOf (memo : SubnetMemo) (subnetId : String) :
    (networkOf memo subnetId).Strict := by
  rw [networkOf]
  split
  · exact strict_pure _
  · exact strict_bind (strict_ask _) fun _ => strict_pure _

theorem strict_interfacesAddresses (s : Settings) (instanceName : String) (index : Nat)
    (memo : SubnetMemo) (interfaces : List Interface) :
    (interfacesAddresses s instanceName index memo interfaces).Strict := by
  induction interfaces generalizing index memo with
  | nil => exact strict_pure _
  | cons i rest ih =>
    refine strict_bind (strict_require _ _) fun address => ?_
    split
    · refine strict_bind (strict_networkOf memo i.subnetId) fun _ => ?_
      exact strict_bind (ih _ _) fun _ => strict_pure _
    · exact strict_bind (ih _ _) fun _ => strict_pure _

theorem strict_addressesOfInstance (s : Settings) (i : Instance) :
    (addressesOfInstance s i).Strict := by
  rw [addressesOfInstance]
  split
  · exact strict_fail _
  · exact strict_interfacesAddresses s i.name 0 .empty i.interfaces

/-- A node is described only if every call that is made for it is answered with a result. -/
theorem strict_describeNode (s : Settings) (n : Node) : (describeNode s n).Strict := by
  have readOff {α : Type} {lookUp : Program Instance} (h : lookUp.Strict) (f : Instance → α) :
      (do return f (← lookUp)).Strict := strict_bind h fun _ => strict_pure _
  have hname := strict_namedInstance n.name
  have hprovided := strict_providedInstance n.providerId
  rw [describeNode]
  split
  · refine strict_bind (readOff hname _) fun path => ?_
    refine strict_bind (strict_bind hname (strict_addressesOfInstance s)) fun addresses => ?_
    refine strict_bind (readOff hname _) fun type => ?_
    exact strict_bind (readOff hname _) fun zone => strict_pure _
  · split
    · refine strict_bind (strict_bind hprovided (strict_addressesOfInstance s)) fun addresses => ?_
      refine strict_bind (readOff hprovided _) fun type => ?_
      exact strict_bind (readOff hprovided _) fun zone => strict_pure _
    · exact strict_fail _

/-! ## Writes -/

section Writes

variable {s : Settings} {n : Node} {w w' : World}

theorem writes_describeNode : (describeNode s n).writes w = [] :=
  writes_eq_nil (within_describeNode s n) (fun _ => id) w

/-- A node that is not described is not written. -/
theorem writes_of_not_described (h : ((describeNode s n).run w).1.isDone = false) :
    (initializeNode s n).writes w = [] := by
  rw [initializeNode, writes_bind_of_not_done rfl h, writes_describeNode]

/-- A node that is described has its addresses written and, if they are accepted, is patched. -/
theorem writes_of_described {d : NodeDescription} {w₁ : World}
    (h : (describeNode s n).run w = (.done d, w₁)) :
    let addresses : ClusterWrite := .setAddresses n (withHostname d.addresses n.name)
    let patch : ClusterWrite := .patchNode n (initialPatch n d)
    (∃ e w₂, w₁.write addresses = (.error e, w₂) ∧
        (initializeNode s n).writes w = [(addresses, .error e)]) ∨
      ∃ w₂, w₁.write addresses = (.ok (), w₂) ∧
        (initializeNode s n).writes w = [(addresses, .ok ()), (patch, (w₂.write patch).1)] := by
  intro addresses patch
  rw [initializeNode, writes_bind_of_done h, writes_describeNode, List.nil_append]
  rcases hwrite : w₁.write addresses with ⟨e | _, w₂⟩
  · have hfailed : (change addresses).run w₁ = (.failed (.kube e), w₂) := by
      rw [change, Program.run, hwrite]
      rfl
    refine .inl ⟨e, w₂, rfl, ?_⟩
    rw [writes_bind_of_not_done hfailed rfl, writes_change, hwrite]
  · refine .inr ⟨w₂, rfl, ?_⟩
    rw [writes_bind_of_done (run_change_eq_done.mpr hwrite), writes_change, writes_change, hwrite]
    rfl

/-- A node that is initialized has both writes accepted. -/
theorem writes_of_initialized (h : (initializeNode s n).run w = (.done (), w')) :
    ∃ d w₁, (describeNode s n).run w = (.done d, w₁) ∧
      (initializeNode s n).writes w =
        [(.setAddresses n (withHostname d.addresses n.name), .ok ()),
          (.patchNode n (initialPatch n d), .ok ())] := by
  obtain ⟨d, w₁, hd, h⟩ := run_bind_eq_done.mp h
  obtain ⟨_, w₂, haddresses, hpatch⟩ := run_bind_eq_done.mp h
  refine ⟨d, w₁, hd, ?_⟩
  have hwrite := run_change_eq_done.mp haddresses
  rcases writes_of_described hd with ⟨e, w₃, hfailed, -⟩ | ⟨w₃, hwritten, hwrites⟩
  · cases hwrite.symm.trans hfailed
  · cases hwrite.symm.trans hwritten
    rw [hwrites, run_change_eq_done.mp hpatch]

/-- If a call is not answered with a result, the node is not described. -/
theorem not_described_of_unanswered {e : Event} (he : e ∈ (initializeNode s n).events w)
    (hfail : ¬ e.Answered) : ((describeNode s n).run w).1.isDone = false := by
  rcases hd : (describeNode s n).run w with ⟨d | _ | _ | _, w₁⟩
  · rw [initializeNode, events_bind, hd] at he
    refine absurd ?_ hfail
    rcases List.mem_append.mp he with he | he
    · exact strict_describeNode s n w d w₁ hd e he
    · -- what follows the description calls nothing
      have hwrites : e.Permitted Action.CallsNothing :=
        permitted_of_mem_events (within_bind (within_change trivial) fun _ =>
          within_change trivial) he
      cases e with
      | called w₂ c => exact hwrites.elim
      | deleted | wrote => trivial
  all_goals rfl

/-- **Initialization.** Reconcile a node with the taint of a new node while nobody changes
    instances and subnets. If that ends well, there were two writes and both were accepted:
    first the addresses, then a patch. Addresses, zone, region and type are those of the
    instance behind the node. A providerID is written only if the node has none, and then it
    is read and leads to the same instance. All taints but the one are kept in their order.
    If a call is not answered with a result, or the store has no instance behind the node that
    gives addresses, nothing is written. If the addresses are refused, nothing else is written,
    and the taints are as they were. -/
theorem initialization_consistent (htaint : n.hasTaint uninitializedTaint = true)
    (hw : w.Steady w.store)
    (hplain : ∀ i, w.store.instanceBehind? n = some i → i.Addressable) :
    (∀ visit w', (reconcileNode s n).run w = (.done visit, w') →
      ∃ i addresses patch, w.store.instanceBehind? n = some i ∧
        w.store.addressesOf? s i = some addresses ∧
        (reconcileNode s n).writes w = [(.setAddresses n (withHostname addresses n.name), .ok ()),
          (.patchNode n patch, .ok ())] ∧
        patch.labels = SortedMap.ofList [( zoneLabel, i.zoneId), (regionLabel, regionOf i.zoneId),
          (instanceTypeLabel, i.platformId)] ∧
        patch.taints = some (n.taints.filter fun t => t.key ≠ uninitializedTaint) ∧
        (n.providerId ≠ "" → patch.providerId = none) ∧
        (n.providerId = "" → ∃ raw p, patch.providerId = some raw ∧
          ProviderId.parse raw = .ok p ∧ w.store.providedInstance? raw = some i)) ∧
      (∀ e ∈ (reconcileNode s n).events w, ¬ e.Answered → (reconcileNode s n).writes w = []) ∧
      ((w.store.instanceBehind? n).bind (w.store.addressesOf? s) = none →
        (reconcileNode s n).writes w = []) ∧
      ∀ addresses e, (.setAddresses n addresses, .error e) ∈ (reconcileNode s n).writes w →
        (reconcileNode s n).writes w = [(.setAddresses n addresses, .error e)] ∧
        ∀ m m', ClusterWrite.onNode (.setAddresses n addresses) m = some m' →
          m'.taints = m.taints := by
  rw [writes_of_tainted htaint]
  refine ⟨fun visit w' h => ?_, fun e he hfail => ?_, fun hnone => ?_, fun addresses e he => ?_⟩
  · rw [reconcileNode, if_pos htaint] at h
    obtain ⟨_, w₂, hinit, -⟩ := run_bind_eq_done.mp h
    obtain ⟨d, w₁, hd, hwrites⟩ := writes_of_initialized hinit
    obtain ⟨i, addresses, hi, haddresses, rfl⟩ := describeNode_done hw hd
    refine ⟨i, addresses, _, hi, haddresses, hwrites, rfl, ?_, fun hset => ?_, fun hunset => ?_⟩
    · refine congrArg some (List.filter_congr fun t _ => ?_)
      rw [Bool.eq_iff_iff]
      simp
    · rw [initialPatch, if_neg (by simpa using hset)]
    · have hempty : n.providerId.isEmpty = true := by simpa using hunset
      have hnamed := hi
      rw [Store.instanceBehind?, if_pos hempty] at hnamed
      refine ⟨_, _, if_pos hempty, parse_path (hplain i hi), ?_⟩
      exact providedInstance?_path hnamed (hplain i hi)
  · rw [reconcileNode, if_pos htaint, events_bind_pure] at he
    exact writes_of_not_described (not_described_of_unanswered he hfail)
  · refine writes_of_not_described ?_
    rcases hd : (describeNode s n).run w with ⟨d | _ | _ | _, w₁⟩
    · obtain ⟨i, addresses, hi, haddresses, -⟩ := describeNode_done hw hd
      rw [hi, Option.bind_some, haddresses] at hnone
      cases hnone
    all_goals rfl
  · refine ⟨?_, fun m m' hm => ?_⟩
    · rcases hd : (describeNode s n).run w with ⟨d | _ | _ | _, w₁⟩
      · rcases writes_of_described hd with ⟨e', w₂, -, hwrites⟩ | ⟨w₂, -, hwrites⟩
        · rw [hwrites, List.mem_singleton] at he
          rw [hwrites, he]
        · rw [hwrites] at he
          simp at he
      all_goals
        rw [writes_of_not_described (by rw [hd]; rfl)] at he
        cases he
    · cases hm
      rfl

end Writes

namespace Sample

/-- The first node of the cluster before it has a providerID, with the taint of a new node
    between two others. -/
def joining : Node :=
  { node "worker-0" "" with
    providerId? := none
    taints := [⟨"first", "NoSchedule", none, none⟩, ⟨uninitializedTaint, "NoSchedule", none, none⟩,
      ⟨"last", "NoExecute", none, none⟩] }

end Sample

open Sample in
/-- The joining node gets a providerID that leads to the instance of its name, and two taints are
    left. In a cluster without instances nothing is written. -/
theorem initialization_consistent_joining :
    (∃ addresses patch raw, (reconcileNode settings joining).writes (.ofStore store) =
        [(.setAddresses joining addresses, .ok ()), (.patchNode joining patch, .ok ())] ∧
      patch.taints = some [⟨"first", "NoSchedule", none, none⟩, ⟨"last", "NoExecute", none, none⟩] ∧
      patch.providerId = some raw ∧
      store.providedInstance? raw = some (machine "fhm1" "worker-0" "10.0.0.5")) ∧
    (reconcileNode settings joining).writes (.ofStore (.empty "b1g")) = [] := by
  have hsteady (st : Store) : (World.ofStore st).Steady (World.ofStore st).store :=
    ⟨rfl, rfl, keep_of_no_intrusions (fun _ => rfl) _, keep_of_no_intrusions (fun _ => rfl) _⟩
  have hbehind : store.instanceBehind? joining = some (machine "fhm1" "worker-0" "10.0.0.5") := by
    decide
  have h : (reconcileNode settings joining).run (.ofStore store) =
      (.done (.after monitorPeriod),
        ((reconcileNode settings joining).run (.ofStore store)).2) := by
    rfl
  obtain ⟨hdone, -⟩ := initialization_consistent (s := settings) (n := joining) (by decide)
    (hsteady store) (by
      intro i hi
      cases hbehind.symm.trans hi
      exact ⟨by decide, by decide, by decide⟩)
  obtain ⟨-, -, hunknown, -⟩ := initialization_consistent (s := settings) (n := joining)
    (by decide) (hsteady (.empty "b1g")) (fun i hi => by cases hi)
  obtain ⟨i, addresses, patch, hi, -, hwrites, -, htaints, -, hgiven⟩ := hdone _ _ h
  obtain ⟨raw, p, hraw, -, hleads⟩ := hgiven (by decide)
  cases hbehind.symm.trans hi
  exact ⟨⟨_, patch, raw, hwrites, htaints.trans (by decide), hraw, hleads⟩, hunknown rfl⟩

end CloudSteward
