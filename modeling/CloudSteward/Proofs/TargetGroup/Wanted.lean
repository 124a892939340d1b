import CloudSteward.Proofs.Parts
import CloudSteward.TargetGroup.Sync

/-!
# The targets that nodes want

What a sync has to reach can be read off a store without a program: every
interface of every node's instance is a target of the group of its network. The
desired targets that a program collects are these, however its memo of networks
was filled and whatever goes wrong on the way.

Results:

* `mem_wantedTargets`: which targets are wanted, spelled out.
* `get?_gathered`: the wanted targets by group name.
* `desiredTargets_done`: a program that ends well has collected exactly the
  wanted targets, and every interface is one of them.
-/

namespace CloudSteward

open Program

/-! ## Specification: wanted targets -/

/-- The instance that a providerID names, if the store has exactly one. -/
def Store.providedInstance? (st : Store) (raw : String) : Option Instance :=
  match ProviderId.parse raw with
  | .error _ => none
  | .ok (.legacy _ _ instanceName) =>
    match st.instancesNamed instanceName with
    | [found] => some found
    | _ => none
  | .ok (.instance instanceId) => st.instances.get? instanceId

/-- The target that an interface is, behind the name of the group it belongs to. -/
def Store.wantedOfInterface (st : Store) (s : Settings) (groupPrefix : String) (i : Interface) :
    Option (String × Target) := do
  let address ← i.address?
  let subnet ← st.subnets.get? i.subnetId
  return (targetGroupName groupPrefix s.clusterName subnet.networkId, ⟨i.subnetId, address⟩)

/-- The interfaces of the instance behind a node. -/
def Store.interfacesOf (st : Store) (n : Node) : List Interface :=
  ((st.providedInstance? n.providerId).map (·.interfaces)).getD []

/-- The targets that nodes want, each behind the name of its group. -/
def Store.wantedTargets (st : Store) (s : Settings) (nodes : List Node) :
    List (String × Target) :=
  nodes.flatMap fun n => (st.interfacesOf n).filterMap (st.wantedOfInterface s n.groupPrefix)

/-- Every node has its instance, and every interface of it an address and a
    network. -/
def Store.Resolves (st : Store) (s : Settings) (nodes : List Node) : Prop :=
  ∀ n ∈ nodes, (∃ found, st.providedInstance? n.providerId = some found) ∧
    ∀ i ∈ st.interfacesOf n, ∃ p, st.wantedOfInterface s n.groupPrefix i = some p

/-- The targets of a list by group name. -/
def gatheredFrom (desired : DesiredTargets) (l : List (String × Target)) : DesiredTargets :=
  l.foldl (fun m p => addDesired m p.1 p.2) desired

/-- The targets of a list by group name, and no others. -/
def gathered (l : List (String × Target)) : DesiredTargets := gatheredFrom .empty l

/-! ## Targets by group name -/

/-- Whether a target is desired in the group of a name. -/
def Desires (desired : DesiredTargets) (name : String) (t : Target) : Prop :=
  ∃ targets, desired.get? name = some targets ∧ SortedSet.has targets t = true

theorem desires_addDesired {desired : DesiredTargets} {name groupName : String}
    {t target : Target} :
    Desires (addDesired desired groupName target) name t ↔
      (name = groupName ∧ t = target) ∨ Desires desired name t := by
  simp only [Desires, addDesired, SortedMap.get?_insert]
  by_cases h : name = groupName
  · subst h
    cases desired.get? name <;> simp [SortedSet.has_add]
  · simp [h]

theorem gatheredFrom_cons (desired : DesiredTargets) (p : String × Target)
    (l : List (String × Target)) :
    gatheredFrom desired (p :: l) = gatheredFrom (addDesired desired p.1 p.2) l := rfl

theorem desires_gatheredFrom {desired : DesiredTargets} {l : List (String × Target)}
    {name : String} {t : Target} :
    Desires (gatheredFrom desired l) name t ↔ (name, t) ∈ l ∨ Desires desired name t := by
  induction l generalizing desired with
  | nil => simp [gatheredFrom]
  | cons p rest ih =>
    rw [gatheredFrom_cons, ih, desires_addDesired, List.mem_cons, ← or_assoc,
      or_comm (a := (name, t) ∈ rest)]
    simp [Prod.ext_iff]

theorem desires_gathered {l : List (String × Target)} {name : String} {t : Target} :
    Desires (gathered l) name t ↔ (name, t) ∈ l := by
  rw [gathered, desires_gatheredFrom]
  simp [Desires]

/-- No group is gathered without a target. -/
theorem exists_desires_of_gatheredFrom {desired : DesiredTargets} {l : List (String × Target)}
    (hd : ∀ name, (desired.get? name).isSome → ∃ t, Desires desired name t) {name : String}
    (h : ((gatheredFrom desired l).get? name).isSome) :
    ∃ t, Desires (gatheredFrom desired l) name t := by
  induction l generalizing desired with
  | nil => exact hd name h
  | cons p rest ih =>
    rw [gatheredFrom_cons] at h ⊢
    refine ih (fun other ho => ?_) h
    rw [addDesired, SortedMap.get?_insert] at ho
    by_cases hp : other = p.1
    · exact ⟨p.2, desires_addDesired.mpr (.inl ⟨hp, rfl⟩)⟩
    · rw [if_neg hp] at ho
      obtain ⟨t, ht⟩ := hd other ho
      exact ⟨t, desires_addDesired.mpr (.inr ht)⟩

/-- The wanted targets by group name: a group is there only with a target, and
    then with exactly its targets. -/
theorem get?_gathered {l : List (String × Target)} {name : String} {targets : TargetSet}
    (h : (gathered l).get? name = some targets) :
    (∃ t, (name, t) ∈ l) ∧ ∀ t, SortedSet.has targets t = true ↔ (name, t) ∈ l := by
  constructor
  · have hsome : ((gatheredFrom .empty l).get? name).isSome :=
      Option.isSome_iff_exists.mpr ⟨targets, h⟩
    obtain ⟨t, ht⟩ := exists_desires_of_gatheredFrom (by simp) hsome
    exact ⟨t, desires_gathered.mp ht⟩
  · intro t
    rw [← desires_gathered, Desires, h]
    simp

theorem exists_gathered_of_mem {l : List (String × Target)} {name : String} {t : Target}
    (h : (name, t) ∈ l) : ∃ targets, (gathered l).get? name = some targets := by
  obtain ⟨targets, ht, -⟩ := desires_gathered.mpr h
  exact ⟨targets, ht⟩

theorem mem_names_of_gathered {l : List (String × Target)} {name : String}
    (h : name ∈ (gathered l).entries.map (·.1)) : name ∈ l.map (·.1) := by
  obtain ⟨⟨_, targets⟩, hentry, rfl⟩ := List.mem_map.mp h
  obtain ⟨t, ht⟩ := (get?_gathered (SortedMap.get?_eq_some_iff.mpr hentry)).1
  exact List.mem_map.mpr ⟨_, ht, rfl⟩

/-! ## Which targets are wanted -/

theorem wantedOfInterface_eq_some_iff {st : Store} {s : Settings} {groupPrefix : String}
    {i : Interface} {p : String × Target} :
    st.wantedOfInterface s groupPrefix i = some p ↔
      ∃ address subnet, i.address? = some address ∧ st.subnets.get? i.subnetId = some subnet ∧
        p =
          (targetGroupName groupPrefix s.clusterName subnet.networkId, ⟨i.subnetId, address⟩) := by
  simp [Store.wantedOfInterface, Option.bind_eq_some_iff, eq_comm (a := p)]

/-- **Wanted targets.** A target is wanted in a group exactly if some node's
    instance has an interface with its subnet and address, and the group is named
    after the node's prefix and the network of that subnet. -/
theorem mem_wantedTargets {st : Store} {s : Settings} {nodes : List Node} {name : String}
    {t : Target} :
    (name, t) ∈ st.wantedTargets s nodes ↔
      ∃ n ∈ nodes, ∃ found, st.providedInstance? n.providerId = some found ∧
        ∃ i ∈ found.interfaces, ∃ subnet, st.subnets.get? i.subnetId = some subnet ∧
          i.address? = some t.address ∧ i.subnetId = t.subnetId ∧
          name = targetGroupName n.groupPrefix s.clusterName subnet.networkId := by
  simp only [Store.wantedTargets, List.mem_flatMap, List.mem_filterMap,
    wantedOfInterface_eq_some_iff, Store.interfacesOf]
  constructor
  · rintro ⟨n, hn, i, hi, address, subnet, ha, hs, hp⟩
    cases hf : st.providedInstance? n.providerId with
    | none => simp [hf] at hi
    | some found =>
      obtain ⟨rfl, rfl⟩ := Prod.mk.inj hp
      exact ⟨n, hn, found, hf, i, by simpa [hf] using hi, subnet, hs, ha, rfl, rfl⟩
  · rintro ⟨n, hn, found, hf, i, hi, subnet, hs, ha, hid, rfl⟩
    refine ⟨n, hn, i, by simpa [hf] using hi, t.address, subnet, ha, hs, ?_⟩
    rw [hid]

/-- The prefix of a node's groups, as far as it counts for their names. -/
def Node.cutPrefix (n : Node) : String :=
  Text.cutChars greatestPrefixLength n.groupPrefix

/-- Whether a target is an interface of the instance behind a node. -/
def Store.Offers (st : Store) (n : Node) (t : Target) : Prop :=
  ∃ i ∈ st.interfacesOf n, i.address? = some t.address ∧ i.subnetId = t.subnetId

/-- Whether some node with a prefix offers a target. -/
def Store.OffersUnder (st : Store) (nodes : List Node) (cutPrefix : String) (t : Target) : Prop :=
  ∃ n ∈ nodes, n.cutPrefix = cutPrefix ∧ st.Offers n t

theorem mem_wantedTargets_iff_offers {st : Store} {s : Settings} {nodes : List Node}
    {name : String} {t : Target} :
    (name, t) ∈ st.wantedTargets s nodes ↔
      ∃ cutPrefix subnet, st.subnets.get? t.subnetId = some subnet ∧
        st.OffersUnder nodes cutPrefix t ∧
        name = cutPrefix ++ s.clusterName ++ subnet.networkId := by
  simp only [Store.wantedTargets, List.mem_flatMap, List.mem_filterMap,
    wantedOfInterface_eq_some_iff]
  constructor
  · rintro ⟨n, hn, i, hi, address, subnet, haddress, hsubnet, hp⟩
    obtain ⟨rfl, rfl⟩ := Prod.mk.inj hp
    exact ⟨n.cutPrefix, subnet, hsubnet, ⟨n, hn, rfl, i, hi, haddress, rfl⟩, rfl⟩
  · rintro ⟨_, subnet, hsubnet, ⟨n, hn, rfl, i, hi, haddress, hid⟩, rfl⟩
    rw [← hid] at hsubnet
    refine ⟨n, hn, i, hi, t.address, subnet, haddress, hsubnet, ?_⟩
    rw [hid]
    rfl

/-- Wanted targets depend on instances and subnets alone. -/
theorem wantedOfInterface_congr {st st' : Store} (hs : st'.subnets = st.subnets) :
    st'.wantedOfInterface = st.wantedOfInterface := by
  funext s groupPrefix i
  simp only [Store.wantedOfInterface, hs]

theorem providedInstance?_congr {st st' : Store} (hi : st'.instances = st.instances) :
    st'.providedInstance? = st.providedInstance? := by
  funext raw
  simp only [Store.providedInstance?, Store.instancesNamed, hi]

theorem wantedTargets_congr {st st' : Store} (hi : st'.instances = st.instances)
    (hs : st'.subnets = st.subnets) (s : Settings) (nodes : List Node) :
    st'.wantedTargets s nodes = st.wantedTargets s nodes := by
  simp only [Store.wantedTargets, Store.interfacesOf, providedInstance?_congr hi,
    wantedOfInterface_congr hs]

/-! ## What a program collects -/

/-- The instances and subnets are those of a store, and nobody changes them. -/
structure World.Steady (w : World) (st : Store) : Prop where
  instances : w.store.instances = st.instances
  subnets : w.store.subnets = st.subnets
  keepInstances : w.incidents.Keep Store.instances
  keepSubnets : w.incidents.Keep Store.subnets

theorem World.Steady.run {α : Type} {p : Program α} {w w' : World} {st : Store} {o : Outcome α}
    (hw : w.Steady st) (h : p.run w = (o, w')) : w'.Steady st := by
  have hi := instances_run hw.keepInstances h
  have hs := subnets_run hw.keepSubnets h
  exact ⟨hi.trans hw.instances, hs.trans hw.subnets, keep_run hw.keepInstances h,
    keep_run hw.keepSubnets h⟩

theorem instanceByProviderId_done {w w' : World} {st : Store} {raw : String} {found : Instance}
    (hw : w.Steady st) (h : (instanceByProviderId raw).run w = (.done (some found), w')) :
    st.providedInstance? raw = some found := by
  have hmet : ∀ m, (w.met m).instances = st.instances :=
    fun m => (part_met hw.keepInstances m).trans hw.instances
  rw [instanceByProviderId] at h
  rw [Store.providedInstance?]
  rcases hp : ProviderId.parse raw with e | ⟨folderId, zoneId, instanceName⟩ | instanceId
  · rw [hp] at h
    cases h
  · rw [hp] at h
    have hfind := answer_eq_ok (run_ask_eq_done.mp h)
    have hnamed := unique_eq_some_iff.mp (congrArg Prod.fst hfind)
    rw [Store.instancesNamed, hmet] at hnamed
    simp only [Store.instancesNamed, hnamed]
  · rw [hp] at h
    obtain ⟨reply, w₁, ha, h⟩ := run_bind_eq_done.mp h
    cases reply with
    | error e =>
      dsimp only at h
      split at h <;> cases h
    | ok instance' =>
      cases h
      have hget := answer_eq_ok (run_answer_eq_done.mp ha)
      have hsome := existing_eq_ok_iff.mp (congrArg Prod.fst hget)
      rw [hmet] at hsome
      exact hsome

/-- A memo of networks that says of every subnet what the store says. -/
def MemoAgrees (memo : SubnetMemo) (st : Store) : Prop :=
  ∀ id networkId, memo.get? id = some networkId →
    ∃ subnet, st.subnets.get? id = some subnet ∧ subnet.networkId = networkId

theorem memoAgrees_empty (st : Store) : MemoAgrees .empty st := by
  intro id networkId h
  cases h

theorem MemoAgrees.insert {memo : SubnetMemo} {st : Store} {id : String} {subnet : Subnet}
    (hm : MemoAgrees memo st) (h : st.subnets.get? id = some subnet) :
    MemoAgrees (memo.insert id subnet.networkId) st := by
  intro other networkId hother
  rw [SortedMap.get?_insert] at hother
  split at hother
  · rename_i hsame
    cases hother
    exact ⟨subnet, hsame ▸ h, rfl⟩
  · exact hm other networkId hother

theorem networkOf_done {w w' : World} {st : Store} {memo memo' : SubnetMemo}
    {id networkId : String} (hw : w.Steady st) (hm : MemoAgrees memo st)
    (h : (networkOf memo id).run w = (.done (networkId, memo'), w')) :
    (∃ subnet, st.subnets.get? id = some subnet ∧ subnet.networkId = networkId) ∧
      MemoAgrees memo' st := by
  rw [networkOf] at h
  split at h
  · rename_i known hk
    cases h
    exact ⟨hm id _ hk, hm⟩
  · obtain ⟨subnet, w₁, ha, h⟩ := run_bind_eq_done.mp h
    cases h
    have hget := existing_eq_ok_iff.mp (congrArg Prod.fst (answer_eq_ok (run_ask_eq_done.mp ha)))
    rw [part_met hw.keepSubnets, hw.subnets] at hget
    exact ⟨⟨subnet, hget, rfl⟩, hm.insert hget⟩

/-- What has been collected after the interfaces of one instance. -/
theorem desiredOfInterfaces_done {s : Settings} {groupPrefix instanceName : String} {st : Store}
    {w w' : World} {memo memo' : SubnetMemo} {desired desired' : DesiredTargets}
    {interfaces : List Interface} (hw : w.Steady st) (hm : MemoAgrees memo st)
    (h : (desiredOfInterfaces s groupPrefix instanceName memo desired interfaces).run w =
      (.done (memo', desired'), w')) :
    MemoAgrees memo' st ∧
      (∀ i ∈ interfaces, ∃ p, st.wantedOfInterface s groupPrefix i = some p) ∧
      desired' = gatheredFrom desired
        (interfaces.filterMap (st.wantedOfInterface s groupPrefix)) := by
  induction interfaces generalizing w memo desired with
  | nil =>
    cases h
    exact ⟨hm, by simp, rfl⟩
  | cons i rest ih =>
    rw [desiredOfInterfaces] at h
    obtain ⟨address, w₁, hr, h⟩ := run_bind_eq_done.mp h
    obtain ⟨ha, rfl⟩ := run_require_eq_done.mp hr
    obtain ⟨⟨networkId, memo₁⟩, w₂, hn, h⟩ := run_bind_eq_done.mp h
    obtain ⟨⟨subnet, hs, hid⟩, hm₁⟩ := networkOf_done hw hm hn
    obtain ⟨hm', hrest, hd⟩ := ih (hw.run hn) hm₁ h
    have hi : st.wantedOfInterface s groupPrefix i =
        some (targetGroupName groupPrefix s.clusterName networkId, ⟨i.subnetId, address⟩) :=
      wantedOfInterface_eq_some_iff.mpr ⟨address, subnet, ha, hs, by rw [hid]⟩
    refine ⟨hm', ?_, ?_⟩
    · intro j hj
      rcases List.mem_cons.mp hj with rfl | hj
      · exact ⟨_, hi⟩
      · exact hrest j hj
    · rw [hd, List.filterMap_cons, hi]
      rfl

theorem desiredOfNodes_done {s : Settings} {st : Store} {w w' : World} {memo : SubnetMemo}
    {desired desired' : DesiredTargets} {nodes : List Node} (hw : w.Steady st)
    (hm : MemoAgrees memo st)
    (h : (desiredOfNodes s memo desired nodes).run w = (.done desired', w')) :
    st.Resolves s nodes ∧ desired' = gatheredFrom desired (st.wantedTargets s nodes) := by
  induction nodes generalizing w memo desired with
  | nil =>
    cases h
    exact ⟨by simp [Store.Resolves], rfl⟩
  | cons n rest ih =>
    rw [desiredOfNodes] at h
    obtain ⟨found?, w₁, hf, h⟩ := run_bind_eq_done.mp h
    obtain ⟨found, w₂, hr, h⟩ := run_bind_eq_done.mp h
    obtain ⟨rfl, rfl⟩ := run_require_eq_done.mp hr
    obtain ⟨⟨memo₁, desired₁⟩, w₃, hi, h⟩ := run_bind_eq_done.mp h
    have hfound := instanceByProviderId_done hw hf
    obtain ⟨hm₁, hall, rfl⟩ := desiredOfInterfaces_done (hw.run hf) hm hi
    obtain ⟨hrest, rfl⟩ := ih ((hw.run hf).run hi) hm₁ h
    have hinterfaces : st.interfacesOf n = found.interfaces := by
      simp [Store.interfacesOf, hfound]
    constructor
    · intro m hmem
      rcases List.mem_cons.mp hmem with rfl | hmem
      · rw [hinterfaces]
        exact ⟨⟨found, hfound⟩, hall⟩
      · exact hrest m hmem
    · simp [gatheredFrom, Store.wantedTargets, hinterfaces]

/-- **Desired targets.** A program that collects the desired targets to the end
    has found every node's instance, and an address and a network for each of its
    interfaces; it has collected the wanted targets and no others. -/
theorem desiredTargets_done {s : Settings} {st : Store} {w w' : World} {desired : DesiredTargets}
    {nodes : List Node} (hw : w.Steady st)
    (h : (desiredTargets s nodes).run w = (.done desired, w')) :
    st.Resolves s nodes ∧ desired = gathered (st.wantedTargets s nodes) :=
  desiredOfNodes_done hw (memoAgrees_empty st) h

/-! ## A small cluster -/

namespace Sample

/-- The settings of a small cluster. -/
def settings : Settings :=
  ⟨"k8s", "b1g", "zone-a", "zone", none, none, "enpnet", .empty, .empty, none, 2⟩

/-- A node with the instance of an id behind it. -/
def node (name instanceId : String) : Node where
  metadata := ⟨some name, none, none, none, .empty, .empty, [], none, none⟩
  providerId? := some (providerScheme ++ instanceId)
  podCidr? := none
  taints := []
  addresses := []
  conditions := []

/-- A node whose groups have a prefix. -/
def prefixed (n : Node) (groupPrefix : String) : Node :=
  { n with metadata :=
      { n.metadata with
        annotations := SortedMap.empty.insert targetGroupPrefixAnnotation groupPrefix } }

/-- An instance with one interface. -/
def machine (id name address : String) : Instance :=
  ⟨id, "b1g", "zone-a", name, "standard", .running, [⟨"0", "e9b", some ⟨address, none⟩⟩], .empty⟩

/-- The nodes of the cluster. -/
def nodes : List Node := [node "worker-0" "fhm1", node "worker-1" "fhm2"]

/-- Two instances in one subnet. -/
def store : Store :=
  { Store.empty "b1g" with
    instances := Inventory.empty.putAll
      [machine "fhm1" "worker-0" "10.0.0.5", machine "fhm2" "worker-1" "10.0.0.6"]
    subnets := Inventory.empty.put ⟨"e9b", "b1g", "a", "enpnet", "zone-a", []⟩ }

/-- The first call of a kind fails; nothing else goes wrong. -/
def failingOnce (m : Method) (e : CloudError) : Incidents :=
  { Incidents.none with failures := fun k => if k = m then [some e] else [] }

example : store.wantedTargets settings nodes =
    [("k8senpnet", ⟨"e9b", "10.0.0.5"⟩), ("k8senpnet", ⟨"e9b", "10.0.0.6"⟩)] := by
  decide

end Sample

end CloudSteward
