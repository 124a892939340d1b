import CloudSteward.Balancer.Status
import CloudSteward.Proofs.Calm
import CloudSteward.Proofs.Events
import CloudSteward.Proofs.Node.Addresses

/-!
# How the addresses of an instance are determined

Without lists of networks the interfaces alone tell the addresses. With lists, the subnet of an
interface is looked up when its network is not known from an interface before it, so that each
subnet is read once; the addresses are those that a look-up for every interface would give.

Results:

* `networkOf_cases`: a network is known, or its subnet is looked up.
* `classified_done_iff`, `positioned_done_iff`: when the addresses of interfaces are determined,
  whatever goes wrong.
* `subnetsRead_of_classified`, `subnetsRead_of_positioned`: which subnets are read.
* `addressesFrom?_of_classified`, `addressesFrom?_of_positioned`: the addresses, spelled out.
* `addresses_extracted`: all of this about an instance.
-/

namespace CloudSteward

open Program

/-! ## Subnets that are read -/

/-- The subnet behind an event, if one is looked up. -/
def Event.subnet? : Event → Option String
  | .called _ (.getSubnet id) => some id
  | _ => none

/-- The subnets that a run reads, in order. -/
def Program.subnetsRead {α : Type} (p : Program α) (w : World) : List String :=
  (p.events w).filterMap Event.subnet?

/-- The look-ups of some subnets, one after the other, all succeed. -/
def World.FindsSubnets : World → List String → Prop
  | _, [] => True
  | w, id :: rest =>
    ∃ subnet w₁, w.answer (.getSubnet id) = (some (.ok subnet), w₁) ∧ w₁.FindsSubnets rest

section Reading

variable {α β : Type} {w w' : World}

theorem subnetsRead_pure (a : α) (w : World) : (Pure.pure a : Program α).subnetsRead w = [] := rfl

theorem subnetsRead_require (o : Option α) (e : SyncError) (w : World) :
    (require o e).subnetsRead w = [] := by
  cases o <;> rfl

theorem subnetsRead_bind_of_done {p : Program α} {f : α → Program β} {a : α}
    (h : p.run w = (.done a, w')) :
    (p >>= f).subnetsRead w = p.subnetsRead w ++ (f a).subnetsRead w' := by
  rw [Program.subnetsRead, events_bind, h, List.filterMap_append]
  rfl

/-- Where nothing goes wrong, subnets are found exactly if the store has them. -/
theorem findsSubnets_of_calm (hw : w.Calm) (ids : List String) :
    w.FindsSubnets ids ↔ ∀ id ∈ ids, ∃ subnet, w.store.subnets.get? id = some subnet := by
  induction ids generalizing w with
  | nil => simp [World.FindsSubnets]
  | cons id rest ih =>
    have hserved : (w.serve (.getSubnet id)).2 = w.afterReads 1 := serve_of_isRead rfl w
    have hreply : ∀ subnet, (w.serve (.getSubnet id)).1 = .ok subnet ↔
        w.store.subnets.get? id = some subnet := fun _ => existing_eq_ok_iff
    have hrest : (w.afterReads 1).FindsSubnets rest ↔
        ∀ id ∈ rest, ∃ subnet, w.store.subnets.get? id = some subnet := ih (calm_afterReads hw 1)
    rw [World.FindsSubnets, answer_of_calm hw, hserved, List.forall_mem_cons, ← hrest]
    simp only [Prod.mk.injEq, Option.some.injEq, hreply]
    constructor
    · rintro ⟨subnet, _, ⟨hget, rfl⟩, hmore⟩
      exact ⟨⟨subnet, hget⟩, hmore⟩
    · rintro ⟨⟨subnet, hget⟩, hmore⟩
      exact ⟨subnet, _, ⟨hget, rfl⟩, hmore⟩

end Reading

/-! ## The memo -/

/-- The memo knows the networks of these subnets and of no others. -/
def Knows (memo : SubnetMemo) (seen : List String) : Prop :=
  ∀ id, (∃ networkId, memo.get? id = some networkId) ↔ id ∈ seen

theorem knows_empty : Knows .empty [] := by
  intro id
  simp

theorem Knows.insert {memo : SubnetMemo} {seen : List String} (h : Knows memo seen)
    (id networkId : String) : Knows (memo.insert id networkId) (id :: seen) := by
  intro other
  rw [SortedMap.get?_insert, List.mem_cons, ← h other]
  by_cases hother : other = id <;> simp [hother]

theorem unseen_cons_of_mem {seen : List String} {a : String} (h : a ∈ seen) (l : List String) :
    unseen seen (a :: l) = unseen seen l := by
  rw [unseen, if_pos (List.contains_iff_mem.mpr h)]

theorem unseen_cons_of_notMem {seen : List String} {a : String} (h : a ∉ seen) (l : List String) :
    unseen seen (a :: l) = a :: unseen (a :: seen) l := by
  rw [unseen, if_neg (by simpa using h)]

/-- The network of a subnet is known, and then nothing is read; or it is not, and then the
    subnet is looked up and its network is known from then on. -/
theorem networkOf_cases {memo : SubnetMemo} {seen : List String} (hm : Knows memo seen)
    (id : String) (w : World) :
    (id ∈ seen ∧ (networkOf memo id).subnetsRead w = [] ∧
        ∃ networkId, (networkOf memo id).run w = (.done (networkId, memo), w)) ∨
      id ∉ seen ∧ (networkOf memo id).subnetsRead w = [id] ∧
        ∀ networkId memo' w', (networkOf memo id).run w = (.done (networkId, memo'), w') ↔
          ∃ subnet, w.answer (.getSubnet id) = (some (.ok subnet), w') ∧
            networkId = subnet.networkId ∧ memo' = memo.insert id subnet.networkId := by
  have hseen := hm id
  rw [networkOf]
  cases hget : memo.get? id with
  | some networkId => exact .inl ⟨hseen.mp ⟨networkId, hget⟩, rfl, networkId, rfl⟩
  | none =>
    refine .inr ⟨?_, ?_, fun networkId memo' w' => ?_⟩
    · rw [← hseen, hget]
      simp
    · rw [Program.subnetsRead, events_bind_pure, events_ask]
      rfl
    · rw [run_bind_eq_done]
      constructor
      · rintro ⟨subnet, w₁, hask, h⟩
        cases h
        exact ⟨subnet, run_ask_eq_done.mp hask, rfl, rfl⟩
      · rintro ⟨subnet, hanswer, rfl, rfl⟩
        exact ⟨subnet, w', run_ask_eq_done.mpr hanswer, rfl⟩

/-! ## Interfaces one after the other -/

/-- The subnets of interfaces. -/
def subnetIds (interfaces : List Interface) : List String :=
  interfaces.map (·.subnetId)

/-- The interfaces have addresses of their own. -/
def Addressed (interfaces : List Interface) : Prop :=
  ∀ x ∈ interfaces, ∃ address, x.address? = some address

theorem addressed_cons_iff {i : Interface} {rest : List Interface} :
    Addressed (i :: rest) ↔ (∃ address, i.address? = some address) ∧ Addressed rest :=
  List.forall_mem_cons

section Interfaces

variable {s : Settings} {st : Store} {instanceName : String} {index : Nat} {memo : SubnetMemo}
  {seen : List String} {i : Interface} {rest interfaces : List Interface}
  {addresses : List NodeAddress} {w w' : World}

/-- What is done for an interface if networks decide. -/
theorem classified_cons_done_iff (hs : s.classifiesNetworks = true) :
    (interfacesAddresses s instanceName index memo (i :: rest)).run w = (.done addresses, w') ↔
      ∃ address networkId memo₁ w₁ more, i.address? = some address ∧
        (networkOf memo i.subnetId).run w = (.done (networkId, memo₁), w₁) ∧
        (interfacesAddresses s instanceName (index + 1) memo₁ rest).run w₁ = (.done more, w') ∧
        addresses = addressesByNetwork s networkId address i.publicAddress? ++ more := by
  rw [interfacesAddresses]
  simp only [hs, if_true, run_bind_eq_done, run_require_eq_done]
  constructor
  · rintro ⟨address, w₀, ⟨haddress, rfl⟩, ⟨networkId, memo₁⟩, w₁, hnetwork, more, w₂, hmore, h⟩
    cases h
    exact ⟨address, networkId, memo₁, w₁, more, haddress, hnetwork, hmore, rfl⟩
  · rintro ⟨address, networkId, memo₁, w₁, more, haddress, hnetwork, hmore, rfl⟩
    exact ⟨address, w, ⟨haddress, rfl⟩, ⟨networkId, memo₁⟩, w₁, hnetwork, more, w', hmore, rfl⟩

/-- If networks decide, the addresses are determined exactly if every interface has an address
    of its own and every subnet that the memo does not know is found when it is looked up. -/
theorem classified_done_iff (hs : s.classifiesNetworks = true) (hm : Knows memo seen) :
    (∃ addresses w', (interfacesAddresses s instanceName index memo interfaces).run w =
        (.done addresses, w')) ↔
      Addressed interfaces ∧ w.FindsSubnets (unseen seen (subnetIds interfaces)) := by
  induction interfaces generalizing index memo seen w with
  | nil =>
    constructor
    · exact fun _ => ⟨by simp [Addressed], trivial⟩
    · exact fun _ => ⟨[], w, rfl⟩
  | cons i rest ih =>
    simp only [classified_cons_done_iff hs, addressed_cons_iff, subnetIds, List.map_cons]
    rcases networkOf_cases hm i.subnetId w with
      ⟨hseen, -, networkId, hrun⟩ | ⟨hseen, -, hrun⟩
    · rw [unseen_cons_of_mem hseen]
      constructor
      · rintro ⟨_, w', address, _, memo₁, w₁, more, haddress, hnetwork, hmore, -⟩
        cases hrun.symm.trans hnetwork
        obtain ⟨hall, hfinds⟩ := (ih hm).mp ⟨more, w', hmore⟩
        exact ⟨⟨⟨address, haddress⟩, hall⟩, hfinds⟩
      · rintro ⟨⟨⟨address, haddress⟩, hall⟩, hfinds⟩
        obtain ⟨more, w', hmore⟩ : ∃ more w',
            (interfacesAddresses s instanceName (index + 1) memo rest).run w = (.done more, w') :=
          (ih hm).mpr ⟨hall, hfinds⟩
        exact ⟨_, w', address, networkId, memo, w, more, haddress, hrun, hmore, rfl⟩
    · rw [unseen_cons_of_notMem hseen]
      constructor
      · rintro ⟨_, w', address, networkId, memo₁, w₁, more, haddress, hnetwork, hmore, -⟩
        obtain ⟨subnet, hanswer, rfl, rfl⟩ := (hrun _ _ _).mp hnetwork
        obtain ⟨hall, hfinds⟩ := (ih (hm.insert _ _)).mp ⟨more, w', hmore⟩
        exact ⟨⟨⟨address, haddress⟩, hall⟩, subnet, w₁, hanswer, hfinds⟩
      · rintro ⟨⟨⟨address, haddress⟩, hall⟩, subnet, w₁, hanswer, hfinds⟩
        obtain ⟨more, w', hmore⟩ : ∃ more w', (interfacesAddresses s instanceName (index + 1)
            (memo.insert i.subnetId subnet.networkId) rest).run w₁ = (.done more, w') :=
          (ih (hm.insert _ _)).mpr ⟨hall, hfinds⟩
        exact ⟨_, w', address, _, _, w₁, more, haddress,
          (hrun _ _ _).mpr ⟨subnet, hanswer, rfl, rfl⟩, hmore, rfl⟩

/-- If networks decide, the subnets that the memo does not know are read, each once. -/
theorem subnetsRead_of_classified (hs : s.classifiesNetworks = true) (hm : Knows memo seen)
    (h : (interfacesAddresses s instanceName index memo interfaces).run w =
      (.done addresses, w')) :
    (interfacesAddresses s instanceName index memo interfaces).subnetsRead w =
      unseen seen (subnetIds interfaces) := by
  induction interfaces generalizing index memo seen w addresses with
  | nil => rfl
  | cons i rest ih =>
    obtain ⟨address, networkId, memo₁, w₁, more, haddress, hnetwork, hmore, -⟩ :=
      (classified_cons_done_iff hs).mp h
    have hread : (interfacesAddresses s instanceName index memo (i :: rest)).subnetsRead w =
        (networkOf memo i.subnetId).subnetsRead w ++
          (interfacesAddresses s instanceName (index + 1) memo₁ rest).subnetsRead w₁ := by
      rw [interfacesAddresses, haddress]
      simp only [hs, if_true]
      rw [subnetsRead_bind_of_done (run_require_eq_done.mpr ⟨rfl, rfl⟩), subnetsRead_require,
        List.nil_append, subnetsRead_bind_of_done hnetwork, subnetsRead_bind_of_done hmore,
        subnetsRead_pure, List.append_nil]
    rw [hread, subnetIds, List.map_cons]
    rcases networkOf_cases hm i.subnetId w with
      ⟨hseen, hnone, _, hrun⟩ | ⟨hseen, hone, hrun⟩
    · cases hrun.symm.trans hnetwork
      rw [unseen_cons_of_mem hseen, hnone, ih hm hmore]
      rfl
    · obtain ⟨subnet, hanswer, rfl, rfl⟩ := (hrun _ _ _).mp hnetwork
      rw [unseen_cons_of_notMem hseen, hone, ih (hm.insert _ _) hmore]
      rfl

/-- What is done for an interface if its position decides. -/
theorem positioned_cons_done_iff (hs : s.classifiesNetworks = false) :
    (interfacesAddresses s instanceName index memo (i :: rest)).run w = (.done addresses, w') ↔
      ∃ address more, i.address? = some address ∧
        (interfacesAddresses s instanceName (index + 1) memo rest).run w = (.done more, w') ∧
        addresses = addressesByPosition index address i.publicAddress? ++ more := by
  rw [interfacesAddresses]
  simp only [hs, Bool.false_eq_true, if_false, run_bind_eq_done, run_require_eq_done]
  constructor
  · rintro ⟨address, w₀, ⟨haddress, rfl⟩, more, w₁, hmore, h⟩
    cases h
    exact ⟨address, more, haddress, hmore, rfl⟩
  · rintro ⟨address, more, haddress, hmore, rfl⟩
    exact ⟨address, w, ⟨haddress, rfl⟩, more, w', hmore, rfl⟩

/-- If positions decide, the addresses are determined exactly if every interface has an address
    of its own. -/
theorem positioned_done_iff (hs : s.classifiesNetworks = false) :
    (∃ addresses w', (interfacesAddresses s instanceName index memo interfaces).run w =
        (.done addresses, w')) ↔ Addressed interfaces := by
  induction interfaces generalizing index with
  | nil =>
    constructor
    · exact fun _ => by simp [Addressed]
    · exact fun _ => ⟨[], w, rfl⟩
  | cons i rest ih =>
    simp only [positioned_cons_done_iff hs, addressed_cons_iff]
    constructor
    · rintro ⟨_, w', address, more, haddress, hmore, -⟩
      exact ⟨⟨address, haddress⟩, ih.mp ⟨more, w', hmore⟩⟩
    · rintro ⟨⟨address, haddress⟩, hall⟩
      obtain ⟨more, w', hmore⟩ : ∃ more w',
          (interfacesAddresses s instanceName (index + 1) memo rest).run w = (.done more, w') :=
        ih.mpr hall
      exact ⟨_, w', address, more, haddress, hmore, rfl⟩

/-- If positions decide, no subnet is read. -/
theorem subnetsRead_of_positioned (hs : s.classifiesNetworks = false)
    (h : (interfacesAddresses s instanceName index memo interfaces).run w =
      (.done addresses, w')) :
    (interfacesAddresses s instanceName index memo interfaces).subnetsRead w = [] := by
  induction interfaces generalizing index addresses with
  | nil => rfl
  | cons i rest ih =>
    obtain ⟨address, more, haddress, hmore, -⟩ := (positioned_cons_done_iff hs).mp h
    rw [interfacesAddresses, haddress]
    simp only [hs, Bool.false_eq_true, if_false]
    rw [subnetsRead_bind_of_done (run_require_eq_done.mpr ⟨rfl, rfl⟩), subnetsRead_require,
      List.nil_append, subnetsRead_bind_of_done hmore, ih hmore, subnetsRead_pure]
    rfl

/-! ## The addresses -/

/-- The private address of an interface as an internal one. -/
def Interface.asInternal (x : Interface) : List NodeAddress :=
  (x.address?.map internalAddress).toList

/-- The private address of an interface as an external one, and its public address after it. -/
def Interface.asExternal (x : Interface) : List NodeAddress :=
  (x.address?.map externalAddress).toList ++ (x.publicAddress?.map externalAddress).toList

/-- Whether the network of an interface, looked up for this interface, is in a list. -/
def Store.lists (st : Store) (networkIds : NameSet) (x : Interface) : Bool :=
  (st.subnets.get? x.subnetId).any fun subnet => SortedSet.has networkIds subnet.networkId

/-- The addresses of an interface if networks decide: internal if its network is in the list of
    internal ones, external if it is in the list of external ones. -/
def Store.classified (st : Store) (s : Settings) (x : Interface) : List NodeAddress :=
  (if st.lists s.internalNetworkIds x then x.asInternal else []) ++
    if st.lists s.externalNetworkIds x then x.asExternal else []

theorem addressesFrom?_of_classified (hs : s.classifiesNetworks = true)
    (h : st.addressesFrom? s index interfaces = some addresses) :
    addresses = interfaces.flatMap (st.classified s) := by
  induction interfaces generalizing index addresses with
  | nil =>
    cases h
    rfl
  | cons i rest ih =>
    obtain ⟨here, more, hhere, hmore, rfl⟩ := addressesFrom?_cons_eq_some_iff.mp h
    rw [List.flatMap_cons, ih hmore]
    obtain ⟨address, haddress, ⟨hposition, -⟩ | ⟨-, subnet, hsubnet, rfl⟩⟩ :=
      addressesAt?_eq_some_iff.mp hhere
    · cases hs.symm.trans hposition
    · simp [Store.classified, Store.lists, Interface.asInternal, Interface.asExternal,
        addressesByNetwork, haddress, hsubnet]

/-- If networks decide, a look-up for each interface would have found its subnet. -/
theorem found_of_classified (hs : s.classifiesNetworks = true)
    (h : st.addressesFrom? s index interfaces = some addresses) :
    ∀ x ∈ interfaces, ∃ subnet, st.subnets.get? x.subnetId = some subnet := by
  induction interfaces generalizing index addresses with
  | nil => simp
  | cons i rest ih =>
    obtain ⟨here, more, hhere, hmore, -⟩ := addressesFrom?_cons_eq_some_iff.mp h
    rw [List.forall_mem_cons]
    obtain ⟨_, -, ⟨hposition, -⟩ | ⟨-, subnet, hsubnet, -⟩⟩ := addressesAt?_eq_some_iff.mp hhere
    · cases hs.symm.trans hposition
    · exact ⟨⟨subnet, hsubnet⟩, ih hmore⟩

/-- Behind the first position only private addresses are reported. -/
theorem addressesFrom?_succ_of_positioned (hs : s.classifiesNetworks = false)
    (h : st.addressesFrom? s (index + 1) interfaces = some addresses) :
    addresses = interfaces.flatMap Interface.asInternal := by
  induction interfaces generalizing index addresses with
  | nil =>
    cases h
    rfl
  | cons i rest ih =>
    obtain ⟨here, more, hhere, hmore, rfl⟩ := addressesFrom?_cons_eq_some_iff.mp h
    rw [List.flatMap_cons, ih hmore]
    obtain ⟨address, haddress, ⟨-, rfl⟩ | ⟨hclassifies, -⟩⟩ := addressesAt?_eq_some_iff.mp hhere
    · simp [addressesByPosition, Interface.asInternal, haddress]
    · cases hs.symm.trans hclassifies

theorem addressesFrom?_of_positioned (hs : s.classifiesNetworks = false)
    (h : st.addressesFrom? s 0 (i :: rest) = some addresses) :
    addresses = i.asInternal ++ (i.publicAddress?.map externalAddress).toList ++
      rest.flatMap Interface.asInternal := by
  obtain ⟨here, more, hhere, hmore, rfl⟩ := addressesFrom?_cons_eq_some_iff.mp h
  rw [addressesFrom?_succ_of_positioned hs hmore]
  obtain ⟨address, haddress, ⟨-, rfl⟩ | ⟨hclassifies, -⟩⟩ := addressesAt?_eq_some_iff.mp hhere
  · simp [addressesByPosition, Interface.asInternal, haddress]
  · cases hs.symm.trans hclassifies

end Interfaces

/-! ## A whole instance -/

section Instances

variable {s : Settings} {st : Store} {i : Instance} {addresses : List NodeAddress} {w w' : World}

theorem addressesOfInstance_of_interfaces (h : i.interfaces ≠ []) :
    addressesOfInstance s i = interfacesAddresses s i.name 0 .empty i.interfaces := by
  rw [addressesOfInstance, if_neg (by simpa using h)]

/-- The addresses of an instance are determined exactly if it has an interface, every interface
    has an address of its own and, where networks decide, every subnet is found. -/
theorem addressesOfInstance_done_iff :
    (∃ addresses w', (addressesOfInstance s i).run w = (.done addresses, w')) ↔
      i.interfaces ≠ [] ∧ Addressed i.interfaces ∧
        (s.classifiesNetworks = true →
          w.FindsSubnets (firstOccurrences (subnetIds i.interfaces))) := by
  by_cases hinterfaces : i.interfaces = []
  · rw [addressesOfInstance]
    simp [hinterfaces]
  · rw [addressesOfInstance_of_interfaces hinterfaces]
    by_cases hs : s.classifiesNetworks = true
    · rw [classified_done_iff hs knows_empty]
      simp [hinterfaces, hs, firstOccurrences]
    · rw [positioned_done_iff (Bool.eq_false_iff.mpr hs)]
      simp [hinterfaces, hs]

/-- **Extraction.** While nobody changes the subnets, and whatever fails, the addresses of an
    instance are determined exactly if it has an interface, every interface has an address of its
    own and, where networks decide, every subnet is found. Without lists they are the private
    addresses as internal ones, with the public address of the first interface after its private
    one, and no subnet is read. With lists, the network of each interface decides whether its
    address is internal, external with the public address after it, both or neither; the subnets
    of the interfaces are read, and none of them twice. -/
theorem addresses_extracted (hw : w.Steady st) (s : Settings) (i : Instance) :
    ((∃ addresses w', (addressesOfInstance s i).run w = (.done addresses, w')) ↔
        i.interfaces ≠ [] ∧ Addressed i.interfaces ∧
          (s.classifiesNetworks = true →
            w.FindsSubnets (firstOccurrences (subnetIds i.interfaces)))) ∧
      ∀ addresses w', (addressesOfInstance s i).run w = (.done addresses, w') →
        (s.classifiesNetworks = false →
          (∃ first rest, i.interfaces = first :: rest ∧
            addresses = first.asInternal ++ (first.publicAddress?.map externalAddress).toList ++
              rest.flatMap Interface.asInternal) ∧
          (addressesOfInstance s i).subnetsRead w = []) ∧
        (s.classifiesNetworks = true →
          addresses = i.interfaces.flatMap (st.classified s) ∧
          (∀ x ∈ i.interfaces, ∃ subnet, st.subnets.get? x.subnetId = some subnet) ∧
          ((addressesOfInstance s i).subnetsRead w).Nodup ∧
          ∀ id, id ∈ (addressesOfInstance s i).subnetsRead w ↔
            ∃ x ∈ i.interfaces, x.subnetId = id) := by
  refine ⟨addressesOfInstance_done_iff, fun addresses w' h => ?_⟩
  obtain ⟨hinterfaces, -, -⟩ := addressesOfInstance_done_iff.mp ⟨addresses, w', h⟩
  have hfrom := addressesOfInstance_done hw h
  rw [Store.addressesOf?, if_neg (by simpa using hinterfaces)] at hfrom
  rw [addressesOfInstance_of_interfaces hinterfaces] at h ⊢
  refine ⟨fun hs => ⟨?_, subnetsRead_of_positioned hs h⟩, fun hs => ?_⟩
  · obtain ⟨first, rest, hlist⟩ := List.exists_cons_of_ne_nil hinterfaces
    rw [hlist] at hfrom
    exact ⟨first, rest, hlist, addressesFrom?_of_positioned hs hfrom⟩
  · rw [subnetsRead_of_classified hs knows_empty h]
    refine ⟨addressesFrom?_of_classified hs hfrom, found_of_classified hs hfrom,
      nodup_firstOccurrences _, fun id => ?_⟩
    rw [← firstOccurrences, mem_firstOccurrences, subnetIds, List.mem_map]

end Instances

namespace Sample

/-- Settings with one network in both lists and another one in the external list alone. -/
def listing : Settings :=
  { settings with
    internalNetworkIds := SortedSet.ofMembers ["enpnet"]
    externalNetworkIds := SortedSet.ofMembers ["enpnet", "enpedge"] }

/-- Two interfaces in one subnet and one between them in another, with public addresses. -/
def edgeMachine : Instance :=
  { machine "fhm1" "worker-0" "10.0.0.5" with
    interfaces := [⟨"0", "e9b", some ⟨"10.0.0.5", some ⟨"84.201.0.5", none⟩⟩⟩,
      ⟨"1", "e9c", some ⟨"10.1.0.5", some ⟨"84.201.1.5", none⟩⟩⟩,
      ⟨"2", "e9b", some ⟨"10.0.0.6", none⟩⟩] }

/-- A store with the subnets of the interfaces. -/
def edgeStore : Store :=
  { Store.empty "b1g" with
    subnets := Inventory.empty.putAll
      [⟨"e9b", "b1g", "a", "enpnet", "zone-a", []⟩, ⟨"e9c", "b1g", "b", "enpedge", "zone-a", []⟩] }

end Sample

open Sample in
/-- With the lists, two of the interfaces have internal addresses and all of them external ones,
    and two subnets are read for three interfaces. -/
theorem addresses_extracted_edge :
    (World.ofStore edgeStore).Steady edgeStore ∧
      ∃ w', (addressesOfInstance listing edgeMachine).run (.ofStore edgeStore) =
          (.done [internalAddress "10.0.0.5", externalAddress "10.0.0.5",
            externalAddress "84.201.0.5", externalAddress "10.1.0.5",
            externalAddress "84.201.1.5", internalAddress "10.0.0.6",
            externalAddress "10.0.0.6"], w') ∧
        ((addressesOfInstance listing edgeMachine).subnetsRead (.ofStore edgeStore)).Nodup ∧
        ∀ id, id ∈ (addressesOfInstance listing edgeMachine).subnetsRead (.ofStore edgeStore) ↔
          id = "e9b" ∨ id = "e9c" := by
  have hsteady : (World.ofStore edgeStore).Steady edgeStore :=
    ⟨rfl, rfl, keep_of_no_intrusions (fun _ => rfl) _, keep_of_no_intrusions (fun _ => rfl) _⟩
  have hcalm : (World.ofStore edgeStore).Calm := rfl
  have hids : firstOccurrences (subnetIds edgeMachine.interfaces) = ["e9b", "e9c"] := by decide
  obtain ⟨hiff, hresult⟩ := addresses_extracted hsteady listing edgeMachine
  obtain ⟨addresses, w', hrun⟩ := hiff.mpr
    ⟨by decide, by simp [Addressed, edgeMachine, Interface.address?], fun _ => by
      rw [hids, findsSubnets_of_calm hcalm]
      simp only [List.forall_mem_cons, List.not_mem_nil, false_implies, implies_true, and_true]
      exact ⟨⟨_, rfl⟩, ⟨_, rfl⟩⟩⟩
  obtain ⟨haddresses, -, hnodup, hread⟩ := (hresult addresses w' hrun).2 (by decide)
  refine ⟨hsteady, w', hrun.trans ?_, hnodup, fun id => ?_⟩
  · rw [haddresses]
    rfl
  · rw [hread, ← List.mem_map, ← subnetIds, ← mem_firstOccurrences, hids]
    simp

end CloudSteward
