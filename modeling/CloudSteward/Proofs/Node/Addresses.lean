import CloudSteward.Proofs.TargetGroup.Wanted

/-!
# The addresses that an instance gives a node

What a node has to report can be read off the settings, the instance and the subnets of a
store, one interface at a time and without a memo of networks. A program that determines
the addresses to the end has found these, whatever its memo was filled with.

Results:

* `interfacesAddresses_done`: the interfaces of an instance, by induction.
* `addressesOfInstance_done`: a whole instance.
* `reaches_of_addressesOf?`, `addressesOf?_ne_nil_iff`: the addresses are internal and external
  ones, and there may be none of them.
-/

namespace CloudSteward

open Program

/-! ## Specification -/

/-- The addresses that an interface at a position gives, if its private address and, where
    networks decide, its network are known. -/
def Store.addressesAt? (st : Store) (s : Settings) (index : Nat) (i : Interface) :
    Option (List NodeAddress) := do
  let address ← i.address?
  if s.classifiesNetworks then
    let subnet ← st.subnets.get? i.subnetId
    return addressesByNetwork s subnet.networkId address i.publicAddress?
  else return addressesByPosition index address i.publicAddress?

/-- The addresses that interfaces from a position on give, if each of them gives some. -/
def Store.addressesFrom? (st : Store) (s : Settings) : Nat → List Interface →
    Option (List NodeAddress)
  | _, [] => some []
  | index, i :: rest => do
    let addresses ← st.addressesAt? s index i
    return addresses ++ (← st.addressesFrom? s (index + 1) rest)

/-- The addresses that an instance gives a node. -/
def Store.addressesOf? (st : Store) (s : Settings) (i : Instance) : Option (List NodeAddress) :=
  if i.interfaces.isEmpty then none else st.addressesFrom? s 0 i.interfaces

/-! ## Internal and external addresses -/

/-- An internal or an external address, which a hostname is not. -/
def NodeAddress.Reaches (a : NodeAddress) : Prop :=
  a.type = "InternalIP" ∨ a.type = "ExternalIP"

/-- The network of an interface is in one of the lists. -/
def Store.Listed (st : Store) (s : Settings) (i : Interface) : Prop :=
  ∃ subnet, st.subnets.get? i.subnetId = some subnet ∧
    (SortedSet.has s.internalNetworkIds subnet.networkId = true ∨
      SortedSet.has s.externalNetworkIds subnet.networkId = true)

theorem reaches_of_mem_addressesByPosition {index : Nat} {address : String}
    {public? : Option String} {a : NodeAddress}
    (h : a ∈ addressesByPosition index address public?) : a.Reaches := by
  rw [addressesByPosition, List.mem_cons] at h
  rcases h with rfl | h
  · exact .inl rfl
  · split at h
    · simp only [Option.mem_toList, Option.map_eq_some_iff] at h
      obtain ⟨_, -, rfl⟩ := h
      exact .inr rfl
    · cases h

theorem reaches_of_mem_addressesByNetwork {s : Settings} {networkId address : String}
    {public? : Option String} {a : NodeAddress}
    (h : a ∈ addressesByNetwork s networkId address public?) : a.Reaches := by
  rw [addressesByNetwork, List.mem_append] at h
  rcases h with h | h
  · split at h
    · rw [List.mem_singleton] at h
      subst h
      exact .inl rfl
    · cases h
  · split at h
    · simp only [List.mem_cons, Option.mem_toList, Option.map_eq_some_iff] at h
      rcases h with rfl | ⟨_, -, rfl⟩ <;> exact .inr rfl
    · cases h

theorem addressesByNetwork_ne_nil_iff {s : Settings} {networkId address : String}
    {public? : Option String} :
    addressesByNetwork s networkId address public? ≠ [] ↔
      SortedSet.has s.internalNetworkIds networkId = true ∨
        SortedSet.has s.externalNetworkIds networkId = true := by
  rw [addressesByNetwork]
  by_cases hinternal : SortedSet.has s.internalNetworkIds networkId = true <;>
    by_cases hexternal : SortedSet.has s.externalNetworkIds networkId = true <;>
    simp [hinternal, hexternal]

section Reaching

variable {s : Settings} {st : Store}

/-- What an interface gives, by whether networks decide. -/
theorem addressesAt?_eq_some_iff {index : Nat} {i : Interface} {addresses : List NodeAddress} :
    st.addressesAt? s index i = some addresses ↔
      ∃ address, i.address? = some address ∧
        ((s.classifiesNetworks = false ∧
            addresses = addressesByPosition index address i.publicAddress?) ∨
          (s.classifiesNetworks = true ∧
            ∃ subnet, st.subnets.get? i.subnetId = some subnet ∧
              addresses = addressesByNetwork s subnet.networkId address i.publicAddress?)) := by
  rw [Store.addressesAt?]
  by_cases hclassifies : s.classifiesNetworks = true <;>
    simp [hclassifies, Option.bind_eq_some_iff, eq_comm (a := addresses)]

theorem addressesFrom?_cons_eq_some_iff {index : Nat} {i : Interface} {rest : List Interface}
    {addresses : List NodeAddress} :
    st.addressesFrom? s index (i :: rest) = some addresses ↔
      ∃ here more, st.addressesAt? s index i = some here ∧
        st.addressesFrom? s (index + 1) rest = some more ∧ addresses = here ++ more := by
  rw [Store.addressesFrom?]
  simp [Option.bind_eq_some_iff, eq_comm (a := addresses)]

theorem reaches_of_addressesAt? {index : Nat} {i : Interface} {addresses : List NodeAddress}
    (h : st.addressesAt? s index i = some addresses) {a : NodeAddress} (ha : a ∈ addresses) :
    a.Reaches := by
  obtain ⟨address, -, ⟨-, rfl⟩ | ⟨-, subnet, -, rfl⟩⟩ := addressesAt?_eq_some_iff.mp h
  · exact reaches_of_mem_addressesByPosition ha
  · exact reaches_of_mem_addressesByNetwork ha

/-- An interface gives no address if networks decide and its own is in neither list. -/
theorem addressesAt?_ne_nil_iff {index : Nat} {i : Interface} {addresses : List NodeAddress}
    (h : st.addressesAt? s index i = some addresses) :
    addresses ≠ [] ↔ s.classifiesNetworks = false ∨ st.Listed s i := by
  obtain ⟨address, -, ⟨hposition, rfl⟩ | ⟨hclassifies, subnet, hsubnet, rfl⟩⟩ :=
    addressesAt?_eq_some_iff.mp h
  · simp [hposition, addressesByPosition]
  · rw [addressesByNetwork_ne_nil_iff]
    simp [hclassifies, Store.Listed, hsubnet]

theorem reaches_of_addressesFrom? {index : Nat} {interfaces : List Interface}
    {addresses : List NodeAddress} (h : st.addressesFrom? s index interfaces = some addresses)
    {a : NodeAddress} (ha : a ∈ addresses) : a.Reaches := by
  induction interfaces generalizing index addresses with
  | nil =>
    cases h
    cases ha
  | cons i rest ih =>
    obtain ⟨here, more, hhere, hmore, rfl⟩ := addressesFrom?_cons_eq_some_iff.mp h
    rcases List.mem_append.mp ha with ha | ha
    · exact reaches_of_addressesAt? hhere ha
    · exact ih hmore ha

theorem addressesFrom?_ne_nil_iff {index : Nat} {interfaces : List Interface}
    {addresses : List NodeAddress} (h : st.addressesFrom? s index interfaces = some addresses) :
    addresses ≠ [] ↔ ∃ i ∈ interfaces, s.classifiesNetworks = false ∨ st.Listed s i := by
  induction interfaces generalizing index addresses with
  | nil =>
    cases h
    simp
  | cons i rest ih =>
    obtain ⟨here, more, hhere, hmore, rfl⟩ := addressesFrom?_cons_eq_some_iff.mp h
    simp only [List.mem_cons, exists_eq_or_imp]
    rw [← ih hmore, ← addressesAt?_ne_nil_iff hhere, Ne, List.append_eq_nil_iff]
    exact Classical.not_and_iff_not_or_not

/-- A node is given internal and external addresses, and no others. -/
theorem reaches_of_addressesOf? {i : Instance} {addresses : List NodeAddress}
    (h : st.addressesOf? s i = some addresses) {a : NodeAddress} (ha : a ∈ addresses) :
    a.Reaches := by
  rw [Store.addressesOf?] at h
  split at h
  · cases h
  · exact reaches_of_addressesFrom? h ha

/-- An instance that gives addresses gives none at all if networks decide and none of its own
    is in a list. -/
theorem addressesOf?_ne_nil_iff {i : Instance} {addresses : List NodeAddress}
    (h : st.addressesOf? s i = some addresses) :
    addresses ≠ [] ↔
      s.classifiesNetworks = false ∨ ∃ interface ∈ i.interfaces, st.Listed s interface := by
  rw [Store.addressesOf?] at h
  split at h
  · cases h
  · rename_i hinterfaces
    obtain ⟨first, hfirst⟩ := List.exists_mem_of_ne_nil i.interfaces (by simpa using hinterfaces)
    rw [addressesFrom?_ne_nil_iff h]
    constructor
    · rintro ⟨interface, hmem, hposition | hlisted⟩
      · exact .inl hposition
      · exact .inr ⟨interface, hmem, hlisted⟩
    · rintro (hposition | ⟨interface, hmem, hlisted⟩)
      · exact ⟨first, hfirst, .inl hposition⟩
      · exact ⟨interface, hmem, .inr hlisted⟩

end Reaching

/-! ## What a program finds -/

section Runs

variable {s : Settings} {st : Store} {w w' : World}

theorem interfacesAddresses_done {instanceName : String} {index : Nat} {memo : SubnetMemo}
    {interfaces : List Interface} {addresses : List NodeAddress} (hw : w.Steady st)
    (hm : MemoAgrees memo st)
    (h : (interfacesAddresses s instanceName index memo interfaces).run w =
      (.done addresses, w')) :
    st.addressesFrom? s index interfaces = some addresses := by
  induction interfaces generalizing w index memo addresses with
  | nil =>
    cases h
    rfl
  | cons i rest ih =>
    rw [interfacesAddresses] at h
    obtain ⟨address, w₁, hr, h⟩ := run_bind_eq_done.mp h
    obtain ⟨ha, rfl⟩ := run_require_eq_done.mp hr
    rw [Store.addressesFrom?, Store.addressesAt?, ha]
    split at h
    · rename_i hclassifies
      obtain ⟨⟨networkId, memo₁⟩, w₂, hn, h⟩ := run_bind_eq_done.mp h
      obtain ⟨more, w₃, hmore, h⟩ := run_bind_eq_done.mp h
      cases h
      obtain ⟨⟨subnet, hsubnet, rfl⟩, hm₁⟩ := networkOf_done hw hm hn
      simp [hclassifies, hsubnet, ih (hw.run hn) hm₁ hmore]
    · rename_i hposition
      obtain ⟨more, w₂, hmore, h⟩ := run_bind_eq_done.mp h
      cases h
      simp [hposition, ih hw hm hmore]

/-- A program that determines the addresses of an instance to the end has found those that
    the instance gives. -/
theorem addressesOfInstance_done {i : Instance} {addresses : List NodeAddress}
    (hw : w.Steady st) (h : (addressesOfInstance s i).run w = (.done addresses, w')) :
    st.addressesOf? s i = some addresses := by
  rw [addressesOfInstance] at h
  rw [Store.addressesOf?]
  split at h
  · cases h
  · rename_i hinterfaces
    rw [if_neg hinterfaces]
    exact interfacesAddresses_done hw (memoAgrees_empty st) h

end Runs

end CloudSteward
