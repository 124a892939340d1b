import CloudSteward.Proofs.Calm
import CloudSteward.Proofs.Node.Addresses
import CloudSteward.Proofs.Node.Resolution

/-!
# What is read about a node where nothing goes wrong

The description of a node is read off the instances and subnets. While nothing goes wrong and
these stay as they are, a program that reads them ends with one result, in whatever world it is
run and however often. A result that is specified by a store is therefore found again.

Results:

* `yields_bind`: results are passed on.
* `yields_instanceByProviderId`: the instance that a providerID names.
* `yields_addressesOfInstance`: the addresses that an instance gives.
-/

namespace CloudSteward

open Program

variable {α β : Type} {st : Store} {w w' : World}

/-! ## Worlds with the same instances and subnets -/

/-- Nothing goes wrong in the world, and it has the instances and subnets of a store. -/
structure World.Mirrors (w : World) (st : Store) : Prop where
  calm : w.Calm
  instances : w.store.instances = st.instances
  subnets : w.store.subnets = st.subnets

theorem World.Calm.mirrors (h : w.Calm) : w.Mirrors w.store :=
  ⟨h, rfl, rfl⟩

theorem World.Mirrors.steady (h : w.Mirrors st) : w.Steady st :=
  ⟨h.instances, h.subnets, keep_of_calm h.calm _, keep_of_calm h.calm _⟩

/-- No program changes what is mirrored. -/
theorem World.Mirrors.run {p : Program α} {o : Outcome α} (h : w.Mirrors st)
    (hp : p.run w = (o, w')) : w'.Mirrors st := by
  have hsteady := h.steady.run hp
  exact ⟨calm_run h.calm hp, hsteady.instances, hsteady.subnets⟩

theorem World.Calm.serves (h : w.Calm) (m : Method) : w.Serves m := by
  have hincidents : w.incidents = .none := h
  constructor
  · rw [hincidents]
    rfl
  · rw [hincidents]
    rfl

theorem met_of_calm (h : w.Calm) (m : Method) : w.met m = w.store := by
  have hincidents : w.incidents = .none := h
  rw [World.met, hincidents]
  rfl

/-! ## Programs with one result -/

/-- Wherever the instances and subnets of a store are mirrored, the program ends well with one
    and the same result. -/
def Program.Yields (p : Program α) (st : Store) (a : α) : Prop :=
  ∀ w, w.Mirrors st → ∃ w', p.run w = (.done a, w')

theorem yields_pure (a : α) : (Pure.pure a : Program α).Yields st a := by
  intro w _
  exact ⟨w, rfl⟩

theorem yields_bind {p : Program α} {f : α → Program β} {a : α} {b : β} (hp : p.Yields st a)
    (hf : (f a).Yields st b) : (p >>= f).Yields st b := by
  intro w hw
  obtain ⟨w₁, hp₁⟩ := hp w hw
  obtain ⟨w₂, hf₂⟩ := hf w₁ (hw.run hp₁)
  exact ⟨w₂, run_bind_eq_done.mpr ⟨a, w₁, hp₁, hf₂⟩⟩

theorem yields_require (a : α) (e : SyncError) : (require (some a) e).Yields st a :=
  yields_pure a

theorem eq_of_yields {p : Program α} {a b : α} (hp : p.Yields st a) (hw : w.Mirrors st)
    (h : p.run w = (.done b, w')) : b = a := by
  obtain ⟨w₁, hp₁⟩ := hp w hw
  cases h.symm.trans hp₁
  rfl

/-! ## Instances -/

theorem yields_instanceByProviderId {raw : String} {i : Instance}
    (hi : st.providedInstance? raw = some i) :
    (instanceByProviderId raw).Yields st (some i) := by
  intro w hw
  apply instanceByProviderId_done_some_iff.mpr
  have hmet : ∀ m, (w.met m).instances = st.instances := by
    intro m
    rw [met_of_calm hw.calm, hw.instances]
  rw [Store.providedInstance?] at hi
  rcases hparse : ProviderId.parse raw with e | ⟨folderId, zoneId, name⟩ | id
  · simp [hparse] at hi
  · refine ⟨_, rfl, finds_legacy_iff.mpr ⟨hw.calm.serves _, ?_⟩⟩
    simp only [hparse] at hi
    split at hi
    · rename_i found hnamed
      cases hi
      rw [Store.instancesNamed, hmet]
      exact hnamed
    · cases hi
  · refine ⟨_, rfl, finds_instance_iff.mpr ⟨hw.calm.serves _, ?_⟩⟩
    simp only [hparse] at hi
    rw [hmet]
    exact hi

theorem yields_providedInstance {raw : String} {i : Instance}
    (hi : st.providedInstance? raw = some i) : (providedInstance raw).Yields st i :=
  yields_bind (yields_instanceByProviderId hi) (yields_require i _)

/-! ## Addresses -/

theorem yields_getSubnet {id : String} {subnet : Subnet}
    (h : st.subnets.get? id = some subnet) : (ask (.getSubnet id)).Yields st subnet := by
  intro w hw
  have hanswer : (w.store.answer (.getSubnet id)).1 = .ok subnet := by
    show w.store.getSubnet id = .ok subnet
    rw [Store.getSubnet, existing_eq_ok_iff, hw.subnets]
    exact h
  exact ⟨_, run_ask_of_calm hw.calm hanswer⟩

/-- The network of a subnet is found, in the memo or with a call, and the memo goes on saying
    what the store says. -/
theorem yields_networkOf {memo : SubnetMemo} {id : String} {subnet : Subnet}
    (hm : MemoAgrees memo st) (h : st.subnets.get? id = some subnet) :
    ∃ memo', MemoAgrees memo' st ∧
      (networkOf memo id).Yields st (subnet.networkId, memo') := by
  rw [networkOf]
  split
  · rename_i networkId hknown
    obtain ⟨known, hget, rfl⟩ := hm id networkId hknown
    cases h.symm.trans hget
    exact ⟨memo, hm, yields_pure _⟩
  · exact ⟨memo.insert id subnet.networkId, hm.insert h,
      yields_bind (yields_getSubnet h) (yields_pure _)⟩

theorem yields_interfacesAddresses {s : Settings} {instanceName : String} {index : Nat}
    {memo : SubnetMemo} {interfaces : List Interface} {addresses : List NodeAddress}
    (hm : MemoAgrees memo st) (h : st.addressesFrom? s index interfaces = some addresses) :
    (interfacesAddresses s instanceName index memo interfaces).Yields st addresses := by
  induction interfaces generalizing index memo addresses with
  | nil =>
    cases h
    exact yields_pure []
  | cons i rest ih =>
    obtain ⟨here, more, hhere, hmore, rfl⟩ := addressesFrom?_cons_eq_some_iff.mp h
    obtain ⟨address, haddress, hways⟩ := addressesAt?_eq_some_iff.mp hhere
    rw [interfacesAddresses, haddress]
    refine yields_bind (yields_require address _) ?_
    rcases hways with ⟨hposition, rfl⟩ | ⟨hclassifies, subnet, hsubnet, rfl⟩
    · simp only [hposition, Bool.false_eq_true, if_false]
      exact yields_bind (ih hm hmore) (yields_pure _)
    · obtain ⟨memo₁, hm₁, hnetwork⟩ := yields_networkOf hm hsubnet
      simp only [hclassifies, if_true]
      exact yields_bind hnetwork (yields_bind (ih hm₁ hmore) (yields_pure _))

/-- The addresses that an instance gives are found. -/
theorem yields_addressesOfInstance {s : Settings} {i : Instance} {addresses : List NodeAddress}
    (h : st.addressesOf? s i = some addresses) :
    (addressesOfInstance s i).Yields st addresses := by
  rw [Store.addressesOf?] at h
  rw [addressesOfInstance]
  split at h
  · cases h
  · rename_i hinterfaces
    rw [if_neg hinterfaces]
    exact yields_interfacesAddresses (memoAgrees_empty st) h

theorem yields_addressesByProviderId {s : Settings} {raw : String} {i : Instance}
    {addresses : List NodeAddress} (hi : st.providedInstance? raw = some i)
    (h : st.addressesOf? s i = some addresses) :
    (addressesByProviderId s raw).Yields st addresses :=
  yields_bind (yields_providedInstance hi) (yields_addressesOfInstance h)

end CloudSteward
