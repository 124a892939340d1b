import CloudSteward.Instance.Addresses
import CloudSteward.Proofs.TargetGroup.Wanted

/-!
# What a providerID resolves to

A providerID holds the id of an instance, or its name behind a folder and a zone. The id is
looked up as it is. Of the other form the name alone counts: whatever folder and zone stand in
front of it, the text resolves to the one instance of the name, and to none if there are
several.

Results:

* `instanceByProviderId_done_some_iff`: when a look-up comes back with an instance.
* `instanceByProviderId_legacy`: folder and zone do not count.
* `providerId_resolves_iff`: the texts that resolve to an instance.
* `providerId_of_other_place`: texts with another folder or zone resolve to it as well.
-/

namespace CloudSteward

open Program

variable {w : World}

/-! ## Looking an instance up -/

/-- The look-up of a providerID, made in this world, comes back with an instance: the call is
    served, and the instance is stored under the id, or is the only one of the name. -/
inductive World.Finds (w : World) : ProviderId → Instance → Prop
  | byId {i : Instance} (served : w.Serves .getInstance)
      (stored : i ∈ (w.met .getInstance).instances) : w.Finds (.instance i.id) i
  | byName {folderId zoneId : String} {i : Instance} (served : w.Serves .findInstance)
      (stored : i ∈ (w.met .findInstance).instances)
      (only : ∀ j ∈ (w.met .findInstance).instances, j.name = i.name → j = i) :
      w.Finds (.legacy folderId zoneId i.name) i

theorem instancesNamed_eq_singleton_iff {st : Store} {name : String} {i : Instance} :
    st.instancesNamed name = [i] ↔
      i ∈ st.instances ∧ i.name = name ∧ ∀ j ∈ st.instances, j.name = name → j = i := by
  rw [Store.instancesNamed, Inventory.filter_values_eq_singleton_iff]
  simp

theorem finds_instance_iff {id : String} {i : Instance} :
    w.Finds (.instance id) i ↔
      w.Serves .getInstance ∧ (w.met .getInstance).instances.get? id = some i := by
  constructor
  · intro h
    cases h with
    | byId served stored => exact ⟨served, stored⟩
  · rintro ⟨hserved, hget⟩
    obtain rfl := Inventory.key_eq_of_get? hget
    exact .byId hserved hget

theorem finds_legacy_iff {folderId zoneId name : String} {i : Instance} :
    w.Finds (.legacy folderId zoneId name) i ↔
      w.Serves .findInstance ∧ (w.met .findInstance).instancesNamed name = [i] := by
  rw [instancesNamed_eq_singleton_iff]
  constructor
  · intro h
    cases h with
    | byName served stored only => exact ⟨served, stored, rfl, only⟩
  · rintro ⟨hserved, hstored, rfl, honly⟩
    exact .byName hserved hstored honly

theorem findInstance_some_iff {folderId zoneId name : String} {i : Instance} :
    (w.answer (.findInstance name)).1 = some (.ok (some i)) ↔
      w.Finds (.legacy folderId zoneId name) i := by
  have hlookUp : ((w.met .findInstance).answer (.findInstance name)).1 = .ok (some i) ↔
      (w.met .findInstance).instancesNamed name = [i] := unique_eq_some_iff
  rw [answer_eq_ok_iff, finds_legacy_iff, ← hlookUp]
  rfl

theorem getInstance_ok_iff {id : String} {i : Instance} :
    (w.answer (.getInstance id)).1 = some (.ok i) ↔ w.Finds (.instance id) i := by
  have hlookUp : ((w.met .getInstance).answer (.getInstance id)).1 = .ok i ↔
      (w.met .getInstance).instances.get? id = some i := existing_eq_ok_iff
  rw [answer_eq_ok_iff, finds_instance_iff, ← hlookUp]
  rfl

theorem instanceById_done_some_iff {id : String} {i : Instance} :
    (∃ w', (instanceById id).run w = (.done (some i), w')) ↔ w.Finds (.instance id) i := by
  rw [← getInstance_ok_iff]
  constructor
  · rintro ⟨w', h⟩
    obtain ⟨reply, w₁, ha, h⟩ := run_bind_eq_done.mp h
    cases reply with
    | ok found =>
      cases h
      rw [run_answer_eq_done.mp ha]
    | error e =>
      dsimp only at h
      split at h <;> cases h
  · intro h
    exact ⟨_, run_bind_eq_done.mpr ⟨.ok i, _, run_answer_eq_done.mpr (Prod.ext h rfl), rfl⟩⟩

/-- The look-up comes back with an instance exactly if the text is a providerID and what it
    names is found. -/
theorem instanceByProviderId_done_some_iff {raw : String} {i : Instance} :
    (∃ w', (instanceByProviderId raw).run w = (.done (some i), w')) ↔
      ∃ p, ProviderId.parse raw = .ok p ∧ w.Finds p i := by
  rw [instanceByProviderId]
  rcases ProviderId.parse raw with e | ⟨folderId, zoneId, name⟩ | id
  · simp
  · simp only [Except.ok.injEq, exists_eq_left']
    rw [← findInstance_some_iff]
    exact run_ask_done_iff
  · simp only [Except.ok.injEq, exists_eq_left']
    exact instanceById_done_some_iff

/-- Of a providerID with folder and zone the name alone counts. -/
theorem instanceByProviderId_legacy {folderId zoneId name : String}
    (h : (ProviderId.legacy folderId zoneId name).Plain) :
    instanceByProviderId (ProviderId.legacy folderId zoneId name).render = instanceByName name := by
  rw [instanceByProviderId, ProviderId.parse_render h]

/-! ## The texts that resolve to an instance -/

/-- **Resolution.** In every world, whatever fails, hangs or is stored by others, a text
    resolves to an instance exactly if it is the scheme with the id of the instance behind it,
    or with a folder, a zone and the name of the instance, no other instance having that name;
    and if the call for it is served. The folder and the zone can be any: two texts that differ
    in nothing else are looked up in the same way. -/
theorem providerId_resolves_iff (raw : String) :
    (∀ (w : World) (i : Instance),
      (∃ w', (instanceByProviderId raw).run w = (.done (some i), w')) ↔
        (raw = providerScheme ++ i.id ∧ IsSegment i.id ∧
          w.Serves .getInstance ∧ i ∈ (w.met .getInstance).instances) ∨
        ∃ folderId zoneId, raw = providerScheme ++ s!"{folderId}/{zoneId}/{i.name}" ∧
          (IsSegment folderId ∧ IsSegment zoneId ∧ IsSegment i.name) ∧
          w.Serves .findInstance ∧ i ∈ (w.met .findInstance).instances ∧
          ∀ j ∈ (w.met .findInstance).instances, j.name = i.name → j = i) ∧
      ∀ folderId zoneId name otherFolderId otherZoneId,
        IsSegment folderId → IsSegment zoneId → IsSegment name →
        IsSegment otherFolderId → IsSegment otherZoneId →
        raw = providerScheme ++ s!"{folderId}/{zoneId}/{name}" →
        instanceByProviderId raw =
          instanceByProviderId (providerScheme ++ s!"{otherFolderId}/{otherZoneId}/{name}") := by
  constructor
  · intro w i
    rw [instanceByProviderId_done_some_iff]
    simp only [ProviderId.parse_eq_ok_iff]
    constructor
    · rintro ⟨p, ⟨rfl, hplain⟩, hfinds⟩
      cases hfinds with
      | byId served stored =>
        exact .inl ⟨ProviderId.render_instance i.id, ProviderId.plain_instance_iff.mp hplain,
          served, stored⟩
      | @byName folderId zoneId _ served stored only =>
        exact .inr ⟨folderId, zoneId, ProviderId.render_legacy folderId zoneId i.name,
          ProviderId.plain_legacy_iff.mp hplain, served, stored, only⟩
    · rintro (⟨rfl, hid, served, stored⟩ | ⟨folderId, zoneId, rfl, hplain, served, stored, only⟩)
      · exact ⟨.instance i.id,
          ⟨(ProviderId.render_instance i.id).symm, ProviderId.plain_instance_iff.mpr hid⟩,
          .byId served stored⟩
      · exact ⟨.legacy folderId zoneId i.name,
          ⟨(ProviderId.render_legacy folderId zoneId i.name).symm,
            ProviderId.plain_legacy_iff.mpr hplain⟩,
          .byName served stored only⟩
  · rintro folderId zoneId name otherFolderId otherZoneId hfolder hzone hname hother hotherZone rfl
    rw [← ProviderId.render_legacy, ← ProviderId.render_legacy,
      instanceByProviderId_legacy (ProviderId.plain_legacy_iff.mpr ⟨hfolder, hzone, hname⟩),
      instanceByProviderId_legacy (ProviderId.plain_legacy_iff.mpr ⟨hother, hotherZone, hname⟩)]

open Sample in
/-- With another folder or another zone in front of its name, a text resolves to an instance
    although it is neither of the two that name the instance, and a node with it counts as in
    the zone of the instance and has its addresses. -/
theorem providerId_of_other_place :
    let found := machine "fhm1" "worker-0" "10.0.0.5"
    ∀ raw ∈ ["yandex://b1gother/zone-a/worker-0", "yandex://b1g/zone-b/worker-0"],
      raw ≠ providerScheme ++ found.id ∧
      raw ≠ providerScheme ++ s!"{found.folderId}/{found.zoneId}/{found.name}" ∧
      ((instanceByProviderId raw).run (.ofStore store)).1 = .done (some found) ∧
      ((zoneByProviderId raw).run (.ofStore store)).1 = .done (Zone.ofId found.zoneId) ∧
      ((addressesByProviderId settings raw).run (.ofStore store)).1 =
        .done [internalAddress "10.0.0.5"] := by
  intro found raw hraw
  simp only [List.mem_cons, List.not_mem_nil, or_false] at hraw
  rcases hraw with rfl | rfl
  · exact ⟨by decide, by decide, rfl, rfl, rfl⟩
  · exact ⟨by decide, by decide, rfl, rfl, rfl⟩

end CloudSteward
