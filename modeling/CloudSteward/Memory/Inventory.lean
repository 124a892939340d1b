import CloudSteward.Sorted

/-!
# Resources under their ids

The cloud keeps every resource under the id that the resource itself carries. An
`Inventory` holds the resources of one kind; no resource can be filed under an
id that is not its own, and no two resources share one.

Results:

* `get?_put`, `get?_erase`: a look-up after a resource was put in or removed.
* `mem_values`: the listed resources are those that a look-up finds.
* `filter_values_eq_nil_iff`, `filter_values_eq_singleton_iff`: when no listed
  resource, or exactly one, passes a test.
-/

namespace CloudSteward

/-- Resources under the ids that `key` reads off them. -/
structure Inventory (α : Type) (key : α → String) where
  byId : SortedMap String α
  keyed : ∀ id a, byId.get? id = some a → key a = id

namespace Inventory

variable {α : Type} {key : α → String}

/-- No resources. -/
def empty : Inventory α key where
  byId := .empty
  keyed := by simp

/-- The resource of an id. -/
def get? (m : Inventory α key) (id : String) : Option α :=
  m.byId.get? id

/-- The resources in the order of their ids. -/
def values (m : Inventory α key) : List α :=
  m.byId.values

/-- Files a resource, in place of one with the same id. -/
def put (m : Inventory α key) (a : α) : Inventory α key where
  byId := m.byId.insert (key a) a
  keyed id b h := by
    rw [SortedMap.get?_insert] at h
    split at h
    · rename_i hid
      cases h
      exact hid.symm
    · exact m.keyed id b h

/-- Files several resources, one after the other. -/
def putAll (m : Inventory α key) (l : List α) : Inventory α key :=
  l.foldl put m

/-- Removes the resource of an id, if there is one. -/
def erase (m : Inventory α key) (id : String) : Inventory α key where
  byId := m.byId.erase id
  keyed other b h := by
    rw [SortedMap.get?_erase] at h
    split at h
    · cases h
    · exact m.keyed other b h

/-- A resource is in an inventory if its id leads to it. -/
instance : Membership α (Inventory α key) := ⟨fun m a => m.get? (key a) = some a⟩

/-! ## Look-ups -/

theorem mem_iff {m : Inventory α key} {a : α} : a ∈ m ↔ m.get? (key a) = some a := Iff.rfl

theorem key_eq_of_get? {m : Inventory α key} {id : String} {a : α} (h : m.get? id = some a) :
    key a = id :=
  m.keyed id a h

theorem mem_of_get? {m : Inventory α key} {id : String} {a : α} (h : m.get? id = some a) :
    a ∈ m := by
  rw [mem_iff, key_eq_of_get? h, h]

theorem eq_of_mem_of_key_eq {m : Inventory α key} {a b : α} (ha : a ∈ m) (hb : b ∈ m)
    (h : key a = key b) : a = b := by
  rw [mem_iff] at ha hb
  rw [h, hb] at ha
  exact (Option.some.inj ha).symm

theorem get?_put (m : Inventory α key) (a : α) (id : String) :
    (m.put a).get? id = if id = key a then some a else m.get? id :=
  SortedMap.get?_insert m.byId (key a) id a

theorem get?_erase (m : Inventory α key) (id other : String) :
    (m.erase id).get? other = if other = id then none else m.get? other :=
  SortedMap.get?_erase m.byId id other

theorem mem_put {m : Inventory α key} {a b : α} :
    b ∈ m.put a ↔ b = a ∨ key b ≠ key a ∧ b ∈ m := by
  rw [mem_iff, get?_put]
  split
  · rename_i h
    constructor
    · intro e
      exact .inl (Option.some.inj e).symm
    · rintro (rfl | ⟨hne, -⟩)
      · rfl
      · exact absurd h hne
  · rename_i h
    constructor
    · exact fun e => .inr ⟨h, e⟩
    · rintro (rfl | ⟨-, hb⟩)
      · exact absurd rfl h
      · exact hb

theorem mem_of_eq_put {m n : Inventory α key} {a : α} (h : n = m.put a) : a ∈ n := by
  rw [h, mem_put]
  exact .inl rfl

theorem mem_erase {m : Inventory α key} {id : String} {b : α} :
    b ∈ m.erase id ↔ key b ≠ id ∧ b ∈ m := by
  rw [mem_iff, get?_erase]
  split <;> simp_all [mem_iff]

/-- Inventories in which every look-up agrees are equal. -/
theorem ext_get? {m n : Inventory α key} (h : ∀ id, m.get? id = n.get? id) : m = n := by
  obtain ⟨l, hl⟩ := m
  obtain ⟨r, hr⟩ := n
  have : l = r := SortedMap.ext_get? h
  subst this
  rfl

theorem put_of_mem {m : Inventory α key} {a : α} (h : a ∈ m) : m.put a = m := by
  refine ext_get? fun id => ?_
  rw [get?_put]
  split
  · rename_i hid
    rw [hid, mem_iff.mp h]
  · rfl

theorem erase_of_get?_eq_none {m : Inventory α key} {id : String} (h : m.get? id = none) :
    m.erase id = m := by
  refine ext_get? fun other => ?_
  rw [get?_erase]
  split
  · rename_i hid
    rw [hid, h]
  · rfl

theorem put_put {m : Inventory α key} {a b : α} (h : key b = key a) :
    (m.put a).put b = m.put b := by
  refine ext_get? fun id => ?_
  rw [get?_put, get?_put, get?_put, h]
  split <;> rfl

/-! ## Listing -/

theorem mem_values {m : Inventory α key} {a : α} : a ∈ m.values ↔ a ∈ m := by
  rw [values, SortedMap.mem_values]
  constructor
  · rintro ⟨id, h⟩
    exact mem_of_get? h
  · exact fun h => ⟨key a, h⟩

theorem nodup_values (m : Inventory α key) : m.values.Nodup := by
  refine m.byId.values_nodup fun j k v hj hk => ?_
  rw [← m.keyed j v hj, m.keyed k v hk]

theorem filter_values_eq_nil_iff {m : Inventory α key} {p : α → Bool} :
    m.values.filter p = [] ↔ ∀ a ∈ m, p a = false := by
  simp only [List.filter_eq_nil_iff, mem_values, Bool.not_eq_true]

theorem filter_values_eq_singleton_iff {m : Inventory α key} {p : α → Bool} {a : α} :
    m.values.filter p = [a] ↔ a ∈ m ∧ p a = true ∧ ∀ b ∈ m, p b = true → b = a := by
  constructor
  · intro h
    have hmem : ∀ b, b ∈ m ∧ p b = true ↔ b = a := by
      intro b
      rw [← mem_values, ← List.mem_filter, h, List.mem_singleton]
    obtain ⟨ha, hp⟩ := (hmem a).mpr rfl
    exact ⟨ha, hp, fun b hb hpb => (hmem b).mp ⟨hb, hpb⟩⟩
  · rintro ⟨ha, hp, honly⟩
    have hmem : ∀ b, b ∈ m.values.filter p ↔ b ∈ [a] := by
      intro b
      rw [List.mem_filter, mem_values, List.mem_singleton]
      constructor
      · exact fun ⟨hb, hpb⟩ => honly b hb hpb
      · rintro rfl
        exact ⟨ha, hp⟩
    have hnodup : (m.values.filter p).Nodup := List.Pairwise.filter p m.nodup_values
    exact List.perm_singleton.mp
      ((List.perm_ext_iff_of_nodup hnodup (by simp)).mpr hmem)

end Inventory

end CloudSteward
