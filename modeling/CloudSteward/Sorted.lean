/-!
# Sorted maps and sets

Label maps, the desired membership of every target group and the view a load
balancer has of the nodes are finite maps whose answers show their entries in
key order. A `SortedMap` keeps its entries in strictly increasing order of
keys, so two maps are equal exactly when every look-up agrees; a `SortedSet`
is a map to nothing.

Results:

* `get?_insert`: a look-up after an insertion.
* `get?_erase`: a look-up after a removal.
* `ext_get?`: maps with the same look-ups are equal.
* `get?_eq_some_iff`, `mem_values`: entries and values are what look-ups find.
* `has_add`, `mem_diff`, `has_ofMembers`: membership in sets.
* `ext_has`: sets with the same members are equal.
-/

namespace CloudSteward

/-- A finite map, kept as its entries in strictly increasing order of keys. -/
structure SortedMap (κ α : Type) [Ord κ] where
  entries : List (κ × α)
  sorted : entries.Pairwise (fun a b => compare a.1 b.1 = .lt)
deriving DecidableEq

namespace SortedMap

variable {κ α : Type} [Ord κ]

/-- The map without entries. -/
def empty : SortedMap κ α := ⟨[], .nil⟩

instance : Inhabited (SortedMap κ α) := ⟨empty⟩

instance : EmptyCollection (SortedMap κ α) := ⟨empty⟩

/-- The value of the first entry with key `k`. -/
def lookup (k : κ) : List (κ × α) → Option α
  | [] => none
  | (k', v) :: rest => if compare k k' = .eq then some v else lookup k rest

/-- The entries with `k` set to `v`, in the place its order gives it. -/
def insertEntry (k : κ) (v : α) : List (κ × α) → List (κ × α)
  | [] => [(k, v)]
  | (k', v') :: rest =>
    match compare k k' with
    | .lt => (k, v) :: (k', v') :: rest
    | .eq => (k, v) :: rest
    | .gt => (k', v') :: insertEntry k v rest

/-- The value at `k`. -/
def get? (m : SortedMap κ α) (k : κ) : Option α :=
  lookup k m.entries

/-- Whether there is a value at `k`. -/
def contains (m : SortedMap κ α) (k : κ) : Bool :=
  (m.get? k).isSome

/-- The keys in increasing order. -/
def keys (m : SortedMap κ α) : List κ :=
  m.entries.map (·.1)

/-- The values in the order of their keys. -/
def values (m : SortedMap κ α) : List α :=
  m.entries.map (·.2)

/-- Number of entries. -/
def size (m : SortedMap κ α) : Nat :=
  m.entries.length

/-- Whether there is no entry. -/
def isEmpty (m : SortedMap κ α) : Bool :=
  m.entries.isEmpty

theorem mem_insertEntry {k : κ} {v : α} {l : List (κ × α)} {p : κ × α}
    (h : p ∈ insertEntry k v l) : p = (k, v) ∨ p ∈ l := by
  induction l with
  | nil => simpa [insertEntry] using h
  | cons q rest ih =>
    obtain ⟨k', v'⟩ := q
    rw [insertEntry] at h
    split at h
    · simpa using h
    · rcases List.mem_cons.mp h with h | h
      · exact .inl h
      · exact .inr (List.mem_cons_of_mem _ h)
    · rcases List.mem_cons.mp h with h | h
      · exact .inr (h ▸ List.mem_cons_self)
      · exact (ih h).imp id (List.mem_cons_of_mem _)

theorem sorted_insertEntry [Std.TransOrd κ] (k : κ) (v : α) {l : List (κ × α)}
    (h : l.Pairwise (fun a b => compare a.1 b.1 = .lt)) :
    (insertEntry k v l).Pairwise (fun a b => compare a.1 b.1 = .lt) := by
  induction l with
  | nil => simp [insertEntry]
  | cons q rest ih =>
    obtain ⟨k', v'⟩ := q
    obtain ⟨hq, hrest⟩ := List.pairwise_cons.mp h
    rw [insertEntry]
    split
    · rename_i hlt
      refine List.pairwise_cons.mpr ⟨fun p hp => ?_, h⟩
      rcases List.mem_cons.mp hp with rfl | hp
      · exact hlt
      · exact Std.TransCmp.lt_trans hlt (hq p hp)
    · rename_i heq
      exact List.pairwise_cons.mpr
        ⟨fun p hp => Std.TransCmp.lt_of_eq_of_lt heq (hq p hp), hrest⟩
    · rename_i hgt
      refine List.pairwise_cons.mpr ⟨fun p hp => ?_, ih hrest⟩
      rcases mem_insertEntry hp with rfl | hp
      · exact Std.OrientedCmp.lt_of_gt hgt
      · exact hq p hp

/-- The map with `k` set to `v`. -/
def insert [Std.TransOrd κ] (m : SortedMap κ α) (k : κ) (v : α) : SortedMap κ α :=
  ⟨insertEntry k v m.entries, sorted_insertEntry k v m.sorted⟩

/-- The map without an entry for `k`. -/
def erase (m : SortedMap κ α) (k : κ) : SortedMap κ α :=
  ⟨m.entries.filter fun p => compare k p.1 ≠ .eq, m.sorted.sublist List.filter_sublist⟩

/-- The map of a list of entries; of several with one key the last one counts. -/
def ofList [Std.TransOrd κ] (l : List (κ × α)) : SortedMap κ α :=
  l.foldl (fun m p => m.insert p.1 p.2) empty

/-! ## Look-ups -/

@[simp] theorem get?_empty (k : κ) : (empty : SortedMap κ α).get? k = none := rfl

theorem lookup_insertEntry [DecidableEq κ] [Std.TransOrd κ] [Std.LawfulEqOrd κ] (k k' : κ) (v : α)
    (l : List (κ × α)) :
    lookup k' (insertEntry k v l) = if k' = k then some v else lookup k' l := by
  induction l with
  | nil => simp [insertEntry, lookup]
  | cons q rest ih =>
    obtain ⟨j, w⟩ := q
    rw [insertEntry]
    by_cases h : k' = k
    · subst h
      split
      · simp [lookup]
      · simp [lookup]
      · rename_i hgt
        simp [lookup, hgt, ih]
    · have hne : compare k' k ≠ .eq := fun e => h (Std.LawfulEqOrd.eq_of_compare e)
      split
      · simp [lookup, hne, h]
      · rename_i heq
        have : k = j := Std.LawfulEqOrd.eq_of_compare heq
        subst this
        simp [lookup, hne, h]
      · simp only [lookup, ih, if_neg h]

theorem get?_insert [DecidableEq κ] [Std.TransOrd κ] [Std.LawfulEqOrd κ] (m : SortedMap κ α)
    (k k' : κ) (v : α) : (m.insert k v).get? k' = if k' = k then some v else m.get? k' :=
  lookup_insertEntry k k' v m.entries

theorem lookup_filter_ne [DecidableEq κ] [Std.TransOrd κ] [Std.LawfulEqOrd κ] (k k' : κ)
    (l : List (κ × α)) :
    lookup k' (l.filter fun p => compare k p.1 ≠ .eq) = if k' = k then none else lookup k' l := by
  induction l with
  | nil => simp [lookup]
  | cons q rest ih =>
    obtain ⟨j, w⟩ := q
    by_cases hj : k = j
    · subst hj
      by_cases hk : k' = k <;> simp_all [lookup]
    · by_cases hk : k' = k
      · subst hk
        simp_all [lookup]
      · simp_all [lookup]

theorem get?_erase [DecidableEq κ] [Std.TransOrd κ] [Std.LawfulEqOrd κ] (m : SortedMap κ α)
    (k k' : κ) : (m.erase k).get? k' = if k' = k then none else m.get? k' :=
  lookup_filter_ne k k' m.entries

theorem lookup_eq_none_of_lt [Std.TransOrd κ] {k : κ} {l : List (κ × α)}
    (h : ∀ p ∈ l, compare k p.1 = .lt) : lookup k l = none := by
  induction l with
  | nil => rfl
  | cons p rest ih =>
    have := h p (by simp)
    simp [lookup, this, ih fun q hq => h q (by simp [hq])]

theorem entries_eq_of_lookup [Std.TransOrd κ] [Std.LawfulEqOrd κ] :
    ∀ {l r : List (κ × α)}, l.Pairwise (fun a b => compare a.1 b.1 = .lt) →
      r.Pairwise (fun a b => compare a.1 b.1 = .lt) → (∀ k, lookup k l = lookup k r) → l = r
  | [], [], _, _, _ => rfl
  | [], (k, v) :: r, _, _, h => by
    have := h k
    simp [lookup, Std.ReflCmp.compare_self] at this
  | (k, v) :: l, [], _, _, h => by
    have := h k
    simp [lookup, Std.ReflCmp.compare_self] at this
  | (k, v) :: l, (j, w) :: r, hl, hr, h => by
    obtain ⟨hkl, htl⟩ := List.pairwise_cons.mp hl
    obtain ⟨hjr, htr⟩ := List.pairwise_cons.mp hr
    have self : ∀ i : κ, compare i i = .eq := fun i => Std.ReflCmp.compare_self
    have hkj : k = j := by
      refine Std.LawfulEqOrd.eq_of_compare ?_
      cases hc : compare k j with
      | eq => rfl
      | lt =>
        have hk := h k
        rw [lookup, if_pos (self k), lookup, if_neg (by simp [hc]),
          lookup_eq_none_of_lt fun p hp => Std.TransCmp.lt_trans hc (hjr p hp)] at hk
        simp at hk
      | gt =>
        have hc' := Std.OrientedCmp.lt_of_gt hc
        have hj := h j
        rw [lookup, if_neg (by simp [hc']), lookup_eq_none_of_lt fun p hp =>
          Std.TransCmp.lt_trans hc' (hkl p hp), lookup, if_pos (self j)] at hj
        simp at hj
    subst hkj
    have hv : v = w := by
      have := h k
      simpa [lookup, self] using this
    subst hv
    congr 1
    refine entries_eq_of_lookup htl htr fun i => ?_
    have hi := h i
    by_cases hik : i = k
    · subst hik
      rw [lookup_eq_none_of_lt fun p hp => hkl p hp, lookup_eq_none_of_lt fun p hp => hjr p hp]
    · simpa [lookup, Std.LawfulEqOrd.compare_eq_iff_eq, hik] using hi

theorem lookup_eq_some_iff [Std.TransOrd κ] [Std.LawfulEqOrd κ] {k : κ} {v : α} :
    ∀ {l : List (κ × α)}, l.Pairwise (fun a b => compare a.1 b.1 = .lt) →
      (lookup k l = some v ↔ (k, v) ∈ l)
  | [], _ => by simp [lookup]
  | (j, w) :: l, h => by
    obtain ⟨hj, hl⟩ := List.pairwise_cons.mp h
    rw [lookup]
    split
    · rename_i heq
      have hkj : k = j := Std.LawfulEqOrd.eq_of_compare heq
      subst hkj
      have hnot : (k, v) ∉ l := by
        intro hmem
        have := hj (k, v) hmem
        simp at this
      simp [hnot, eq_comm]
    · rename_i hne
      have hkj : k ≠ j := fun e => hne (e ▸ Std.ReflCmp.compare_self)
      simp [lookup_eq_some_iff hl, hkj]

theorem get?_eq_some_iff [Std.TransOrd κ] [Std.LawfulEqOrd κ] {m : SortedMap κ α} {k : κ}
    {v : α} : m.get? k = some v ↔ (k, v) ∈ m.entries :=
  lookup_eq_some_iff m.sorted

theorem mem_values [Std.TransOrd κ] [Std.LawfulEqOrd κ] {m : SortedMap κ α} {v : α} :
    v ∈ m.values ↔ ∃ k, m.get? k = some v := by
  simp [values, get?_eq_some_iff]

/-- No value is listed twice if no value has two keys. -/
theorem values_nodup [Std.TransOrd κ] [Std.LawfulEqOrd κ] (m : SortedMap κ α)
    (h : ∀ j k v, m.get? j = some v → m.get? k = some v → j = k) : m.values.Nodup := by
  refine List.pairwise_map.mpr (List.Pairwise.imp_of_mem ?_ m.sorted)
  rintro ⟨j, v⟩ ⟨k, w⟩ hj hk hlt rfl
  have hjk : j = k := h j k v (get?_eq_some_iff.mpr hj) (get?_eq_some_iff.mpr hk)
  subst hjk
  simp at hlt

theorem keys_nodup [Std.TransOrd κ] (m : SortedMap κ α) : m.keys.Nodup := by
  refine List.pairwise_map.mpr (m.sorted.imp ?_)
  intro p q hlt heq
  rw [heq] at hlt
  simp at hlt

/-- Maps in which every look-up agrees are equal. -/
theorem ext_get? [Std.TransOrd κ] [Std.LawfulEqOrd κ] {m n : SortedMap κ α}
    (h : ∀ k, m.get? k = n.get? k) : m = n := by
  obtain ⟨l, hl⟩ := m
  obtain ⟨r, hr⟩ := n
  have : l = r := entries_eq_of_lookup hl hr h
  subst this
  rfl

end SortedMap

/-! ## Sets -/

/-- A finite set, kept in strictly increasing order. -/
abbrev SortedSet (κ : Type) [Ord κ] := SortedMap κ Unit

namespace SortedSet

variable {κ : Type} [Ord κ]

/-- The elements in increasing order. -/
def toList (s : SortedSet κ) : List κ :=
  s.keys

/-- Whether `k` is an element. -/
def has (s : SortedSet κ) (k : κ) : Bool :=
  s.contains k

/-- The set with `k` added. -/
def add [Std.TransOrd κ] (s : SortedSet κ) (k : κ) : SortedSet κ :=
  s.insert k ()

/-- The set of the members of a list. -/
def ofMembers [Std.TransOrd κ] (l : List κ) : SortedSet κ :=
  l.foldl add SortedMap.empty

/-- The elements of `s` that are not in `t`, in increasing order. -/
def diff (s t : SortedSet κ) : List κ :=
  s.toList.filter fun k => !has t k

/-! ## Membership -/

@[simp] theorem has_empty (k : κ) : has (SortedMap.empty : SortedSet κ) k = false := rfl

theorem has_add [DecidableEq κ] [Std.TransOrd κ] [Std.LawfulEqOrd κ] (s : SortedSet κ)
    (k k' : κ) : has (add s k) k' = (decide (k' = k) || has s k') := by
  unfold has add SortedMap.contains
  rw [SortedMap.get?_insert]
  by_cases h : k' = k <;> simp [h]

theorem mem_toList [Std.LawfulEqOrd κ] {s : SortedSet κ} {k : κ} :
    k ∈ toList s ↔ has s k = true := by
  unfold toList SortedMap.keys has SortedMap.contains SortedMap.get?
  generalize s.entries = l
  induction l with
  | nil => simp [SortedMap.lookup]
  | cons p rest ih =>
    obtain ⟨j, u⟩ := p
    simp only [List.map_cons, List.mem_cons, ih, SortedMap.lookup,
      Std.LawfulEqOrd.compare_eq_iff_eq]
    split <;> simp_all

theorem mem_diff [Std.LawfulEqOrd κ] {s t : SortedSet κ} {k : κ} :
    k ∈ diff s t ↔ has s k = true ∧ has t k = false := by
  simp [diff, mem_toList]

theorem has_ofMembers [DecidableEq κ] [Std.TransOrd κ] [Std.LawfulEqOrd κ] (l : List κ) (k : κ) :
    has (ofMembers l) k = decide (k ∈ l) := by
  have gen : ∀ s : SortedSet κ, has (l.foldl add s) k = (decide (k ∈ l) || has s k) := by
    induction l with
    | nil => simp
    | cons j rest ih =>
      intro s
      rw [List.foldl_cons, ih, has_add]
      by_cases h : k = j <;> by_cases hr : k ∈ rest <;> simp [h, hr]
  rw [ofMembers, gen, has_empty, Bool.or_false]

/-- Sets with the same members are equal. -/
theorem ext_has [Std.TransOrd κ] [Std.LawfulEqOrd κ] {s t : SortedSet κ}
    (h : ∀ k, has s k = has t k) : s = t := by
  refine SortedMap.ext_get? fun k => ?_
  have hk := h k
  unfold has SortedMap.contains at hk
  cases hs : s.get? k <;> cases ht : t.get? k <;> simp_all

end SortedSet

/-- A set of names. -/
abbrev NameSet := SortedSet String

end CloudSteward
