import CloudSteward.Cluster.Object
import CloudSteward.Resource.Basic

/-!
# What a service reports of its balancer

A service shows the addresses of its balancer's listeners, each once, in the
order in which the listeners name them first.

Results:

* `mem_firstOccurrences`: no address is lost and none is made up.
* `nodup_firstOccurrences`: no address is shown twice.
-/

namespace CloudSteward

/-- The members of a list that do not occur before, given what was seen. -/
def unseen (seen : List String) : List String → List String
  | [] => []
  | a :: rest => if seen.contains a then unseen seen rest else a :: unseen (a :: seen) rest

/-- The members of a list, each at its first occurrence. -/
def firstOccurrences (l : List String) : List String :=
  unseen [] l

/-- The addresses of the listeners of a balancer. -/
def Balancer.addresses (b : Balancer) : List String :=
  firstOccurrences ((b.listeners.map (·.address)).filter (!·.isEmpty))

/-- What a service reports of a balancer. -/
def ingressStatus (b : Balancer) : BalancerStatus :=
  ⟨some (b.addresses.map fun ip => ⟨some ip, none, none, none⟩)⟩

/-! ## Laws -/

theorem mem_unseen {seen l : List String} {a : String} :
    a ∈ unseen seen l ↔ a ∈ l ∧ a ∉ seen := by
  induction l generalizing seen with
  | nil => simp [unseen]
  | cons b rest ih =>
    rw [unseen]
    by_cases h : b ∈ seen
    · simp only [List.contains_iff_mem, h, if_true, ih, List.mem_cons]
      constructor
      · exact fun ⟨h1, h2⟩ => ⟨.inr h1, h2⟩
      · rintro ⟨rfl | h1, h2⟩
        · exact absurd h h2
        · exact ⟨h1, h2⟩
    · simp only [List.contains_iff_mem, h, if_false, List.mem_cons, ih, not_or]
      constructor
      · rintro (rfl | ⟨h1, -, h3⟩)
        · exact ⟨.inl rfl, h⟩
        · exact ⟨.inr h1, h3⟩
      · rintro ⟨rfl | h1, h2⟩
        · exact .inl rfl
        · by_cases hab : a = b
          · exact .inl hab
          · exact .inr ⟨h1, hab, h2⟩

theorem mem_firstOccurrences {l : List String} {a : String} :
    a ∈ firstOccurrences l ↔ a ∈ l := by
  simp [firstOccurrences, mem_unseen]

theorem nodup_unseen (seen l : List String) : (unseen seen l).Nodup := by
  induction l generalizing seen with
  | nil => simp [unseen]
  | cons b rest ih =>
    rw [unseen]
    split
    · exact ih seen
    · refine List.nodup_cons.mpr ⟨fun hmem => ?_, ih _⟩
      exact (mem_unseen.mp hmem).2 (by simp)

theorem nodup_firstOccurrences (l : List String) : (firstOccurrences l).Nodup :=
  nodup_unseen [] l

end CloudSteward
