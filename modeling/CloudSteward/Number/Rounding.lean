/-!
# Rounding a quotient to an integer

Times are kept in whole nanoseconds and printed with a fixed number of places.
Both need the integer nearest to a quotient; of two that are equally near, the
even one is taken.

Results:

* `roundDiv_near`: the result is within half a unit of the quotient.
* `roundDiv_tie`: in the middle between two integers the even one is taken.
-/

namespace CloudSteward.Number

/-- The integer nearest to `num / den`, the even one of two equally near. -/
def roundDiv (num den : Nat) : Nat :=
  let q := num / den
  let r := num % den
  if 2 * r < den then q
  else if den < 2 * r then q + 1
  else if q % 2 = 0 then q else q + 1

theorem roundDiv_near (num : Nat) {den : Nat} (h : 0 < den) :
    2 * num ≤ (2 * roundDiv num den + 1) * den ∧ 2 * roundDiv num den * den ≤ 2 * num + den := by
  have hd : den * (num / den) + num % den = num := Nat.div_add_mod num den
  have hr : num % den < den := Nat.mod_lt num h
  have key : ∀ q r : Nat, den * q + r = num → r < den →
      ((2 * r ≤ den → 2 * num ≤ (2 * q + 1) * den ∧ 2 * q * den ≤ 2 * num + den) ∧
        (den ≤ 2 * r → 2 * num ≤ (2 * (q + 1) + 1) * den ∧
          2 * (q + 1) * den ≤ 2 * num + den)) := by
    intro q r hq hlt
    have h1 : (2 * q + 1) * den = 2 * (den * q) + den := by
      rw [Nat.add_mul, Nat.mul_assoc, Nat.mul_comm q den, Nat.one_mul]
    have h2 : 2 * q * den = 2 * (den * q) := by
      rw [Nat.mul_assoc, Nat.mul_comm q den]
    have h3 : (2 * (q + 1) + 1) * den = 2 * (den * q) + 3 * den := by
      have : 2 * (q + 1) + 1 = 2 * q + 3 := by omega
      rw [this, Nat.add_mul, h2]
    have h4 : 2 * (q + 1) * den = 2 * (den * q) + 2 * den := by
      have : 2 * (q + 1) = 2 * q + 2 := by omega
      rw [this, Nat.add_mul, h2]
    rw [h1, h2, h3, h4]
    constructor <;> intro _ <;> omega
  obtain ⟨hlow, hhigh⟩ := key _ _ hd hr
  unfold roundDiv
  simp only
  split
  · exact hlow (by omega)
  · split
    · exact hhigh (by omega)
    · split
      · exact hlow (by omega)
      · exact hhigh (by omega)

theorem roundDiv_tie {num den : Nat} (h : 2 * (num % den) = den) : roundDiv num den % 2 = 0 := by
  unfold roundDiv
  simp only
  split
  · omega
  · split
    · omega
    · split <;> omega

end CloudSteward.Number
