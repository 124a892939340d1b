import CloudSteward.Backoff
import Mathlib.Algebra.Group.Nat.Defs
import Mathlib.Data.Nat.Basic
import Mathlib.Order.Monotone.Defs

/-!
# Delays and what is counted for them

A delay is the base times a power of two, but no more than the cap. A machine computes it
in words: the power by a shift within 32 bits, the product from the whole seconds in 64
bits and the nanoseconds beyond them. Whatever word could overflow on the way is checked,
and where a check fails the product is longer than every span, the cap included, so that
the delay is that of numbers without limit. The shift stops at 31, which can only be seen
in a policy whose cap is more than the base times 2^31; the count stops at 2^32 - 1, which
can not be seen at all.

Results:

* `BackoffPolicy.delay_nanos`: the delay in nanoseconds.
* `WordSpan.span_times?`, `WordSpan.span_delay`: words give what numbers give.
* `BackoffPolicy.delay_of_reached`: the delays of a policy that comes to its cap.
* `Backoff.failures_after`: what is counted after any moves.
* `delays_exact`: bound, order and value of all delays, one by one and over whole runs.
-/

namespace CloudSteward

/-! ## The delay as a number -/

namespace BackoffPolicy

variable (p : BackoffPolicy)

/-- A product too long for a span is above any cap. -/
theorem delay_nanos (count : Nat) :
    (p.delay count).nanos =
      min (p.base.nanos * 2 ^ min count greatestDoubling) p.cap.nanos := by
  have hcap : p.cap.nanos < Span.limit := p.cap.bounded
  unfold delay
  by_cases h : p.base.nanos * 2 ^ min count greatestDoubling < Span.limit
  · have ht : p.base.times? (Nat.pow 2 (Nat.min count greatestDoubling)) = some ⟨_, h⟩ := dif_pos h
    rw [ht]
    exact Span.min_nanos _ _
  · have ht : p.base.times? (Nat.pow 2 (Nat.min count greatestDoubling)) = none := dif_neg h
    have hlong : p.cap.nanos ≤ p.base.nanos * 2 ^ min count greatestDoubling := by omega
    rw [ht]
    exact (Nat.min_eq_right hlong).symm

theorem delay_mono : Monotone fun count => (p.delay count).nanos := by
  intro count count' h
  show (p.delay count).nanos ≤ (p.delay count').nanos
  have hexp : min count greatestDoubling ≤ min count' greatestDoubling := by omega
  have hpow : 2 ^ min count greatestDoubling ≤ 2 ^ min count' greatestDoubling :=
    Nat.pow_le_pow_right (by decide) hexp
  have hproduct := Nat.mul_le_mul_left p.base.nanos hpow
  rw [delay_nanos, delay_nanos]
  omega

theorem delay_of_le {count : Nat} (h : count ≤ greatestDoubling) :
    (p.delay count).nanos = min (p.base.nanos * 2 ^ count) p.cap.nanos := by
  rw [delay_nanos, Nat.min_eq_left h]

/-- A policy that comes to its cap by the last doubling stays there. -/
theorem delay_of_reached {p : BackoffPolicy}
    (h : p.cap.nanos ≤ p.base.nanos * 2 ^ greatestDoubling) (count : Nat) :
    (p.delay count).nanos = min (p.base.nanos * 2 ^ count) p.cap.nanos := by
  by_cases hcount : count ≤ greatestDoubling
  · exact p.delay_of_le hcount
  · have hpow : 2 ^ greatestDoubling ≤ 2 ^ count := Nat.pow_le_pow_right (by decide) (by omega)
    have hproduct := Nat.mul_le_mul_left p.base.nanos hpow
    rw [delay_nanos, Nat.min_eq_right (by omega : greatestDoubling ≤ count)]
    omega

/-- The limit of the count cannot be seen in the delay. -/
theorem delay_saturated (count : Nat) :
    p.delay (min count greatestFailureCount) = p.delay count := by
  refine Span.ext_nanos ?_
  have hlimit : greatestDoubling ≤ greatestFailureCount := by decide
  rw [delay_nanos, delay_nanos, Nat.min_assoc, Nat.min_eq_right hlimit]

end BackoffPolicy

/-! ## The delay in words -/

/-- Nanoseconds of a second, as a word. -/
def secondWord : UInt64 := 1000000000

/-- The product of two words, if it is a word. -/
def checkedMul (a b : UInt64) : Option UInt64 :=
  if a.toNat * b.toNat < 2 ^ 64 then some (a * b) else none

/-- The sum of two words, if it is a word. -/
def checkedAdd (a b : UInt64) : Option UInt64 :=
  if a.toNat + b.toNat < 2 ^ 64 then some (a + b) else none

/-- One shifted to the left, if the shift stays within the word. -/
def checkedShift (count : UInt32) : Option UInt32 :=
  if count < 32 then some (1 <<< count) else none

/-- A span in words: its whole seconds, and the nanoseconds beyond them. -/
structure WordSpan where
  seconds : UInt64
  nanos : UInt32
  broken : nanos.toNat < 1000000000

namespace WordSpan

/-- The span that the words stand for. -/
def span (t : WordSpan) : Span where
  nanos := t.seconds.toNat * 1000000000 + t.nanos.toNat
  bounded := by
    have hseconds := t.seconds.toNat_lt
    have hbroken := t.broken
    unfold Span.limit
    omega

/-- The words of a span. -/
def ofSpan (t : Span) : WordSpan where
  seconds := .ofNat t.seconds
  nanos := .ofNat t.subsecond
  broken := by
    have hlt : t.subsecond < 1000000000 := Nat.mod_lt _ (by decide)
    rw [UInt32.toNat_ofNat', Nat.mod_eq_of_lt (by omega)]
    exact hlt

/-- The shorter of two spans: the seconds decide, and then the nanoseconds. -/
def min (a b : WordSpan) : WordSpan :=
  if a.seconds < b.seconds ∨ a.seconds = b.seconds ∧ a.nanos ≤ b.nanos then a else b

/-- The nanoseconds beyond the whole seconds, so many times. -/
def product (t : WordSpan) (k : UInt32) : UInt64 := t.nanos.toUInt64 * k.toUInt64

/-- What a product of nanoseconds leaves beyond its whole seconds. -/
theorem rest_lt (n : UInt64) : (n % secondWord).toUInt32.toNat < 1000000000 := by
  have hlt : n.toNat % 1000000000 < 1000000000 := Nat.mod_lt _ (by decide)
  rw [UInt64.toNat_toUInt32, UInt64.toNat_mod]
  show n.toNat % 1000000000 % 2 ^ 32 < 1000000000
  omega

/-- `k` times a span, if that is short enough. -/
def times? (t : WordSpan) (k : UInt32) : Option WordSpan := do
  let whole ← checkedMul t.seconds k.toUInt64
  let seconds ← checkedAdd whole (t.product k / secondWord)
  return ⟨seconds, (t.product k % secondWord).toUInt32, rest_lt _⟩

/-- Two to the power of a count, which the shift limits. -/
def factor (count : UInt32) : UInt32 :=
  (checkedShift (Min.min count 31)).getD 4294967295

/-- The delay after `count` earlier failures. -/
def delay (base cap : WordSpan) (count : UInt32) : WordSpan :=
  match base.times? (factor count) with
  | some t => t.min cap
  | none => cap

/-! ### Words and numbers -/

theorem span_ofSpan (t : Span) : (ofSpan t).span = t := by
  have hbounded := t.bounded
  unfold Span.limit at hbounded
  refine Span.ext_nanos ?_
  show (UInt64.ofNat (t.nanos / 1000000000)).toNat * 1000000000 +
    (UInt32.ofNat (t.nanos % 1000000000)).toNat = t.nanos
  rw [UInt64.toNat_ofNat', UInt32.toNat_ofNat', Nat.mod_eq_of_lt (by omega),
    Nat.mod_eq_of_lt (by omega)]
  omega

theorem span_min (a b : WordSpan) : (a.min b).span = a.span.min b.span := by
  have ha := a.broken
  have hb := b.broken
  have horder : (a.seconds < b.seconds ∨ a.seconds = b.seconds ∧ a.nanos ≤ b.nanos) ↔
      a.span.nanos ≤ b.span.nanos := by
    rw [UInt64.lt_iff_toNat_lt, ← UInt64.toNat_inj, UInt32.le_iff_toNat_le]
    show _ ↔ a.seconds.toNat * 1000000000 + a.nanos.toNat ≤
      b.seconds.toNat * 1000000000 + b.nanos.toNat
    omega
  unfold min Span.min
  by_cases h : a.span.nanos ≤ b.span.nanos
  · rw [if_pos h, if_pos (horder.mpr h)]
  · rw [if_neg h, if_neg fun hle => h (horder.mp hle)]

/-- The product of the nanoseconds stays within its word. -/
theorem toNat_product (t : WordSpan) (k : UInt32) :
    (t.product k).toNat = t.nanos.toNat * k.toNat := by
  have hfits : t.nanos.toNat * k.toNat < 1000000000 * 2 ^ 32 :=
    Nat.mul_lt_mul'' t.broken k.toNat_lt
  unfold product
  rw [UInt64.toNat_mul, UInt32.toNat_toUInt64, UInt32.toNat_toUInt64]
  exact Nat.mod_eq_of_lt (by omega)

/-- Words multiply as numbers do, and tell when a product is too long. -/
theorem span_times? (t : WordSpan) (k : UInt32) :
    (t.times? k).map span = t.span.times? k.toNat := by
  have hcarry : (t.product k / secondWord).toNat = t.nanos.toNat * k.toNat / 1000000000 := by
    rw [UInt64.toNat_div, toNat_product]
    rfl
  have hrest : (t.product k % secondWord).toUInt32.toNat =
      t.nanos.toNat * k.toNat % 1000000000 := by
    rw [UInt64.toNat_toUInt32, UInt64.toNat_mod, toNat_product]
    show t.nanos.toNat * k.toNat % 1000000000 % 2 ^ 32 = _
    omega
  have hnanos : t.span.nanos * k.toNat =
      t.seconds.toNat * k.toNat * 1000000000 + t.nanos.toNat * k.toNat := by
    show (t.seconds.toNat * 1000000000 + t.nanos.toNat) * k.toNat = _
    rw [Nat.add_mul, Nat.mul_right_comm]
  -- the three products stand for numbers of their own from here on
  generalize t.nanos.toNat * k.toNat = broken at *
  unfold times? checkedMul checkedAdd Span.times? Span.ofNanos?
  rw [hnanos, UInt32.toNat_toUInt64, hcarry]
  unfold Span.limit
  by_cases hwhole : t.seconds.toNat * k.toNat < 2 ^ 64
  · have hmul : (t.seconds * k.toUInt64).toNat = t.seconds.toNat * k.toNat := by
      rw [UInt64.toNat_mul, UInt32.toNat_toUInt64, Nat.mod_eq_of_lt hwhole]
    rw [if_pos hwhole]
    show Option.map span (Option.bind (if _ < _ then _ else _) _) = _
    rw [hmul]
    by_cases hsum : t.seconds.toNat * k.toNat + broken / 1000000000 < 2 ^ 64
    · have hadd : (t.seconds * k.toUInt64 + t.product k / secondWord).toNat =
          t.seconds.toNat * k.toNat + broken / 1000000000 := by
        rw [UInt64.toNat_add, hmul, hcarry, Nat.mod_eq_of_lt hsum]
      rw [if_pos hsum, dif_pos (by omega)]
      refine congrArg some (Span.ext_nanos ?_)
      show (t.seconds * k.toUInt64 + t.product k / secondWord).toNat * 1000000000 +
        (t.product k % secondWord).toUInt32.toNat = t.seconds.toNat * k.toNat * 1000000000 + broken
      rw [hadd, hrest]
      omega
    · rw [if_neg hsum, dif_neg (by omega)]
      rfl
  · rw [if_neg hwhole, dif_neg (by omega)]
    rfl

theorem toNat_factor (count : UInt32) :
    (factor count).toNat = 2 ^ Min.min count.toNat BackoffPolicy.greatestDoubling := by
  have hshift : (Min.min count 31).toNat = Min.min count.toNat BackoffPolicy.greatestDoubling := by
    show (if count ≤ 31 then count else 31).toNat = _
    by_cases h : count ≤ 31
    · have hle : count.toNat ≤ BackoffPolicy.greatestDoubling := UInt32.le_iff_toNat_le.mp h
      rw [if_pos h, Nat.min_eq_left hle]
    · have hlt : BackoffPolicy.greatestDoubling < count.toNat :=
        Nat.lt_of_not_le fun hle => h (UInt32.le_iff_toNat_le.mpr hle)
      rw [if_neg h, Nat.min_eq_right (Nat.le_of_lt hlt)]
      rfl
  have hle : (Min.min count 31).toNat ≤ 31 := hshift ▸ Nat.min_le_right _ _
  have hword : 2 ^ (Min.min count 31).toNat < 2 ^ 32 := Nat.pow_lt_pow_right (by decide) (by omega)
  unfold factor checkedShift
  rw [if_pos (UInt32.lt_iff_toNat_lt.mpr (Nat.lt_succ_of_le hle)), Option.getD_some,
    UInt32.toNat_shiftLeft, Nat.mod_eq_of_lt (by omega : (Min.min count 31).toNat < 32)]
  show 1 <<< _ % 2 ^ 32 = _
  rw [Nat.one_shiftLeft, Nat.mod_eq_of_lt hword, hshift]

/-- **No overflow.** The delay that words give is the delay. -/
theorem span_delay {base cap : WordSpan} {p : BackoffPolicy} (hbase : base.span = p.base)
    (hcap : cap.span = p.cap) (count : UInt32) :
    (delay base cap count).span = p.delay count.toNat := by
  have hfactor : (factor count).toNat =
      Nat.pow 2 (Nat.min count.toNat BackoffPolicy.greatestDoubling) := toNat_factor count
  have htimes := base.span_times? (factor count)
  rw [hfactor, hbase] at htimes
  rw [BackoffPolicy.delay, ← htimes, delay]
  cases base.times? (factor count) with
  | none => exact hcap
  | some t =>
    show (t.min cap).span = t.span.min p.cap
    rw [span_min, hcap]

end WordSpan

/-! ## What is counted -/

namespace Backoff

/-- What the delays of some keys are asked for. -/
inductive Move (κ : Type) where
  | fail (key : κ)
  | forget (key : κ)

variable {κ : Type} [DecidableEq κ]

/-- Whose delay a move is about. -/
def Move.key : Move κ → κ
  | .fail key => key
  | .forget key => key

/-- Whether a move counts a failure. -/
def Move.isFail : Move κ → Bool
  | .fail _ => true
  | .forget _ => false

/-- What is counted after one more move. -/
def step (b : Backoff κ) : Move κ → Backoff κ
  | .fail key => (b.fail key).2
  | .forget key => b.forget key

/-- What is counted after some moves, the newest first. -/
def after (policy : BackoffPolicy) : List (Move κ) → Backoff κ
  | [] => .start policy
  | move :: earlier => (after policy earlier).step move

/-- The failures of a key since it was started over, the newest move first. -/
def failuresSince (key : κ) (moves : List (Move κ)) : Nat :=
  ((moves.filter (·.key = key)).takeWhile Move.isFail).length

variable (policy : BackoffPolicy) (key : κ) (moves : List (Move κ))

theorem failuresSince_cons (move : Move κ) :
    failuresSince key (move :: moves) =
      if move.key = key then if move.isFail then failuresSince key moves + 1 else 0
      else failuresSince key moves := by
  unfold failuresSince
  by_cases hkey : move.key = key
  · cases hfail : move.isFail <;> simp [hkey, hfail]
  · simp [hkey]

theorem policy_step (b : Backoff κ) (move : Move κ) : (b.step move).policy = b.policy := by
  cases move <;> rfl

/-- A move counts for its own key alone. -/
theorem failures_step (b : Backoff κ) (move : Move κ) :
    (b.step move).failures key =
      if move.key = key then
        if move.isFail then min (b.failures key + 1) greatestFailureCount else 0
      else b.failures key := by
  by_cases hkey : move.key = key
  · subst hkey
    cases move with
    | fail key => exact (failures_fail b key key).trans (by simp [Move.key, Move.isFail])
    | forget key => exact (failures_forget b key key).trans (by simp [Move.key, Move.isFail])
  · rw [if_neg hkey]
    cases move with
    | fail other => exact (failures_fail b other key).trans (if_neg (Ne.symm hkey))
    | forget other => exact (failures_forget b other key).trans (if_neg (Ne.symm hkey))

theorem policy_after : (after policy moves).policy = policy := by
  induction moves with
  | nil => rfl
  | cons move earlier ih => exact (policy_step _ move).trans ih

/-- A key is counted by its own failures since it was started over, as far as counting
    goes. -/
theorem failures_after :
    (after policy moves).failures key = min (failuresSince key moves) greatestFailureCount := by
  induction moves with
  | nil => rfl
  | cons move earlier ih =>
    rw [after, failures_step, failuresSince_cons, ih]
    split
    · split
      · omega
      · rfl
    · rfl

/-- The limit of the count cannot be seen in what a failure costs. -/
theorem delay_after :
    ((after policy moves).fail key).1 = policy.delay (failuresSince key moves) := by
  show (after policy moves).policy.delay ((after policy moves).failures key) = _
  rw [policy_after, failures_after, BackoffPolicy.delay_saturated]

end Backoff

/-! ## All delays -/

/-- **Delays.** Of every policy no delay exceeds the cap, no word overflows unnoticed on the
    way to a delay, and a greater count has no smaller delay. As long as the count is at most
    31 the delay is the base doubled so often, or the cap. If the policy comes to its cap by
    then, that is the delay for every count, and after any moves about any keys a failure of
    a key costs the base doubled as often as the key has failed since it was started over,
    or the cap. -/
theorem delays_exact (p : BackoffPolicy) :
    (∀ count, (p.delay count).nanos ≤ p.cap.nanos) ∧
    (∀ count : UInt32, (WordSpan.delay (.ofSpan p.base) (.ofSpan p.cap) count).span =
      p.delay count.toNat) ∧
    (Monotone fun count => (p.delay count).nanos) ∧
    (∀ count ≤ 31, (p.delay count).nanos = min (p.base.nanos * 2 ^ count) p.cap.nanos) ∧
    (p.cap.nanos ≤ p.base.nanos * 2 ^ 31 →
      (∀ count, (p.delay count).nanos = min (p.base.nanos * 2 ^ count) p.cap.nanos) ∧
      ∀ {κ : Type} [DecidableEq κ] (moves : List (Backoff.Move κ)) (key : κ),
        ((Backoff.after p moves).fail key).1.nanos =
          min (p.base.nanos * 2 ^ Backoff.failuresSince key moves) p.cap.nanos) := by
  refine ⟨p.delay_le_cap, fun count => ?_, p.delay_mono, fun count h => p.delay_of_le h,
    fun hreached => ⟨BackoffPolicy.delay_of_reached hreached, fun moves key => ?_⟩⟩
  · exact WordSpan.span_delay (WordSpan.span_ofSpan _) (WordSpan.span_ofSpan _) count
  · rw [Backoff.delay_after]
    exact BackoffPolicy.delay_of_reached hreached _

/-- Five milliseconds doubled twice: a key is not charged for what it did before it was
    started over, nor for what another key does. -/
theorem delays_exact_started_over :
    BackoffPolicy.default.cap.nanos ≤ BackoffPolicy.default.base.nanos * 2 ^ 31 ∧
      ((Backoff.after .default
        [.fail "web", .fail "api", .fail "web", .forget "web", .fail "web"]).fail
          "web").1.nanos = 20 * 1000000 := by
  have hreached : BackoffPolicy.default.cap.nanos ≤ BackoffPolicy.default.base.nanos * 2 ^ 31 := by
    decide
  obtain ⟨-, -, -, -, hwhole⟩ := delays_exact .default
  exact ⟨hreached, (hwhole hreached).2 _ "web"⟩

/-- Of a policy that does not come to its cap the last doubling can be seen. -/
example : (BackoffPolicy.delay ⟨⟨1, by decide⟩, .longest⟩ 32).nanos = 2 ^ 31 := by
  rw [BackoffPolicy.delay_nanos]
  rfl

end CloudSteward
