import CloudSteward.Json.Record
import CloudSteward.Span
import Mathlib.Algebra.Group.Nat.Defs
import Mathlib.Data.List.TakeWhile

/-!
# Numerals that are written and read again

A 64-bit field may hold a number or its decimal text, and a span of whole
seconds is written as the decimal text of the seconds. Reading such a text goes
through a sign, through digits and, for a span, through a number of binary64
precision; none of this may change the number.

Results:

* `integer?_toString`: the decimal text of an integer is read as that integer,
  and only its range can refuse it.
* `int64OrText?_toString`: a 64-bit field takes a number and its decimal text
  alike.
* `ofRatio?_exact`: whole numbers up to 2^53 have magnitudes that are not
  rounded.
* `decode?_encode`: a span of at most 2^53 whole seconds is read back.
-/

namespace CloudSteward

/-! ## Digits -/

namespace Text

theorem digitsFrom?_eq_ofDigitChars {cs : List Char} (h : ∀ c ∈ cs, c.isDigit = true)
    (acc : Nat) : digitsFrom? acc cs = some (Nat.ofDigitChars 10 cs acc) := by
  induction cs generalizing acc with
  | nil => rfl
  | cons c cs ih =>
    have hc : digit? c = some (c.toNat - 48) := if_pos (h c List.mem_cons_self)
    rw [digitsFrom?, hc, Option.bind_some, ih fun d hd => h d (List.mem_cons_of_mem _ hd),
      Nat.ofDigitChars_cons]
    rfl

theorem isDigit_of_mem {n : Nat} {c : Char} (h : c ∈ Nat.toDigits 10 n) : c.isDigit = true :=
  Nat.isDigit_of_mem_toDigits (by decide) (by decide) h

theorem digitsFrom?_toDigits (n : Nat) : digitsFrom? 0 (Nat.toDigits 10 n) = some n := by
  rw [digitsFrom?_eq_ofDigitChars fun _ => isDigit_of_mem, Nat.ofDigitChars_ten_toDigits]

theorem digitsValue?_toDigits (n : Nat) : digitsValue? (Nat.toDigits 10 n) = some n := by
  have value := digitsFrom?_toDigits n
  cases digits : Nat.toDigits 10 n with
  | nil => exact absurd digits Nat.toDigits_ne_nil
  | cons c cs => rwa [digits] at value

/-- A text of digits has no sign. -/
theorem signed_toDigits (n : Nat) :
    signed (Nat.toDigits 10 n) = (false, Nat.toDigits 10 n) := by
  have all := fun c => isDigit_of_mem (n := n) (c := c)
  cases digits : Nat.toDigits 10 n with
  | nil => rfl
  | cons c cs =>
    have hc : c.isDigit = true := all c (by simp [digits])
    unfold signed
    split
    · simp_all
    · simp_all
    · rfl

theorem toList_toString (n : Nat) : (toString n).toList = Nat.toDigits 10 n := Nat.toList_repr

/-- Only its range can refuse the decimal text of an integer. -/
theorem integer?_toString (lo hi n : Int) :
    integer? lo hi (toString n) = if lo ≤ n ∧ n ≤ hi then some n else none := by
  cases n with
  | ofNat m =>
    have text : (toString (m : Int)).toList = Nat.toDigits 10 m := toList_toString m
    simp only [integer?, Int.ofNat_eq_natCast, text, signed_toDigits, digitsValue?_toDigits,
      Option.bind_some, Bool.false_eq_true, if_false]
  | negSucc m =>
    have text : (toString (Int.negSucc m)).toList = '-' :: Nat.toDigits 10 (m + 1) := by
      simp [Int.toString_eq_repr, Int.repr]
    have value : (-((m + 1 : Nat) : Int)) = Int.negSucc m := rfl
    simp only [integer?, text, signed, digitsValue?_toDigits, Option.bind_some, if_true, value]

end Text

namespace Json

/-- A 64-bit field takes a number and its decimal text alike. -/
theorem int64OrText?_toString (n : Int) :
    int64OrText? (.str (toString n)) = int64OrText? (.int n) := by
  rw [int64OrText?, Text.int64?, Text.integer?_toString]
  rfl

end Json

/-! ## Magnitudes -/

namespace Number

theorem roundDiv_mul (n : Nat) {den : Nat} (h : 0 < den) : roundDiv (n * den) den = n := by
  simp [roundDiv, Nat.mul_div_cancel n h, h]

theorem Decimal.read?_toDigits (n : Nat) :
    Decimal.read? (Nat.toDigits 10 n) = some ⟨false, n, 0⟩ := by
  have all : ∀ c ∈ Nat.toDigits 10 n, c.isDigit = true := fun _ => Text.isDigit_of_mem
  have span : spanDigits (Nat.toDigits 10 n) = (Nat.toDigits 10 n, []) := by
    rw [spanDigits, List.takeWhile_eq_self_iff.mpr all, List.dropWhile_eq_nil_iff.mpr all]
  have some_digit : (Nat.toDigits 10 n).isEmpty = false :=
    List.isEmpty_eq_false_iff.mpr Nat.toDigits_ne_nil
  simp only [read?, Text.signed_toDigits, span, spanFraction, some_digit, spanExponent?,
    Bool.false_and, Bool.false_eq_true, if_false, ofParts_whole, digitsNat,
    Text.digitsFrom?_toDigits, Option.getD_some]

namespace Binary64

theorem scale_neg (num den k : Nat) : scale num den (-(k : Int)) = (num * 2 ^ k, den) := by
  unfold scale
  cases k with
  | zero => simp
  | succ k =>
    rw [if_pos (by omega), Int.neg_neg, Int.toNat_natCast]
    rfl

/-- A number below 2^53 has a full mantissa when it is shifted up to 53 bits. -/
theorem exponentFor_one {n : Nat} (hn : n ≠ 0) (h : n < 2 ^ 53) :
    exponentFor n 1 = -((52 - Nat.log2 n : Nat) : Int) := by
  have small : Nat.log2 n < 53 := (Nat.log2_lt hn).mpr h
  have full : Nat.pow 2 precision ≤ n * 2 ^ (53 - Nat.log2 n) / 1 :=
    calc 2 ^ 53 = 2 ^ Nat.log2 n * 2 ^ (53 - Nat.log2 n) := by
          rw [← Nat.pow_add]; congr 1; omega
      _ ≤ n * 2 ^ (53 - Nat.log2 n) := Nat.mul_le_mul_right _ (Nat.log2_self_le hn)
      _ = n * 2 ^ (53 - Nat.log2 n) / 1 := (Nat.div_one _).symm
  have start : (Nat.log2 n : Int) - (Nat.log2 1 : Nat) - (precision : Nat) =
      -((53 - Nat.log2 n : Nat) : Int) := by
    have : Nat.log2 1 = 0 := by decide
    unfold precision
    omega
  rw [exponentFor, start, scale_neg]
  simp only [full, if_true, minExponent]
  omega

/-- A number below 2^53 is the mantissa of its magnitude, shifted up to 53 bits. -/
theorem ofRatio?_one {n : Nat} (hn : n ≠ 0) (h : n < 2 ^ 53) :
    ofRatio? n 1 = some ⟨n * 2 ^ (52 - Nat.log2 n), -((52 - Nat.log2 n : Nat) : Int)⟩ := by
  have small : Nat.log2 n < 53 := (Nat.log2_lt hn).mpr h
  have mantissa : n * 2 ^ (52 - Nat.log2 n) < 2 ^ 53 :=
    calc n * 2 ^ (52 - Nat.log2 n)
        < 2 ^ (Nat.log2 n + 1) * 2 ^ (52 - Nat.log2 n) :=
          Nat.mul_lt_mul_of_pos_right Nat.lt_log2_self (Nat.two_pow_pos _)
      _ = 2 ^ 53 := by rw [← Nat.pow_add]; congr 1; omega
  have finite : ¬ Nat.pow 2 1024 ≤
      n * 2 ^ (52 - Nat.log2 n) * Nat.pow 2 (-((52 - Nat.log2 n : Nat) : Int)).toNat := by
    have flat : (-((52 - Nat.log2 n : Nat) : Int)).toNat = 0 := by omega
    have once : Nat.pow 2 0 = 1 := rfl
    have below : ∀ e, 53 < e → n * 2 ^ (52 - Nat.log2 n) < Nat.pow 2 e := fun e he =>
      Nat.lt_trans mantissa (Nat.pow_lt_pow_right (by decide) he)
    rw [flat, once, Nat.mul_one, Nat.not_le]
    exact below 1024 (by decide)
  have exact_quotient := roundDiv_mul (n * 2 ^ (52 - Nat.log2 n)) Nat.one_pos
  rw [Nat.mul_one] at exact_quotient
  simp only [ofRatio?, hn, exponentFor_one hn h, scale_neg, exact_quotient, finite, if_false]

/-- Whole numbers up to 2^53 are not rounded. -/
theorem ofRatio?_exact {n : Nat} (h : n ≤ 2 ^ 53) :
    ∃ x, ofRatio? n 1 = some x ∧ x.toRatio.1 = n * x.toRatio.2 := by
  rcases Nat.eq_zero_or_pos n with rfl | hn
  · exact ⟨⟨0, 0⟩, ofRatio?_zero 1, by decide⟩
  rcases Nat.eq_or_lt_of_le h with rfl | h
  · exact ⟨⟨2 ^ 52, 1⟩, by decide +kernel, by decide +kernel⟩
  refine ⟨_, ofRatio?_one (Nat.ne_of_gt hn) h, ?_⟩
  unfold toRatio
  split
  · rw [Int.neg_neg, Int.toNat_natCast]
    rfl
  · rename_i flat
    have none : 52 - Nat.log2 n = 0 := by simp only at flat; omega
    simp [none]

/-- A numeral without point and exponent is rounded as the whole number it is. -/
theorem ofDecimal?_whole (negative : Bool) {n : Nat} {x : Binary64} (h : ofRatio? n 1 = some x) :
    ofDecimal? ⟨negative, n, 0⟩ = some x := by
  by_cases hn : n = 0
  · subst hn
    rwa [ofRatio?_zero] at h
  · have inside : ¬ (0 : Int) + (Nat.log2 n / 3 + 1 : Nat) < leastPower := by
      unfold leastPower
      omega
    simp only [ofDecimal?, hn, inside, if_false]
    simpa [greatestPower] using h

end Binary64

end Number

/-! ## Spans -/

namespace Span

/-- A whole number of seconds, not above 2^53. -/
def IsWhole (t : Span) : Prop :=
  t.subsecond = 0 ∧ t.seconds ≤ 2 ^ 53

instance (t : Span) : Decidable t.IsWhole := inferInstanceAs (Decidable (_ ∧ _))

theorem IsWhole.nanos {t : Span} (h : t.IsWhole) : t.seconds * 1000000000 = t.nanos := by
  have := h.1
  unfold subsecond at this
  unfold seconds
  omega

/-- A magnitude that is a whole number of seconds is read without rounding. -/
theorem ofMagnitude?_exact {x : Number.Binary64} {n : Nat} (h : x.toRatio.1 = n * x.toRatio.2) :
    ofMagnitude? x = ofNanos? (n * 1000000000) := by
  have swap : x.toRatio.1 * 1000000000 = n * 1000000000 * x.toRatio.2 := by
    rw [h, Nat.mul_right_comm]
  show ofNanos? (Number.roundDiv (x.toRatio.1 * 1000000000) x.toRatio.2) = _
  rw [swap, Number.roundDiv_mul _ x.toRatio_pos]

theorem encode_of_isWhole {t : Span} (h : t.IsWhole) : t.encode = toString t.seconds ++ "s" :=
  if_pos h.1

theorem stem?_append (cs : List Char) : stem? (cs ++ ['s']) = some cs := by
  simp [stem?]

theorem stem?_encode {t : Span} (h : t.IsWhole) :
    stem? t.encode.toList = some (Nat.toDigits 10 t.seconds) := by
  have suffix : "s".toList = ['s'] := rfl
  rw [encode_of_isWhole h, String.toList_append, Text.toList_toString, suffix, stem?_append]

/-- A text whose parts can be read and that has no minus is read as its magnitude. -/
theorem decode?_of_magnitude {s : String} {cs : List Char} {d : Number.Decimal}
    {x : Number.Binary64} (stem : stem? s.toList = some cs)
    (numeral : Number.Decimal.read? cs = some d) (no_minus : d.negative = false)
    (magnitude : Number.Binary64.ofDecimal? d = some x) : decode? s = ofMagnitude? x := by
  simp only [decode?, stem, numeral, magnitude, Option.bind_eq_bind, Option.bind_some]
  exact if_neg (by simp [no_minus])

/-- Whole seconds are read back as they were written. -/
theorem decode?_encode {t : Span} (h : t.IsWhole) : decode? t.encode = some t := by
  obtain ⟨x, rounded, exact_ratio⟩ := Number.Binary64.ofRatio?_exact h.2
  have magnitude := Number.Binary64.ofDecimal?_whole false rounded
  rw [decode?_of_magnitude (stem?_encode h) (Number.Decimal.read?_toDigits _) rfl magnitude,
    ofMagnitude?_exact exact_ratio, h.nanos, ofNanos?_nanos]

end Span

end CloudSteward
