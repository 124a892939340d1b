import CloudSteward.Number.Decimal
import CloudSteward.Number.Rounding

/-!
# Numbers of binary64 precision

A duration in a resource is a decimal text that passes through a binary64
number on its way to nanoseconds and back, and a document keeps a number with a
point or an exponent as a binary64 number. Only magnitudes occur: a magnitude
of that precision is `mantissa · 2 ^ exponent` with a mantissa of at most 53
bits. All arithmetic is exact on quotients of natural numbers, and only
`ofRatio?` rounds: to the nearest number, to an even mantissa in a tie.

Results:

* `ofRatio?_zero`: zero stays zero.
* `toRatio_pos`: the denominator of `toRatio` is positive.
-/

namespace CloudSteward.Number

/-- The magnitude `mantissa · 2 ^ exponent`. -/
structure Binary64 where
  mantissa : Nat
  exponent : Int
deriving DecidableEq, Repr

namespace Binary64

/-- Exponent of the least magnitude above zero. -/
def minExponent : Int := -1074

/-- Number of bits of a full mantissa. -/
def precision : Nat := 53

/-- `num / den · 2 ^ (-e)` as a quotient of natural numbers. -/
def scale (num den : Nat) (e : Int) : Nat × Nat :=
  if e < 0 then (num * Nat.pow 2 (-e).toNat, den) else (num, den * Nat.pow 2 e.toNat)

/-- The exponent at which `num / den` has a full mantissa, or the least exponent
    if that is greater. -/
def exponentFor (num den : Nat) : Int :=
  let e : Int := (Nat.log2 num : Int) - (Nat.log2 den : Int) - precision
  let (n, d) := scale num den e
  max minExponent (if Nat.pow 2 precision ≤ n / d then e + 1 else e)

/-- The magnitude nearest to `num / den`; nothing if it lies beyond the greatest
    finite one. -/
def ofRatio? (num den : Nat) : Option Binary64 :=
  if num = 0 then some ⟨0, 0⟩
  else
    let e := exponentFor num den
    let (n, d) := scale num den e
    let m := roundDiv n d
    if Nat.pow 2 1024 ≤ m * Nat.pow 2 e.toNat then none else some ⟨m, e⟩

/-- The magnitude as a quotient of natural numbers. -/
def toRatio (x : Binary64) : Nat × Nat :=
  if x.exponent < 0 then (x.mantissa, Nat.pow 2 (-x.exponent).toNat)
  else (x.mantissa * Nat.pow 2 x.exponent.toNat, 1)

/-- Powers of ten beyond this are beyond every finite magnitude. -/
def greatestPower : Int := 400

/-- Powers of ten below this round to zero. -/
def leastPower : Int := -330

/-- The magnitude nearest to a decimal numeral. The two outer tests only spare
    powers of ten that decide the result by their size. -/
def ofDecimal? (d : Decimal) : Option Binary64 :=
  if d.digits = 0 then some ⟨0, 0⟩
  else if greatestPower < d.exponent then none
  else if d.exponent + (Nat.log2 d.digits / 3 + 1 : Nat) < leastPower then some ⟨0, 0⟩
  else if d.exponent < 0 then ofRatio? d.digits (Nat.pow 10 (-d.exponent).toNat)
  else ofRatio? (d.digits * Nat.pow 10 d.exponent.toNat) 1

/-- The sum of two magnitudes, rounded. -/
def add? (x y : Binary64) : Option Binary64 :=
  let (n, d) := x.toRatio
  let (k, l) := y.toRatio
  ofRatio? (n * l + k * d) (d * l)

/-- The product of two magnitudes, rounded. -/
def mul? (x y : Binary64) : Option Binary64 :=
  let (n, d) := x.toRatio
  let (k, l) := y.toRatio
  ofRatio? (n * k) (d * l)

/-- The quotient of two magnitudes, rounded. -/
def div? (x y : Binary64) : Option Binary64 :=
  let (n, d) := x.toRatio
  let (k, l) := y.toRatio
  ofRatio? (n * l) (d * k)

/-! ## Numbers of documents -/

/-- The greatest power of ten with a finite magnitude. -/
def greatestScale : Nat := 308

/-- The magnitude nearest to a power of ten. -/
def powerOfTen? (n : Nat) : Option Binary64 :=
  ofRatio? (Nat.pow 10 n) 1

/-- A magnitude divided by a power of ten. A power without a magnitude is
    divided by in steps, each of which rounds. -/
def scaleDown? (x : Binary64) (n : Nat) : Option Binary64 :=
  if n ≤ greatestScale then (powerOfTen? n).bind x.div?
  else if x.mantissa = 0 then some x
  else ((powerOfTen? greatestScale).bind x.div?).bind (scaleDown? · (n - greatestScale))
termination_by n
decreasing_by
  unfold greatestScale at *
  omega

/-- The magnitude of a number of a document. The digits and the power of ten are
    rounded before they are multiplied, so the result may be next to the nearest
    magnitude, and the greatest numerals have none. -/
def ofScaled? (d : Decimal) : Option Binary64 :=
  (ofRatio? d.digits 1).bind fun x =>
    if d.exponent < 0 then x.scaleDown? (-d.exponent).toNat
    else if d.exponent ≤ greatestScale then (powerOfTen? d.exponent.toNat).bind x.mul?
    else if x.mantissa = 0 then some x
    else none

/-- A magnitude as a decimal numeral, which is always possible without
    rounding. -/
def toDecimal (negative : Bool) (x : Binary64) : Decimal :=
  if x.exponent < 0 then
    ⟨negative, x.mantissa * Nat.pow 5 (-x.exponent).toNat, x.exponent⟩
  else ⟨negative, x.mantissa * Nat.pow 2 x.exponent.toNat, 0⟩

theorem ofRatio?_zero (den : Nat) : ofRatio? 0 den = some ⟨0, 0⟩ := by
  simp [ofRatio?]

theorem toRatio_pos (x : Binary64) : 0 < x.toRatio.2 := by
  unfold toRatio
  split
  · exact Nat.pow_pos (by decide)
  · exact Nat.one_pos

end Binary64

end CloudSteward.Number
