/-!
# Decimal integers in text

Worker counts, thresholds and the 64-bit fields of a resource are read from
text: an optional sign, then ASCII digits and nothing else. A value outside the
range of its field is no value. Parts of times and fractions are written with a
fixed number of digits.

Results:

* `digitsValue?_eq_none_iff`: exactly the empty text and a text with a
  character that is no digit have no value.
-/

namespace CloudSteward.Text

/-- The value of a digit. -/
def digit? (c : Char) : Option Nat :=
  if c.isDigit then some (c.toNat - 48) else none

/-- The value of ASCII digits read after a number with value `acc`. -/
def digitsFrom? (acc : Nat) : List Char → Option Nat
  | [] => some acc
  | c :: cs => (digit? c).bind fun d => digitsFrom? (10 * acc + d) cs

/-- The value of one or more ASCII digits. -/
def digitsValue? : List Char → Option Nat
  | [] => none
  | cs => digitsFrom? 0 cs

/-- Splits a leading sign off; the first component tells whether it is `-`. -/
def signed : List Char → Bool × List Char
  | '-' :: cs => (true, cs)
  | '+' :: cs => (false, cs)
  | cs => (false, cs)

/-- The integer written with an optional sign, if it lies in `lo` to `hi`. -/
def integer? (lo hi : Int) (s : String) : Option Int :=
  let (negative, cs) := signed s.toList
  (digitsValue? cs).bind fun n =>
    let v : Int := if negative then -n else n
    if lo ≤ v ∧ v ≤ hi then some v else none

/-- Least 64-bit integer. -/
def minInt64 : Int := -9223372036854775808

/-- Greatest 64-bit integer. -/
def maxInt64 : Int := 9223372036854775807

/-- Greatest count of 64 bits. -/
def maxCount : Nat := 18446744073709551615

/-- A signed 64-bit integer. -/
def int64? (s : String) : Option Int :=
  integer? minInt64 maxInt64 s

/-- A count: an optional `+`, digits, and a value of at most 64 bits. -/
def count? (s : String) : Option Nat :=
  let cs := s.toList
  (digitsValue? (if cs.head? = some '+' then cs.tail else cs)).bind fun n =>
    if n ≤ maxCount then some n else none

/-- The digits of `n` on at least `width` places. -/
def padded (width n : Nat) : String :=
  let s := toString n
  String.ofList (List.replicate (width - s.length) '0') ++ s

/-! ## Laws -/

theorem digitsFrom?_eq_none_iff (acc : Nat) (cs : List Char) :
    digitsFrom? acc cs = none ↔ ∃ c ∈ cs, c.isDigit = false := by
  induction cs generalizing acc with
  | nil => simp [digitsFrom?]
  | cons c cs ih =>
    cases h : c.isDigit <;> simp [digitsFrom?, digit?, h, ih]

theorem digitsValue?_eq_none_iff (cs : List Char) :
    digitsValue? cs = none ↔ cs = [] ∨ ∃ c ∈ cs, c.isDigit = false := by
  cases cs with
  | nil => simp [digitsValue?]
  | cons c cs => simp only [digitsValue?, digitsFrom?_eq_none_iff, reduceCtorEq, false_or]

end CloudSteward.Text
