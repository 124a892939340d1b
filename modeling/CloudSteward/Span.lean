import CloudSteward.Number.Binary64

/-!
# Spans of time

A span is a number of nanoseconds below 2^64 seconds. It occurs in three
spellings:

* in resources, as decimal seconds with the suffix `s`: whole seconds without a
  point, anything else with three decimals (`Span.encode`, `Span.decode?`);
* in messages, in the greatest unit that is not below one (`Span.describe`);
* in settings of the retry policy, as milliseconds.

Results:

* `ext_nanos`: spans with the same nanoseconds are equal.
* `min_le_right`: the smaller of two spans is at most the second.
-/

namespace CloudSteward

/-- The first length that is too long for a span, in nanoseconds. -/
def Span.limit : Nat := 18446744073709551616 * 1000000000

/-- A span of time below 2^64 seconds, in nanoseconds. -/
structure Span where
  nanos : Nat
  bounded : nanos < Span.limit := by decide
deriving DecidableEq, Repr

namespace Span

/-- The span of `n` nanoseconds, if it is short enough. -/
def ofNanos? (n : Nat) : Option Span :=
  if h : n < limit then some ⟨n, h⟩ else none

/-- The longest span. -/
def longest : Span where
  nanos := limit - 1

/-- The span of `n` nanoseconds, or the longest span if that is too long. -/
def ofNanos (n : Nat) : Span :=
  (ofNanos? n).getD longest

/-- The span of `n` milliseconds, or the longest span. -/
def ofMillis (n : Nat) : Span :=
  ofNanos (n * 1000000)

/-- The span of `n` seconds, or the longest span. -/
def ofSeconds (n : Nat) : Span :=
  ofNanos (n * 1000000000)

/-- The whole seconds of a span. -/
def seconds (t : Span) : Nat :=
  t.nanos / 1000000000

/-- The whole milliseconds of a span. -/
def millis (t : Span) : Nat :=
  t.nanos / 1000000

/-- The nanoseconds of a span beyond its whole seconds. -/
def subsecond (t : Span) : Nat :=
  t.nanos % 1000000000

/-- The shorter of two spans. -/
def min (a b : Span) : Span :=
  if a.nanos ≤ b.nanos then a else b

/-- `k` times a span, if that is short enough. -/
def times? (t : Span) (k : Nat) : Option Span :=
  ofNanos? (t.nanos * k)

/-! ## Seconds in resources -/

/-- The span of a magnitude in seconds, to the nearest nanosecond. -/
def ofMagnitude? (x : Number.Binary64) : Option Span :=
  let (n, d) := x.toRatio
  ofNanos? (Number.roundDiv (n * 1000000000) d)

/-- The seconds of a span as a magnitude: whole and broken seconds are rounded
    on their own, and so is their sum. -/
def toMagnitude? (t : Span) : Option Number.Binary64 :=
  match Number.Binary64.ofRatio? t.seconds 1, Number.Binary64.ofRatio? t.subsecond 1000000000 with
  | some whole, some broken => whole.add? broken
  | _, _ => none

/-- A magnitude with three decimals. -/
def threeDecimals (x : Number.Binary64) : String :=
  let (n, d) := x.toRatio
  let m := Number.roundDiv (n * 1000) d
  s!"{m / 1000}." ++ Text.padded 3 (m % 1000)

/-- A span as a resource writes it. -/
def encode (t : Span) : String :=
  if t.subsecond = 0 then s!"{t.seconds}s"
  else (t.toMagnitude?.map threeDecimals).getD "" ++ "s"

/-- The text before a final `s`. -/
def stem? (cs : List Char) : Option (List Char) :=
  match cs.reverse with
  | 's' :: rest => some rest.reverse
  | _ => none

/-- Reads a span of a resource. A negative number is no span, but a negative
    number that rounds to zero is the empty one. -/
def decode? (s : String) : Option Span := do
  let d ← Number.Decimal.read? (← stem? s.toList)
  let x ← Number.Binary64.ofDecimal? d
  if d.negative && x.mantissa ≠ 0 then none else ofMagnitude? x

/-! ## Spans in messages -/

/-- A number with the digits of `part` behind its point, where `width` is the
    number of places of `part`; zeros at the end are left out. -/
def withPlaces (whole part width : Nat) : String :=
  let kept := ((Text.padded width part).toList.reverse.dropWhile (· = '0')).reverse
  if kept.isEmpty then toString whole else toString whole ++ "." ++ String.ofList kept

/-- A span in the greatest unit of which it holds at least one. -/
def describe (t : Span) : String :=
  if 1000000000 ≤ t.nanos then withPlaces t.seconds t.subsecond 9 ++ "s"
  else if 1000000 ≤ t.nanos then withPlaces (t.nanos / 1000000) (t.nanos % 1000000) 6 ++ "ms"
  else if 1000 ≤ t.nanos then withPlaces (t.nanos / 1000) (t.nanos % 1000) 3 ++ "µs"
  else toString t.nanos ++ "ns"

/-! ## Laws -/

theorem ext_nanos {a b : Span} (h : a.nanos = b.nanos) : a = b := by
  cases a
  cases b
  cases h
  rfl

theorem min_le_right (a b : Span) : (a.min b).nanos ≤ b.nanos := by
  unfold min
  split
  · assumption
  · exact Nat.le_refl _

theorem min_nanos (a b : Span) : (a.min b).nanos = Nat.min a.nanos b.nanos := by
  unfold min
  split
  · rename_i h
    exact (Nat.min_eq_left h).symm
  · rename_i h
    exact (Nat.min_eq_right (Nat.le_of_not_le h)).symm

theorem ofNanos?_nanos (t : Span) : ofNanos? t.nanos = some t := by
  simp [ofNanos?, t.bounded]

end Span

end CloudSteward
