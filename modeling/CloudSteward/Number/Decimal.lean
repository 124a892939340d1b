import CloudSteward.Text.Integer

/-!
# Decimal numerals

A numeral with a point or an exponent is its digits and a power of ten. Most
numerals are kept in full; one in a document keeps no more of its first digits
than 64 bits can hold.

Results:

* `ofParts_whole`: without fraction and exponent the digits are the number.
* `ofLeadingDigits_eq`: a numeral whose digits fit is kept in full.
-/

namespace CloudSteward.Number

/-- The number `±digits · 10 ^ exponent`; the sign of zero is kept. -/
structure Decimal where
  negative : Bool
  digits : Nat
  exponent : Int
deriving DecidableEq, Repr

namespace Decimal

/-- The value of a run of digits. -/
def digitsNat (cs : List Char) : Nat :=
  (Text.digitsFrom? 0 cs).getD 0

/-- The numeral with the given digits before and after the point and the given
    exponent. -/
def ofParts (negative : Bool) (whole fraction : List Char) (exponent : Int) : Decimal :=
  ⟨negative, digitsNat (whole ++ fraction), exponent - fraction.length⟩

/-- Reads digits behind a number as long as the number fits 64 bits; the number
    and the digits that are left. -/
def leadingDigits (acc : Nat) : List Char → Nat × List Char
  | [] => (acc, [])
  | c :: cs =>
    let next := 10 * acc + (c.toNat - 48)
    if next ≤ Text.maxCount then leadingDigits next cs else (acc, c :: cs)

/-- The numeral with the given parts and with the digits that fit 64 bits. Those
    that are left out before the point still count as places, but they do not
    keep a digit behind the point from being tried. -/
def ofLeadingDigits (negative : Bool) (whole fraction : List Char) (exponent : Int) : Decimal :=
  let (n, dropped) := leadingDigits 0 whole
  let (m, ignored) := leadingDigits n fraction
  ⟨negative, m, exponent + dropped.length - (fraction.length - ignored.length : Nat)⟩

/-- Splits off the digits at the start. -/
def spanDigits (cs : List Char) : List Char × List Char :=
  (cs.takeWhile Char.isDigit, cs.dropWhile Char.isDigit)

/-- The digits behind a point, if there is one. -/
def spanFraction : List Char → List Char × List Char
  | '.' :: cs => spanDigits cs
  | cs => ([], cs)

/-- The exponent behind an `e` or `E`; zero if there is none. Nothing is returned
    for a mark without digits. -/
def spanExponent? : List Char → Option (Int × List Char)
  | [] => some (0, [])
  | c :: cs =>
    if c = 'e' ∨ c = 'E' then
      let (negative, cs) := Text.signed cs
      let (digits, rest) := spanDigits cs
      if digits.isEmpty then none
      else some (if negative then -(digitsNat digits : Int) else digitsNat digits, rest)
    else some (0, c :: cs)

/-- A numeral in full: an optional sign, digits with at most one point, an
    optional exponent. One digit before or after the point is enough. -/
def read? (cs : List Char) : Option Decimal :=
  let (negative, cs) := Text.signed cs
  let (whole, cs) := spanDigits cs
  let (fraction, cs) := spanFraction cs
  if whole.isEmpty && fraction.isEmpty then none
  else
    match spanExponent? cs with
    | some (exponent, []) => some (ofParts negative whole fraction exponent)
    | _ => none

theorem ofParts_whole (negative : Bool) (whole : List Char) :
    ofParts negative whole [] 0 = ⟨negative, digitsNat whole, 0⟩ := by
  simp [ofParts]

theorem le_of_digitsFrom? {acc n : Nat} {cs : List Char} (h : Text.digitsFrom? acc cs = some n) :
    acc ≤ n := by
  induction cs generalizing acc with
  | nil => simp_all [Text.digitsFrom?]
  | cons c cs ih =>
    obtain ⟨d, -, hd⟩ := Option.bind_eq_some_iff.mp h
    have := ih hd
    omega

theorem leadingDigits_eq {acc n : Nat} {cs : List Char} (h : Text.digitsFrom? acc cs = some n)
    (hn : n ≤ Text.maxCount) : leadingDigits acc cs = (n, []) := by
  induction cs generalizing acc with
  | nil =>
    obtain rfl : acc = n := by simpa [Text.digitsFrom?] using h
    rfl
  | cons c cs ih =>
    obtain ⟨d, hc, hd⟩ := Option.bind_eq_some_iff.mp h
    obtain rfl : c.toNat - 48 = d := by
      unfold Text.digit? at hc
      split at hc <;> simp_all
    have := le_of_digitsFrom? hd
    rw [leadingDigits, if_pos (by omega), ih hd]

theorem digitsFrom?_append (acc : Nat) (cs ds : List Char) :
    Text.digitsFrom? acc (cs ++ ds) =
      (Text.digitsFrom? acc cs).bind fun n => Text.digitsFrom? n ds := by
  induction cs generalizing acc with
  | nil => rfl
  | cons c cs ih =>
    simp only [List.cons_append, Text.digitsFrom?]
    cases Text.digit? c with
    | none => rfl
    | some d => exact ih _

theorem ofLeadingDigits_eq (negative : Bool) {whole fraction : List Char} (exponent : Int) {n : Nat}
    (h : Text.digitsFrom? 0 (whole ++ fraction) = some n) (hn : n ≤ Text.maxCount) :
    ofLeadingDigits negative whole fraction exponent =
      ofParts negative whole fraction exponent := by
  have value : digitsNat (whole ++ fraction) = n := by rw [digitsNat, h]; rfl
  rw [digitsFrom?_append] at h
  obtain ⟨m, hm, hf⟩ := Option.bind_eq_some_iff.mp h
  have := le_of_digitsFrom? hf
  simp [ofLeadingDigits, ofParts, value, leadingDigits_eq hm (by omega), leadingDigits_eq hf hn]

end Decimal

end CloudSteward.Number
