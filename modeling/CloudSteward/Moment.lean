import CloudSteward.Calendar
import CloudSteward.Number.Decimal
import CloudSteward.Text.Blank

/-!
# Moments

A moment is a second of Universal Time. It is written as date and time of day
with a final `Z` and without a fraction. What is read may be written more
freely: blanks may stand around the parts, a part may have fewer digits, a
space or a `t` may divide date and time, the second may have a fraction, which
does not count, and the time may be that of a zone, given by its distance from
Universal Time. Years beyond four digits have a sign.
-/

namespace CloudSteward

open Text Number

/-- A second of Universal Time. -/
structure Moment where
  /-- Minutes since the start of 1970. -/
  minute : Int
  /-- The second of that minute; the sixtieth is a leap second. -/
  second : Nat
deriving DecidableEq, Repr

namespace Moment

/-- The moment at which a clock shows a date and a time of day, where `offset`
    is the number of minutes that the clock is ahead of Universal Time. -/
def ofLocal (d : Date) (hour minute second : Nat) (offset : Int) : Moment :=
  ⟨1440 * d.number + (60 * hour + minute : Nat) - offset, second⟩

/-- The date of a moment. -/
def date (t : Moment) : Date :=
  .ofNumber (t.minute / 1440)

/-! ## Writing -/

/-- A year: four digits, and a sign if they do not suffice. -/
def encodeYear (y : Int) : String :=
  if 0 ≤ y ∧ y ≤ 9999 then padded 4 y.natAbs
  else (if y < 0 then "-" else "+") ++ padded 4 y.natAbs

/-- A moment as the cluster writes it. -/
def encode (t : Moment) : String :=
  let d := t.date
  let m := (t.minute % 1440).toNat
  encodeYear d.year ++ "-" ++ padded 2 d.month ++ "-" ++ padded 2 d.day ++ "T" ++
    padded 2 (m / 60) ++ ":" ++ padded 2 (m % 60) ++ ":" ++ padded 2 t.second ++ "Z"

/-! ## Reading -/

/-- A number of one to `most` digits. -/
def spanCount? (most : Nat) (cs : List Char) : Option (Nat × List Char) :=
  let digits := (cs.take most).takeWhile Char.isDigit
  (digitsValue? digits).map (·, cs.drop digits.length)

/-- A number of one to `most` digits behind blanks. -/
def spanPart? (most : Nat) (cs : List Char) : Option (Nat × List Char) :=
  spanCount? most (cs.dropWhile isBlank)

/-- The text behind a mark, which may have blanks before it. -/
def afterMark? (mark : Char) (cs : List Char) : Option (List Char) :=
  match cs.dropWhile isBlank with
  | c :: cs => if c = mark then some cs else none
  | [] => none

/-- A year: up to four digits, or a sign and any number of them. -/
def spanYear? (cs : List Char) : Option (Int × List Char) :=
  match cs.dropWhile isBlank with
  | '-' :: cs => (spanCount? cs.length cs).map fun r => (-(r.1 : Int), r.2)
  | '+' :: cs => (spanCount? cs.length cs).map fun r => ((r.1 : Int), r.2)
  | cs => (spanCount? 4 cs).map fun r => ((r.1 : Int), r.2)

/-- A date. -/
def spanDate? (cs : List Char) : Option (Date × List Char) := do
  let (year, cs) ← spanYear? cs
  let (month, cs) ← spanPart? 2 (← afterMark? '-' cs)
  let (day, cs) ← spanPart? 2 (← afterMark? '-' cs)
  let d : Date := ⟨year, month, day⟩
  if d.isValid then some (d, cs) else none

/-- What follows the separator of date and time. -/
def afterSeparator? : List Char → Option (List Char)
  | 'T' :: cs | 't' :: cs | ' ' :: cs => some cs
  | _ => none

/-- The text behind a fraction, if there is one; a point needs a digit behind
    it. -/
def afterFraction? : List Char → Option (List Char)
  | '.' :: cs =>
    let (digits, rest) := Decimal.spanDigits cs
    if digits.isEmpty then none else some rest
  | cs => some cs

/-- Hour, minute and second. -/
def spanTime? (cs : List Char) : Option ((Nat × Nat × Nat) × List Char) := do
  let (hour, cs) ← spanPart? 2 cs
  let (minute, cs) ← spanPart? 2 (← afterMark? ':' cs)
  let (second, cs) ← spanPart? 2 (← afterMark? ':' cs)
  if hour ≤ 23 ∧ minute ≤ 59 ∧ second ≤ 60 then some ((hour, minute, second), ← afterFraction? cs)
  else none

/-- A number of exactly two digits. -/
def spanTwo? : List Char → Option (Nat × List Char)
  | a :: b :: cs => (digitsValue? [a, b]).map (·, cs)
  | _ => none

/-- Hours and minutes of an offset, in minutes. Colons and blanks may stand
    between them. -/
def spanOffset? (cs : List Char) : Option (Nat × List Char) := do
  let (hours, cs) ← spanTwo? cs
  let (minutes, cs) ← spanTwo? (cs.dropWhile fun c => c = ':' || isBlank c)
  if hours ≤ 23 ∧ minutes ≤ 59 then some (60 * hours + minutes, cs) else none

/-- The distance of a zone from Universal Time, in minutes. -/
def spanZone? (cs : List Char) : Option (Int × List Char) :=
  match cs.dropWhile isBlank with
  | 'Z' :: cs | 'z' :: cs => some (0, cs)
  | '+' :: cs => (spanOffset? cs).map fun r => ((r.1 : Int), r.2)
  | '-' :: cs | '−' :: cs => (spanOffset? cs).map fun r => (-(r.1 : Int), r.2)
  | a :: b :: c :: cs =>
    if [a, b, c].map Char.toUpper = ['U', 'T', 'C'] then some (0, cs) else none
  | _ => none

/-- Reads a moment. -/
def decode? (s : String) : Option Moment := do
  let (date, cs) ← spanDate? s.toList
  let ((hour, minute, second), cs) ← spanTime? (← afterSeparator? cs)
  let (offset, rest) ← spanZone? cs
  if rest.all isBlank then some (ofLocal date hour minute second offset) else none

end Moment

end CloudSteward
