import CloudSteward.Json.Value

/-!
# Reading JSON text

The reader takes a text apart from the left; every function returns what it
read and the characters that follow. The grammar is the strict one: blanks are
the space, tab, line feed and carriage return, a number has no leading zero, a
text has no raw control character, and nothing but blanks follows the document.

An escape for half a surrogate pair is well formed. A document that holds one
can be read; only the text or object it stands in has no value.

Results:

* `read?_nil`: there is no document in the empty text.
-/

namespace CloudSteward.Json

open Number

/-! ## Lexical parts -/

/-- The characters that may stand between two tokens. -/
def isSeparator (c : Char) : Bool :=
  c == ' ' || c == '\t' || c == '\n' || c == '\r'

/-- The text behind the blanks at its start. -/
def skipBlanks (cs : List Char) : List Char :=
  cs.dropWhile isSeparator

/-- The value of a hexadecimal digit of either case. -/
def hexDigit? (c : Char) : Option Nat :=
  if '0' ≤ c ∧ c ≤ '9' then some (c.toNat - 48)
  else if 'a' ≤ c ∧ c ≤ 'f' then some (c.toNat - 87)
  else if 'A' ≤ c ∧ c ≤ 'F' then some (c.toNat - 55)
  else none

/-- The 16-bit unit written by four hexadecimal digits. -/
def unit? (a b c d : Char) : Option Nat := do
  return 4096 * (← hexDigit? a) + 256 * (← hexDigit? b) + 16 * (← hexDigit? c) + (← hexDigit? d)

/-- The character of a short escape. -/
def shortEscape? (c : Char) : Option Char :=
  match c with
  | '"' => some '"'
  | '\\' => some '\\'
  | '/' => some '/'
  | 'b' => some '\x08'
  | 'f' => some '\x0c'
  | 'n' => some '\n'
  | 'r' => some '\r'
  | 't' => some '\t'
  | _ => none

/-- Whether a unit is the first half of a pair. -/
def isHighHalf (n : Nat) : Bool := 0xD800 ≤ n && n < 0xDC00

/-- Whether a unit is the second half of a pair. -/
def isLowHalf (n : Nat) : Bool := 0xDC00 ≤ n && n < 0xE000

/-- The character of a surrogate pair. -/
def pairChar (high low : Nat) : Char :=
  Char.ofNat (0x10000 + (high - 0xD800) * 0x400 + (low - 0xDC00))

/-- The units of a text up to its closing quote: characters as they stand, and
    the units of `\u` escapes. -/
def readUnits? : List Char → Option (List (Char ⊕ Nat) × List Char)
  | [] => none
  | '"' :: rest => some ([], rest)
  | '\\' :: 'u' :: a :: b :: c :: d :: rest =>
    (unit? a b c d).bind fun n => (readUnits? rest).map fun r => (.inr n :: r.1, r.2)
  | '\\' :: c :: rest =>
    (shortEscape? c).bind fun e => (readUnits? rest).map fun r => (.inl e :: r.1, r.2)
  | c :: rest =>
    if c.toNat < 0x20 || c == '\\' then none
    else (readUnits? rest).map fun r => (.inl c :: r.1, r.2)

/-- The characters of a list of units; nothing if a half has no partner. -/
def pairUnits? : List (Char ⊕ Nat) → Option (List Char)
  | [] => some []
  | .inl c :: rest => (pairUnits? rest).map (c :: ·)
  | .inr n :: rest =>
    if isHighHalf n then
      match rest with
      | .inr m :: rest => if isLowHalf m then (pairUnits? rest).map (pairChar n m :: ·) else none
      | _ => none
    else if isLowHalf n then none
    else (pairUnits? rest).map (Char.ofNat n :: ·)

/-- A text behind its opening quote. The inner option is empty if the text holds
    half a pair. -/
def readText? (cs : List Char) : Option (Option String × List Char) :=
  (readUnits? cs).map fun r => ((pairUnits? r.1).map String.ofList, r.2)

/-- The digits before the point: a zero alone, or digits that start with
    another. -/
def spanWhole? (cs : List Char) : Option (List Char × List Char) :=
  match cs with
  | '0' :: rest => if (rest.head?.map Char.isDigit).getD false then none else some (['0'], rest)
  | _ =>
    let (digits, rest) := Decimal.spanDigits cs
    if digits.isEmpty then none else some (digits, rest)

/-- A fraction, if a point follows; a point needs a digit behind it. -/
def spanPlaces? (cs : List Char) : Option (Option (List Char) × List Char) :=
  match cs with
  | '.' :: rest =>
    let (digits, rest) := Decimal.spanDigits rest
    if digits.isEmpty then none else some (some digits, rest)
  | _ => some (none, cs)

/-- Whether an exponent follows. -/
def startsExponent (cs : List Char) : Bool :=
  cs.head? == some 'e' || cs.head? == some 'E'

/-- A number. -/
def readNumber? (cs : List Char) : Option (Json × List Char) := do
  let negative := cs.head? == some '-'
  let (whole, cs) ← spanWhole? (if negative then cs.tail else cs)
  let (fraction, cs) ← spanPlaces? cs
  let (exponent, rest) ← Decimal.spanExponent? cs
  if fraction.isNone && !startsExponent cs then
    return (ofWhole negative whole, rest)
  else
    return (.decimal (.ofLeadingDigits negative whole (fraction.getD []) exponent), rest)

/-- The text behind a given word, if it starts with that word. -/
def afterWord? : List Char → List Char → Option (List Char)
  | [], cs => some cs
  | w :: ws, c :: cs => if w = c then afterWord? ws cs else none
  | _ :: _, [] => none

/-! ## Documents -/

/-- An object of the members read; a key without a value makes it unreadable. -/
def objectOf (members : List (Option String × Json)) : Json :=
  match members.mapM fun m => m.1.map (·, m.2) with
  | some members => .obj members
  | none => .unpaired

mutual

/-- A value. The first argument bounds the nesting and the length. -/
def readValue? : Nat → List Char → Option (Json × List Char)
  | 0, _ => none
  | fuel + 1, cs =>
    match skipBlanks cs with
    | [] => none
    | '"' :: rest =>
      (readText? rest).map fun r => ((r.1.map Json.str).getD .unpaired, r.2)
    | '[' :: rest =>
      match skipBlanks rest with
      | ']' :: rest => some (.arr [], rest)
      | _ => (readItems? fuel rest).map fun r => (.arr r.1, r.2)
    | '\x7b' :: rest =>
      match skipBlanks rest with
      | '\x7d' :: rest => some (.obj [], rest)
      | _ => (readMembers? fuel rest).map fun r => (objectOf r.1, r.2)
    | 't' :: rest => (afterWord? ['r', 'u', 'e'] rest).map (.bool true, ·)
    | 'f' :: rest => (afterWord? ['a', 'l', 's', 'e'] rest).map (.bool false, ·)
    | 'n' :: rest => (afterWord? ['u', 'l', 'l'] rest).map (.null, ·)
    | cs => readNumber? cs

/-- The items of an array up to its end. -/
def readItems? : Nat → List Char → Option (List Json × List Char)
  | 0, _ => none
  | fuel + 1, cs =>
    (readValue? fuel cs).bind fun r =>
      match skipBlanks r.2 with
      | ']' :: rest => some ([r.1], rest)
      | ',' :: rest => (readItems? fuel rest).map fun s => (r.1 :: s.1, s.2)
      | _ => none

/-- The members of an object up to its end. -/
def readMembers? : Nat → List Char → Option (List (Option String × Json) × List Char)
  | 0, _ => none
  | fuel + 1, cs =>
    match skipBlanks cs with
    | '"' :: rest =>
      (readText? rest).bind fun k =>
        match skipBlanks k.2 with
        | ':' :: rest =>
          (readValue? fuel rest).bind fun r =>
            match skipBlanks r.2 with
            | '\x7d' :: rest => some ([(k.1, r.1)], rest)
            | ',' :: rest => (readMembers? fuel rest).map fun s => ((k.1, r.1) :: s.1, s.2)
            | _ => none
        | _ => none
    | _ => none

end

/-- The document that a text holds. Each step of the reader consumes a character
    at least every second time, which bounds the number of steps. -/
def read? (s : String) : Option Json :=
  let cs := s.toList
  match readValue? (2 * cs.length + 2) cs with
  | some (j, rest) => if (skipBlanks rest).isEmpty then some j else none
  | none => none

theorem read?_nil : read? "" = none := by
  simp [read?, readValue?, skipBlanks]

end CloudSteward.Json
