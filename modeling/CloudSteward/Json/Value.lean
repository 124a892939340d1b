import CloudSteward.Number.Decimal
import CloudSteward.Number.Binary64
import CloudSteward.Sorted

/-!
# JSON documents

A `Json` is a document as it was written: members keep their order and may
repeat a key, and a number that is not a whole number of 64 bits keeps its
leading digits. What a reader of a document makes of repeated keys and of such numbers
depends on the reader; `Json.settled?` is the reading that keeps a document for
later, with one value for each key and no number beyond the finite range.
-/

namespace CloudSteward

/-- A JSON document. `unpaired` is a text or key with half a surrogate pair,
    which is well formed and denotes no text. -/
inductive Json where
  | null
  | bool (b : Bool)
  | int (n : Int)
  | decimal (d : Number.Decimal)
  | str (s : String)
  | arr (items : List Json)
  | obj (members : List (String × Json))
  | unpaired
deriving Repr, Inhabited

namespace Json

/-- The numeral for a whole number as it is kept: an integer of 64 bits, signed
    or not, as such; anything longer, and a negative zero, as a decimal. -/
def ofWhole (negative : Bool) (digits : List Char) : Json :=
  let d := Number.Decimal.ofLeadingDigits negative digits [] 0
  let n : Int := d.digits
  if d.exponent ≠ 0 then .decimal d
  else if !negative then .int n
  else if 0 < n ∧ Text.minInt64 ≤ -n then .int (-n)
  else .decimal d

/-- An object of the members that have a value. -/
def object (members : List (String × Option Json)) : Json :=
  .obj (members.filterMap fun m => m.2.map (m.1, ·))

/-- A value, or null. -/
def ofOption {α : Type} (f : α → Json) : Option α → Json
  | some a => f a
  | none => .null

/-- The object of a map. -/
def ofLabels (labels : SortedMap String String) : Json :=
  .obj (labels.entries.map fun e => (e.1, .str e.2))

mutual

/-- Number of arrays and objects around the innermost value. -/
def depth : Json → Nat
  | .arr items => depthItems items + 1
  | .obj members => depthMembers members + 1
  | _ => 0

/-- Greatest depth of an item. -/
def depthItems : List Json → Nat
  | [] => 0
  | j :: js => max (depth j) (depthItems js)

/-- Greatest depth of a member. -/
def depthMembers : List (String × Json) → Nat
  | [] => 0
  | (_, j) :: ms => max (depth j) (depthMembers ms)

end

mutual

/-- The document with one value for each key, the last one written, with keys in
    order and decimals at binary64 precision. Nothing is returned if it holds
    half a surrogate pair or a number beyond every finite one. -/
def settled? : Json → Option Json
  | .unpaired => none
  | .decimal d => (Number.Binary64.ofScaled? d).map fun x => .decimal (x.toDecimal d.negative)
  | .arr items => (settledItems? items).map .arr
  | .obj members => (settledMembers? members).map fun ms => .obj (SortedMap.ofList ms).entries
  | j => some j

/-- The settled items. -/
def settledItems? : List Json → Option (List Json)
  | [] => some []
  | j :: js => (settled? j).bind fun j => (settledItems? js).map (j :: ·)

/-- The settled members, repeated keys included. -/
def settledMembers? : List (String × Json) → Option (List (String × Json))
  | [] => some []
  | (k, j) :: ms => (settled? j).bind fun j => (settledMembers? ms).map ((k, j) :: ·)

end

end Json

end CloudSteward
