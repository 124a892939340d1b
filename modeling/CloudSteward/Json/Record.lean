import CloudSteward.Json.Value
import CloudSteward.Text.Integer

/-!
# Records in JSON

A record is written as an object, or as the array of its fields in their order.
An object may hold members the record does not know, which are passed over
unread; a field may have several spellings, but only one of them may occur, and
only once. A field that is absent has its default, or there is no record.

Results:

* `get?_ofArray`: the array form gives the fields by position.
-/

namespace CloudSteward.Json

/-- The members of a record by the name of their field. -/
abbrev Fields := List (String × Json)

/-- A field: its name and the other spellings it is read under. -/
structure Field where
  name : String
  aliases : List String := []
deriving Repr, DecidableEq

/-- Whether a field is read under a spelling. -/
def Field.reads (f : Field) (key : String) : Bool :=
  f.name == key || f.aliases.contains key

/-- The name of the field that is read under a spelling. -/
def nameOf? (fields : List Field) (key : String) : Option String :=
  (fields.find? (·.reads key)).map (·.name)

/-- The members that belong to a field, under the name of the field. -/
def known (fields : List Field) (members : List (String × Json)) : Fields :=
  members.filterMap fun m => (nameOf? fields m.1).map (·, m.2)

/-- Whether no name occurs twice. -/
def distinctNames : Fields → Bool
  | [] => true
  | (k, _) :: rest => !(rest.any fun m => m.1 == k) && distinctNames rest

/-- The fields of a record. -/
def fields? (fields : List Field) : Json → Option Fields
  | .obj members =>
    let ms := known fields members
    if distinctNames ms then some ms else none
  | .arr items =>
    if items.length ≤ fields.length then some ((fields.map (·.name)).zip items) else none
  | _ => none

/-- A record whose fields have one spelling each. -/
def record? (names : List String) (j : Json) : Option Fields :=
  fields? (names.map fun n => { name := n }) j

/-- The value of a field. -/
def Fields.get? (fs : Fields) (name : String) : Option Json :=
  (List.find? (fun m => m.1 == name) fs).map (·.2)

/-- A field that has to be present. -/
def Fields.required {α : Type} (fs : Fields) (name : String) (decode : Json → Option α) :
    Option α :=
  (fs.get? name).bind decode

/-- A field with a default. -/
def Fields.withDefault {α : Type} (fs : Fields) (name : String) (default : α)
    (decode : Json → Option α) : Option α :=
  match fs.get? name with
  | some j => decode j
  | none => some default

/-- A value that may be null. -/
def orNull? {α : Type} (decode : Json → Option α) : Json → Option (Option α)
  | .null => some none
  | j => (decode j).map some

/-- A field that may be absent or null. -/
def Fields.optional {α : Type} (fs : Fields) (name : String) (decode : Json → Option α) :
    Option (Option α) :=
  fs.withDefault name none (orNull? decode)

/-! ## Simple values -/

/-- A text. -/
def text? : Json → Option String
  | .str s => some s
  | _ => none

/-- A truth value. -/
def flag? : Json → Option Bool
  | .bool b => some b
  | _ => none

/-- A whole number from `lo` to `hi`. -/
def whole? (lo hi : Int) : Json → Option Int
  | .int n => if lo ≤ n ∧ n ≤ hi then some n else none
  | _ => none

/-- A whole number of 32 bits. -/
def int32? : Json → Option Int :=
  whole? (-2147483648) 2147483647

/-- A whole number of 64 bits. -/
def int64? : Json → Option Int :=
  whole? Text.minInt64 Text.maxInt64

/-- A whole number of 64 bits, as a number or as a text. -/
def int64OrText? : Json → Option Int
  | .str s => Text.int64? s
  | j => int64? j

/-- An array of values of one kind. -/
def list? {α : Type} (decode : Json → Option α) : Json → Option (List α)
  | .arr items => items.mapM decode
  | _ => none

/-- A map from texts to texts; of several members with one key the last counts. -/
def labels? : Json → Option (SortedMap String String)
  | .obj members =>
    (members.mapM fun (m : String × Json) => (text? m.2).map (m.1, ·)).map SortedMap.ofList
  | _ => none

/-- One of several words: the word as a text, or an object with the word as its
    only key and null as its value. -/
def word? : Json → Option String
  | .str s => some s
  | .obj [(s, .null)] => some s
  | _ => none

/-- Any document that is at most `room` deep, settled. -/
def any? (room : Nat) (j : Json) : Option Json :=
  if j.depth ≤ room then j.settled? else none

theorem get?_ofArray (names : List String) (items : List Json)
    (h : items.length ≤ names.length) :
    record? names (.arr items) = some (names.zip items) := by
  have names_eq : (names.map fun n => ({ name := n } : Field)).map (·.name) = names := by
    simp [List.map_map, Function.comp_def]
  simp only [record?, fields?, List.length_map, h, if_true, names_eq]

end CloudSteward.Json
