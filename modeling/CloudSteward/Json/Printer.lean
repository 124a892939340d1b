import CloudSteward.Json.Value

/-!
# JSON text of a document

Documents are written without blanks. A text keeps all its characters but the
quote, the backslash and the control characters below the space, which are
escaped. A numeral that was kept by its digits is written with an exponent, so
it reads back as the same digits and power of ten.
-/

namespace CloudSteward.Json

/-- Four hexadecimal digits of a code point below 65536. -/
def fourHex (n : Nat) : List Char :=
  let ds := Nat.toDigits 16 n
  List.replicate (4 - ds.length) '0' ++ ds

/-- One character of a text. -/
def escaped (c : Char) : List Char :=
  match c with
  | '"' => ['\\', '"']
  | '\\' => ['\\', '\\']
  | '\n' => ['\\', 'n']
  | '\r' => ['\\', 'r']
  | '\t' => ['\\', 't']
  | c => if c.toNat < 0x20 then '\\' :: 'u' :: fourHex c.toNat else [c]

/-- A text between quotes. -/
def renderText (s : String) : String :=
  String.ofList ('"' :: s.toList.flatMap escaped ++ ['"'])

/-- A numeral kept by its digits. -/
def renderDecimal (d : Number.Decimal) : String :=
  (if d.negative then "-" else "") ++ toString d.digits ++ "e" ++ toString d.exponent

/-- Texts with commas between them, between an opening and a closing mark. -/
def enclosed (opening closing : String) (texts : List String) : String :=
  opening ++ String.intercalate "," texts ++ closing

mutual

/-- The text of a document. -/
def render : Json → String
  | .null => "null"
  | .bool b => if b then "true" else "false"
  | .int n => toString n
  | .decimal d => renderDecimal d
  | .str s => renderText s
  | .arr items => enclosed "[" "]" (renderItems items)
  | .obj members => enclosed "\x7b" "\x7d" (renderMembers members)
  | .unpaired => "\"\\ud800\""

/-- The texts of the items. -/
def renderItems : List Json → List String
  | [] => []
  | j :: js => render j :: renderItems js

/-- The texts of the members. -/
def renderMembers : List (String × Json) → List String
  | [] => []
  | (k, j) :: ms => (renderText k ++ ":" ++ render j) :: renderMembers ms

end

end CloudSteward.Json
