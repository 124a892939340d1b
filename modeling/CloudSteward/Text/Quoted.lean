import CloudSteward.Text.Invisible

/-!
# Quoted text in messages

A message that cites what a user wrote shows it in double quotes, so that
blanks and control characters at its ends can be seen. A quote and a backslash
stand behind a backslash, the common control characters have their short
escapes, and any other character without a visible form is written by its code
point, as in `\u{7f}`.

Results:

* `quoted_of_plain`: a text of visible ASCII characters without quotes and
  backslashes stands between the quotes as it is.
-/

namespace CloudSteward.Text

/-- The hexadecimal digits of `n` in lower case, without leading zeros. -/
def hexDigits (n : Nat) : List Char :=
  Nat.toDigits 16 n

/-- The form of one character inside quotes. -/
def quotedChar (c : Char) : List Char :=
  match c with
  | '"' => ['\\', '"']
  | '\\' => ['\\', '\\']
  | '\n' => ['\\', 'n']
  | '\r' => ['\\', 'r']
  | '\t' => ['\\', 't']
  | '\x00' => ['\\', '0']
  | c => if isInvisible c then '\\' :: 'u' :: '\x7b' :: hexDigits c.toNat ++ ['\x7d'] else [c]

/-- The text in double quotes. -/
def quoted (s : String) : String :=
  String.ofList ('"' :: s.toList.flatMap quotedChar ++ ['"'])

/-! ## Laws -/

theorem quotedChar_of_plain {c : Char} (lo : 0x20 ≤ c.toNat) (hi : c.toNat < 0x7F) (hq : c ≠ '"')
    (hb : c ≠ '\\') : quotedChar c = [c] := by
  unfold quotedChar
  split
  · exact absurd rfl hq
  · exact absurd rfl hb
  · exact absurd lo (by decide)
  · exact absurd lo (by decide)
  · exact absurd lo (by decide)
  · exact absurd lo (by decide)
  · rw [isInvisible_eq_false_of_lt lo hi]
    rfl

theorem quoted_of_plain {s : String}
    (h : ∀ c ∈ s.toList, 0x20 ≤ c.toNat ∧ c.toNat < 0x7F ∧ c ≠ '"' ∧ c ≠ '\\') :
    quoted s = String.ofList ('"' :: s.toList ++ ['"']) := by
  have : ∀ cs : List Char, (∀ c ∈ cs, 0x20 ≤ c.toNat ∧ c.toNat < 0x7F ∧ c ≠ '"' ∧ c ≠ '\\') →
      cs.flatMap quotedChar = cs := by
    intro cs hcs
    induction cs with
    | nil => rfl
    | cons c cs ih =>
      have hc := hcs c (by simp)
      rw [List.flatMap_cons, quotedChar_of_plain hc.1 hc.2.1 hc.2.2.1 hc.2.2.2,
        ih fun d hd => hcs d (by simp [hd])]
      rfl
  rw [quoted, this _ h]

end CloudSteward.Text
