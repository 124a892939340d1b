import CloudSteward.Text.Segments

/-!
# Query strings

A query is a list of names with values, written `name=value` with `&` between
the pairs. Names and values are percent-encoded: of the bytes of the text in
UTF-8, only letters, digits and `-`, `.`, `_`, `~` stand for themselves, so no
name or value can bring a separator into the query.

Results:

* `standsFor_encodeByte`: what is written for a byte stands for it.
* `StandsFor.decodeBytes_append`: what stands for a byte is decoded to it.
* `StandsFor.plain`: and it holds no separator, nor anything else that means more than itself.
-/

namespace CloudSteward.Text

/-- The bytes of a text in UTF-8. -/
def bytesOf (s : String) : List UInt8 :=
  s.toList.flatMap String.utf8EncodeChar

/-- Whether a byte stands for itself in a query. -/
def isUnreserved (b : UInt8) : Bool :=
  (0x30 ≤ b && b ≤ 0x39) || (0x41 ≤ b && b ≤ 0x5A) || (0x61 ≤ b && b ≤ 0x7A) ||
    b == 0x2D || b == 0x2E || b == 0x5F || b == 0x7E

/-- The hexadecimal digit of a value below sixteen, in upper case. -/
def hexDigit (n : Nat) : Char :=
  Char.ofNat (if n < 10 then 0x30 + n else 0x37 + n)

/-- The value of a hexadecimal digit of either case. -/
def hexValue? (c : Char) : Option Nat :=
  if 0x30 ≤ c.toNat ∧ c.toNat ≤ 0x39 then some (c.toNat - 0x30)
  else if 0x41 ≤ c.toNat ∧ c.toNat ≤ 0x46 then some (c.toNat - 0x37)
  else if 0x61 ≤ c.toNat ∧ c.toNat ≤ 0x66 then some (c.toNat - 0x57)
  else none

/-- One byte of a query. -/
def encodeByte (b : UInt8) : List Char :=
  if isUnreserved b then [Char.ofNat b.toNat]
  else ['%', hexDigit (b.toNat / 16), hexDigit (b.toNat % 16)]

/-- Bytes as they stand in a query. -/
def encodeBytes (bs : List UInt8) : List Char :=
  bs.flatMap encodeByte

/-- Percent-decoding: an escape gives its byte, any other character its own
    code point. Nothing is returned for a broken escape. -/
def decodeBytes : List Char → Option (List UInt8)
  | [] => some []
  | '%' :: h :: l :: cs =>
    match hexValue? h, hexValue? l with
    | some h, some l => (decodeBytes cs).map (UInt8.ofNat (16 * h + l) :: ·)
    | _, _ => none
  | c :: cs => if c = '%' then none else (decodeBytes cs).map (UInt8.ofNat c.toNat :: ·)

/-- A name or value of a query. -/
def encode (s : String) : List Char :=
  encodeBytes (bytesOf s)

/-- The query with the given names and values. -/
def query (pairs : List (String × String)) : String :=
  String.ofList (join '&' (pairs.map fun p => encode p.1 ++ '=' :: encode p.2))

/-! ## Laws -/

/-- What may be written for a byte in a query: the byte itself if it is unreserved, or an escape
    with its two hexadecimal digits, of either case. -/
inductive StandsFor : List Char → UInt8 → Prop
  | itself {b : UInt8} (unreserved : isUnreserved b = true) : StandsFor [Char.ofNat b.toNat] b
  | escape {b : UInt8} {high low : Char} (hhigh : hexValue? high = some (b.toNat / 16))
      (hlow : hexValue? low = some (b.toNat % 16)) : StandsFor ['%', high, low] b

/-- Whether a character may occur in a name or value of a query. -/
def isPlain (c : Char) : Bool :=
  c == '%' || (c.toNat < 128 && isUnreserved (UInt8.ofNat c.toNat))

theorem hexValue?_hexDigit {n : Nat} (h : n < 16) : hexValue? (hexDigit n) = some n := by
  have all : ∀ m : Fin 16, hexValue? (hexDigit m.val) = some m.val := by decide
  exact all ⟨n, h⟩

theorem isPlain_of_hexValue? {c : Char} {n : Nat} (h : hexValue? c = some n) :
    isPlain c = true := by
  have all : ∀ m : Fin 128, (hexValue? (Char.ofNat m.val)).isSome = true →
      isPlain (Char.ofNat m.val) = true := by decide +kernel
  have hsmall : c.toNat < 128 := by
    rw [hexValue?] at h
    split at h
    · omega
    · split at h
      · omega
      · split at h
        · omega
        · cases h
  have hc : Char.ofNat c.toNat = c := Char.ofNat_toNat c
  have hplain := all ⟨c.toNat, hsmall⟩
  rw [hc, h] at hplain
  exact hplain rfl

theorem unreserved_char {b : UInt8} (h : isUnreserved b = true) :
    (Char.ofNat b.toNat).toNat = b.toNat ∧ Char.ofNat b.toNat ≠ '%' ∧
      isPlain (Char.ofNat b.toNat) = true := by
  have all : ∀ m : Fin 256, isUnreserved (UInt8.ofNat m.val) = true →
      (Char.ofNat m.val).toNat = m.val ∧ Char.ofNat m.val ≠ '%' ∧
        isPlain (Char.ofNat m.val) = true := by decide +kernel
  have hb : UInt8.ofNat b.toNat = b := by simp
  exact all ⟨b.toNat, b.toNat_lt⟩ (by simpa only [hb] using h)

/-- What is written for a byte stands for it. -/
theorem standsFor_encodeByte (b : UInt8) : StandsFor (encodeByte b) b := by
  have hb : b.toNat < 256 := b.toNat_lt
  rw [encodeByte]
  split
  · rename_i h
    exact .itself h
  · exact .escape (hexValue?_hexDigit (by omega)) (hexValue?_hexDigit (by omega))

/-- What stands for a byte is decoded to it. -/
theorem StandsFor.decodeBytes_append {w : List Char} {b : UInt8} (h : StandsFor w b)
    (cs : List Char) : decodeBytes (w ++ cs) = (decodeBytes cs).map (b :: ·) := by
  cases h with
  | itself unreserved =>
    obtain ⟨hn, hp, -⟩ := unreserved_char unreserved
    rw [List.singleton_append, decodeBytes.eq_def]
    split
    · simp_all
    · simp_all
    · rename_i c rest _ heq
      obtain ⟨rfl, rfl⟩ := List.cons.inj heq
      rw [if_neg hp, hn]
      simp
  | escape hhigh hlow =>
    have hv : UInt8.ofNat (16 * (b.toNat / 16) + b.toNat % 16) = b := by
      rw [Nat.div_add_mod]
      simp
    simp only [List.cons_append, List.nil_append]
    rw [decodeBytes, hhigh, hlow]
    simp only [hv]

/-- No separator and nothing else that means more than itself stands for a byte. -/
theorem StandsFor.plain {w : List Char} {b : UInt8} (h : StandsFor w b) :
    ∀ c ∈ w, isPlain c = true := by
  cases h with
  | itself unreserved => exact List.forall_mem_singleton.mpr (unreserved_char unreserved).2.2
  | escape hhigh hlow =>
    simp only [List.forall_mem_cons]
    exact ⟨rfl, isPlain_of_hexValue? hhigh, isPlain_of_hexValue? hlow, by simp⟩

end CloudSteward.Text
