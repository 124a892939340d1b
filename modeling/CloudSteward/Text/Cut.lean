/-!
# Texts cut to a length

Generated names must stay within limits of the cloud. One limit counts bytes of
the UTF-8 form; a text cannot be cut inside a character.

Results:

* `cutBytes?_of_le`: a text within the limit is not cut.
* `cutBytes?_size_le`: what is left is within the limit.
-/

namespace CloudSteward.Text

/-- Number of bytes of a text in UTF-8. -/
def byteLength : List Char → Nat
  | [] => 0
  | c :: cs => c.utf8Size + byteLength cs

/-- The first `limit` bytes of a text; nothing if they end inside a character. -/
def cutBytes? : Nat → List Char → Option (List Char)
  | _, [] => some []
  | 0, _ :: _ => some []
  | limit + 1, c :: cs =>
    if c.utf8Size ≤ limit + 1 then (cutBytes? (limit + 1 - c.utf8Size) cs).map (c :: ·) else none

/-- The first `limit` characters of a text. -/
def cutChars (limit : Nat) (s : String) : String :=
  String.ofList (s.toList.take limit)

theorem cutBytes?_of_le {limit : Nat} {cs : List Char} (h : byteLength cs ≤ limit) :
    cutBytes? limit cs = some cs := by
  induction cs generalizing limit with
  | nil => cases limit <;> rfl
  | cons c cs ih =>
    rw [byteLength] at h
    cases limit with
    | zero =>
      have := c.utf8Size_pos
      omega
    | succ limit =>
      rw [cutBytes?, if_pos (by omega), ih (by omega)]
      rfl

theorem cutBytes?_size_le {limit : Nat} {cs out : List Char} (h : cutBytes? limit cs = some out) :
    byteLength out ≤ limit := by
  induction cs generalizing limit out with
  | nil =>
    cases limit <;> simp only [cutBytes?, Option.some.injEq] at h <;> subst h <;>
      simp [byteLength]
  | cons c cs ih =>
    cases limit with
    | zero =>
      simp only [cutBytes?, Option.some.injEq] at h
      subst h
      simp [byteLength]
    | succ limit =>
      rw [cutBytes?] at h
      split at h
      · obtain ⟨rest, hrest, rfl⟩ := Option.map_eq_some_iff.mp h
        have := ih hrest
        rw [byteLength]
        omega
      · simp at h

end CloudSteward.Text
