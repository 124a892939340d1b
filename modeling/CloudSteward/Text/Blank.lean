/-!
# Blank characters and trimming

Settings and annotations are read with surrounding blanks removed. A character
is blank when it has the Unicode property `White_Space`, which is wider than
the four blanks of a JSON text.

Results:

* `trimmed_head`, `trimmed_getLast`: no trimmed text starts or ends with a
  blank.
* `exists_blanks_around`: nothing but blanks is trimmed.
-/

namespace CloudSteward.Text

/-- The characters with the property `White_Space`, as inclusive ranges of
    code points. -/
def blankRanges : List (Nat × Nat) :=
  [(0x09, 0x0D), (0x20, 0x20), (0x85, 0x85), (0xA0, 0xA0), (0x1680, 0x1680), (0x2000, 0x200A),
    (0x2028, 0x2029), (0x202F, 0x202F), (0x205F, 0x205F), (0x3000, 0x3000)]

/-- Whether `c` is a blank. -/
def isBlank (c : Char) : Bool :=
  blankRanges.any fun r => r.1 ≤ c.toNat && c.toNat ≤ r.2

/-- `cs` without the blanks at its start and at its end. -/
def trimmed (cs : List Char) : List Char :=
  (((cs.dropWhile isBlank).reverse).dropWhile isBlank).reverse

/-- The text without the blanks around it. -/
def trim (s : String) : String :=
  String.ofList (trimmed s.toList)

/-- The trimmed text, or nothing if the text is blank throughout. -/
def nonBlank? (s : String) : Option String :=
  let t := trim s
  if t.isEmpty then none else some t

/-! ## Laws -/

theorem dropWhile_head_not {α : Type} (p : α → Bool) (xs : List α) :
    ∀ x ∈ (xs.dropWhile p).head?, p x = false := by
  induction xs with
  | nil => simp
  | cons y ys ih =>
    intro x hx
    by_cases hy : p y = true
    · exact ih x (by simpa [List.dropWhile, hy] using hx)
    · simp only [List.dropWhile, hy, List.head?_cons, Option.mem_def, Option.some.injEq] at hx
      subst hx
      simpa using hy

/-- A trimmed text does not end with a blank. -/
theorem trimmed_getLast (cs : List Char) : ∀ c ∈ (trimmed cs).getLast?, isBlank c = false := by
  intro c hc
  rw [trimmed, List.getLast?_reverse] at hc
  exact dropWhile_head_not _ _ c hc

/-- A trimmed text does not start with a blank. -/
theorem trimmed_head (cs : List Char) : ∀ c ∈ (trimmed cs).head?, isBlank c = false := by
  intro c hc
  obtain ⟨pre, hpre⟩ := List.dropWhile_suffix (l := (cs.dropWhile isBlank).reverse) isBlank
  have hrev : cs.dropWhile isBlank = trimmed cs ++ pre.reverse := by
    rw [trimmed, ← List.reverse_append, hpre, List.reverse_reverse]
  refine dropWhile_head_not isBlank cs c ?_
  rw [hrev]
  cases ht : trimmed cs with
  | nil => simp [ht] at hc
  | cons d ds => simpa [ht] using hc

/-- A text is its trimmed form with blanks around it. -/
theorem exists_blanks_around (cs : List Char) :
    ∃ lead trail, cs = lead ++ trimmed cs ++ trail ∧ (∀ c ∈ lead, isBlank c = true) ∧
      ∀ c ∈ trail, isBlank c = true := by
  let rest := cs.dropWhile isBlank
  refine ⟨cs.takeWhile isBlank, (rest.reverse.takeWhile isBlank).reverse, ?_,
    List.all_eq_true.mp List.all_takeWhile, fun c hc => ?_⟩
  · have hrest : rest = trimmed cs ++ (rest.reverse.takeWhile isBlank).reverse := by
      rw [trimmed, ← List.reverse_append, List.takeWhile_append_dropWhile, List.reverse_reverse]
    rw [List.append_assoc, ← hrest, List.takeWhile_append_dropWhile]
  · exact List.all_eq_true.mp List.all_takeWhile c (List.mem_reverse.mp hc)

theorem getD_nonBlank? (s : String) : (nonBlank? s).getD "" = trim s := by
  rw [nonBlank?]
  split
  · rename_i h
    rw [String.isEmpty_iff.mp h, Option.getD_none]
  · rw [Option.getD_some]

/-- A text without blanks around it is read as it stands. -/
theorem nonBlank?_of_trimmed {s : String} (hs : s ≠ "") (h : trim s = s) :
    nonBlank? s = some s := by
  rw [nonBlank?, h, if_neg (by simpa using hs)]

end CloudSteward.Text
