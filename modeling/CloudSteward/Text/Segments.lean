/-!
# Texts cut at a separator

A providerID, a zone path and a list of ids are each written as parts with a
one-character separator between them. `cut` takes such a text apart and `join`
puts the parts together again.

Results:

* `join_cut`: joining the parts gives the text back, so `cut` is injective.
* `cut_join`: parts without the separator are found again.
* `sep_notMem_of_mem_cut`: no part holds the separator.
* `joinText_parts`, `parts_joinText`: the same of texts.
-/

namespace CloudSteward.Text

/-- The parts of `cs` between the separators. There is always at least one. -/
def cut (sep : Char) : List Char → List (List Char)
  | [] => [[]]
  | c :: cs =>
    if c = sep then [] :: cut sep cs
    else
      match cut sep cs with
      | [] => [[c]]
      | part :: parts => (c :: part) :: parts

/-- The parts with the separator between each two of them. -/
def join (sep : Char) : List (List Char) → List Char
  | [] => []
  | [part] => part
  | part :: next :: parts => part ++ sep :: join sep (next :: parts)

/-- The parts of a text. -/
def parts (sep : Char) (s : String) : List String :=
  (cut sep s.toList).map String.ofList

/-- The text up to its last separator, or all of it if there is none. -/
def beforeLast (sep : Char) (s : String) : String :=
  match (cut sep s.toList).reverse with
  | _ :: part :: front => String.ofList (join sep (part :: front).reverse)
  | _ => s

/-- The texts with `sep` between each two of them. -/
def joinText (sep : Char) (texts : List String) : String :=
  String.ofList (join sep (texts.map String.toList))

/-! ## Laws -/

theorem cut_ne_nil (sep : Char) (cs : List Char) : cut sep cs ≠ [] := by
  cases cs with
  | nil => simp [cut]
  | cons c cs =>
    rw [cut]
    split
    · simp
    · split <;> simp

theorem join_cut (sep : Char) (cs : List Char) : join sep (cut sep cs) = cs := by
  induction cs with
  | nil => rfl
  | cons c cs ih =>
    rw [cut]
    split
    · rename_i h
      cases hc : cut sep cs with
      | nil => exact absurd hc (cut_ne_nil sep cs)
      | cons part parts => rw [hc] at ih; simp [join, ih, h]
    · cases hc : cut sep cs with
      | nil => exact absurd hc (cut_ne_nil sep cs)
      | cons part parts =>
        rw [hc] at ih
        cases parts with
        | nil => simpa [join] using ih
        | cons next rest => simpa [join] using ih

theorem sep_notMem_of_mem_cut (sep : Char) (cs : List Char) :
    ∀ part ∈ cut sep cs, sep ∉ part := by
  induction cs with
  | nil => simp [cut]
  | cons c cs ih =>
    rw [cut]
    split
    · intro part hp
      rcases List.mem_cons.mp hp with rfl | hp
      · simp
      · exact ih part hp
    · rename_i hne
      cases hc : cut sep cs with
      | nil => exact absurd hc (cut_ne_nil sep cs)
      | cons first rest =>
        rw [hc] at ih
        intro part hp
        rcases List.mem_cons.mp hp with rfl | hp
        · simp only [List.mem_cons, not_or]
          exact ⟨fun h => hne h.symm, ih first (by simp)⟩
        · exact ih part (by simp [hp])

theorem cut_of_notMem {sep : Char} {cs : List Char} (h : sep ∉ cs) : cut sep cs = [cs] := by
  induction cs with
  | nil => rfl
  | cons c cs ih =>
    simp only [List.mem_cons, not_or] at h
    rw [cut, if_neg (fun e => h.1 e.symm), ih h.2]

theorem cut_append_sep {sep : Char} {part : List Char} (rest : List Char) (h : sep ∉ part) :
    cut sep (part ++ sep :: rest) = part :: cut sep rest := by
  induction part with
  | nil => simp [cut]
  | cons c cs ih =>
    simp only [List.mem_cons, not_or] at h
    rw [List.cons_append, cut, if_neg (fun e => h.1 e.symm), ih h.2]

theorem cut_join {sep : Char} {parts : List (List Char)} (hne : parts ≠ [])
    (h : ∀ part ∈ parts, sep ∉ part) : cut sep (join sep parts) = parts := by
  induction parts with
  | nil => exact absurd rfl hne
  | cons part rest ih =>
    cases rest with
    | nil => exact cut_of_notMem (h part (by simp))
    | cons next more =>
      rw [join, cut_append_sep _ (h part (by simp)),
        ih (by simp) fun p hp => h p (List.mem_cons_of_mem _ hp)]

/-- What stands in a joined text is the separator or stands in a part. -/
theorem mem_join {sep c : Char} {parts : List (List Char)} (h : c ∈ join sep parts) :
    c = sep ∨ ∃ part ∈ parts, c ∈ part := by
  induction parts with
  | nil => cases h
  | cons part rest ih =>
    cases rest with
    | nil => exact .inr ⟨part, by simp, h⟩
    | cons next more =>
      rw [join, List.mem_append, List.mem_cons] at h
      rcases h with h | h | h
      · exact .inr ⟨part, by simp, h⟩
      · exact .inl h
      · rcases ih h with hsep | ⟨p, hp, hc⟩
        · exact .inl hsep
        · exact .inr ⟨p, List.mem_cons_of_mem _ hp, hc⟩

/-! ## Parts of a text -/

theorem joinText_parts (sep : Char) (s : String) : joinText sep (parts sep s) = s := by
  have hparts : (parts sep s).map String.toList = cut sep s.toList := by
    simp [parts, Function.comp_def]
  rw [joinText, hparts, join_cut, String.ofList_toList]

theorem parts_joinText {sep : Char} {texts : List String} (hne : texts ≠ [])
    (h : ∀ text ∈ texts, sep ∉ text.toList) : parts sep (joinText sep texts) = texts := by
  have hcut : cut sep (join sep (texts.map String.toList)) = texts.map String.toList :=
    cut_join (by simpa using hne) (List.forall_mem_map.mpr h)
  rw [parts, joinText, String.toList_ofList, hcut]
  simp [Function.comp_def]

theorem parts_ne_nil (sep : Char) (s : String) : parts sep s ≠ [] := by
  simpa [parts] using cut_ne_nil sep s.toList

theorem sep_notMem_of_mem_parts {sep : Char} {s part : String} (h : part ∈ parts sep s) :
    sep ∉ part.toList := by
  obtain ⟨cs, hcs, rfl⟩ := List.mem_map.mp h
  rw [String.toList_ofList]
  exact sep_notMem_of_mem_cut sep s.toList cs hcs

end CloudSteward.Text
