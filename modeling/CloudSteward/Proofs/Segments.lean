import CloudSteward.Text.Blank
import CloudSteward.Text.Segments

/-!
# Cutting and trimming

Blanks around a text count for nothing: trimming goes by what lies between them. Where the
separator is not blank, they can be taken away before the text is cut or from each of its
parts afterwards.

Results:

* `joinText_eq_intercalate`: joining is what the core library calls intercalating.
* `trim_trim`, `trim_eq_empty_iff`: trimming again, and the texts that are blank.
* `nonBlank?_eq_some_iff`, `nonBlank?_eq_none_iff`: what a text is read as, if anything.
* `map_trim_parts_trim`: trimming before and after cutting.
-/

namespace CloudSteward.Text

/-- Joining is intercalating. -/
theorem joinText_eq_intercalate (sep : Char) (texts : List String) :
    joinText sep texts = (String.singleton sep).intercalate texts := by
  induction texts with
  | nil => rfl
  | cons text rest ih =>
    cases rest with
    | nil => simp [joinText, join]
    | cons next more =>
      rw [String.intercalate_cons_cons, ← ih, ← String.toList_inj]
      simp [joinText, join]

/-! ## Trimming -/

section Trimming

variable {cs lead trail : List Char}

/-- Blanks in front count for nothing. -/
theorem trimmed_append_left (h : ∀ c ∈ lead, isBlank c = true) :
    trimmed (lead ++ cs) = trimmed cs := by
  unfold trimmed
  rw [List.dropWhile_append_of_pos h]

/-- Blanks behind count for nothing. -/
theorem trimmed_append_right (h : ∀ c ∈ trail, isBlank c = true) :
    trimmed (cs ++ trail) = trimmed cs := by
  unfold trimmed
  rw [List.dropWhile_append]
  split
  · rename_i hblank
    have htrail : (trail ++ []).dropWhile isBlank = [].dropWhile isBlank :=
      List.dropWhile_append_of_pos h
    rw [List.append_nil] at htrail
    rw [htrail, List.isEmpty_iff.mp hblank]
    rfl
  · rw [List.reverse_append, List.dropWhile_append_of_pos]
    exact fun c hc => h c (List.mem_reverse.mp hc)

theorem trimmed_eq_nil_iff : trimmed cs = [] ↔ ∀ c ∈ cs, isBlank c = true := by
  constructor
  · intro h c hc
    obtain ⟨lead, trail, hcs, hlead, htrail⟩ := exists_blanks_around cs
    rw [h, List.append_nil] at hcs
    rw [hcs] at hc
    rcases List.mem_append.mp hc with hc | hc
    · exact hlead c hc
    · exact htrail c hc
  · intro h
    have hnil : trimmed (cs ++ []) = trimmed [] := trimmed_append_left h
    rwa [List.append_nil] at hnil

theorem trimmed_trimmed (cs : List Char) : trimmed (trimmed cs) = trimmed cs := by
  obtain ⟨lead, trail, hcs, hlead, htrail⟩ := exists_blanks_around cs
  calc trimmed (trimmed cs)
      = trimmed (lead ++ trimmed cs) := (trimmed_append_left hlead).symm
    _ = trimmed (lead ++ trimmed cs ++ trail) := (trimmed_append_right htrail).symm
    _ = trimmed cs := by rw [← hcs]

end Trimming

theorem toList_trim (s : String) : (trim s).toList = trimmed s.toList :=
  String.toList_ofList

theorem trim_trim (s : String) : trim (trim s) = trim s := by
  rw [← String.toList_inj, toList_trim, toList_trim, trimmed_trimmed]

theorem trim_eq_empty_iff {s : String} : trim s = "" ↔ ∀ c ∈ s.toList, isBlank c = true := by
  rw [← trimmed_eq_nil_iff, ← String.toList_inj, toList_trim]
  rfl

/-- A text is read as what is left of it between its blanks, if anything is. -/
theorem nonBlank?_eq_some_iff {s t : String} : nonBlank? s = some t ↔ trim s = t ∧ t ≠ "" := by
  unfold nonBlank?
  dsimp only
  split
  · rename_i hblank
    constructor
    · intro h
      cases h
    · rintro ⟨rfl, hne⟩
      exact absurd (String.isEmpty_iff.mp hblank) hne
  · rename_i hgiven
    constructor
    · intro h
      cases h
      exact ⟨rfl, fun hblank => hgiven (String.isEmpty_iff.mpr hblank)⟩
    · rintro ⟨rfl, -⟩
      rfl

theorem nonBlank?_eq_none_iff {s : String} : nonBlank? s = none ↔ trim s = "" := by
  rw [← String.isEmpty_iff, nonBlank?]
  split
  · rename_i hblank
    simpa using hblank
  · rename_i hgiven
    simpa using hgiven

/-! ## Trimming and cutting -/

section Entries

variable {sep : Char} {cs lead trail : List Char}

/-- What is put in front is put in front of the first part. -/
theorem cut_append_left (h : sep ∉ lead) {first : List Char} {rest : List (List Char)}
    (hcut : cut sep cs = first :: rest) : cut sep (lead ++ cs) = (lead ++ first) :: rest := by
  induction lead with
  | nil => exact hcut
  | cons c lead ih =>
    simp only [List.mem_cons, not_or] at h
    rw [List.cons_append, cut, if_neg (fun e => h.1 e.symm), ih h.2]
    rfl

/-- What is put behind is put behind the last part. -/
theorem cut_append_right (cs : List Char) (h : sep ∉ trail) :
    ∃ front last, cut sep cs = front ++ [last] ∧
      cut sep (cs ++ trail) = front ++ [last ++ trail] := by
  induction cs with
  | nil => exact ⟨[], [], rfl, cut_of_notMem h⟩
  | cons c cs ih =>
    obtain ⟨front, last, hcut, htrail⟩ := ih
    rw [List.cons_append, cut, cut, hcut, htrail]
    split
    · exact ⟨[] :: front, last, rfl, rfl⟩
    · cases front with
      | nil => exact ⟨[], c :: last, rfl, rfl⟩
      | cons part front => exact ⟨(c :: part) :: front, last, rfl, rfl⟩

theorem notMem_of_blank {l : List Char} (hsep : isBlank sep = false)
    (hl : ∀ c ∈ l, isBlank c = true) : sep ∉ l := by
  intro hmem
  rw [hl sep hmem] at hsep
  cases hsep

theorem map_trimmed_cut_left (hsep : isBlank sep = false) (hlead : ∀ c ∈ lead, isBlank c = true) :
    (cut sep (lead ++ cs)).map trimmed = (cut sep cs).map trimmed := by
  cases hcut : cut sep cs with
  | nil => exact absurd hcut (cut_ne_nil sep cs)
  | cons first rest =>
    rw [cut_append_left (notMem_of_blank hsep hlead) hcut, List.map_cons, List.map_cons,
      trimmed_append_left hlead]

theorem map_trimmed_cut_right (hsep : isBlank sep = false)
    (htrail : ∀ c ∈ trail, isBlank c = true) :
    (cut sep (cs ++ trail)).map trimmed = (cut sep cs).map trimmed := by
  obtain ⟨front, last, hcut, happend⟩ :=
    cut_append_right cs (notMem_of_blank hsep htrail)
  rw [hcut, happend, List.map_append, List.map_append, List.map_singleton, List.map_singleton,
    trimmed_append_right htrail]

/-- Blanks around a text are trimmed off its parts as well. -/
theorem map_trimmed_cut_trimmed (hsep : isBlank sep = false) (cs : List Char) :
    (cut sep (trimmed cs)).map trimmed = (cut sep cs).map trimmed := by
  obtain ⟨lead, trail, hcs, hlead, htrail⟩ := exists_blanks_around cs
  calc (cut sep (trimmed cs)).map trimmed
      = (cut sep (lead ++ trimmed cs)).map trimmed := (map_trimmed_cut_left hsep hlead).symm
    _ = (cut sep (lead ++ trimmed cs ++ trail)).map trimmed :=
      (map_trimmed_cut_right hsep htrail).symm
    _ = (cut sep cs).map trimmed := by rw [← hcs]

theorem map_trim_parts_trim (hsep : isBlank sep = false) (s : String) :
    (parts sep (trim s)).map trim = (parts sep s).map trim := by
  have hentries := congrArg (List.map String.ofList) (map_trimmed_cut_trimmed hsep s.toList)
  have htrim : trim ∘ String.ofList = String.ofList ∘ trimmed := by
    funext cs
    rw [Function.comp_apply, Function.comp_apply, trim, String.toList_ofList]
  rw [List.map_map, List.map_map] at hentries
  rw [parts, parts, toList_trim, List.map_map, List.map_map, htrim]
  exact hentries

end Entries

end CloudSteward.Text
