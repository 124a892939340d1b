import CloudSteward.Proofs.Segments
import CloudSteward.ProviderId
import Mathlib.Data.List.Basic

/-!
# The grammar of providerIDs

The providerIDs of this provider are the scheme with one segment behind it, or with three
segments and slashes between them, where a segment is any text without slashes but the
empty one. Reading accepts these texts and no others, takes them for what they are written
of, and says of any other text what is wrong with it: the scheme, a segment, or how many
there are.

Results:

* `ProviderId.parse_of_foreign`, `ProviderId.parse_of_empty_segment`,
  `ProviderId.parse_of_wrong_count`: what is wrong with a text.
* `ProviderId.parse_accepts_iff`, `ProviderId.parse_refuses_iff`: the texts that are
  accepted, and those that are refused for each reason.
* `providerId_grammar`: reading and writing undo each other on the grammar.
-/

namespace CloudSteward

namespace ProviderId

variable {raw : String} {segments : List String}

theorem belongs_iff : belongs raw = true ↔ ∃ rest, raw = providerScheme ++ rest := by
  unfold belongs
  rw [Option.isSome_iff_exists]
  constructor
  · rintro ⟨rest, h⟩
    refine ⟨String.ofList rest, ?_⟩
    rw [← String.toList_inj, String.toList_append, String.toList_ofList]
    exact afterPrefix?_eq_some_iff.mp h
  · rintro ⟨rest, rfl⟩
    exact ⟨rest.toList, afterPrefix?_eq_some_iff.mpr String.toList_append⟩

/-- A text of this provider has segments, perhaps empty ones. -/
theorem exists_segments (h : belongs raw = true) :
    ∃ segments, segments ≠ [] ∧ (∀ segment ∈ segments, '/' ∉ segment.toList) ∧
      raw = providerScheme ++ "/".intercalate segments := by
  obtain ⟨rest, rfl⟩ := belongs_iff.mp h
  refine ⟨Text.parts '/' rest, Text.parts_ne_nil '/' rest,
    fun segment => Text.sep_notMem_of_mem_parts, ?_⟩
  exact congrArg _ ((Text.joinText_parts '/' rest).symm.trans (Text.joinText_eq_intercalate '/' _))

section Segments

variable (hne : segments ≠ []) (hslash : ∀ segment ∈ segments, '/' ∉ segment.toList)
  (hraw : raw = providerScheme ++ "/".intercalate segments)
include hne hslash hraw

/-- The segments of a text are found again. -/
theorem exists_cut :
    ∃ rest, afterPrefix? providerScheme.toList raw.toList = some rest ∧
      Text.cut '/' rest = segments.map String.toList := by
  refine ⟨(Text.joinText '/' segments).toList, ?_, ?_⟩
  · rw [hraw, Text.joinText_eq_intercalate]
    exact afterPrefix?_eq_some_iff.mpr String.toList_append
  · rw [Text.joinText, String.toList_ofList]
    exact Text.cut_join (by simpa using hne) (List.forall_mem_map.mpr hslash)

theorem parse_of_empty_segment (hempty : "" ∈ segments) :
    parse raw = .error (.emptySegment raw) := by
  obtain ⟨rest, hafter, hcut⟩ := exists_cut hne hslash hraw
  have hany : (segments.map String.toList).any List.isEmpty = true :=
    List.any_eq_true.mpr ⟨[], List.mem_map.mpr ⟨"", hempty, rfl⟩, rfl⟩
  unfold parse
  simp only [hafter, hcut, hany, if_true]

theorem parse_of_wrong_count (hfull : "" ∉ segments) (hone : segments.length ≠ 1)
    (hthree : segments.length ≠ 3) : parse raw = .error (.wrongShape raw) := by
  obtain ⟨rest, hafter, hcut⟩ := exists_cut hne hslash hraw
  have hany : ¬ (segments.map String.toList).any List.isEmpty = true := by
    intro h
    obtain ⟨cs, hcs, hnil⟩ := List.any_eq_true.mp h
    obtain ⟨segment, hsegment, rfl⟩ := List.mem_map.mp hcs
    have hblank : segment = "" := String.toList_eq_nil_iff.mp (List.isEmpty_iff.mp hnil)
    exact hfull (hblank ▸ hsegment)
  unfold parse
  simp only [hafter, hcut]
  rw [if_neg hany]
  split
  · rename_i h
    exact absurd (by simpa using congrArg List.length h) hthree
  · rename_i h
    exact absurd (by simpa using congrArg List.length h) hone
  · rfl

end Segments

/-- A text is accepted exactly if it is the scheme with one or three segments. -/
theorem parse_accepts_iff :
    (∃ p, parse raw = .ok p) ↔
      ∃ segments : List String, (segments.length = 1 ∨ segments.length = 3) ∧
        (∀ segment ∈ segments, IsSegment segment) ∧
        raw = providerScheme ++ "/".intercalate segments := by
  constructor
  · rintro ⟨p, h⟩
    obtain ⟨hraw, hplain⟩ := parse_eq_ok_iff.mp h
    refine ⟨p.segments, ?_, hplain, ?_⟩
    · rcases p with ⟨folderId, zoneId, instanceName⟩ | instanceId
      · exact .inr rfl
      · exact .inl rfl
    · rw [hraw, render, Text.joinText_eq_intercalate]
      rfl
  · rintro ⟨segments, hcount, hplain, rfl⟩
    have hp : ∃ p : ProviderId, p.segments = segments := by
      rcases hcount with h | h
      · obtain ⟨instanceId, rfl⟩ := List.length_eq_one_iff.mp h
        exact ⟨.instance instanceId, rfl⟩
      · obtain ⟨folderId, zoneId, instanceName, rfl⟩ := List.length_eq_three.mp h
        exact ⟨.legacy folderId zoneId instanceName, rfl⟩
    obtain ⟨p, rfl⟩ := hp
    refine ⟨p, parse_eq_ok_iff.mpr ⟨?_, hplain⟩⟩
    rw [render, Text.joinText_eq_intercalate]
    rfl

theorem parse_of_foreign (h : belongs raw = false) : parse raw = .error (.foreignScheme raw) := by
  have hafter : afterPrefix? providerScheme.toList raw.toList = none := by
    rwa [belongs, Option.isSome_eq_false_iff, Option.isNone_iff_eq_none] at h
  unfold parse
  rw [hafter]

/-- Why a text is refused: it is of another scheme, or has an empty segment, or has none but
    neither one nor three. -/
theorem parse_refuses_iff {e : ProviderIdError} :
    parse raw = .error e ↔
      (belongs raw = false ∧ e = .foreignScheme raw) ∨
      ∃ segments, segments ≠ [] ∧ (∀ segment ∈ segments, '/' ∉ segment.toList) ∧
        raw = providerScheme ++ "/".intercalate segments ∧
        ("" ∈ segments ∧ e = .emptySegment raw ∨
          "" ∉ segments ∧ segments.length ≠ 1 ∧ segments.length ≠ 3 ∧ e = .wrongShape raw) := by
  constructor
  · intro h
    cases hbelongs : belongs raw with
    | false =>
      rw [parse_of_foreign hbelongs] at h
      cases h
      exact .inl ⟨rfl, rfl⟩
    | true =>
      obtain ⟨segments, hne, hslash, hraw⟩ := exists_segments hbelongs
      refine .inr ⟨segments, hne, hslash, hraw, ?_⟩
      by_cases hempty : "" ∈ segments
      · rw [parse_of_empty_segment hne hslash hraw hempty] at h
        cases h
        exact .inl ⟨hempty, rfl⟩
      · have hcount : segments.length ≠ 1 ∧ segments.length ≠ 3 := by
          refine not_or.mp fun hcount => ?_
          have hplain : ∀ segment ∈ segments, IsSegment segment := fun segment hs =>
            ⟨fun he => hempty (he ▸ hs), hslash segment hs⟩
          obtain ⟨p, hp⟩ := parse_accepts_iff.mpr ⟨segments, hcount, hplain, hraw⟩
          rw [hp] at h
          cases h
        rw [parse_of_wrong_count hne hslash hraw hempty hcount.1 hcount.2] at h
        cases h
        exact .inr ⟨hempty, hcount.1, hcount.2, rfl⟩
  · rintro (⟨hbelongs, rfl⟩ |
      ⟨segments, hne, hslash, hraw, ⟨hempty, rfl⟩ | ⟨hfull, hone, hthree, rfl⟩⟩)
    · exact parse_of_foreign hbelongs
    · exact parse_of_empty_segment hne hslash hraw hempty
    · exact parse_of_wrong_count hne hslash hraw hfull hone hthree

theorem belongs_of_parse {p : ProviderId} (h : parse raw = .ok p) : belongs raw = true := by
  obtain ⟨rfl, -⟩ := parse_eq_ok_iff.mp h
  exact belongs_iff.mpr ⟨_, rfl⟩

end ProviderId

/-- **The grammar of providerIDs.** A text is accepted exactly if it is `yandex://` with one or
    three segments behind it, none of them empty, and a slash between each two. What an
    accepted text is read as is written as that text, so no other text is read as the same,
    and the text counts as one of this provider. What has segments that can be told apart is
    read back from what it is written as. A text that is refused is of another scheme, or has
    an empty segment, or has neither one nor three. -/
theorem providerId_grammar :
    (∀ raw, (∃ p, ProviderId.parse raw = .ok p) ↔
      ∃ segments : List String, (segments.length = 1 ∨ segments.length = 3) ∧
        (∀ segment ∈ segments, segment ≠ "" ∧ '/' ∉ segment.toList) ∧
        raw = "yandex://" ++ "/".intercalate segments) ∧
    (∀ raw p, ProviderId.parse raw = .ok p → p.render = raw ∧ ProviderId.belongs raw = true) ∧
    (∀ raw raw' p, ProviderId.parse raw = .ok p → ProviderId.parse raw' = .ok p → raw = raw') ∧
    (∀ p : ProviderId, (∀ segment ∈ p.segments, segment ≠ "" ∧ '/' ∉ segment.toList) →
      ProviderId.parse p.render = .ok p) ∧
    (∀ raw, ProviderId.belongs raw = true ↔ ∃ rest, raw = "yandex://" ++ rest) ∧
    ∀ raw e, ProviderId.parse raw = .error e ↔
      (ProviderId.belongs raw = false ∧ e = .foreignScheme raw) ∨
      ∃ segments, segments ≠ [] ∧ (∀ segment ∈ segments, '/' ∉ segment.toList) ∧
        raw = "yandex://" ++ "/".intercalate segments ∧
        ("" ∈ segments ∧ e = .emptySegment raw ∨
          "" ∉ segments ∧ segments.length ≠ 1 ∧ segments.length ≠ 3 ∧ e = .wrongShape raw) := by
  refine ⟨fun raw => ProviderId.parse_accepts_iff, fun raw p h => ?_, fun raw raw' p h h' => ?_,
    fun p h => ProviderId.parse_render h, fun raw => ProviderId.belongs_iff,
    fun raw e => ProviderId.parse_refuses_iff⟩
  · exact ⟨(ProviderId.parse_eq_ok_iff.mp h).1.symm, ProviderId.belongs_of_parse h⟩
  · rw [(ProviderId.parse_eq_ok_iff.mp h).1, (ProviderId.parse_eq_ok_iff.mp h').1]

/-- Another scheme behind the scheme makes an empty segment, and a folder and a zone alone make
    no providerID. -/
example :
    ProviderId.parse "yandex://yandex://fhm1" = .error (.emptySegment "yandex://yandex://fhm1") ∧
      ProviderId.parse "yandex://b1g/ru-central1-ä" =
        .error (.wrongShape "yandex://b1g/ru-central1-ä") := by
  exact ⟨rfl, rfl⟩

end CloudSteward
