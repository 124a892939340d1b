import CloudSteward.Text.Quoted
import CloudSteward.Text.Segments

/-!
# The providerID of a node

A node names the instance behind it by a URI with the scheme of its provider.
This provider writes two forms: the id of the instance, or the folder, zone and
name of the instance. Both are slash-separated segments, none of them empty.

Results:

* `afterPrefix?_eq_some_iff`: what follows a start is what has to be appended to
  it.
* `ProviderId.render_instance`, `ProviderId.render_legacy`: the two forms, spelled out.
* `ProviderId.parse_render`: a providerID that is written reads back.
* `ProviderId.parse_eq_ok_iff`: what reads as a providerID is its written form.
-/

namespace CloudSteward

/-- The name under which the provider is registered. -/
def providerName : String := "yandex"

/-- What every providerID of this provider starts with. -/
def providerScheme : String := "yandex://"

/-- The instance behind a node. -/
inductive ProviderId where
  | legacy (folderId zoneId instanceName : String)
  | instance (instanceId : String)
deriving DecidableEq, Repr

/-- Why a text is no providerID. -/
inductive ProviderIdError where
  | foreignScheme (raw : String)
  | emptySegment (raw : String)
  | wrongShape (raw : String)
deriving DecidableEq, Repr

/-- The text for the operator. -/
def ProviderIdError.message : ProviderIdError → String
  | .foreignScheme raw => s!"{Text.quoted raw} does not use the {providerScheme} scheme"
  | .emptySegment raw => s!"{Text.quoted raw} has an empty path segment"
  | .wrongShape raw =>
    s!"{Text.quoted raw} is neither {providerScheme}<instanceID> nor " ++
      s!"{providerScheme}<folder>/<zone>/<name>"

/-- What follows the given start of a text. -/
def afterPrefix? : List Char → List Char → Option (List Char)
  | [], cs => some cs
  | _ :: _, [] => none
  | p :: ps, c :: cs => if p = c then afterPrefix? ps cs else none

/-- A text that can stand between the slashes of a providerID. -/
def IsSegment (segment : String) : Prop :=
  segment ≠ "" ∧ '/' ∉ segment.toList

namespace ProviderId

/-- The segments of a providerID. -/
def segments : ProviderId → List String
  | .legacy folderId zoneId instanceName => [folderId, zoneId, instanceName]
  | .instance instanceId => [instanceId]

/-- The text of a providerID. -/
def render (p : ProviderId) : String :=
  providerScheme ++ Text.joinText '/' p.segments

/-- The segments of a providerID can be told apart. -/
def Plain (p : ProviderId) : Prop :=
  ∀ segment ∈ p.segments, IsSegment segment

/-- Reads a providerID. -/
def parse (raw : String) : Except ProviderIdError ProviderId :=
  match afterPrefix? providerScheme.toList raw.toList with
  | none => .error (.foreignScheme raw)
  | some rest =>
    let segments := Text.cut '/' rest
    if segments.any List.isEmpty then .error (.emptySegment raw)
    else
      match segments with
      | [folderId, zoneId, instanceName] =>
        .ok (.legacy (String.ofList folderId) (String.ofList zoneId) (String.ofList instanceName))
      | [instanceId] => .ok (.instance (String.ofList instanceId))
      | _ => .error (.wrongShape raw)

/-- Whether a text was written by this provider, as far as its scheme tells. -/
def belongs (raw : String) : Bool :=
  (afterPrefix? providerScheme.toList raw.toList).isSome

end ProviderId

/-! ## Laws -/

theorem afterPrefix?_eq_some_iff {start cs rest : List Char} :
    afterPrefix? start cs = some rest ↔ cs = start ++ rest := by
  induction start generalizing cs with
  | nil => simp [afterPrefix?]
  | cons p ps ih =>
    cases cs with
    | nil => simp [afterPrefix?]
    | cons c cs =>
      rw [afterPrefix?]
      by_cases h : p = c
      · simp [h, ih]
      · simp only [h, if_false, List.cons_append, List.cons.injEq, reduceCtorEq, false_iff]
        exact fun e => h e.1.symm

theorem ProviderId.render_instance (id : String) :
    (ProviderId.instance id).render = providerScheme ++ id := by
  simp [render, segments, Text.joinText, Text.join]

theorem ProviderId.render_legacy (folderId zoneId name : String) :
    (ProviderId.legacy folderId zoneId name).render =
      providerScheme ++ s!"{folderId}/{zoneId}/{name}" := by
  rw [← String.toList_inj]
  simp [render, segments, Text.joinText, Text.join, String.toList_append, toString]

theorem ProviderId.plain_instance_iff {id : String} :
    (ProviderId.instance id).Plain ↔ IsSegment id := by
  simp [Plain, segments]

theorem ProviderId.plain_legacy_iff {folderId zoneId name : String} :
    (ProviderId.legacy folderId zoneId name).Plain ↔
      IsSegment folderId ∧ IsSegment zoneId ∧ IsSegment name := by
  simp [Plain, segments]

/-- A providerID whose segments can be told apart reads back. -/
theorem ProviderId.parse_render {p : ProviderId} (h : p.Plain) : parse p.render = .ok p := by
  have hcut : Text.cut '/' (Text.joinText '/' p.segments).toList =
      p.segments.map String.toList := by
    rw [Text.joinText, String.toList_ofList, Text.cut_join]
    · cases p <;> simp [segments]
    · exact List.forall_mem_map.mpr fun segment hs => (h segment hs).2
  have hnonempty : (p.segments.map String.toList).any List.isEmpty = false := by
    refine List.any_eq_false.mpr (List.forall_mem_map.mpr fun segment hs => ?_)
    simpa using (h segment hs).1
  have hafter : afterPrefix? providerScheme.toList p.render.toList =
      some (Text.joinText '/' p.segments).toList := by
    rw [afterPrefix?_eq_some_iff, render, String.toList_append]
  rw [parse, hafter]
  simp only [hcut, hnonempty, Bool.false_eq_true, if_false]
  cases p <;> simp [segments]

/-- What reads as a providerID is the written form of one. -/
theorem ProviderId.render_of_parse {raw : String} {p : ProviderId} (h : parse raw = .ok p) :
    raw = p.render ∧ p.Plain := by
  rw [parse] at h
  cases hafter : afterPrefix? providerScheme.toList raw.toList with
  | none =>
    rw [hafter] at h
    cases h
  | some rest =>
    simp only [hafter] at h
    have hraw : raw.toList = providerScheme.toList ++ rest := afterPrefix?_eq_some_iff.mp hafter
    have hjoin := Text.join_cut '/' rest
    have hnotMem := Text.sep_notMem_of_mem_cut '/' rest
    generalize Text.cut '/' rest = segments at h hjoin hnotMem
    split at h
    · cases h
    · rename_i hnonempty
      have hplain : ∀ segment ∈ segments, segment ≠ [] ∧ '/' ∉ segment := by
        intro segment hs
        refine ⟨fun hnil => hnonempty ?_, hnotMem segment hs⟩
        exact List.any_eq_true.mpr ⟨segment, hs, by simp [hnil]⟩
      -- the segments of what is read are those of the text
      have hsegments : segments = p.segments.map String.toList := by
        split at h
        · cases h
          simp [ProviderId.segments]
        · cases h
          simp [ProviderId.segments]
        · cases h
      constructor
      · rw [← String.toList_inj, hraw, ← hjoin, hsegments, render, String.toList_append,
          Text.joinText, String.toList_ofList]
      · intro segment hs
        obtain ⟨hne, hslash⟩ := hplain segment.toList (by
          rw [hsegments]
          exact List.mem_map_of_mem hs)
        exact ⟨by simpa using hne, hslash⟩

/-- A text reads as a providerID exactly if it is its written form and the segments can be
    told apart. -/
theorem ProviderId.parse_eq_ok_iff {raw : String} {p : ProviderId} :
    parse raw = .ok p ↔ raw = p.render ∧ p.Plain :=
  ⟨render_of_parse, fun h => h.1 ▸ parse_render h.2⟩

end CloudSteward
