import CloudSteward.Proofs.Numeral
import CloudSteward.Resource.Decode
import Mathlib.Data.List.Forall2

/-!
# Numbers written as texts

The cloud writes 64-bit fields as texts and its clients write them as numbers.
A respelling relates a document to those that differ from it only in that some
numbers of 64-bit fields are replaced by their decimal texts; which members or
positions hold such a field is said once for each kind of record. No reader
tells a document from its respellings.

Results:

* `list_at`, `record_at`: one item or one member may be replaced.
* `int64_unseen`, `list_unseen`, `record_unseen`: what a reader has to be like
  not to see a respelling, for each way of putting respellings together.
* `Listener.unseen`, …, `BalancerRequest.unseen`: the readers of all records
  that have 64-bit fields somewhere inside are like that.
-/

namespace CloudSteward

namespace Json

/-- Relates a document to those that may stand in its place, the document itself
    among them; null has no other spelling and is none. -/
structure Respelling where
  rel : Json → Json → Prop
  refl : ∀ j, rel j j
  null : ∀ {j j'}, rel j j' → (j' = .null ↔ j = .null)

namespace Respelling

/-- Nothing is written differently. -/
def same : Respelling where
  rel j j' := j' = j
  refl _ := rfl
  null h := by rw [h]

/-- A whole number may be written as its decimal text. -/
def int64 : Respelling where
  rel j j' := j' = j ∨ ∃ n : Int, j = .int n ∧ j' = .str (toString n)
  refl _ := .inl rfl
  null := by
    rintro j _ (rfl | ⟨n, rfl, rfl⟩) <;> simp

/-- Arrays with items that are respelled each on its own. -/
def Items (item : Respelling) : Json → Json → Prop
  | .arr items, .arr items' => List.Forall₂ item.rel items items'
  | j, j' => j' = j

/-- Each item may be written differently on its own. -/
def list (item : Respelling) : Respelling where
  rel := Items item
  refl j := by
    cases j with
    | arr items => exact List.forall₂_same.mpr fun i _ => item.refl i
    | _ => rfl
  null h := by
    unfold Items at h
    split at h
    · simp
    · rw [h]

/-- How the value of a field may be written; a member that is no field stays. -/
def ofField (fields : List (String × Respelling)) (name : String) : Respelling :=
  (fields.lookup name).getD same

/-- The key of a member stays, its value is respelled as the field allows. -/
def Member (fields : List (String × Respelling)) (m m' : String × Json) : Prop :=
  m'.1 = m.1 ∧ (ofField fields m.1).rel m.2 m'.2

/-- The members of a record, each respelled on its own. -/
abbrev Members (fields : List (String × Respelling)) (fs fs' : Fields) : Prop :=
  List.Forall₂ (Member fields) fs fs'

theorem Members.refl (fields : List (String × Respelling)) (fs : Fields) : Members fields fs fs :=
  List.forall₂_same.mpr fun m _ => ⟨rfl, (ofField fields m.1).refl m.2⟩

/-- Records with fields that are respelled each on its own, in an object and in
    the array of the fields in their order. -/
def OfMembers (fields : List (String × Respelling)) : Json → Json → Prop
  | .obj members, .obj members' => Members fields members members'
  | .arr items, .arr items' =>
    items'.length = items.length ∧
      Members fields ((fields.map (·.1)).zip items) ((fields.map (·.1)).zip items')
  | j, j' => j' = j

/-- Each field may be written differently on its own. -/
def record (fields : List (String × Respelling)) : Respelling where
  rel := OfMembers fields
  refl j := by
    cases j with
    | obj members => exact Members.refl fields members
    | arr items => exact ⟨rfl, Members.refl fields _⟩
    | _ => rfl
  null h := by
    unfold OfMembers at h
    split at h
    · simp
    · simp
    · rw [h]

variable {α : Type} {decode : Json → Option α} {r : Respelling}

/-! ## One replacement -/

theorem forall₂_at {β : Type} {R : β → β → Prop} (refl : ∀ x, R x x) {x x' : β} (h : R x x')
    (before after : List β) : List.Forall₂ R (before ++ x :: after) (before ++ x' :: after) := by
  induction before with
  | nil => exact .cons h (List.forall₂_same.mpr fun y _ => refl y)
  | cons y before ih => exact .cons (refl y) ih

/-- One item of an array may be replaced. -/
theorem list_at {j j' : Json} (h : r.rel j j') (before after : List Json) :
    (list r).rel (.arr (before ++ j :: after)) (.arr (before ++ j' :: after)) :=
  forall₂_at r.refl h before after

/-- The value of one member of an object may be replaced. -/
theorem record_at {fields : List (String × Respelling)} {key : String} {j j' : Json}
    (h : (ofField fields key).rel j j') (before after : List (String × Json)) :
    (record fields).rel (.obj (before ++ (key, j) :: after))
      (.obj (before ++ (key, j') :: after)) :=
  forall₂_at (fun m => ⟨rfl, (ofField fields m.1).refl m.2⟩) ⟨rfl, h⟩ before after

/-! ## Readers -/

/-- A reader makes the same of a document and of its respellings. -/
def UnseenBy {α : Type} (r : Respelling) (decode : Json → Option α) : Prop :=
  ∀ {j j'}, r.rel j j' → decode j' = decode j

theorem same_unseen : same.UnseenBy decode := fun h => congrArg decode h

/-- A 64-bit field takes a number and its text alike. -/
theorem int64_unseen : int64.UnseenBy int64OrText? := by
  rintro j _ (rfl | ⟨n, rfl, rfl⟩)
  · rfl
  · exact int64OrText?_toString n

theorem list_unseen (hr : r.UnseenBy decode) : (list r).UnseenBy (list? decode) := by
  intro j j' h
  change Items r j j' at h
  unfold Items at h
  split at h
  · show List.mapM decode _ = List.mapM decode _
    induction h with
    | nil => rfl
    | cons h _ ih => rw [List.mapM_cons, List.mapM_cons, hr h, ih]
  · rw [h]

theorem orNull?_unseen (hr : r.UnseenBy decode) : r.UnseenBy (orNull? decode) := by
  intro j j' h
  have null := r.null h
  have value := hr h
  unfold orNull?
  split <;> split <;> simp_all

/-! ## Fields of records -/

variable {fields : List (String × Respelling)} {fs fs' : Fields}

@[simp] theorem ofField_nil (name : String) : ofField [] name = same := rfl

@[simp] theorem ofField_cons (n : String) (r : Respelling) (fields : List (String × Respelling))
    (name : String) :
    ofField ((n, r) :: fields) name = if name = n then r else ofField fields name := by
  unfold ofField
  by_cases h : name = n
  · simp [h]
  · have : (name == n) = false := by simpa using h
    simp [List.lookup_cons, this, h]

theorem Members.keys (h : Members fields fs fs') : fs'.map (·.1) = fs.map (·.1) := by
  induction h with
  | nil => rfl
  | cons h _ ih => rw [List.map_cons, List.map_cons, h.1, ih]

theorem Members.distinctNames (h : Members fields fs fs') :
    distinctNames fs' = distinctNames fs := by
  induction h with
  | nil => rfl
  | @cons m m' fs fs' h rest ih =>
    have any (k : String) : (fs'.any fun e => e.1 == k) = fs.any fun e => e.1 == k := by
      have := congrArg (·.any (· == k)) (Members.keys rest)
      simpa [List.any_map, Function.comp_def] using this
    rw [Json.distinctNames, Json.distinctNames, any, h.1, ih]

/-- A field without other spellings is read under its name. -/
theorem nameOf?_eq {names : List String} {key name : String}
    (h : nameOf? (names.map fun n => { name := n }) key = some name) : name = key := by
  obtain ⟨f, hf, rfl⟩ := Option.map_eq_some_iff.mp h
  have reads := List.find?_some hf
  obtain ⟨n, -, rfl⟩ := List.mem_map.mp (List.mem_of_find?_eq_some hf)
  simpa [Field.reads] using reads

theorem Members.known (names : List String) (h : Members fields fs fs') :
    Members fields (known (names.map fun n => { name := n }) fs)
      (known (names.map fun n => { name := n }) fs') := by
  induction h with
  | nil => exact .nil
  | @cons m m' fs fs' h rest ih =>
    unfold Json.known at ih ⊢
    rw [List.filterMap_cons, List.filterMap_cons, h.1]
    cases found : nameOf? (names.map fun n => { name := n }) m.1 with
    | none => exact ih
    | some name =>
      obtain rfl := nameOf?_eq found
      exact .cons ⟨rfl, h.2⟩ ih

/-- A member that is looked up is a respelling of what it was. -/
theorem Members.get? (h : Members fields fs fs') (name : String) :
    Option.Rel (ofField fields name).rel (fs.get? name) (fs'.get? name) := by
  unfold Fields.get?
  induction h with
  | nil => exact .none
  | @cons m m' fs fs' h rest ih =>
    rw [List.find?_cons, List.find?_cons, h.1]
    split
    · rename_i key
      obtain rfl : m.1 = name := by simpa using key
      exact .some h.2
    · exact ih

/-- What is made of a member does not depend on how it is written. -/
theorem Members.decoded (h : Members fields fs fs') {name : String} (hr : r.UnseenBy decode)
    (hname : ofField fields name = r) :
    (fs'.get? name).map decode = (fs.get? name).map decode := by
  have found := h.get? name
  generalize fs.get? name = j, fs'.get? name = j' at found ⊢
  cases found with
  | none => rfl
  | some h => exact congrArg some (hr (hname ▸ h))

theorem Members.required (h : Members fields fs fs') {name : String} (hr : r.UnseenBy decode)
    (hname : ofField fields name = r) :
    fs'.required name decode = fs.required name decode := by
  have read (fs : Fields) : fs.required name decode = ((fs.get? name).map decode).join := by
    unfold Fields.required
    cases fs.get? name <;> rfl
  rw [read, read, h.decoded hr hname]

theorem Members.withDefault (h : Members fields fs fs') {name : String} {default : α}
    (hr : r.UnseenBy decode) (hname : ofField fields name = r) :
    fs'.withDefault name default decode = fs.withDefault name default decode := by
  have read (fs : Fields) :
      fs.withDefault name default decode = ((fs.get? name).map decode).getD (some default) := by
    unfold Fields.withDefault
    cases fs.get? name <;> rfl
  rw [read, read, h.decoded hr hname]

theorem Members.optional (h : Members fields fs fs') {name : String} (hr : r.UnseenBy decode)
    (hname : ofField fields name = r) :
    fs'.optional name decode = fs.optional name decode :=
  Members.withDefault h (orNull?_unseen hr) hname

/-- A record and its respelling are both refused, or the fields of the one are
    respelled to those of the other. -/
theorem record?_rel {j j' : Json} (h : (record fields).rel j j') :
    Option.Rel (Members fields) (record? (fields.map (·.1)) j)
      (record? (fields.map (·.1)) j') := by
  change OfMembers fields j j' at h
  unfold OfMembers at h
  split at h
  · have members := Members.known (fields.map (·.1)) h
    simp only [record?, fields?, members.distinctNames]
    split
    · exact .some members
    · exact .none
  · rename_i items items'
    obtain ⟨count, members⟩ := h
    by_cases fits : items.length ≤ (fields.map (·.1)).length
    · rw [get?_ofArray _ _ fits, get?_ofArray _ _ (count ▸ fits)]
      exact .some members
    · simp only [record?, fields?, count, List.length_map] at fits ⊢
      rw [if_neg fits, if_neg fits]
      exact .none
  · rename_i no_object no_array
    subst h
    cases j' with
    | obj members => exact absurd rfl (no_object members members rfl)
    | arr items => exact absurd rfl (no_array items items rfl)
    | _ => exact .none

/-- A reader that does not see how the fields are written does not see how the
    record is. -/
theorem record_unseen {f : Fields → Option α}
    (hf : ∀ {fs fs'}, Members fields fs fs' → f fs' = f fs) :
    (record fields).UnseenBy fun j => record? (fields.map (·.1)) j >>= f := by
  intro j j' h
  have read := record?_rel h
  show (record? (fields.map (·.1)) j' >>= f) = (record? (fields.map (·.1)) j >>= f)
  generalize record? (fields.map (·.1)) j = o, record? (fields.map (·.1)) j' = o' at read ⊢
  cases read with
  | none => rfl
  | some h => exact hf h

end Respelling

end Json

open Json Respelling

/-! ## Records with 64-bit fields -/

/-- How a listener may be written. -/
def Listener.respelling : Respelling :=
  record [("name", same), ("address", same), ("port", int64), ("protocol", same),
    ("targetPort", int64), ("subnetId", same), ("ipVersion", same)]

theorem Listener.unseen : respelling.UnseenBy ofJson? := by
  refine record_unseen fun h => ?_
  simp (disch := simp) only [h.required same_unseen, h.withDefault same_unseen,
    h.required int64_unseen]

/-- How the wish for a listener may be written. -/
def ListenerSpec.respelling : Respelling :=
  record [("name", same), ("port", int64), ("protocol", same), ("targetPort", int64),
    ("externalAddressSpec", same), ("internalAddressSpec", same)]

theorem ListenerSpec.unseen : respelling.UnseenBy ofJson? := by
  refine record_unseen fun h => ?_
  simp (disch := simp) only [h.required same_unseen, h.optional same_unseen,
    h.required int64_unseen]

/-- How a probe by HTTP may be written. -/
def HttpProbe.respelling : Respelling :=
  record [("port", int64), ("path", same)]

theorem HttpProbe.unseen : respelling.UnseenBy ofJson? := by
  refine record_unseen fun h => ?_
  simp (disch := simp) only [h.required same_unseen, h.required int64_unseen]

/-- How a probe by connecting may be written. -/
def TcpProbe.respelling : Respelling :=
  record [("port", int64)]

theorem TcpProbe.unseen : respelling.UnseenBy ofJson? := by
  refine record_unseen fun h => ?_
  simp (disch := simp) only [h.required int64_unseen]

/-- How a health check may be written. -/
def HealthCheck.respelling : Respelling :=
  record [("name", same), ("interval", same), ("timeout", same), ("unhealthyThreshold", int64),
    ("healthyThreshold", int64), ("httpOptions", HttpProbe.respelling),
    ("tcpOptions", TcpProbe.respelling)]

theorem HealthCheck.unseen : respelling.UnseenBy ofJson? := by
  refine record_unseen fun h => ?_
  simp (disch := simp) only [h.required same_unseen, h.required int64_unseen,
    h.optional HttpProbe.unseen, h.optional TcpProbe.unseen]

/-- How an attached target group may be written. -/
def Attachment.respelling : Respelling :=
  record [("targetGroupId", same), ("healthChecks", list HealthCheck.respelling)]

theorem Attachment.unseen : respelling.UnseenBy ofJson? := by
  refine record_unseen fun h => ?_
  simp (disch := simp) only [h.required same_unseen,
    h.withDefault (list_unseen HealthCheck.unseen)]

/-- How a balancer may be written. -/
def Balancer.respelling : Respelling :=
  record [("id", same), ("folderId", same), ("name", same), ("regionId", same), ("status", same),
    ("type", same), ("listeners", list Listener.respelling),
    ("attachedTargetGroups", list Attachment.respelling)]

theorem Balancer.unseen : respelling.UnseenBy ofJson? := by
  refine record_unseen fun h => ?_
  simp (disch := simp) only [h.required same_unseen, h.withDefault same_unseen,
    h.withDefault (list_unseen Listener.unseen), h.withDefault (list_unseen Attachment.unseen)]

/-- How the wish for a balancer may be written. -/
def BalancerRequest.respelling : Respelling :=
  record [("folderId", same), ("name", same), ("regionId", same), ("type", same),
    ("listenerSpecs", list ListenerSpec.respelling),
    ("attachedTargetGroups", list Attachment.respelling)]

theorem BalancerRequest.unseen : respelling.UnseenBy ofJson? := by
  refine record_unseen fun h => ?_
  simp (disch := simp) only [h.required same_unseen,
    h.required (list_unseen ListenerSpec.unseen), h.required (list_unseen Attachment.unseen)]

end CloudSteward
