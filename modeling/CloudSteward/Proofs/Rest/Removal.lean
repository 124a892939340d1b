import CloudSteward.Proofs.Rest.Change

/-!
# Deleting a resource

A deletion succeeds if the resource is gone, by this call or before. The reply to the
deletion itself can say so, and so can the operation that it starts. There is a third
case: the operation is asked for and the reply to that question says that something is
missing. It speaks of the operation and not of the resource, and yet it counts.

Results:

* `delete_ok_iff`: when a deletion succeeds.
* `delete_ok_of_forgotten_operation`: a deletion that succeeds though nothing confirms it.
-/

namespace CloudSteward

open Client Json

variable {α : Type} {c : Client} {s : Session}

/-- A deletion. -/
inductive Deletion where
  | targetGroup (id : String)
  | balancer (id : String)

/-- Deletes a resource. -/
def Client.delete (c : Client) : Deletion → Talk Unit
  | .targetGroup id => c.perform (.deleteTargetGroup id)
  | .balancer id => c.perform (.deleteBalancer id)

theorem delete_eq_remove (c : Client) (d : Deletion) : ∃ url, c.delete d = c.remove url := by
  cases d with
  | targetGroup id => exact ⟨_, rfl⟩
  | balancer id => exact ⟨_, rfl⟩

/-! ## What concludes a deletion -/

/-- An operation that ends with the resource gone. -/
def Operation.Gone (o : Operation) : Prop :=
  o.done = true ∧ ∀ status, o.error = some status → status.code = codeNotFound

/-- An exchange that confirms that a resource is gone: the deletion is answered as not found,
    or the reply is an operation that ends so. -/
inductive Exchange.Confirms (x : Exchange) : Prop
  | missing (deletes : x.request.verb = .delete) (missed : x.delivery.saysMissing = true)
  | gone {o : Operation} (read : x.delivery.operation? = some o) (gone : o.Gone)

/-- An exchange in which the question for an operation is answered as not found. -/
structure Exchange.Forgets (x : Exchange) : Prop where
  asks : x.request.verb = .get
  missed : x.delivery.saysMissing = true

/-- An exchange with the API after which a deletion counts as a success. -/
structure Exchange.Concludes (x : Exchange) : Prop where
  forApi : x.request.forApi = true
  reason : x.Confirms ∨ x.Forgets

/-- What is not for the API concludes nothing. -/
theorem Credentials.Obtains.not_concludes {credentials : Credentials} {l : List Exchange}
    {v : Verdict String} (h : credentials.Obtains l v) : ¬ ∃ x ∈ l, x.Concludes := by
  rintro ⟨x, hx, hconcludes⟩
  cases h with
  | fixed token => cases hx
  | issued aside _ =>
    have hapi := hconcludes.forApi
    rw [Request.forApi, aside x hx] at hapi
    cases hapi

theorem Credentials.Obtains.unmissed {credentials : Credentials} {l : List Exchange}
    {e : CloudError} (h : credentials.Obtains l (.error e)) : e.isNotFound = false := by
  cases h with
  | issued _ unmissed => exact unmissed e rfl

/-- A reply with a value does not say that anything is missing. -/
theorem saysMissing_of_read {decode : Json → Option α} {d : Delivery} {a : α}
    (h : d.read? decode = some a) : d.saysMissing = false := by
  cases d with
  | lost => cases h
  | cut status => cases h
  | reply status body =>
    rw [Delivery.read?] at h
    split at h
    · rename_i hs
      simp [Delivery.saysMissing, hs]
    · cases h

section Fetches

variable {verb : Verb} {url : String} {body : Option Json} {l : List Exchange}

theorem exists_concludes_append_iff {x : Exchange} (h : ¬ ∃ x ∈ l, x.Concludes) :
    (∃ y ∈ l ++ [x], y.Concludes) ↔ x.Concludes := by
  constructor
  · rintro ⟨y, hy, hconcludes⟩
    rcases List.mem_append.mp hy with hy | hy
    · exact absurd ⟨y, hy, hconcludes⟩ h
    · rw [← List.mem_singleton.mp hy]
      exact hconcludes
  · exact fun hconcludes => ⟨x, by simp, hconcludes⟩

/-- An error concludes a deletion exactly if it says that something is missing. -/
theorem Client.Fetches.concludes_error_iff {e : CloudError}
    (h : c.Fetches Operation.ofJson? verb url body l (.error e))
    (hverb : verb = .delete ∨ verb = .get) :
    (∃ x ∈ l, x.Concludes) ↔ e.isNotFound = true := by
  cases h with
  | unsent obtained => simp [obtained.unmissed, obtained.not_concludes]
  | refused obtained unread missing =>
    rw [exists_concludes_append_iff obtained.not_concludes, missing]
    constructor
    · rintro ⟨-, (⟨-, hsays⟩ | ⟨hread, -⟩) | ⟨-, hsays⟩⟩
      · exact hsays
      · cases unread.symm.trans hread
      · exact hsays
    · intro hsays
      refine ⟨rfl, ?_⟩
      rcases hverb with hverb | hverb
      · exact .inl (.missing hverb hsays)
      · exact .inr ⟨hverb, hsays⟩

theorem Client.Fetches.not_concludes_aborted
    (h : c.Fetches Operation.ofJson? verb url body l .aborted) : ¬ ∃ x ∈ l, x.Concludes := by
  cases h with
  | aborted obtained => exact obtained.not_concludes

/-- An operation concludes a deletion exactly if it ends with the resource gone. -/
theorem Client.Fetches.concludes_ok_iff {o : Operation}
    (h : c.Fetches Operation.ofJson? verb url body l (.ok o)) :
    (∃ x ∈ l, x.Concludes) ↔ o.Gone := by
  cases h with
  | read obtained read =>
    have hsays := saysMissing_of_read read
    rw [exists_concludes_append_iff obtained.not_concludes]
    constructor
    · rintro ⟨-, (⟨-, hmissing⟩ | ⟨hread, hgone⟩) | ⟨-, hmissing⟩⟩
      · cases hsays.symm.trans hmissing
      · cases read.symm.trans hread
        exact hgone
      · cases hsays.symm.trans hmissing
    · exact fun hgone => ⟨rfl, .inl (.gone read hgone)⟩

end Fetches

/-! ## Success -/

/-- The verdict on a deletion whose operation has this verdict. -/
def Verdict.missingAsDone : Verdict Operation → Verdict Unit
  | .ok o => .ofExcept (Client.missingAsDone (.ok o))
  | .error e => .ofExcept (Client.missingAsDone (.error e))
  | .aborted => .aborted

theorem remove_eq (url : String) :
    c.remove url s =
      ((c.await .delete url none s).1.missingAsDone, (c.await .delete url none s).2) := by
  show Talk.bind (Talk.attempt _) _ s =
    (Verdict.missingAsDone (Talk.bind _ _ s).1, (Talk.bind _ _ s).2)
  rw [Talk.bind, Talk.bind, Talk.attempt]
  rcases c.fetch Operation.ofJson? .delete url none s with ⟨o | e | _, s₁⟩
  · show Talk.bind (Talk.attempt (c.awaitDone o)) _ s₁ =
      ((c.awaitDone o s₁).1.missingAsDone, (c.awaitDone o s₁).2)
    rw [Talk.bind, Talk.attempt]
    rcases c.awaitDone o s₁ with ⟨o | e | _, s₂⟩
    · exact ofExcept_apply _ _
    · exact ofExcept_apply _ _
    · rfl
  · exact ofExcept_apply _ _
  · rfl

theorem missingAsDone_error_eq_ok_iff {e : CloudError} :
    (Verdict.error e).missingAsDone = .ok () ↔ e.isNotFound = true := by
  rw [Verdict.missingAsDone, Client.missingAsDone]
  split <;> simp_all [Verdict.ofExcept]

theorem missingAsDone_eq_aborted_iff {v : Verdict Operation} :
    v.missingAsDone = .aborted ↔ v = .aborted := by
  cases v with
  | ok o => exact iff_of_false (ofExcept_ne_aborted (Client.missingAsDone (.ok o))) nofun
  | error e => exact iff_of_false (ofExcept_ne_aborted (Client.missingAsDone (.error e))) nofun
  | aborted => exact iff_of_true rfl rfl

theorem missingAsDone_outcomeOf_eq_ok_iff {o : Operation} (hdone : o.done = true) :
    (Verdict.ofExcept (outcomeOf o)).missingAsDone = .ok () ↔ o.Gone := by
  rw [outcomeOf, Operation.Gone]
  cases herror : o.error with
  | none => simp [hdone, Verdict.ofExcept, Verdict.missingAsDone, Client.missingAsDone]
  | some status =>
    show (Verdict.error _).missingAsDone = .ok () ↔ _
    rw [missingAsDone_error_eq_ok_iff]
    simp [hdone, CloudError.isNotFound]

/-- A deletion succeeds exactly if an exchange concludes it, by induction on the operations
    that are asked for. -/
theorem Client.Awaits.concludes_iff {verb : Verb} {url : String} {body : Option Json}
    {l : List Exchange} {v : Verdict Operation} (h : c.Awaits verb url body l v)
    (hverb : verb = .delete ∨ verb = .get) :
    v.missingAsDone = .ok () ↔ ∃ x ∈ l, x.Concludes := by
  induction h with
  | failed fetched =>
    rw [missingAsDone_error_eq_ok_iff, fetched.concludes_error_iff hverb]
  | aborted fetched =>
    refine ⟨fun h => ?_, fun h => absurd h fetched.not_concludes_aborted⟩
    cases h
  | done fetched hdone =>
    rw [missingAsDone_outcomeOf_eq_ok_iff hdone, fetched.concludes_ok_iff]
  | @pending _ _ _ l _ _ _ fetched hpending _ ih =>
    have hnot : ¬ ∃ x ∈ l, x.Concludes := by
      intro h
      have hdone := (fetched.concludes_ok_iff.mp h).1
      rw [hpending] at hdone
      cases hdone
    rw [ih (.inr rfl)]
    constructor
    · rintro ⟨x, hx, hconcludes⟩
      exact ⟨x, List.mem_append_right _ hx, hconcludes⟩
    · rintro ⟨x, hx, hconcludes⟩
      rcases List.mem_append.mp hx with hx | hx
      · exact absurd ⟨x, hx, hconcludes⟩ hnot
      · exact ⟨x, hx, hconcludes⟩

/-- **Success.** A deletion succeeds exactly if one of its exchanges with the API confirms
    that the resource is gone, or if the question for its operation is answered as not
    found. Nothing that the metadata service says makes it succeed. -/
theorem delete_ok_iff (c : Client) (d : Deletion) (s : Session) :
    ∃ l, s.server.Serves l (c.delete d s).2.server ∧
      ((c.delete d s).1 = .ok () ↔ ∃ x ∈ l, x.Concludes) := by
  obtain ⟨url, hdelete⟩ := delete_eq_remove c d
  obtain ⟨l, hl, hawaits⟩ := awaits_await c .delete url none s
  rw [hdelete, remove_eq]
  exact ⟨l, hl, hawaits.concludes_iff (.inl rfl)⟩

namespace Sample

/-- An operation in progress that the service of the operations does not find. -/
def forgetting : Session :=
  scripted [pendingReply "op1",
    .reply 404 "\x7b\"code\":5,\"message\":\"operation op1 not found\"\x7d"]

end Sample

open Sample in
/-- The deletion is in progress, and nothing confirms that the group is gone. -/
theorem delete_ok_of_forgotten_operation :
    (restClient.delete (.targetGroup "enp1") forgetting).1 = .ok () ∧
      ∀ l, forgetting.server.Serves l
        (restClient.delete (.targetGroup "enp1") forgetting).2.server → ∀ x ∈ l, ¬ x.Confirms := by
  refine ⟨by decide +kernel, fun l hl x hx hconfirms => ?_⟩
  have hverbs : l.map (·.request.verb) = [.delete, .get] := by
    rw [requests_scripted hl Request.verb]
    decide +kernel
  obtain ⟨x₀, l₁, rfl, -, hrest⟩ := List.map_eq_cons_iff.mp hverbs
  obtain ⟨x₁, l₂, rfl, hget, hnil⟩ := List.map_eq_cons_iff.mp hrest
  cases List.map_eq_nil_iff.mp hnil
  have hdelivered := (hl.recorded rfl).2
  have hx : x = x₀ ∨ x = x₁ := by simpa using hx
  rcases hx with rfl | rfl
  · have hpending : x.delivery = pendingReply "op1" := hdelivered 0 x rfl
    cases hconfirms with
    | missing _ missed =>
      rw [hpending] at missed
      exact absurd missed (by decide +kernel)
    | gone read gone =>
      have hdone : (pendingReply "op1").operation?.map (·.done) = some false := by decide +kernel
      rw [← hpending, read, Option.map_some, gone.1] at hdone
      cases hdone
  · have hunread : x.delivery.operation? = none := by
      rw [hdelivered 1 x rfl]
      rfl
    cases hconfirms with
    | missing deletes _ => cases hget.symm.trans deletes
    | gone read _ => cases hunread.symm.trans read

end CloudSteward
