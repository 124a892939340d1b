import CloudSteward.Rest.Client

/-!
# What goes over the wire

A request and what becomes of it are an exchange. What a talk does to a server is a list
of exchanges, from which everything that the server notes and hands out can be read off.
What a delivery holds is a value or an error, and the delivery itself tells whether that
error says that a resource is missing.

Results:

* `Server.Serves.recorded`, `Server.Serves.unique`: what a reachable server notes and hands
  out, and that this leaves no choice of the exchanges.
* `readDelivery_eq_ok_iff`, `isNotFound_of_readDelivery`: a delivery has a value, or an
  error that says whether a resource is missing.
-/

namespace CloudSteward

open Client Json

/-! ## Exchanges -/

/-- A request and what becomes of it. -/
structure Exchange where
  request : Request
  delivery : Delivery

/-- Whether a request is for the API. -/
def Request.forApi (r : Request) : Bool :=
  match r.audience with
  | .api _ => true
  | .metadata => false

theorem forApi_of_audience {r : Request} {token : String} (h : r.audience = .api token) :
    r.forApi = true := by
  rw [Request.forApi, h]

theorem forApi_eq_false_iff {r : Request} : r.forApi = false ↔ r.audience = .metadata := by
  rw [Request.forApi]
  cases r.audience <;> simp

/-- A server goes through exchanges, each the sending of a request, and ends as another. -/
inductive Server.Serves : Server → List Exchange → Server → Prop
  | nothing (v : Server) : v.Serves [] v
  | send {s : Session} {r : Request} {l : List Exchange} {v : Server}
      (rest : (s.send r).2.server.Serves l v) : s.server.Serves (⟨r, (s.send r).1⟩ :: l) v

namespace Server.Serves

theorem one (s : Session) (r : Request) :
    s.server.Serves [⟨r, (s.send r).1⟩] (s.send r).2.server :=
  .send (.nothing _)

theorem append {v₁ v₂ v₃ : Server} {l₁ l₂ : List Exchange} (h₁ : v₁.Serves l₁ v₂)
    (h₂ : v₂.Serves l₂ v₃) : v₁.Serves (l₁ ++ l₂) v₃ := by
  induction h₁ with
  | nothing v => exact h₂
  | send _ ih => exact .send (ih h₂)

/-- A reachable server notes the requests in their order and hands out the deliveries of its
    script, and the answer of an empty script when that has run out. -/
theorem recorded {v v' : Server} {l : List Exchange} (h : v.Serves l v')
    (hr : v.reachable = true) :
    v'.received = v.received ++ l.map (·.request) ∧
      ∀ (i : Nat) (x : Exchange), l[i]? = some x →
        x.delivery = (v.script[i]?.map (·.delivery)).getD exhausted := by
  induction h with
  | nothing v => simp
  | @send s r l v _ ih =>
    cases hs : s.server.script with
    | nil =>
      have hsent : s.send r = (exhausted,
          { s with server := { s.server with received := s.server.received ++ [r] } }) := by
        simp only [Session.send, hr, hs, if_true]
      rw [hsent] at ih ⊢
      obtain ⟨hnoted, hhanded⟩ := ih hr
      refine ⟨by simp [hnoted], fun i x hx => ?_⟩
      cases i with
      | zero => simp [← Option.some.inj hx]
      | succ i => simpa [hs] using hhanded i x hx
    | cons cue rest =>
      have hsent : s.send r = (cue.delivery, { s with
          server := { s.server with received := s.server.received ++ [r], script := rest }
          now := s.now + cue.delay }) := by
        simp only [Session.send, hr, hs, if_true]
      rw [hsent] at ih ⊢
      obtain ⟨hnoted, hhanded⟩ := ih hr
      refine ⟨by simp [hnoted], fun i x hx => ?_⟩
      cases i with
      | zero => simp [← Option.some.inj hx]
      | succ i => exact hhanded i x hx

/-- Two states of a reachable server leave no choice of the exchanges between them. -/
theorem unique {v v' : Server} {l₁ l₂ : List Exchange} (h₁ : v.Serves l₁ v')
    (h₂ : v.Serves l₂ v') (hr : v.reachable = true) : l₁ = l₂ := by
  obtain ⟨hnoted₁, hhanded₁⟩ := h₁.recorded hr
  obtain ⟨hnoted₂, hhanded₂⟩ := h₂.recorded hr
  have hrequests : l₁.map (·.request) = l₂.map (·.request) :=
    List.append_cancel_left (hnoted₁.symm.trans hnoted₂)
  refine List.ext_getElem? fun i => ?_
  have hi : l₁[i]?.map (·.request) = l₂[i]?.map (·.request) := by
    rw [← List.getElem?_map, ← List.getElem?_map, hrequests]
  cases h₁ : l₁[i]? with
  | none =>
    rw [h₁] at hi
    exact (Option.map_eq_none_iff.mp hi.symm).symm
  | some x =>
    rw [h₁] at hi
    obtain ⟨y, h₂, hxy⟩ := Option.map_eq_some_iff.mp hi.symm
    have hdelivery : x.delivery = y.delivery :=
      (hhanded₁ i x h₁).trans (hhanded₂ i y h₂).symm
    rw [h₂]
    cases x
    cases y
    cases hxy
    cases hdelivery
    rfl

end Server.Serves

/-! ## Verdicts -/

deriving instance DecidableEq for Verdict

/-- The verdict of a talk that does nothing but end. -/
def Verdict.ofExcept {α : Type} : Except CloudError α → Verdict α
  | .ok a => .ok a
  | .error e => .error e

variable {α β : Type}

/-- Goes on from the value of a verdict. -/
def Verdict.andThen (v : Verdict α) (f : α → Except CloudError β) : Verdict β :=
  match v with
  | .ok a => .ofExcept (f a)
  | .error e => .error e
  | .aborted => .aborted

theorem andThen_ofExcept (r : Except CloudError α) (f : α → Except CloudError β) :
    (Verdict.ofExcept r).andThen f = .ofExcept (r >>= f) := by
  cases r <;> rfl

theorem ofExcept_apply (r : Except CloudError α) (s : Session) :
    Talk.ofExcept r s = (.ofExcept r, s) := by
  cases r <;> rfl

theorem ofExcept_ne_aborted (r : Except CloudError α) : Verdict.ofExcept r ≠ .aborted := by
  cases r <;> nofun

/-- A talk whose value is only worked on. -/
theorem bind_ofExcept (t : Talk α) (f : α → Except CloudError β) (s : Session) :
    (t >>= fun a => Talk.ofExcept (f a)) s = ((t s).1.andThen f, (t s).2) := by
  show Talk.bind t _ s = _
  rw [Talk.bind]
  rcases t s with ⟨a | e | _, s₁⟩
  · exact ofExcept_apply _ _
  · rfl
  · rfl

/-! ## Documents -/

/-- The value of a successful reply whose document has one. -/
def Delivery.read? (decode : Json → Option α) : Delivery → Option α
  | .reply status body => if isSuccess status then (Json.read? body).bind decode else none
  | .lost | .cut _ => none

/-- Whether a reply says that a resource is missing: by its status, or by the code of the
    status that it reports. -/
def Delivery.saysMissing : Delivery → Bool
  | .lost => false
  | .cut status => status == statusNotFound
  | .reply status body =>
    !isSuccess status &&
      (status == statusNotFound || (reportedStatus? body).any (·.code == codeNotFound))

theorem isNotFound_refusalOf (verb : Verb) (url : String) (status : Nat) (code : Option Int)
    (message : String) :
    (refusalOf verb url status code message).isNotFound =
      (code == some codeNotFound || status == statusNotFound) := by
  rw [refusalOf]
  split
  · rename_i h
    simpa [CloudError.isNotFound] using h
  · rename_i h
    obtain ⟨hcode, hstatus⟩ := not_or.mp h
    simp only [beq_eq_false_iff_ne.mpr hcode, beq_eq_false_iff_ne.mpr hstatus]
    split
    · rfl
    · split <;> rfl

theorem isNotFound_refusal (verb : Verb) (url : String) (status : Nat) (body : String) :
    (refusal verb url status body).isNotFound =
      (status == statusNotFound || (reportedStatus? body).any (·.code == codeNotFound)) := by
  rw [refusal]
  cases reportedStatus? body with
  | none => simp [isNotFound_refusalOf]
  | some reported => simp [isNotFound_refusalOf, Bool.or_comm]

/-- A delivery has a value exactly if it is read without an error. -/
theorem readDelivery_eq_ok_iff {decode : Json → Option α} {verb : Verb} {url : String}
    {d : Delivery} {a : α} :
    readDelivery decode verb url d = .ok a ↔ d.read? decode = some a := by
  rw [readDelivery]
  cases d with
  | lost => simp [bodyOf, Delivery.read?, bind, Except.bind]
  | cut status => simp [bodyOf, Delivery.read?, bind, Except.bind]
  | reply status body =>
    rw [bodyOf, Delivery.read?]
    split
    · cases hread : (Json.read? body).bind decode <;>
        simp [bind, Except.bind, decodeBody, hread]
    · simp [bind, Except.bind]

/-- The error of a delivery says that a resource is missing exactly if the delivery does. -/
theorem isNotFound_of_readDelivery {decode : Json → Option α} {verb : Verb} {url : String}
    {d : Delivery} {e : CloudError} (h : readDelivery decode verb url d = .error e) :
    e.isNotFound = d.saysMissing := by
  rw [readDelivery] at h
  cases d with
  | lost =>
    cases h
    rfl
  | cut status =>
    cases h
    rw [Delivery.saysMissing]
    split
    · rename_i hs
      show false = (status == statusNotFound)
      symm
      rw [beq_eq_false_iff_ne]
      rintro rfl
      cases hs
    · simp [isNotFound_refusal, reportedStatus?, Json.read?_nil]
  | reply status body =>
    rw [bodyOf] at h
    rw [Delivery.saysMissing]
    by_cases hs : isSuccess status = true
    · simp only [hs, if_true, bind, Except.bind, decodeBody] at h
      split at h
      · cases h
      · cases h
        simp [hs, undecodable, CloudError.isNotFound]
    · simp only [hs] at h
      cases h
      simp [isNotFound_refusal, Bool.eq_false_iff.mpr hs]

/-! ## A sample -/

namespace Sample

/-- A client with a token given in advance. -/
def restClient : Client :=
  ⟨.fixed "t1.9eud", .singleHost "http://api.test", "b1g", "ru-central1"⟩

/-- A session with a reachable server that has a script. -/
def scripted (deliveries : List Delivery) : Session :=
  ⟨⟨true, deliveries.map (⟨·, 0⟩), []⟩, 0, none⟩

/-- What the requests of a session have in common can be read off what the server noted. -/
theorem requests_scripted {deliveries : List Delivery} {l : List Exchange} {v : Server}
    (h : (scripted deliveries).server.Serves l v) (f : Request → β) :
    l.map (fun x => f x.request) = v.received.map f := by
  have hnoted : v.received = l.map (·.request) := (h.recorded rfl).1
  rw [hnoted, List.map_map]
  rfl

/-- An operation that is not done. -/
def pendingReply (id : String) : Delivery :=
  .reply 200 ("\x7b\"id\":\"" ++ id ++ "\",\"done\":false\x7d")

end Sample

end CloudSteward
