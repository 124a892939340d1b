import CloudSteward.Proofs.Rest.Sending

/-!
# Asking the API

A request to the API needs a token first. With a token given in advance there is nothing
else on the wire; otherwise the metadata service may be asked, and whatever it answers,
no error of it says that a resource is missing.

Results:

* `obtains_token`: obtaining a token.
* `fetches_fetch`: asking the API.
-/

namespace CloudSteward

open Client Json

variable {α : Type}

/-! ## Tokens -/

/-- The exchanges and the verdict with which a token is obtained. -/
inductive Credentials.Obtains : Credentials → List Exchange → Verdict String → Prop
  | fixed (token : String) : (Credentials.fixed token).Obtains [] (.ok token)
  | issued {address : String} {l : List Exchange} {v : Verdict String}
      (aside : ∀ x ∈ l, x.request.audience = .metadata)
      (unmissed : ∀ e, v = .error e → e.isNotFound = false) :
      (Credentials.instanceAccount address).Obtains l v

/-- No answer of the metadata service says that a resource is missing. -/
theorem Credentials.Hands.obtains {c : Credentials} {s s' : Session} {l : List Sent}
    {v : Verdict String} (h : c.Hands s l v s') : c.Obtains (l.map (·.toExchange)) v := by
  cases c with
  | fixed token =>
    cases h
    exact .fixed token
  | instanceAccount address =>
    refine .issued (fun x hx => ?_) fun e he => ?_
    · obtain ⟨y, hy, rfl⟩ := List.mem_map.mp hx
      exact forApi_eq_false_iff.mp (h.aside y hy)
    · subst he
      cases h with
      | refused _ refused => exact isNotFound_of_outcome refused

theorem obtains_token (c : Credentials) (s : Session) :
    ∃ l, s.server.Serves l (c.token s).2.server ∧ c.Obtains l (c.token s).1 := by
  obtain ⟨l, h⟩ := hands_token c s
  exact ⟨_, h.sends.serves, h.obtains⟩

/-! ## Asking the API -/

/-- The exchanges and the verdict with which the API is asked for a value: those with which
    a token is obtained and, if it is, one exchange with the API. -/
inductive Client.Fetches (c : Client) (decode : Json → Option α) (verb : Verb) (url : String)
    (body : Option Json) : List Exchange → Verdict α → Prop
  | unsent {l : List Exchange} {e : CloudError} (obtained : c.credentials.Obtains l (.error e)) :
      c.Fetches decode verb url body l (.error e)
  | aborted {l : List Exchange} (obtained : c.credentials.Obtains l .aborted) :
      c.Fetches decode verb url body l .aborted
  | refused {l : List Exchange} {token : String} {d : Delivery} {e : CloudError}
      (obtained : c.credentials.Obtains l (.ok token)) (unread : d.read? decode = none)
      (missing : e.isNotFound = d.saysMissing) :
      c.Fetches decode verb url body (l ++ [⟨⟨verb, url, .api token, body⟩, d⟩]) (.error e)
  | read {l : List Exchange} {token : String} {d : Delivery} {a : α}
      (obtained : c.credentials.Obtains l (.ok token)) (read : d.read? decode = some a) :
      c.Fetches decode verb url body (l ++ [⟨⟨verb, url, .api token, body⟩, d⟩]) (.ok a)

theorem fetch_eq (c : Client) (decode : Json → Option α) (verb : Verb) (url : String)
    (body : Option Json) (s : Session) :
    c.fetch decode verb url body s =
      match c.credentials.token s with
      | (.ok token, s₁) =>
        let sent := s₁.send ⟨verb, url, .api token, body⟩
        (.ofExcept (readDelivery decode verb url sent.1), sent.2)
      | (.error e, s₁) => (.error e, s₁)
      | (.aborted, s₁) => (.aborted, s₁) := by
  rw [fetch, bind_ofExcept, sendAuthorized]
  show ((Talk.bind c.credentials.token _ s).1.andThen _,
    (Talk.bind c.credentials.token _ s).2) = _
  rw [Talk.bind]
  rcases c.credentials.token s with ⟨token | e | _, s₁⟩ <;> rfl

theorem fetches_fetch (c : Client) (decode : Json → Option α) (verb : Verb) (url : String)
    (body : Option Json) (s : Session) :
    ∃ l, s.server.Serves l (c.fetch decode verb url body s).2.server ∧
      c.Fetches decode verb url body l (c.fetch decode verb url body s).1 := by
  obtain ⟨l, hl, hobtained⟩ := obtains_token c.credentials s
  rw [fetch_eq]
  generalize c.credentials.token s = obtained at hl hobtained
  rcases obtained with ⟨token | e | _, s₁⟩
  · dsimp only at hl hobtained ⊢
    refine ⟨_, hl.append (.one s₁ ⟨verb, url, .api token, body⟩), ?_⟩
    cases hread : readDelivery decode verb url (s₁.send ⟨verb, url, .api token, body⟩).1 with
    | ok a => exact .read hobtained (readDelivery_eq_ok_iff.mp hread)
    | error e =>
      refine .refused hobtained ?_ (isNotFound_of_readDelivery hread)
      rw [Option.eq_none_iff_forall_ne_some]
      intro a ha
      rw [readDelivery_eq_ok_iff.mpr ha] at hread
      cases hread
  · exact ⟨l, hl, .unsent hobtained⟩
  · exact ⟨l, hl, .aborted hobtained⟩

end CloudSteward
