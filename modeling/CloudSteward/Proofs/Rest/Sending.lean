import CloudSteward.Proofs.Rest.Exchange

/-!
# Requests in time

Every request is sent at some moment, and a later one not at an earlier moment. What is sent
to a server in reach is what the server notes, so that it can be read off from the session
before and the session after. Before a request to the API a token is obtained, which takes at
most one request to the metadata service.

Results:

* `Session.Sends.sentUntil_eq`: what has been sent, read off from what the server noted.
* `Session.Sends.timed`: the moments of requests are in order.
* `renewToken_apply`: what comes of a request for a token.
* `hands_token`: a token is given in advance, kept from before, newly issued, or there is none.
* `Credentials.Hands.faulty`: the faults of the calendar that may come in between.
-/

namespace CloudSteward

open Client

/-! ## Sending -/

/-- An exchange and the moment at which its request is sent. -/
structure Sent extends Exchange where
  moment : Int

/-- The sending of a request. -/
def Session.sending (s : Session) (r : Request) : Sent :=
  ⟨⟨r, (s.send r).1⟩, s.now⟩

/-- The sending of requests, one after the other. -/
def Session.sendings : Session → List Request → List Sent
  | _, [] => []
  | s, r :: rs => s.sending r :: (s.send r).2.sendings rs

/-- What is sent to a server from one session until another, as far as the server notes it. -/
def Session.sentUntil (s s' : Session) : List Sent :=
  s.sendings (s'.server.received.drop s.server.received.length)

/-- A session sends requests and becomes another one. What token it keeps may change at any
    time. -/
inductive Session.Sends : Session → List Sent → Session → Prop
  | nothing (s : Session) : s.Sends [] s
  | keep {s s' : Session} {l : List Sent} (kept : Option CachedToken)
      (rest : Session.Sends { s with cached := kept } l s') : s.Sends l s'
  | send {s s' : Session} {r : Request} {l : List Sent} (rest : (s.send r).2.Sends l s') :
      s.Sends (s.sending r :: l) s'

/-- Requests between two moments, in the order of their own. -/
structure Timed (a : Int) (l : List Sent) (b : Int) : Prop where
  le : a ≤ b
  within : ∀ x ∈ l, a ≤ x.moment ∧ x.moment ≤ b
  ordered : l.Pairwise fun x y => x.moment ≤ y.moment

theorem Timed.nothing {a b : Int} (h : a ≤ b) : Timed a [] b :=
  ⟨h, by simp, .nil⟩

theorem Timed.append {a b c : Int} {l l' : List Sent} (h : Timed a l b) (h' : Timed b l' c) :
    Timed a (l ++ l') c where
  le := Int.le_trans h.le h'.le
  within x hx := by
    rcases List.mem_append.mp hx with hx | hx
    · exact ⟨(h.within x hx).1, Int.le_trans (h.within x hx).2 h'.le⟩
    · exact ⟨Int.le_trans h.le (h'.within x hx).1, (h'.within x hx).2⟩
  ordered := List.pairwise_append.mpr ⟨h.ordered, h'.ordered, fun x hx y hy =>
    Int.le_trans (h.within x hx).2 (h'.within y hy).1⟩

section Sending

variable {s s' s₁ s₂ s₃ : Session} {l l₁ l₂ : List Sent}

/-- The token that is kept plays no part in the sending of a request, and stays. -/
theorem send_cached (s : Session) (r : Request) (kept : Option CachedToken) :
    Session.send { s with cached := kept } r =
      ((s.send r).1, { (s.send r).2 with cached := kept }) := by
  rw [Session.send, Session.send]
  split
  · cases s.server.script <;> rfl
  · rfl

theorem cached_send (s : Session) (r : Request) : (s.send r).2.cached = s.cached := by
  rw [Session.send]
  split
  · split <;> rfl
  · rfl

theorem reachable_send (s : Session) (r : Request) :
    (s.send r).2.server.reachable = s.server.reachable := by
  rw [Session.send]
  split
  · split <;> rfl
  · rfl

theorem now_le_now_send (s : Session) (r : Request) : s.now ≤ (s.send r).2.now := by
  rw [Session.send]
  split
  · split
    · exact Int.le_refl _
    · exact Int.le_add_of_nonneg_right (Int.natCast_nonneg _)
  · exact Int.le_refl _

theorem sendings_cached (s : Session) (kept : Option CachedToken) (rs : List Request) :
    Session.sendings { s with cached := kept } rs = s.sendings rs := by
  induction rs generalizing s with
  | nil => rfl
  | cons r rs ih => simp only [Session.sendings, Session.sending, send_cached, ih]

namespace Session.Sends

theorem one (s : Session) (r : Request) : s.Sends [s.sending r] (s.send r).2 :=
  .send (.nothing _)

theorem append (h₁ : s₁.Sends l₁ s₂) (h₂ : s₂.Sends l₂ s₃) : s₁.Sends (l₁ ++ l₂) s₃ := by
  induction h₁ with
  | nothing s => exact h₂
  | keep kept _ ih => exact .keep kept (ih h₂)
  | send _ ih => exact .send (ih h₂)

theorem serves (h : s.Sends l s') : s.server.Serves (l.map (·.toExchange)) s'.server := by
  induction h with
  | nothing s => exact .nothing _
  | keep kept _ ih => exact ih
  | send _ ih => exact .send ih

theorem reachable (h : s.Sends l s') : s'.server.reachable = s.server.reachable := by
  induction h with
  | nothing s => rfl
  | keep kept _ ih => exact ih
  | @send s s' r l _ ih => rw [ih, reachable_send]

theorem sendings_eq (h : s.Sends l s') : s.sendings (l.map (·.request)) = l := by
  induction h with
  | nothing s => rfl
  | keep kept _ ih => rw [sendings_cached] at ih; exact ih
  | send _ ih => exact congrArg (_ :: ·) ih

/-- What is sent to a server in reach is what the server notes. -/
theorem sentUntil_eq (h : s.Sends l s') (hr : s.server.reachable = true) :
    s.sentUntil s' = l := by
  have hnoted := (h.serves.recorded hr).1
  rw [List.map_map] at hnoted
  rw [Session.sentUntil, hnoted, List.drop_left]
  exact h.sendings_eq

theorem timed (h : s.Sends l s') : Timed s.now l s'.now := by
  induction h with
  | nothing s => exact .nothing (Int.le_refl _)
  | keep kept _ ih => exact ih
  | @send s s' r l _ ih =>
    have hone : Timed s.now [s.sending r] (s.send r).2.now :=
      ⟨now_le_now_send s r, by simp [Session.sending, now_le_now_send], List.pairwise_singleton _ _⟩
    exact hone.append ih

end Session.Sends

end Sending

/-! ## Obtaining a token -/

namespace Metadata

/-- The request for a token of the instance's account. -/
def tokenRequest (address : String) : Request :=
  ⟨.get, withoutTrailingSlashes address ++ tokenPath, .metadata, none⟩

/-- Refuses an empty token. -/
def nonEmpty (issued : IssuedToken) : Except CloudError IssuedToken :=
  if issued.value.isEmpty then .error (.authentication "metadata service returned an empty token")
  else .ok issued

/-- The token in a delivery. -/
def issuedToken (d : Delivery) : Except CloudError IssuedToken :=
  readText tokenPath d >>= readToken >>= nonEmpty

/-- A text is asked for by one request. -/
theorem text_apply (address path : String) (s : Session) :
    let sent := s.send ⟨.get, withoutTrailingSlashes address ++ path, .metadata, none⟩
    text address path s = (.ofExcept (readText path sent.1), sent.2) :=
  bind_ofExcept (Talk.send _) (readText path) s

theorem token_apply (address : String) (s : Session) :
    token address s = (.ofExcept (readText tokenPath (s.send (tokenRequest address)).1 >>=
      readToken), (s.send (tokenRequest address)).2) := by
  rw [token, bind_ofExcept, text_apply]
  exact congrArg (·, _) (andThen_ofExcept _ _)

theorem isNotFound_of_readText {path : String} {d : Delivery} {e : CloudError}
    (h : readText path d = .error e) : e.isNotFound = false := by
  cases d with
  | lost =>
    cases h
    rfl
  | cut status =>
    rw [readText, textOf] at h
    split at h <;> cases h
    rfl
  | reply status body =>
    rw [readText, textOf] at h
    split at h <;> cases h
    rfl

theorem isNotFound_of_readToken {raw : String} {e : CloudError}
    (h : readToken raw = .error e) : e.isNotFound = false := by
  rw [readToken] at h
  split at h <;> cases h
  rfl

theorem isNotFound_of_issuedToken {d : Delivery} {e : CloudError} (h : issuedToken d = .error e) :
    e.isNotFound = false := by
  rw [issuedToken] at h
  cases htext : readText tokenPath d with
  | error e' =>
    rw [htext] at h
    cases h
    exact isNotFound_of_readText htext
  | ok raw =>
    rw [htext] at h
    change (readToken raw >>= _) = _ at h
    cases hread : readToken raw with
    | error e' =>
      rw [hread] at h
      cases h
      exact isNotFound_of_readToken hread
    | ok issued =>
      rw [hread] at h
      change (if _ then _ else _) = _ at h
      split at h <;> cases h
      rfl

end Metadata

/-- What comes of a request for a token: a token that expires so long after the request, an
    error, or a fault if the calendar does not have the expiry. -/
def Sent.outcome (x : Sent) : Verdict CachedToken :=
  match Metadata.issuedToken x.delivery with
  | .error e => .error e
  | .ok issued =>
    match later? x.moment (issued.lifetime * nanosPerSecond) with
    | some expiry => .ok ⟨issued.value, expiry⟩
    | none => .aborted

/-- No answer of the metadata service says that a resource is missing. -/
theorem isNotFound_of_outcome {x : Sent} {e : CloudError} (h : x.outcome = .error e) :
    e.isNotFound = false := by
  rw [Sent.outcome] at h
  split at h
  · rename_i hissued
    cases h
    exact Metadata.isNotFound_of_issuedToken hissued
  · split at h <;> cases h

/-- A new token is what comes of the request for it, and is kept. -/
theorem renewToken_apply (address : String) (s : Session) :
    renewToken address s =
      match (s.sending (Metadata.tokenRequest address)).outcome with
      | .ok t => (.ok t.value, { (s.send (Metadata.tokenRequest address)).2 with cached := some t })
      | .error e => (.error e, (s.send (Metadata.tokenRequest address)).2)
      | .aborted => (.aborted, (s.send (Metadata.tokenRequest address)).2) := by
  show Talk.bind (Metadata.token address) _ s = _
  rw [Talk.bind, Metadata.token_apply, Sent.outcome, Metadata.issuedToken]
  simp only [Session.sending]
  generalize s.send (Metadata.tokenRequest address) = sent
  cases Metadata.readText Metadata.tokenPath sent.1 >>= Metadata.readToken with
  | error e => rfl
  | ok issued =>
    show (ite (issued.value.isEmpty = true) (Talk.fail _) _ : Talk String) sent.2 = _
    simp only [bind, Except.bind, Metadata.nonEmpty]
    split
    · rfl
    · dsimp only
      cases later? s.now (issued.lifetime * nanosPerSecond) <;> rfl

/-- No token is kept that is valid long enough after a moment. -/
def StaleAt (kept : Option CachedToken) (moment : Int) : Prop :=
  ∀ t, kept = some t → t.expiry - refreshMargin ≤ moment

/-- How a token is obtained. One that is given in advance is handed out. Otherwise the one that
    is kept is handed out while it is valid long enough, and when it is not, a new one is asked
    for. -/
inductive Credentials.Hands : Credentials → Session → List Sent → Verdict String → Session → Prop
  | given {token : String} {s : Session} : (Credentials.fixed token).Hands s [] (.ok token) s
  | kept {address : String} {s : Session} {t : CachedToken} (kept : s.cached = some t)
      (valid : s.now < t.expiry - refreshMargin) :
      (Credentials.instanceAccount address).Hands s [] (.ok t.value) s
  | unusable {address : String} {s : Session} {t : CachedToken} (kept : s.cached = some t)
      (early : later? t.expiry (-refreshMargin) = none) :
      (Credentials.instanceAccount address).Hands s [] .aborted s
  | issued {address : String} {s : Session} {t : CachedToken}
      (stale : StaleAt s.cached s.now)
      (issued : (s.sending (Metadata.tokenRequest address)).outcome = .ok t) :
      (Credentials.instanceAccount address).Hands s [s.sending (Metadata.tokenRequest address)]
        (.ok t.value) { (s.send (Metadata.tokenRequest address)).2 with cached := some t }
  | refused {address : String} {s : Session} {e : CloudError}
      (stale : StaleAt s.cached s.now)
      (refused : (s.sending (Metadata.tokenRequest address)).outcome = .error e) :
      (Credentials.instanceAccount address).Hands s [s.sending (Metadata.tokenRequest address)]
        (.error e) (s.send (Metadata.tokenRequest address)).2
  | unbounded {address : String} {s : Session}
      (stale : StaleAt s.cached s.now)
      (unbounded : (s.sending (Metadata.tokenRequest address)).outcome = .aborted) :
      (Credentials.instanceAccount address).Hands s [s.sending (Metadata.tokenRequest address)]
        .aborted (s.send (Metadata.tokenRequest address)).2

theorem later?_eq_some_iff {moment delay t : Int} :
    later? moment delay = some t ↔
      t = moment + delay ∧ calendar.1 ≤ moment + delay ∧ moment + delay ≤ calendar.2 := by
  rw [later?]
  split <;> simp_all [eq_comm]

/-- The kept token is handed out exactly if it is valid long enough. -/
theorem keptToken_cases (s : Session) :
    (keptToken s = (.ok none, s) ∧ StaleAt s.cached s.now) ∨
      ∃ t, s.cached = some t ∧
        (keptToken s = (.ok (some t.value), s) ∧ s.now < t.expiry - refreshMargin ∨
          keptToken s = (.aborted, s) ∧ later? t.expiry (-refreshMargin) = none) := by
  rw [keptToken]
  cases hcached : s.cached with
  | none => exact .inl ⟨rfl, fun _ h => by cases h⟩
  | some t =>
    cases hlatest : later? t.expiry (-refreshMargin) with
    | none => exact .inr ⟨t, rfl, .inr ⟨by simp only [hlatest], hlatest⟩⟩
    | some latest =>
      obtain ⟨rfl, -⟩ := later?_eq_some_iff.mp hlatest
      by_cases hvalid : s.now < t.expiry + -refreshMargin
      · exact .inr ⟨t, rfl, .inl ⟨by simp only [hlatest, hvalid, if_true], by omega⟩⟩
      · refine .inl ⟨by simp only [hlatest, hvalid, if_false], fun t' ht' => ?_⟩
        cases ht'
        omega

theorem Credentials.Hands.sends {c : Credentials} {s s' : Session} {l : List Sent}
    {v : Verdict String} (h : c.Hands s l v s') : s.Sends l s' := by
  cases h with
  | given => exact .nothing _
  | kept _ _ => exact .nothing _
  | unusable _ _ => exact .nothing _
  | issued _ _ => exact .send (.keep _ (.nothing _))
  | refused _ _ => exact .one _ _
  | unbounded _ _ => exact .one _ _

/-- Nothing is sent to the API to obtain a token. -/
theorem Credentials.Hands.aside {c : Credentials} {s s' : Session} {l : List Sent}
    {v : Verdict String} (h : c.Hands s l v s') : ∀ x ∈ l, x.request.forApi = false := by
  cases h with
  | given => simp
  | kept _ _ => simp
  | unusable _ _ => simp
  | issued _ _ => exact List.forall_mem_singleton.mpr rfl
  | refused _ _ => exact List.forall_mem_singleton.mpr rfl
  | unbounded _ _ => exact List.forall_mem_singleton.mpr rfl

/-- A fault of the calendar, which only the account of the instance meets: the calendar has no
    room for the expiry of the token that is asked for last, or for the moment from which the kept
    one is renewed. -/
inductive Credentials.Faulty : Credentials → List Sent → Option CachedToken → Prop
  | expiry {address : String} {l : List Sent} {x : Sent} {kept : Option CachedToken}
      (aside : x.request.forApi = false) (unbounded : x.outcome = .aborted) :
      (Credentials.instanceAccount address).Faulty (l ++ [x]) kept
  | margin {address : String} {l : List Sent} {t : CachedToken}
      (early : later? t.expiry (-refreshMargin) = none) :
      (Credentials.instanceAccount address).Faulty l (some t)

theorem Credentials.Faulty.append {c : Credentials} {l' : List Sent} {kept : Option CachedToken}
    (l : List Sent) (h : c.Faulty l' kept) : c.Faulty (l ++ l') kept := by
  cases h with
  | expiry aside unbounded =>
    rw [← List.append_assoc]
    exact .expiry aside unbounded
  | margin early => exact .margin early

/-- Nothing but a fault of the calendar stops the obtaining of a token. -/
theorem Credentials.Hands.faulty {c : Credentials} {s s' : Session} {l : List Sent}
    (h : c.Hands s l .aborted s') : c.Faulty l s'.cached := by
  cases h with
  | unusable kept early =>
    rw [kept]
    exact .margin early
  | unbounded _ unbounded => exact .expiry (l := []) rfl unbounded

theorem hands_renewToken (address : String) {s : Session}
    (stale : StaleAt s.cached s.now) :
    ∃ l, (Credentials.instanceAccount address).Hands s l (renewToken address s).1
      (renewToken address s).2 := by
  rw [renewToken_apply]
  cases houtcome : (s.sending (Metadata.tokenRequest address)).outcome with
  | ok t => exact ⟨_, .issued stale houtcome⟩
  | error e => exact ⟨_, .refused stale houtcome⟩
  | aborted => exact ⟨_, .unbounded stale houtcome⟩

theorem hands_token (c : Credentials) (s : Session) :
    ∃ l, c.Hands s l (c.token s).1 (c.token s).2 := by
  cases c with
  | fixed token => exact ⟨[], .given⟩
  | instanceAccount address =>
    show ∃ l, (Credentials.instanceAccount address).Hands s l (Talk.bind keptToken _ s).1
      (Talk.bind keptToken _ s).2
    rw [Talk.bind]
    obtain ⟨hkept, hstale⟩ | ⟨t, hcached, ⟨hkept, hvalid⟩ | ⟨hkept, hearly⟩⟩ := keptToken_cases s
    · rw [hkept]
      exact hands_renewToken address hstale
    · rw [hkept]
      exact ⟨[], .kept hcached hvalid⟩
    · rw [hkept]
      exact ⟨[], .unusable hcached hearly⟩

end CloudSteward
