import CloudSteward.Proofs.Rest.Lookup
import CloudSteward.Proofs.Rest.Removal

/-!
# Tokens in the life of a client

A client keeps the token of its instance's account from one call to the next. Whatever calls it
makes, and whatever it is answered, its requests come in rounds: a request to the API with the
kept token, or a request for a token and then one to the API with what was issued, or a request
for a token that is denied, which ends the call.

Results:

* `Credentials.Rounds.cases_at`: the place of a request in its round.
* `speaks_perform`: a call is made in rounds, stops where a token is denied, and otherwise sends
  something.
* `token_discipline`: which token a request carries, when a token is asked for, and what comes
  of a call without one.
-/

namespace CloudSteward

open Client

/-! ## Rounds -/

/-- The token that an exchange with the metadata service issues. -/
def Sent.issued? (x : Sent) : Option CachedToken :=
  if x.request.forApi then none
  else
    match x.outcome with
    | .ok t => some t
    | .error _ | .aborted => none

/-- The token that was issued last. -/
def lastIssued (l : List Sent) : Option CachedToken :=
  (l.filterMap Sent.issued?).getLast?

/-- A request for a token that nothing usable comes of. -/
def Sent.Denied (x : Sent) : Prop :=
  x.request.forApi = false ∧ ∀ t, x.outcome ≠ .ok t

/-- One round of requests, with the token that is kept before it and the one after it. -/
inductive Credentials.Round :
    Credentials → Option CachedToken → List Sent → Option CachedToken → Prop
  | given {token : String} {kept : Option CachedToken} {x : Sent}
      (carries : x.request.audience = .api token) : (Credentials.fixed token).Round kept [x] kept
  | reused {address : String} {t : CachedToken} {x : Sent}
      (valid : x.moment < t.expiry - refreshMargin)
      (carries : x.request.audience = .api t.value) :
      (Credentials.instanceAccount address).Round (some t) [x] (some t)
  | renewed {address : String} {kept : Option CachedToken} {t : CachedToken} {x y : Sent}
      (stale : StaleAt kept x.moment) (asks : x.request = Metadata.tokenRequest address)
      (issued : x.outcome = .ok t) (carries : y.request.audience = .api t.value) :
      (Credentials.instanceAccount address).Round kept [x, y] (some t)
  | denied {address : String} {kept : Option CachedToken} {x : Sent}
      (stale : StaleAt kept x.moment) (asks : x.request = Metadata.tokenRequest address)
      (denied : x.Denied) : (Credentials.instanceAccount address).Round kept [x] kept

/-- Rounds one after the other. -/
inductive Credentials.Rounds (c : Credentials) :
    Option CachedToken → List Sent → Option CachedToken → Prop
  | nothing (kept : Option CachedToken) : c.Rounds kept [] kept
  | round {k₁ k₂ k₃ : Option CachedToken} {l l' : List Sent} (first : c.Round k₁ l k₂)
      (rest : c.Rounds k₂ l' k₃) : c.Rounds k₁ (l ++ l') k₃

theorem issued?_of_forApi {x : Sent} (h : x.request.forApi = true) : x.issued? = none := by
  rw [Sent.issued?, if_pos h]

theorem issued?_eq_some_iff {x : Sent} {t : CachedToken} :
    x.issued? = some t ↔ x.request.forApi = false ∧ x.outcome = .ok t := by
  rw [Sent.issued?]
  cases x.request.forApi with
  | true => simp
  | false => cases x.outcome <;> simp

theorem denied_iff {x : Sent} : x.Denied ↔ x.request.forApi = false ∧ x.issued? = none := by
  rw [Sent.Denied, Sent.issued?]
  cases x.request.forApi with
  | true => simp
  | false => cases x.outcome <;> simp

theorem lastIssued_append (l l' : List Sent) :
    lastIssued (l ++ l') = (lastIssued l').or (lastIssued l) := by
  rw [lastIssued, List.filterMap_append, List.getLast?_append]
  rfl

theorem lastIssued_singleton (x : Sent) : lastIssued [x] = x.issued? := by
  rw [lastIssued, List.filterMap_cons]
  cases x.issued? <;> rfl

section Rounds

variable {c : Credentials} {address : String} {k k₁ k₂ k₃ : Option CachedToken}
  {l l' before after : List Sent} {x : Sent}

namespace Credentials

theorem Round.rounds (h : c.Round k₁ l k₂) : c.Rounds k₁ l k₂ := by
  have hround := Rounds.round h (.nothing k₂)
  rwa [List.append_nil] at hround

theorem Rounds.append (h : c.Rounds k₁ l k₂) (h' : c.Rounds k₂ l' k₃) :
    c.Rounds k₁ (l ++ l') k₃ := by
  induction h with
  | nothing kept => exact h'
  | round first _ ih =>
    rw [List.append_assoc]
    exact .round first (ih h')

/-- After a round the token is kept that was issued in it, or else the one from before. -/
theorem Round.kept_eq (h : c.Round k₁ l k₂) (hc : c = .instanceAccount address) :
    k₂ = (lastIssued l).or k₁ := by
  cases h with
  | given _ => cases hc
  | reused _ carries =>
    rw [lastIssued_singleton, issued?_of_forApi (forApi_of_audience carries)]
    rfl
  | @renewed _ _ t x y _ asks issued carries =>
    have hissued : x.issued? = some t := issued?_eq_some_iff.mpr ⟨by rw [asks]; rfl, issued⟩
    have hy := issued?_of_forApi (forApi_of_audience carries)
    rw [lastIssued, List.filterMap_cons_some hissued, List.filterMap_cons_none hy]
    rfl
  | denied _ _ denied =>
    rw [lastIssued_singleton, (denied_iff.mp denied).2]
    rfl

theorem Rounds.kept_eq (h : (Credentials.instanceAccount address).Rounds k₁ l k₂) :
    k₂ = (lastIssued l).or k₁ := by
  induction h with
  | nothing kept => rfl
  | round first _ ih => rw [ih, first.kept_eq rfl, lastIssued_append, Option.or_assoc]

/-- A token given in advance is on every request. -/
theorem Rounds.given {token : String} (h : (Credentials.fixed token).Rounds k₁ l k₂) :
    ∀ x ∈ l, x.request.audience = .api token := by
  induction h with
  | nothing kept => simp
  | round first _ ih =>
    cases first with
    | given carries => exact List.forall_mem_cons.mpr ⟨carries, ih⟩

/-- The round in which a request is. -/
theorem Rounds.round_at (h : c.Rounds k₁ l k₂) (hl : l = before ++ x :: after) :
    ∃ earlier b a later k k', before = earlier ++ b ∧ after = a ++ later ∧
      c.Rounds k₁ earlier k ∧ c.Round k (b ++ x :: a) k' := by
  induction h generalizing before with
  | nothing kept => simp at hl
  | @round k₁ k₂ k₃ l l' first _ ih =>
    have hlater : ∀ tail, before = l ++ tail → l' = tail ++ x :: after →
        ∃ earlier b a later k k', before = earlier ++ b ∧ after = a ++ later ∧
          c.Rounds k₁ earlier k ∧ c.Round k (b ++ x :: a) k' := by
      rintro tail rfl htail
      obtain ⟨earlier, b, a, later, k, k', rfl, rfl, hearlier, hround⟩ := ih htail
      exact ⟨l ++ earlier, b, a, later, k, k', (List.append_assoc ..).symm, rfl,
        .round first hearlier, hround⟩
    obtain ⟨tail, hbefore, htail⟩ | ⟨tail, hl', htail⟩ := List.append_eq_append_iff.mp hl
    · exact hlater tail hbefore htail
    · cases tail with
      | nil => exact hlater [] (by simpa using hl'.symm) (by simpa using htail.symm)
      | cons y tail =>
        obtain ⟨rfl, rfl⟩ := List.cons.inj htail
        rw [hl'] at first
        exact ⟨[], before, tail, l', k₁, k₂, rfl, rfl, .nothing _, first⟩

/-- The place of a request in its round: it is the one to the API with the kept token, the one
    for a token that is issued, the one to the API with that token, or the one for a token that
    is denied. -/
theorem Rounds.cases_at
    (h : (Credentials.instanceAccount address).Rounds k₁ (before ++ x :: after) k₂) :
    (∃ t, (Credentials.instanceAccount address).Rounds k₁ before (some t) ∧
        x.moment < t.expiry - refreshMargin ∧ x.request.audience = .api t.value) ∨
      (∃ k y later t, (Credentials.instanceAccount address).Rounds k₁ before k ∧
        StaleAt k x.moment ∧ x.request = Metadata.tokenRequest address ∧ x.issued? = some t ∧
        after = y :: later ∧ y.request.audience = .api t.value) ∨
      (∃ earlier z t, before = earlier ++ [z] ∧ z.issued? = some t ∧
        x.request.audience = .api t.value) ∨
      ∃ k, (Credentials.instanceAccount address).Rounds k₁ before k ∧ StaleAt k x.moment ∧
        x.request = Metadata.tokenRequest address ∧ x.Denied := by
  obtain ⟨earlier, b, a, later, k, k', rfl, rfl, hearlier, hround⟩ := h.round_at rfl
  generalize hl : b ++ x :: a = l at hround
  cases b with
  | nil =>
    rw [List.append_nil]
    cases hround with
    | reused valid carries =>
      cases hl
      exact .inl ⟨_, hearlier, valid, carries⟩
    | renewed stale asks issued carries =>
      cases hl
      have hissued := issued?_eq_some_iff.mpr ⟨by rw [asks]; rfl, issued⟩
      exact .inr (.inl ⟨k, _, later, _, hearlier, stale, asks, hissued, rfl, carries⟩)
    | denied stale asks denied =>
      cases hl
      exact .inr (.inr (.inr ⟨k, hearlier, stale, asks, denied⟩))
  | cons z b =>
    cases hround with
    | renewed stale asks issued carries =>
      obtain ⟨rfl, hy⟩ := List.cons.inj hl
      obtain ⟨rfl, hy⟩ | ⟨-, hy⟩ := List.append_eq_singleton_iff.mp hy
      · cases hy
        have hissued := issued?_eq_some_iff.mpr ⟨by rw [asks]; rfl, issued⟩
        exact .inr (.inr (.inl ⟨earlier, z, _, rfl, hissued, carries⟩))
      · cases hy
    | reused _ _ => simp at hl
    | denied _ _ _ => simp at hl

end Credentials

end Rounds

/-! ## Calls -/

section Calls

variable {α β : Type} {c : Client} {s : Session}

/-- A verdict that heeds denials: nothing is sent behind one, and what the request for the token
    ended with is what all ends with. -/
def Verdict.Heeds (v : Verdict α) (l : List Sent) : Prop :=
  ∀ before x after, l = before ++ x :: after → x.Denied →
    after = [] ∧ (∀ e, x.outcome = .error e → v = .error e) ∧ (x.outcome = .aborted → v = .aborted)

theorem Verdict.Heeds.of_undenied {v : Verdict α} {l : List Sent} (h : ∀ x ∈ l, ¬ x.Denied) :
    v.Heeds l := by
  rintro before x after rfl hdenied
  exact absurd hdenied (h x (by simp))

theorem Verdict.Heeds.singleton {v : Verdict α} {x : Sent}
    (herror : ∀ e, x.outcome = .error e → v = .error e)
    (haborted : x.outcome = .aborted → v = .aborted) : v.Heeds [x] := by
  intro before y after hl _
  obtain ⟨-, hl⟩ | ⟨-, hl⟩ := List.append_eq_singleton_iff.mp hl.symm
  · cases hl
    exact ⟨rfl, herror, haborted⟩
  · cases hl

/-- Behind a verdict with a value there is no denial. -/
theorem Verdict.Heeds.not_denied {a : α} {l : List Sent} (h : (Verdict.ok a).Heeds l) :
    ∀ x ∈ l, ¬ x.Denied := by
  intro x hx hdenied
  obtain ⟨before, after, hl⟩ := List.append_of_mem hx
  obtain ⟨-, herror, haborted⟩ := h before x after hl hdenied
  cases houtcome : x.outcome with
  | ok t => exact hdenied.2 t houtcome
  | error e => cases herror e houtcome
  | aborted => cases haborted houtcome

theorem Verdict.Heeds.append {v : Verdict α} {l l' : List Sent} (h : ∀ x ∈ l, ¬ x.Denied)
    (h' : v.Heeds l') : v.Heeds (l ++ l') := by
  intro before x after hl hdenied
  have hlater : ∀ tail, l' = tail ++ x :: after → _ := fun tail htail =>
    h' tail x after htail hdenied
  obtain ⟨tail, -, htail⟩ | ⟨tail, hl', htail⟩ := List.append_eq_append_iff.mp hl
  · exact hlater tail htail
  · cases tail with
    | nil => exact hlater [] (by simpa using htail.symm)
    | cons y tail =>
      obtain ⟨rfl, -⟩ := List.cons.inj htail
      exact absurd hdenied (h x (by simp [hl']))

/-- The verdict on what follows a denial may be any that keeps its errors, except for those that
    say that a resource is missing. -/
theorem Verdict.Heeds.map {v : Verdict α} {v' : Verdict β} {l : List Sent} (h : v.Heeds l)
    (herror : ∀ e, e.isNotFound = false → v = .error e → v' = .error e)
    (haborted : v = .aborted → v' = .aborted) : v'.Heeds l := by
  intro before x after hl hdenied
  obtain ⟨hafter, hv, hv'⟩ := h before x after hl hdenied
  refine ⟨hafter, fun e he => herror e (isNotFound_of_outcome he) (hv e he), fun he =>
    haborted (hv' he)⟩

/-- The requests of a talk until its result: they come in rounds, denials are heeded, and nothing
    but a fault of the calendar stops the talk. -/
structure Credentials.Careful (c : Credentials) (s : Session) (l : List Sent)
    (result : Verdict α × Session) : Prop where
  sends : s.Sends l result.2
  rounds : c.Rounds s.cached l result.2.cached
  heeds : result.1.Heeds l
  faults : result.1 = .aborted → c.Faulty l result.2.cached

/-- A talk that is careful about its requests. -/
def Talk.CarefulAt (t : Talk α) (c : Credentials) (s : Session) : Prop :=
  ∃ l, c.Careful s l (t s)

/-- A careful talk that sends something, unless a fault stops it before. -/
def Talk.SpeaksAt (t : Talk α) (c : Credentials) (s : Session) : Prop :=
  ∃ l, c.Careful s l (t s) ∧ (l = [] → (t s).1 = .aborted)

section Talks

variable {credentials : Credentials} {l : List Sent}

theorem Talk.SpeaksAt.careful {t : Talk α} (h : t.SpeaksAt credentials s) :
    t.CarefulAt credentials s :=
  let ⟨l, hcareful, _⟩ := h
  ⟨l, hcareful⟩

theorem careful_ofExcept (r : Except CloudError α) :
    (Talk.ofExcept r).CarefulAt credentials s := by
  refine ⟨[], ?_⟩
  rw [ofExcept_apply]
  exact ⟨.nothing s, .nothing _, .of_undenied (by simp), fun h => absurd h (ofExcept_ne_aborted r)⟩

theorem careful_pure (a : α) : (Pure.pure a : Talk α).CarefulAt credentials s :=
  careful_ofExcept (.ok a)

theorem bind_of_aborted {t : Talk α} (f : α → Talk β) (h : (t s).1 = .aborted) :
    ((t >>= f) s).1 = .aborted := by
  show (Talk.bind t f s).1 = .aborted
  rw [Talk.bind]
  rcases htalk : t s with ⟨v, s₁⟩
  rw [htalk] at h
  cases h
  rfl

theorem Credentials.Careful.bind {t : Talk α} {f : α → Talk β}
    (ht : credentials.Careful s l (t s))
    (hf : ∀ a s', t s = (.ok a, s') → (f a).CarefulAt credentials s') :
    ∃ l', credentials.Careful s (l ++ l') ((t >>= f) s) := by
  show ∃ l', credentials.Careful s (l ++ l') (Talk.bind t f s)
  rw [Talk.bind]
  rcases htalk : t s with ⟨a | e | _, s₁⟩ <;> rw [htalk] at ht
  · obtain ⟨l', h'⟩ := hf a s₁ htalk
    exact ⟨l', ht.sends.append h'.sends, ht.rounds.append h'.rounds,
      .append ht.heeds.not_denied h'.heeds, fun h => (h'.faults h).append l⟩
  · refine ⟨[], ?_⟩
    rw [List.append_nil]
    exact ⟨ht.sends, ht.rounds, ht.heeds.map (fun _ _ h => by cases h; rfl) (fun h => by cases h),
      fun h => by cases h⟩
  · refine ⟨[], ?_⟩
    rw [List.append_nil]
    exact ⟨ht.sends, ht.rounds, ht.heeds.map (fun _ _ h => by cases h) (fun _ => rfl),
      fun _ => ht.faults rfl⟩

theorem Talk.CarefulAt.bind {t : Talk α} {f : α → Talk β} (ht : t.CarefulAt credentials s)
    (hf : ∀ a s', t s = (.ok a, s') → (f a).CarefulAt credentials s') :
    (t >>= f).CarefulAt credentials s :=
  let ⟨_, hcareful⟩ := ht
  let ⟨_, hbind⟩ := hcareful.bind hf
  ⟨_, hbind⟩

/-- A talk speaks that begins with one that does. -/
theorem Talk.SpeaksAt.bind {t : Talk α} {f : α → Talk β} (ht : t.SpeaksAt credentials s)
    (hf : ∀ a s', t s = (.ok a, s') → (f a).CarefulAt credentials s') :
    (t >>= f).SpeaksAt credentials s := by
  obtain ⟨l, hcareful, hspeaks⟩ := ht
  obtain ⟨l', hbind⟩ := hcareful.bind hf
  exact ⟨l ++ l', hbind, fun hnil => bind_of_aborted f (hspeaks (List.append_eq_nil_iff.mp hnil).1)⟩

end Talks

section Hands

variable {credentials : Credentials} {s' : Session} {l : List Sent}

/-- The request to the API completes the round that obtaining its token began. -/
theorem Credentials.Hands.round {token : String} {x : Sent}
    (h : credentials.Hands s l (.ok token) s') (hmoment : x.moment = s'.now)
    (carries : x.request.audience = .api token) :
    credentials.Round s.cached (l ++ [x]) s'.cached := by
  cases h with
  | given => exact .given carries
  | kept hkept hvalid =>
    rw [hkept]
    exact .reused (hmoment ▸ hvalid) carries
  | issued stale issued => exact .renewed stale rfl issued carries

/-- Without a token there is at most a denial. -/
theorem Credentials.Hands.rounds {v : Verdict String} (h : credentials.Hands s l v s')
    (hv : ∀ token, v ≠ .ok token) : credentials.Rounds s.cached l s'.cached := by
  cases h with
  | given => exact absurd rfl (hv _)
  | kept _ _ => exact absurd rfl (hv _)
  | issued _ _ => exact absurd rfl (hv _)
  | unusable _ _ => exact .nothing _
  | refused stale refused =>
    rw [cached_send]
    have hdenied : (s.sending (Metadata.tokenRequest _)).Denied :=
      ⟨rfl, fun t ht => by cases refused.symm.trans ht⟩
    exact (Credentials.Round.denied stale rfl hdenied).rounds
  | unbounded stale unbounded =>
    rw [cached_send]
    have hdenied : (s.sending (Metadata.tokenRequest _)).Denied :=
      ⟨rfl, fun t ht => by cases unbounded.symm.trans ht⟩
    exact (Credentials.Round.denied stale rfl hdenied).rounds

/-- An error is the answer to a request for a token. -/
theorem Credentials.Hands.ne_nil_of_error {e : CloudError}
    (h : credentials.Hands s l (.error e) s') : l ≠ [] := by
  cases h with
  | refused _ _ => exact List.cons_ne_nil _ _

theorem Credentials.Hands.heeds {v : Verdict String} (h : credentials.Hands s l v s') :
    v.Heeds l := by
  cases h with
  | given => exact .of_undenied (by simp)
  | kept _ _ => exact .of_undenied (by simp)
  | unusable _ _ => exact .of_undenied (by simp)
  | issued _ issued =>
    refine .of_undenied fun x hx hdenied => ?_
    rw [List.mem_singleton.mp hx] at hdenied
    exact hdenied.2 _ issued
  | refused _ refused => exact .singleton (by simp [refused]) (by simp [refused])
  | unbounded _ unbounded => exact .singleton (by simp [unbounded]) (by simp [unbounded])

end Hands

/-- A request to the API makes one round: with a token there is no denial, without one nothing
    is sent to the API. -/
theorem speaks_fetch (c : Client) (decode : Json → Option α) (verb : Verb) (url : String)
    (body : Option Json) (s : Session) :
    (c.fetch decode verb url body).SpeaksAt c.credentials s := by
  obtain ⟨l, hhands⟩ := hands_token c.credentials s
  rw [Talk.SpeaksAt, fetch_eq]
  generalize c.credentials.token s = obtained at hhands
  rcases obtained with ⟨token | e | _, s₁⟩
  · refine ⟨l ++ [s₁.sending ⟨verb, url, .api token, body⟩],
      ⟨hhands.sends.append (.one s₁ _), ?_, .append hhands.heeds.not_denied (.of_undenied ?_), ?_⟩,
      by simp⟩
    · have hround := hhands.round (x := s₁.sending ⟨verb, url, .api token, body⟩) rfl rfl
      rw [cached_send]
      exact hround.rounds
    · intro x hx hdenied
      rw [List.mem_singleton.mp hx] at hdenied
      cases hdenied.1
    · exact fun h => absurd h (ofExcept_ne_aborted _)
  · refine ⟨l, ⟨hhands.sends, hhands.rounds (by simp),
      hhands.heeds.map (fun _ _ h => by cases h; rfl) (fun h => by cases h),
      fun h => by cases h⟩, fun hnil => absurd hnil hhands.ne_nil_of_error⟩
  · exact ⟨l, ⟨hhands.sends, hhands.rounds (by simp),
      hhands.heeds.map (fun _ _ h => by cases h) (fun _ => rfl), fun _ => hhands.faulty⟩,
      fun _ => rfl⟩

theorem speaks_pagesFrom (c : Client) (item? : Json → Option α) (url : String)
    (filters : List (String × String)) (pageToken : Option String) (s : Session) :
    (c.pagesFrom item? url filters pageToken).SpeaksAt c.credentials s := by
  rw [Talk.SpeaksAt, pagesFrom_eq_bind]
  refine Talk.SpeaksAt.bind (speaks_fetch c _ _ _ _ s) fun p s' hfetch => ?_
  have hshorter := script_fetch_lt hfetch
  split
  · exact careful_pure _
  · rename_i token _
    exact .bind (speaks_pagesFrom c item? url filters (some token) s').careful fun _ _ _ =>
      careful_pure _
termination_by s.server.script.length

theorem careful_awaitDone (c : Client) (o : Operation) (s : Session) :
    (c.awaitDone o).CarefulAt c.credentials s := by
  by_cases hdone : o.done = true
  · rw [Talk.CarefulAt, awaitDone_of_done hdone]
    exact careful_ofExcept (outcomeOf o)
  · rw [Talk.CarefulAt, awaitDone_of_pending (Bool.eq_false_iff.mpr hdone)]
    refine Talk.CarefulAt.bind (speaks_fetch c _ _ _ _ s).careful fun started s' hfetch => ?_
    have hshorter := script_fetch_lt hfetch
    exact careful_awaitDone c started s'
termination_by s.server.script.length

theorem speaks_mutate (c : Client) (decode : Json → Option α) (verb : Verb) (url : String)
    (body : Json) (s : Session) : (c.mutate decode verb url body).SpeaksAt c.credentials s :=
  .bind (speaks_fetch c _ _ _ _ s) fun o _ _ => .bind (careful_awaitDone c o _) fun _ _ _ =>
    careful_ofExcept _

theorem speaks_findUnique (c : Client) (item? : Json → Option α) (url kinds name : String)
    (s : Session) : (c.findUnique item? url kinds name).SpeaksAt c.credentials s :=
  .bind (speaks_fetch c _ _ _ _ s) fun _ _ _ => careful_ofExcept _

/-- A deletion is no exception: the errors that it takes for a success are none of a request for
    a token. -/
theorem speaks_remove (c : Client) (url : String) (s : Session) :
    (c.remove url).SpeaksAt c.credentials s := by
  obtain ⟨l, hcareful, hspeaks⟩ : (c.await .delete url none).SpeaksAt c.credentials s :=
    .bind (speaks_fetch c _ _ _ _ s) fun o s' _ => careful_awaitDone c o s'
  rw [Talk.SpeaksAt, remove_eq]
  refine ⟨l, ⟨hcareful.sends, hcareful.rounds, hcareful.heeds.map (fun e hfound h => ?_)
    missingAsDone_eq_aborted_iff.mpr, fun h =>
      hcareful.faults (missingAsDone_eq_aborted_iff.mp h)⟩,
    fun hnil => missingAsDone_eq_aborted_iff.mpr (hspeaks hnil)⟩
  rw [h, Verdict.missingAsDone, missingAsDone, hfound]
  rfl

/-- Every call is careful about its requests, and speaks. -/
theorem speaks_perform (c : Client) (call : Call) (s : Session) :
    (c.perform call).SpeaksAt c.credentials s := by
  cases call with
  | getInstance _ => exact speaks_fetch c _ _ _ _ s
  | getSubnet _ => exact speaks_fetch c _ _ _ _ s
  | getRouteTable _ => exact speaks_fetch c _ _ _ _ s
  | listTargetGroups => exact speaks_pagesFrom c _ _ _ _ s
  | findInstance _ => exact speaks_findUnique c _ _ _ _ s
  | findTargetGroup _ => exact speaks_findUnique c _ _ _ _ s
  | findBalancer _ => exact speaks_findUnique c _ _ _ _ s
  | deleteTargetGroup _ => exact speaks_remove c _ s
  | deleteBalancer _ => exact speaks_remove c _ s
  | setRoutes _ _ => exact speaks_mutate c _ _ _ _ s
  | createTargetGroup _ => exact speaks_mutate c _ _ _ _ s
  | addTargets _ _ => exact speaks_mutate c _ _ _ _ s
  | removeTargets _ _ => exact speaks_mutate c _ _ _ _ s
  | createBalancer _ => exact speaks_mutate c _ _ _ _ s
  | addListener _ _ => exact speaks_mutate c _ _ _ _ s
  | removeListener _ _ => exact speaks_mutate c _ _ _ _ s
  | attachTargetGroup _ _ => exact speaks_mutate c _ _ _ _ s
  | detachTargetGroup _ _ => exact speaks_mutate c _ _ _ _ s

end Calls

/-! ## Lives -/

/-- The session of a client that is new, with a server in reach that has a script. -/
def Session.fresh (script : List Cue) (now : Int) : Session :=
  ⟨⟨true, script, []⟩, now, none⟩

/-- The session after a pause. -/
def Session.wait (s : Session) (pause : Nat) : Session :=
  { s with now := s.now + pause }

/-- The session after calls, each with a pause before it. -/
def Client.after (c : Client) : Session → List (Nat × Call) → Session
  | s, [] => s
  | s, (pause, call) :: rest => c.after (c.perform call (s.wait pause)).2 rest

/-- What is sent in the course of calls. -/
def Client.history (c : Client) : Session → List (Nat × Call) → List Sent
  | _, [] => []
  | s, (pause, call) :: rest =>
    let s' := (c.perform call (s.wait pause)).2
    (s.wait pause).sentUntil s' ++ c.history s' rest

/-- What a client's requests to a server in reach are like from one session to another. -/
structure Client.Carries (c : Client) (s : Session) (l : List Sent) (s' : Session) : Prop where
  rounds : c.credentials.Rounds s.cached l s'.cached
  timed : Timed s.now l s'.now
  received : s'.server.received = s.server.received ++ l.map (·.request)
  reachable : s'.server.reachable = true

/-- The discipline that the requests of a call keep, given what has been sent before the call,
    the verdict on it and the token that is kept after it. -/
structure Disciplined {α : Type} (address : String) (past sent : List Sent) (v : Verdict α)
    (kept : Option CachedToken) : Prop where
  /-- A request to the API carries the token that was issued last. It is sent while this token is
      valid long enough, or it comes directly after the request for this token. -/
  carries : ∀ before x after, sent = before ++ x :: after → x.request.forApi = true →
    ∃ t, lastIssued (past ++ before) = some t ∧ x.request.audience = .api t.value ∧
      (x.moment < t.expiry - refreshMargin ∨ before.getLast?.bind Sent.issued? = some t)
  /-- A token that is issued for no longer than the margin is on no request to the API but the
      one that comes directly after it is issued. Another one has a token that was issued in
      between. -/
  once : ∀ before x between y after t, past ++ sent = before ++ x :: (between ++ y :: after) →
    x.issued? = some t → t.expiry ≤ x.moment + refreshMargin → y.request.forApi = true →
      between = [] ∨ ∃ z ∈ between, z.issued?.isSome
  /-- Every other request is one for a token, and none is kept then that is valid long enough. -/
  asks : ∀ before x after, sent = before ++ x :: after → x.request.forApi = false →
    x.request = Metadata.tokenRequest address ∧ StaleAt (lastIssued (past ++ before)) x.moment
  /-- Of two requests in a row one is for the API. -/
  single : ∀ before x y after, sent = before ++ x :: y :: after →
    x.request.forApi = true ∨ y.request.forApi = true
  /-- Where a token is denied, nothing more is sent, the call ends as the request for the token
      did, and the token stays that was kept before. -/
  denied : ∀ before x after, sent = before ++ x :: after → x.Denied →
    after = [] ∧ kept = lastIssued (past ++ before) ∧
      (∀ e, x.outcome = .error e → v = .error e) ∧ (x.outcome = .aborted → v = .aborted)
  /-- The token that was issued last is kept. -/
  keeps : kept = lastIssued (past ++ sent)
  /-- Something is sent, unless the call is stopped before. -/
  speaks : sent = [] → v = .aborted
  /-- Nothing but a fault of the calendar stops the call. -/
  faults : v = .aborted → (Credentials.instanceAccount address).Faulty sent kept

section Lives

variable {c : Client} {s s' : Session} {l past sent : List Sent}

theorem Client.Carries.append {s₁ s₂ s₃ : Session} {l₁ l₂ : List Sent}
    (h₁ : c.Carries s₁ l₁ s₂) (h₂ : c.Carries s₂ l₂ s₃) : c.Carries s₁ (l₁ ++ l₂) s₃ where
  rounds := h₁.rounds.append h₂.rounds
  timed := h₁.timed.append h₂.timed
  received := by rw [h₂.received, h₁.received, List.map_append, List.append_assoc]
  reachable := h₂.reachable

/-- What a call sends to a server in reach. -/
theorem carries_perform (c : Client) (call : Call) (hr : s.server.reachable = true) :
    let sent := s.sentUntil (c.perform call s).2
    c.Carries s sent (c.perform call s).2 ∧ c.credentials.Careful s sent (c.perform call s) ∧
      (sent = [] → (c.perform call s).1 = .aborted) := by
  intro sent
  obtain ⟨l, hcareful, hspeaks⟩ := speaks_perform c call s
  have hsent : sent = l := hcareful.sends.sentUntil_eq hr
  have hreceived := (hcareful.sends.serves.recorded hr).1
  rw [List.map_map] at hreceived
  rw [hsent]
  exact ⟨⟨hcareful.rounds, hcareful.sends.timed, hreceived, hcareful.sends.reachable.trans hr⟩,
    hcareful, hspeaks⟩

theorem carries_wait (pause : Nat) (h : c.Carries (s.wait pause) l s') : c.Carries s l s' where
  rounds := h.rounds
  timed := by
    have hpause : Timed s.now [] (s.wait pause).now :=
      .nothing (Int.le_add_of_nonneg_right (Int.natCast_nonneg pause))
    exact hpause.append h.timed
  received := h.received
  reachable := h.reachable

/-- What calls send to a server in reach, by induction on the calls. -/
theorem carries_history (c : Client) (calls : List (Nat × Call))
    (hr : s.server.reachable = true) : c.Carries s (c.history s calls) (c.after s calls) := by
  induction calls generalizing s with
  | nil => exact ⟨.nothing _, .nothing (Int.le_refl _), by simp [Client.after, Client.history], hr⟩
  | cons first rest ih =>
    obtain ⟨pause, call⟩ := first
    have hcall := carries_wait pause (carries_perform (s := s.wait pause) c call hr).1
    exact hcall.append (ih hcall.reachable)

theorem lastIssued_eq_none {l : List Sent} (h : ∀ x ∈ l, ¬ x.issued?.isSome = true) :
    lastIssued l = none := by
  have hnone : l.filterMap Sent.issued? = [] :=
    List.filterMap_eq_nil_iff.mpr fun x hx => by simpa using h x hx
  rw [lastIssued, hnone]
  rfl

theorem moment_le_of_timed {a b : Int} {before between after : List Sent} {x y : Sent}
    (h : Timed a (before ++ x :: (between ++ y :: after)) b) : x.moment ≤ y.moment := by
  obtain ⟨-, hlater, -⟩ := List.pairwise_append.mp h.ordered
  exact List.rel_of_pairwise_cons hlater (by simp)

theorem forApi_tokenRequest {r : Request} {address : String}
    (h : r = Metadata.tokenRequest address) : r.forApi = false := by
  rw [h]
  rfl

/-- A token that is valid no longer than the margin is not used again. -/
theorem once_of_rounds {address : String} {k : Option CachedToken} {a b : Int}
    {before between after : List Sent} {x y : Sent} {t : CachedToken}
    (hrounds : (Credentials.instanceAccount address).Rounds none
      (before ++ x :: (between ++ y :: after)) k)
    (htimed : Timed a (before ++ x :: (between ++ y :: after)) b) (hissued : x.issued? = some t)
    (hshort : t.expiry ≤ x.moment + refreshMargin) (hy : y.request.forApi = true) :
    between = [] ∨ ∃ z ∈ between, z.issued?.isSome := by
  have hmoment := moment_le_of_timed htimed
  rw [← List.cons_append, ← List.append_assoc] at hrounds
  obtain ⟨t', hbefore, hvalid, -⟩ | ⟨_, _, _, _, -, -, hasks, -⟩ | ⟨earlier, z, t', hlast, hz, -⟩ |
    ⟨_, -, -, hasks, -⟩ := hrounds.cases_at
  · by_cases hbetween : ∃ z ∈ between, z.issued?.isSome
    · exact .inr hbetween
    · have hnone : lastIssued between = none :=
        lastIssued_eq_none fun z hz hsome => hbetween ⟨z, hz, hsome⟩
      have hkept := hbefore.kept_eq
      rw [List.append_cons, lastIssued_append, hnone, lastIssued_append, lastIssued_singleton,
        hissued] at hkept
      cases hkept
      omega
  · cases hy.symm.trans (forApi_tokenRequest hasks)
  · obtain rfl | ⟨between, z', rfl⟩ := List.eq_nil_or_concat between
    · exact .inl rfl
    · rw [List.concat_eq_append] at hlast ⊢
      rw [← List.cons_append, ← List.append_assoc] at hlast
      obtain ⟨-, hz'⟩ := List.append_inj' hlast rfl
      cases hz'
      exact .inr ⟨z, by simp, by rw [hz]; rfl⟩
  · cases hy.symm.trans (forApi_tokenRequest hasks)

theorem disciplined_of_careful {α : Type} {address : String} {a b : Int}
    {result : Verdict α × Session}
    (hpast : (Credentials.instanceAccount address).Rounds none past s.cached)
    (hcareful : (Credentials.instanceAccount address).Careful s sent result)
    (htimed : Timed a (past ++ sent) b) (hspeaks : sent = [] → result.1 = .aborted) :
    Disciplined address past sent result.1 result.2.cached := by
  have hsent := hcareful.rounds
  have hlast : ∀ {l k}, (Credentials.instanceAccount address).Rounds s.cached l k →
      k = lastIssued (past ++ l) := by
    intro l k h
    rw [h.kept_eq, hpast.kept_eq, Option.or_none, lastIssued_append]
  have hdenied : ∀ before x after, sent = before ++ x :: after → x.Denied →
      after = [] ∧ result.2.cached = lastIssued (past ++ before) ∧
        (∀ e, x.outcome = .error e → result.1 = .error e) ∧
        (x.outcome = .aborted → result.1 = .aborted) := by
    intro before x after hsplit hx
    obtain ⟨rfl, herror, haborted⟩ := hcareful.heeds before x after hsplit hx
    refine ⟨rfl, ?_, herror, haborted⟩
    rw [hlast hsent, hsplit, ← List.append_assoc, lastIssued_append, lastIssued_singleton,
      (denied_iff.mp hx).2, Option.none_or]
  refine ⟨?_, ?_, ?_, ?_, hdenied, hlast hsent, hspeaks, hcareful.faults⟩
  · rintro before x after rfl hx
    obtain ⟨t, hbefore, hvalid, hcarries⟩ | ⟨_, _, _, _, -, -, hasks, -⟩ |
      ⟨earlier, z, t, rfl, hz, hcarries⟩ | ⟨_, -, -, hasks, -⟩ := hsent.cases_at
    · exact ⟨t, (hlast hbefore).symm, hcarries, .inl hvalid⟩
    · cases hx.symm.trans (forApi_tokenRequest hasks)
    · refine ⟨t, ?_, hcarries, .inr ?_⟩
      · rw [← List.append_assoc, lastIssued_append, lastIssued_singleton, hz, Option.some_or]
      · rw [List.getLast?_concat]
        exact hz
    · cases hx.symm.trans (forApi_tokenRequest hasks)
  · intro before x between y after t hsplit hissued hshort hy
    have hall := hpast.append hsent
    rw [hsplit] at hall htimed
    exact once_of_rounds hall htimed hissued hshort hy
  · rintro before x after rfl hx
    obtain ⟨t, -, -, hcarries⟩ | ⟨_, _, _, _, hbefore, hstale, hasks, -⟩ |
      ⟨_, _, t, -, -, hcarries⟩ | ⟨_, hbefore, hstale, hasks, -⟩ := hsent.cases_at
    · cases hx.symm.trans (forApi_of_audience hcarries)
    · exact ⟨hasks, hlast hbefore ▸ hstale⟩
    · cases hx.symm.trans (forApi_of_audience hcarries)
    · exact ⟨hasks, hlast hbefore ▸ hstale⟩
  · rintro before x y after rfl
    obtain ⟨t, -, -, hcarries⟩ | ⟨_, _, _, _, -, -, -, -, hafter, hcarries⟩ |
      ⟨_, _, t, -, -, hcarries⟩ | ⟨_, -, -, -, hx⟩ := hsent.cases_at
    · exact .inl (forApi_of_audience hcarries)
    · cases hafter
      exact .inr (forApi_of_audience hcarries)
    · exact .inl (forApi_of_audience hcarries)
    · cases (hdenied before x (y :: after) rfl hx).1

/-- **Token discipline.** Whatever calls a new client makes, and whatever a server answers: the
    server receives the requests that are listed here. If the token is given in advance, every
    request is for the API and carries it, and no call goes without one. Otherwise the requests of
    every next call keep the discipline. -/
theorem token_discipline (c : Client) (script : List Cue) (start : Int)
    (calls : List (Nat × Call)) (pause : Nat) (call : Call) :
    let s := (c.after (.fresh script start) calls).wait pause
    let s' := (c.perform call s).2
    let past := c.history (.fresh script start) calls
    let sent := s.sentUntil s'
    s'.server.received = (past ++ sent).map (·.request) ∧
      (∀ token, c.credentials = .fixed token →
        sent ≠ [] ∧ ∀ x ∈ past ++ sent, x.request.audience = .api token) ∧
      ∀ address, c.credentials = .instanceAccount address →
        Disciplined address past sent (c.perform call s).1 s'.cached := by
  intro s s' past sent
  have hpast : c.Carries (.fresh script start) past (c.after (.fresh script start) calls) :=
    carries_history c calls rfl
  obtain ⟨hsent, hcareful, hspeaks⟩ := carries_perform (s := s) c call hpast.reachable
  have hall := hpast.append (carries_wait pause hsent)
  refine ⟨hall.received, fun token hc => ⟨fun hnil => ?_, ?_⟩, fun address hc => ?_⟩
  · have hfaulty := hcareful.faults (hspeaks hnil)
    rw [hc] at hfaulty
    cases hfaulty
  · exact Credentials.Rounds.given (hc ▸ hall.rounds)
  · exact disciplined_of_careful (s := s) (hc ▸ hpast.rounds) (hc ▸ hcareful) hall.timed hspeaks

end Lives

namespace Sample

/-- A client with the account of its instance. -/
def accountClient : Client :=
  { restClient with credentials := .instanceAccount "http://meta.test" }

/-- A token for so many seconds. -/
def tokenReply (value lifetime : String) : Cue :=
  ⟨.reply 200 ("\x7b\"access_token\":\"" ++ value ++ "\",\"expires_in\":" ++ lifetime ++ "\x7d"), 0⟩

/-- An empty listing. -/
def emptyReply : Cue :=
  ⟨.reply 200 "\x7b\x7d", 0⟩

end Sample

open Sample in
/-- A token for as long as the margin is used once, one for an hour is used again. -/
example :
    (accountClient.history
      (.fresh [tokenReply "a" "300", emptyReply, tokenReply "b" "3600", emptyReply, emptyReply] 0)
      [(0, .listTargetGroups), (0, .listTargetGroups), (0, .listTargetGroups)]).map
        (·.request.audience) = [.metadata, .api "a", .metadata, .api "b", .api "b"] := by
  decide +kernel

end CloudSteward
