import CloudSteward.Proofs.Rest.Query
import CloudSteward.Proofs.Rest.Tokens

/-!
# Following a listing

A listing asks for its first page without a page token, and for every other page with the token
of the page before, until a page has none. What comes of it are the resources of all pages, in
the order of the pages. A page that cannot be read ends the listing with its error, and so does a
request for an access token that is denied on the way; nothing is left then of the pages before.

Results:

* `nextToken?_eq_some_iff`: the pages that lead on.
* `follows_pagesFrom`: a listing asks for page after page.
* `Client.Follows.listed`: what it sends and what comes of it, from the replies of the API.
* `replies_of_fixed`: the replies of the API, if no request for an access token is between them.
* `listTargetGroups_follows_pages`: the same about the listing of the target groups.
-/

namespace CloudSteward

open Client Json

variable {α : Type} {c : Client} {s s' : Session}

/-! ## Requests for pages -/

/-- A request for a page of a listing: it carries nothing but the filters and, if there is one,
    the page token. -/
structure Request.AsksPage (r : Request) (url : String) (filters : List (String × String))
    (pageToken : Option String) : Prop where
  verb : r.verb = .get
  body : r.body = none
  query : ∃ q, r.url = url ++ "?" ++ q ∧
    Text.pairs? q = some (filters ++ (pageToken.map ("pageToken", ·)).toList)

/-- The request for a page of a listing. -/
def pageRequest (token url : String) (filters : List (String × String))
    (pageToken : Option String) : Request :=
  ⟨.get, withQuery url (pageParameters filters pageToken), .api token, none⟩

theorem asksPage_pageRequest (token url : String) {filters : List (String × String)}
    (h : filters ≠ []) (pageToken : Option String) :
    (pageRequest token url filters pageToken).AsksPage url filters pageToken where
  verb := rfl
  body := rfl
  query := ⟨_, rfl, Text.pairs?_query (by simp [pageParameters, h])⟩

theorem nextToken?_eq_some_iff {p : Page α} {token : String} :
    nextToken? p = some token ↔ p.nextPageToken = some token ∧ token ≠ "" := by
  rw [nextToken?, Option.filter_eq_some_iff]
  simp

/-! ## Page after page -/

/-- How requests end with a verdict and a kept token for want of an access token, which only the
    account of the instance can be without: the last one is for a token and is refused, or there
    is a fault of the calendar. -/
inductive Credentials.Unauthorized :
    Credentials → List Sent → Verdict α → Option CachedToken → Prop
  | refused {address : String} {l : List Sent} {x : Sent} {e : CloudError}
      {kept : Option CachedToken} (aside : x.request.forApi = false)
      (refused : x.outcome = .error e) :
      (Credentials.instanceAccount address).Unauthorized (l ++ [x]) (.error e) kept
  | aborted {c : Credentials} {l : List Sent} {kept : Option CachedToken}
      (faulty : c.Faulty l kept) : c.Unauthorized l .aborted kept

/-- What a listing sends from some page on, and what comes of it: for each page there may be a
    request for an access token and, if there is a token, one to the API. A page that leads on has
    the next page behind it. -/
inductive Client.Follows (c : Client) (item? : Json → Option α) (url : String)
    (filters : List (String × String)) (kept : Option CachedToken) :
    Option String → List Sent → Verdict (List α) → Prop
  | unsent {pageToken : Option String} {l : List Sent} {v : Verdict (List α)}
      (aside : ∀ y ∈ l, y.request.forApi = false)
      (unauthorized : c.credentials.Unauthorized l v kept) :
      c.Follows item? url filters kept pageToken l v
  | unread {pageToken : Option String} {l : List Sent} {token : String} {x : Sent} {e : CloudError}
      (aside : ∀ y ∈ l, y.request.forApi = false)
      (asks : x.request = pageRequest token url filters pageToken)
      (unread : readDelivery (Page.ofJson? item?) .get x.request.url x.delivery = .error e) :
      c.Follows item? url filters kept pageToken (l ++ [x]) (.error e)
  | last {pageToken : Option String} {l : List Sent} {token : String} {x : Sent} {p : Page α}
      (aside : ∀ y ∈ l, y.request.forApi = false)
      (asks : x.request = pageRequest token url filters pageToken)
      (read : readDelivery (Page.ofJson? item?) .get x.request.url x.delivery = .ok p)
      (ends : nextToken? p = none) :
      c.Follows item? url filters kept pageToken (l ++ [x]) (.ok p.items)
  | more {pageToken : Option String} {l l' : List Sent} {token next : String} {x : Sent}
      {p : Page α} {v : Verdict (List α)} (aside : ∀ y ∈ l, y.request.forApi = false)
      (asks : x.request = pageRequest token url filters pageToken)
      (read : readDelivery (Page.ofJson? item?) .get x.request.url x.delivery = .ok p)
      (leads : nextToken? p = some next)
      (rest : c.Follows item? url filters kept (some next) l' v) :
      c.Follows item? url filters kept pageToken (l ++ [x] ++ l')
        (v.andThen fun others => .ok (p.items ++ others))

section Follows

variable {item? : Json → Option α} {url : String} {filters : List (String × String)}
  {pageToken : Option String} {kept : Option CachedToken} {l : List Sent} {v : Verdict (List α)}

/-- Without an access token nothing comes of a listing but the reason. -/
theorem Credentials.Hands.unauthorized_of_error {credentials : Credentials} {e : CloudError}
    (h : credentials.Hands s l (.error e) s') :
    credentials.Unauthorized l (.error e : Verdict α) kept := by
  cases h with
  | refused _ refused => exact .refused (l := []) rfl refused

/-- A listing asks for page after page, by induction on what is left of the script. -/
theorem follows_pagesFrom (c : Client) (item? : Json → Option α) (url : String)
    (filters : List (String × String)) (pageToken : Option String) (s : Session) :
    ∃ l, s.Sends l (c.pagesFrom item? url filters pageToken s).2 ∧
      c.Follows item? url filters (c.pagesFrom item? url filters pageToken s).2.cached pageToken l
        (c.pagesFrom item? url filters pageToken s).1 := by
  obtain ⟨l, hhands⟩ := hands_token c.credentials s
  have hget : c.get (Page.ofJson? item?) (withQuery url (pageParameters filters pageToken)) s = _ :=
    fetch_eq ..
  generalize c.credentials.token s = obtained at hhands hget
  rcases obtained with ⟨token | e | _, s₁⟩
  · have hsends := hhands.sends.append (.one s₁ (pageRequest token url filters pageToken))
    dsimp only at hget
    cases hread : readDelivery (Page.ofJson? item?) .get
        (withQuery url (pageParameters filters pageToken))
        (s₁.send (pageRequest token url filters pageToken)).1 with
    | error e =>
      rw [pageRequest] at hread
      rw [hread] at hget
      rw [pagesFrom_of_error hget]
      exact ⟨_, hsends, .unread hhands.aside rfl hread⟩
    | ok p =>
      rw [pageRequest] at hread
      rw [hread] at hget
      have hshorter := script_fetch_lt hget
      rw [pagesFrom_of_page hget]
      cases hnext : nextToken? p with
      | none => exact ⟨_, hsends, .last hhands.aside rfl hread hnext⟩
      | some next =>
        obtain ⟨l', hsends', hfollows⟩ := follows_pagesFrom c item? url filters (some next)
          (s₁.send (pageRequest token url filters pageToken)).2
        exact ⟨_, hsends.append hsends', .more hhands.aside rfl hread hnext hfollows⟩
  · rw [pagesFrom_of_error hget]
    exact ⟨l, hhands.sends, .unsent hhands.aside hhands.unauthorized_of_error⟩
  · rw [pagesFrom_of_aborted hget]
    exact ⟨l, hhands.sends, .unsent hhands.aside (.aborted hhands.faulty)⟩
termination_by s.server.script.length

/-! ## Replies -/

/-- The requests for the API among others. -/
def toApi (l : List Sent) : List Sent :=
  l.filter (·.request.forApi)

/-- A reply with a page that has the token of another one. -/
def LeadsOn (item? : Json → Option α) (d : Delivery) (p : Page α) : Prop :=
  d.read? (Page.ofJson? item?) = some p ∧ ∃ t, p.nextPageToken = some t ∧ t ≠ ""

theorem toApi_append (l l' : List Sent) : toApi (l ++ l') = toApi l ++ toApi l' :=
  List.filter_append ..

theorem toApi_of_aside (h : ∀ y ∈ l, y.request.forApi = false) : toApi l = [] := by
  rw [toApi, List.filter_eq_nil_iff]
  simpa using h

/-- Requests for access tokens, and one to the API. -/
theorem toApi_of_page {token : String} {x : Sent} (h : ∀ y ∈ l, y.request.forApi = false)
    (asks : x.request = pageRequest token url filters pageToken) : toApi (l ++ [x]) = [x] := by
  rw [toApi_append, toApi_of_aside h, toApi, List.filter_cons_of_pos (by rw [asks]; rfl)]
  rfl

theorem leadsOn_of_nextToken? {d : Delivery} {p : Page α} {url next : String}
    (read : readDelivery (Page.ofJson? item?) .get url d = .ok p)
    (leads : nextToken? p = some next) : LeadsOn item? d p :=
  ⟨readDelivery_eq_ok_iff.mp read, next, nextToken?_eq_some_iff.mp leads⟩

/-- What a listing sends, what comes of it and which access token is kept then, if the API replies
    with some pages that lead on and then with something that does not. -/
structure Client.Listed (c : Client) (url : String) (filters : List (String × String))
    (pageToken : Option String) (leads : List (Delivery × Page α))
    (item? : Json → Option α) (last : Delivery) (l : List Sent) (v : Verdict (List α))
    (kept : Option CachedToken) : Prop where
  /-- Each request to the API asks for a page, the first one for the page from which the listing
      starts, every other one with the token of the page before. -/
  asks : ∀ (i : Nat) (x : Sent), (toApi l)[i]? = some x →
    ∃ t, (pageToken :: leads.map (·.2.nextPageToken))[i]? = some t ∧
      x.request.AsksPage url filters t
  /-- There is one request more than pages that lead on, and the last reply decides: the
      resources of all pages in their order, or the error of that reply. The account of the
      instance may also be denied an access token before that. -/
  result : (toApi l).length = leads.length + 1 ∧ (∃ x, (toApi l).getLast? = some x ∧
      v = (Verdict.ofExcept (readDelivery (Page.ofJson? item?) .get x.request.url last)).andThen
        fun p => .ok (leads.flatMap (·.2.items) ++ p.items)) ∨
    (toApi l).length ≤ leads.length ∧ c.credentials.Unauthorized l v kept

/-- A listing stops at a reply that does not lead on. -/
theorem listed_of_stop {token : String} {x : Sent} {leads : List (Delivery × Page α)}
    {last : Delivery} {more : List Delivery} (aside : ∀ y ∈ l, y.request.forApi = false)
    (asks : x.request = pageRequest token url filters pageToken) (hfilters : filters ≠ [])
    (stops : ∀ p, ¬ LeadsOn item? x.delivery p) (hleads : ∀ r ∈ leads, LeadsOn item? r.1 r.2)
    (hreplies : (toApi (l ++ [x])).map (·.delivery) <+: leads.map (·.1) ++ last :: more)
    (hv : v = (Verdict.ofExcept (readDelivery (Page.ofJson? item?) .get x.request.url
      x.delivery)).andThen fun p => .ok p.items) :
    c.Listed url filters pageToken leads item? last (l ++ [x]) v kept := by
  have hone := toApi_of_page aside asks
  rw [hone] at hreplies
  cases leads with
  | nil =>
    have hdelivery : x.delivery = last := (List.cons_prefix_cons.mp hreplies).1
    refine ⟨fun i y hy => ?_, .inl ⟨by rw [hone]; rfl, x, by rw [hone]; rfl, ?_⟩⟩
    · rw [hone] at hy
      cases i with
      | zero =>
        cases hy
        exact ⟨_, rfl, asks ▸ asksPage_pageRequest token url hfilters pageToken⟩
      | succ i => cases hy
    · rw [hv, hdelivery]
      rfl
  | cons r leads =>
    have hdelivery : x.delivery = r.1 := (List.cons_prefix_cons.mp hreplies).1
    exact absurd (hdelivery ▸ hleads r (by simp)) (stops r.2)

theorem Credentials.Unauthorized.append {credentials : Credentials} {l l' : List Sent}
    (h : credentials.Unauthorized l' v kept) (f : List α → Except CloudError (List α)) :
    credentials.Unauthorized (l ++ l') (v.andThen f) kept := by
  cases h with
  | refused aside refused =>
    rw [← List.append_assoc]
    exact .refused aside refused
  | aborted faulty => exact .aborted (faulty.append l)

/-- What a listing sends and what comes of it, by induction on the pages that it asks for. -/
theorem Client.Follows.listed (h : c.Follows item? url filters kept pageToken l v)
    (hfilters : filters ≠ []) {leads : List (Delivery × Page α)} {last : Delivery}
    {more : List Delivery} (hleads : ∀ r ∈ leads, LeadsOn item? r.1 r.2)
    (hlast : ∀ p, ¬ LeadsOn item? last p)
    (hreplies : (toApi l).map (·.delivery) <+: leads.map (·.1) ++ last :: more) :
    c.Listed url filters pageToken leads item? last l v kept := by
  induction h generalizing leads with
  | unsent aside unauthorized =>
    have hnone := toApi_of_aside aside
    exact ⟨by simp [hnone], .inr ⟨by simp [hnone], unauthorized⟩⟩
  | unread aside asks unread =>
    refine listed_of_stop aside asks hfilters (fun p hp => ?_) hleads hreplies (by rw [unread]; rfl)
    cases unread.symm.trans (readDelivery_eq_ok_iff.mpr hp.1)
  | last aside asks read ends =>
    refine listed_of_stop aside asks hfilters (fun p hp => ?_) hleads hreplies (by rw [read]; rfl)
    cases read.symm.trans (readDelivery_eq_ok_iff.mpr hp.1)
    obtain ⟨-, next, hnext⟩ := hp
    cases ends.symm.trans (nextToken?_eq_some_iff.mpr hnext)
  | @more pageToken l l' token next x p v aside asks read hnext _ ih =>
    have hrest : toApi (l ++ [x] ++ l') = x :: toApi l' := by
      rw [toApi_append, toApi_of_page aside asks]
      rfl
    rw [hrest, List.map_cons] at hreplies
    have hp := leadsOn_of_nextToken? read hnext
    cases leads with
    | nil =>
      have hdelivery : x.delivery = last := (List.cons_prefix_cons.mp hreplies).1
      exact absurd (hdelivery ▸ hp) (hlast p)
    | cons r leads =>
      obtain ⟨hr, hleads⟩ := List.forall_mem_cons.mp hleads
      have hdelivery : x.delivery = r.1 := (List.cons_prefix_cons.mp hreplies).1
      have hpage : r.2 = p := by
        rw [← hdelivery] at hr
        exact Option.some.inj (hr.1.symm.trans hp.1)
      obtain ⟨hasks, hresult⟩ := ih hleads (List.cons_prefix_cons.mp hreplies).2
      refine ⟨fun i y hy => ?_, ?_⟩
      · rw [hrest] at hy
        cases i with
        | zero =>
          cases hy
          exact ⟨_, rfl, asks ▸ asksPage_pageRequest token url hfilters pageToken⟩
        | succ i =>
          rw [List.map_cons, hpage, (nextToken?_eq_some_iff.mp hnext).1]
          exact hasks i y hy
      · rw [hrest, List.length_cons, List.length_cons]
        rcases hresult with ⟨hlength, z, hz, rfl⟩ | ⟨hlength, hunauthorized⟩
        · refine .inl ⟨by omega, z, ?_, ?_⟩
          · rw [List.getLast?_cons, hz]
            rfl
          · rw [List.flatMap_cons, hpage]
            cases readDelivery (Page.ofJson? item?) .get z.request.url last with
            | error e => rfl
            | ok p' => simp [Verdict.ofExcept, Verdict.andThen, List.append_assoc]
        · exact .inr ⟨by omega, hunauthorized.append _⟩

end Follows

/-! ## Target groups -/

/-- With a token given in advance, the API replies what the script says, and the answer of an
    empty script when that has run out. -/
theorem replies_of_fixed {token : String} (hc : c.credentials = .fixed token)
    (hr : s.server.reachable = true) (call : Call) :
    ∃ n, (toApi (s.sentUntil (c.perform call s).2)).map (·.delivery) <+:
      s.server.script.map (·.delivery) ++ List.replicate n exhausted := by
  obtain ⟨l, ⟨hsends, hrounds, -, -⟩, -⟩ := speaks_perform c call s
  rw [hsends.sentUntil_eq hr]
  rw [hc] at hrounds
  have hall : toApi l = l :=
    List.filter_eq_self.mpr fun x hx => forApi_of_audience (hrounds.given x hx)
  have hdelivered := (hsends.serves.recorded hr).2
  refine ⟨l.length, ?_⟩
  rw [hall, List.prefix_iff_getElem?]
  intro i hi
  rw [List.length_map] at hi
  have hi' : l[i]? = some l[i] := List.getElem?_eq_getElem hi
  have hx : l[i].delivery = (s.server.script[i]?.map (·.delivery)).getD exhausted :=
    hdelivered i l[i].toExchange (by rw [List.getElem?_map, hi']; rfl)
  rw [List.getElem_map, hx, List.getElem?_append, List.length_map, List.getElem?_map]
  split
  · rename_i hlt
    rw [List.getElem?_eq_getElem hlt]
    rfl
  · rename_i hge
    rw [List.getElem?_eq_none (Nat.le_of_not_lt hge), List.getElem?_replicate, if_pos (by omega)]
    rfl

/-- **Following pages.** Let the API reply to the listing of the target groups with some pages that
    lead on, and then with something that does not. The listing asks for the first page without a
    page token and for every other one with the token of the page before, and with nothing else
    than its filters. It ends at the reply that does not lead on, with the groups of all pages in
    the order of the pages or with the error of that reply. Only the account of the instance may be
    denied an access token before, and then the listing fails. -/
theorem listTargetGroups_follows_pages (hr : s.server.reachable = true)
    {leads : List (Delivery × Page TargetGroup)} {last : Delivery} (more : List Delivery)
    (hleads : ∀ r ∈ leads, LeadsOn TargetGroup.ofJson? r.1 r.2)
    (hlast : ∀ p, ¬ LeadsOn TargetGroup.ofJson? last p)
    (hreplies : (toApi (s.sentUntil (c.perform .listTargetGroups s).2)).map (·.delivery) <+:
      leads.map (·.1) ++ last :: more) :
    c.Listed c.targetGroupsUrl [("folderId", c.folderId), ("pageSize", "1000")] none leads
      TargetGroup.ofJson? last (s.sentUntil (c.perform .listTargetGroups s).2)
      (c.perform .listTargetGroups s).1 (c.perform .listTargetGroups s).2.cached := by
  obtain ⟨l, hsends, hfollows⟩ := follows_pagesFrom c TargetGroup.ofJson? c.targetGroupsUrl
    [("folderId", c.folderId), ("pageSize", fullPage)] none s
  change s.Sends l (c.perform .listTargetGroups s).2 at hsends
  rw [hsends.sentUntil_eq hr] at hreplies ⊢
  exact hfollows.listed (by simp) hleads hlast hreplies

namespace Sample

/-- A target group. -/
def firstGroup : TargetGroup :=
  ⟨"enp1", "b1g", "k8senpnet", "", [], .empty⟩

/-- Another one. -/
def secondGroup : TargetGroup :=
  ⟨"enp2", "b1g", "k8senpedge", "", [], .empty⟩

/-- A reply with a page of target groups. -/
def groupPage (group next : String) : Delivery :=
  .reply 200 ("\x7b\"targetGroups\":[" ++ group ++ "],\"nextPageToken\":" ++ next ++ "\x7d")

/-- A page whose token has characters with a meaning of their own in a query. -/
def firstPage : Delivery :=
  groupPage "\x7b\"id\":\"enp1\",\"folderId\":\"b1g\",\"name\":\"k8senpnet\"\x7d" "\"a&b=c\""

/-- A page without a token. -/
def lastPage : Delivery :=
  groupPage "\x7b\"id\":\"enp2\",\"folderId\":\"b1g\",\"name\":\"k8senpedge\"\x7d" "null"

end Sample

deriving instance DecidableEq for Page

open Sample in
/-- Two pages are followed, and the token of the first one comes back as it is. -/
theorem listTargetGroups_two_pages :
    restClient.Listed restClient.targetGroupsUrl [("folderId", "b1g"), ("pageSize", "1000")] none
        [(firstPage, ⟨[firstGroup], some "a&b=c"⟩)] TargetGroup.ofJson? lastPage
        ((scripted [firstPage, lastPage]).sentUntil
          (restClient.perform .listTargetGroups (scripted [firstPage, lastPage])).2)
        (restClient.perform .listTargetGroups (scripted [firstPage, lastPage])).1
        (restClient.perform .listTargetGroups (scripted [firstPage, lastPage])).2.cached ∧
      (restClient.perform .listTargetGroups (scripted [firstPage, lastPage])).1 =
        .ok [firstGroup, secondGroup] := by
  have hfirst : firstPage.read? (Page.ofJson? TargetGroup.ofJson?) =
      some ⟨[firstGroup], some "a&b=c"⟩ := by decide +kernel
  have hlast : lastPage.read? (Page.ofJson? TargetGroup.ofJson?) = some ⟨[secondGroup], none⟩ := by
    decide +kernel
  refine ⟨listTargetGroups_follows_pages rfl [] ?_ ?_ (by decide +kernel),
    by decide +kernel⟩
  · exact List.forall_mem_singleton.mpr ⟨hfirst, _, rfl, by decide⟩
  · rintro p ⟨hread, t, ht, -⟩
    cases hlast.symm.trans hread
    cases ht

end CloudSteward
