import CloudSteward.Proofs.Rest.Fetch

/-!
# Looking up by name

A listing follows the token of each page to the next one. A look-up by unique name asks
for the same listing with pages of two, enough to see that a name is not unique if the
first page is full, and decides from the first page alone. What a server has put on later
pages is not looked at, however short the first one is.

Results:

* `pagesFrom_of_page`: a listing goes on behind a page that leads on.
* `lists_pagesFrom`: the exchanges and pages of a listing.
* `lookUp_tells_iff`: when a look-up agrees with the listing.
* `lookUp_misses_later_page`: a look-up that comes back with nothing although the listing
  has a resource.
-/

namespace CloudSteward

open Client Json

variable {α : Type} {c : Client} {s s' : Session}

/-! ## Listings -/

section Listings

/-- The exchanges and pages of a listing from some page on: each page is read from a reply
    of its own, and its token leads to the page after it. -/
inductive Client.Lists (c : Client) (item? : Json → Option α) (url : String)
    (filters : List (String × String)) : Option String → List Exchange → List (Page α) → Prop
  | last {pageToken : Option String} {l : List Exchange} {p : Page α}
      (fetched : c.Fetches (Page.ofJson? item?) .get
        (withQuery url (pageParameters filters pageToken)) none l (.ok p))
      (ends : nextToken? p = none) : c.Lists item? url filters pageToken l [p]
  | more {pageToken : Option String} {token : String} {l rest : List Exchange} {p : Page α}
      {pages : List (Page α)}
      (fetched : c.Fetches (Page.ofJson? item?) .get
        (withQuery url (pageParameters filters pageToken)) none l (.ok p))
      (leads : nextToken? p = some token)
      (others : c.Lists item? url filters (some token) rest pages) :
      c.Lists item? url filters pageToken (l ++ rest) (p :: pages)

variable {item? : Json → Option α} {url : String} {filters : List (String × String)}
  {pageToken : Option String} {all : List α}

/-- A listing from some page on: that page, and behind it the listing from the next one on. -/
theorem pagesFrom_eq_bind (c : Client) (item? : Json → Option α) (url : String)
    (filters : List (String × String)) (pageToken : Option String) (s : Session) :
    c.pagesFrom item? url filters pageToken s =
      (c.get (Page.ofJson? item?) (withQuery url (pageParameters filters pageToken)) >>= fun p =>
        match nextToken? p with
        | none => Pure.pure p.items
        | some token =>
          c.pagesFrom item? url filters (some token) >>= fun more => Pure.pure (p.items ++ more))
        s := by
  rw [pagesFrom]
  show _ = Talk.bind _ _ s
  rw [Talk.bind]
  split
  · simp_all
  · simp_all
  · rename_i p s₁ hget
    rw [hget]
    dsimp only
    cases nextToken? p with
    | none => rfl
    | some token =>
      show _ = Talk.bind _ _ s₁
      rw [Talk.bind]
      dsimp only
      rcases c.pagesFrom item? url filters (some token) s₁ with ⟨more | e | _, s₂⟩ <;> rfl

theorem pagesFrom_of_page {p : Page α}
    (h : c.get (Page.ofJson? item?) (withQuery url (pageParameters filters pageToken)) s =
      (.ok p, s')) :
    c.pagesFrom item? url filters pageToken s =
      match nextToken? p with
      | none => (.ok p.items, s')
      | some next =>
        ((c.pagesFrom item? url filters (some next) s').1.andThen fun others =>
          .ok (p.items ++ others), (c.pagesFrom item? url filters (some next) s').2) := by
  rw [pagesFrom_eq_bind]
  show Talk.bind _ _ s = _
  rw [Talk.bind, h]
  dsimp only
  cases nextToken? p with
  | none => rfl
  | some next => exact bind_ofExcept _ (fun others => .ok (p.items ++ others)) s'

theorem pagesFrom_of_error {e : CloudError}
    (h : c.get (Page.ofJson? item?) (withQuery url (pageParameters filters pageToken)) s =
      (.error e, s')) : c.pagesFrom item? url filters pageToken s = (.error e, s') := by
  rw [pagesFrom_eq_bind]
  show Talk.bind _ _ s = _
  rw [Talk.bind, h]

theorem pagesFrom_of_aborted
    (h : c.get (Page.ofJson? item?) (withQuery url (pageParameters filters pageToken)) s =
      (.aborted, s')) : c.pagesFrom item? url filters pageToken s = (.aborted, s') := by
  rw [pagesFrom_eq_bind]
  show Talk.bind _ _ s = _
  rw [Talk.bind, h]

/-- A listing that ends well begins with a page, and goes on if the page has a token. -/
theorem pagesFrom_ok (h : c.pagesFrom item? url filters pageToken s = (.ok all, s')) :
    ∃ p s₁, c.get (Page.ofJson? item?) (withQuery url (pageParameters filters pageToken)) s =
        (.ok p, s₁) ∧
      ((nextToken? p = none ∧ all = p.items ∧ s' = s₁) ∨
        ∃ token more, nextToken? p = some token ∧ all = p.items ++ more ∧
          c.pagesFrom item? url filters (some token) s₁ = (.ok more, s')) := by
  rcases hget : c.get (Page.ofJson? item?) (withQuery url (pageParameters filters pageToken)) s
    with ⟨p | e | _, s₁⟩
  · rw [pagesFrom_of_page hget] at h
    refine ⟨p, s₁, rfl, ?_⟩
    cases hnext : nextToken? p with
    | none =>
      rw [hnext] at h
      cases h
      exact .inl ⟨rfl, rfl, rfl⟩
    | some token =>
      rw [hnext] at h
      dsimp only at h
      rcases hmore : c.pagesFrom item? url filters (some token) s₁ with ⟨more | e | _, s₂⟩
      · rw [hmore] at h
        cases h
        exact .inr ⟨token, more, rfl, rfl, hmore⟩
      · rw [hmore] at h
        cases h
      · rw [hmore] at h
        cases h
  · rw [pagesFrom_of_error hget] at h
    cases h
  · rw [pagesFrom_of_aborted hget] at h
    cases h

/-- The pages of a listing that ends well, by induction on what is left of the script. -/
theorem lists_pagesFrom (c : Client) (item? : Json → Option α) (url : String)
    (filters : List (String × String)) (pageToken : Option String) {all : List α}
    {s s' : Session} (h : c.pagesFrom item? url filters pageToken s = (.ok all, s')) :
    ∃ l first rest, s.server.Serves l s'.server ∧
      c.Lists item? url filters pageToken l (first :: rest) ∧
      all = (first :: rest).flatMap (·.items) ∧
      (c.get (Page.ofJson? item?) (withQuery url (pageParameters filters pageToken)) s).1 =
        .ok first := by
  obtain ⟨p, s₁, hget, hnext⟩ := pagesFrom_ok h
  obtain ⟨l, hl, hfetched⟩ := fetches_fetch c (Page.ofJson? item?) .get
    (withQuery url (pageParameters filters pageToken)) none s
  have hfetch : c.fetch (Page.ofJson? item?) .get
    (withQuery url (pageParameters filters pageToken)) none s = (.ok p, s₁) := hget
  rw [hfetch] at hl hfetched
  rcases hnext with ⟨hends, rfl, rfl⟩ | ⟨token, more, hleads, rfl, hmore⟩
  · exact ⟨l, p, [], hl, .last hfetched hends, by simp, by rw [hget]⟩
  · have hshorter := script_fetch_lt hfetch
    obtain ⟨l₁, first, rest, hl₁, hlists, hall, -⟩ :=
      lists_pagesFrom c item? url filters (some token) hmore
    refine ⟨l ++ l₁, p, first :: rest, hl.append hl₁, .more hfetched hleads hlists, ?_, ?_⟩
    · rw [List.flatMap_cons, hall]
    · rw [hget]
termination_by s.server.script.length

end Listings

/-! ## Look-ups -/

/-- The collections whose resources have unique names. -/
inductive Collection where
  | instances
  | targetGroups
  | balancers

/-- The resources of a collection. -/
@[reducible]
def Collection.Resource : Collection → Type
  | .instances => Instance
  | .targetGroups => TargetGroup
  | .balancers => Balancer

/-- Reads a resource. -/
def Collection.ofJson? : (k : Collection) → Json → Option k.Resource
  | .instances => Instance.ofJson?
  | .targetGroups => TargetGroup.ofJson?
  | .balancers => Balancer.ofJson?

/-- The address of a collection. -/
def Collection.url (c : Client) : Collection → String
  | .instances => c.instancesUrl
  | .targetGroups => c.targetGroupsUrl
  | .balancers => c.balancersUrl

/-- Looks a resource up by name. -/
def Client.lookUp (c : Client) (name : String) : (k : Collection) → Talk (Option k.Resource)
  | .instances => c.perform (.findInstance name)
  | .targetGroups => c.perform (.findTargetGroup name)
  | .balancers => c.perform (.findBalancer name)

/-- All resources of a name. -/
def Client.listing (c : Client) (name : String) (k : Collection) : Talk (List k.Resource) :=
  c.allPages k.ofJson? (k.url c) (c.nameParameters name)

/-- A verdict that tells what a list of resources of one name holds. -/
inductive Verdict.Tells : Verdict (Option α) → List α → Prop
  | none : (Verdict.ok none).Tells []
  | one (a : α) : (Verdict.ok (some a)).Tells [a]
  | several {m : String} {l : List α} (several : 2 ≤ l.length) :
      (Verdict.error (.ambiguous m)).Tells l

theorem lookUp_eq_findUnique (c : Client) (name : String) (k : Collection) :
    ∃ kinds, c.lookUp name k = c.findUnique k.ofJson? (k.url c) kinds name := by
  cases k with
  | instances => exact ⟨_, rfl⟩
  | targetGroups => exact ⟨_, rfl⟩
  | balancers => exact ⟨_, rfl⟩

theorem tells_only (c : Client) (kinds name : String) (p : Page α) :
    (Verdict.ofExcept (c.only kinds name p)).Tells p.items := by
  rw [only]
  match p.items with
  | [] => exact .none
  | [a] => exact .one a
  | a :: b :: rest => exact .several (by simp)

/-- A verdict on a list is one on a longer list exactly if the list has two resources or
    nothing is added. -/
theorem tells_append_iff {v : Verdict (Option α)} {l : List α} (h : v.Tells l) (more : List α) :
    v.Tells (l ++ more) ↔ 2 ≤ l.length ∨ more = [] := by
  constructor
  · intro htells
    cases h with
    | none =>
      cases more with
      | nil => exact .inr rfl
      | cons b more => cases htells
    | one a =>
      cases more with
      | nil => exact .inr rfl
      | cons b more => cases htells
    | several htwo => exact .inl htwo
  · rintro (htwo | rfl)
    · cases h with
      | none => simp at htwo
      | one a => simp at htwo
      | several htwo => exact .several (by rw [List.length_append]; omega)
    · rw [List.append_nil]
      exact h

/-- **Agreement.** When the listing of a name ends well, the look-up tells what its first page
    holds. It tells what the whole listing holds exactly if the first page has two resources
    or more, or the other pages have none. -/
theorem lookUp_tells_iff {name : String} {k : Collection} {all : List k.Resource}
    (h : c.listing name k s = (.ok all, s')) :
    ∃ l first rest, s.server.Serves l s'.server ∧
      c.Lists k.ofJson? (k.url c) (c.nameParameters name) none l (first :: rest) ∧
      all = (first :: rest).flatMap (·.items) ∧
      (c.lookUp name k s).1.Tells first.items ∧
      ((c.lookUp name k s).1.Tells all ↔
        2 ≤ first.items.length ∨ ∀ p ∈ rest, p.items = []) := by
  obtain ⟨l, first, rest, hl, hlists, hall, hget⟩ := lists_pagesFrom _ _ _ _ _ h
  obtain ⟨kinds, hlookUp⟩ := lookUp_eq_findUnique c name k
  have htells : (c.lookUp name k s).1.Tells first.items := by
    rw [hlookUp, findUnique, bind_ofExcept]
    have hparameters : pageParameters (c.nameParameters name) none = c.nameParameters name :=
      List.append_nil _
    rw [hparameters] at hget
    rw [hget]
    exact tells_only c kinds name first
  refine ⟨l, first, rest, hl, hlists, hall, htells, ?_⟩
  rw [hall, List.flatMap_cons, tells_append_iff htells, List.flatMap_eq_nil_iff]

namespace Sample

/-- An instance. -/
def worker : Instance :=
  ⟨"fhm1", "b1g", "zone", "worker-0", "", .unspecified, [], .empty⟩

/-- The document of the instance. -/
def workerDocument : String :=
  "\x7b\"id\":\"fhm1\",\"folderId\":\"b1g\",\"zoneId\":\"zone\",\"name\":\"worker-0\"\x7d"

/-- A server that puts the instance on the first page and leaves the second one empty. -/
def trailing : Session :=
  scripted [.reply 200 ("\x7b\"instances\":[" ++ workerDocument ++ "],\"nextPageToken\":\"t\"\x7d"),
    .reply 200 "\x7b\x7d"]

/-- A server that leaves the first page empty and puts the instance on the second one. -/
def leading : Session :=
  scripted [.reply 200 "\x7b\"instances\":[],\"nextPageToken\":\"t\"\x7d",
    .reply 200 ("\x7b\"instances\":[" ++ workerDocument ++ "]\x7d")]

end Sample

open Sample in
/-- An empty page after the first one is no harm. -/
theorem lookUp_tells_of_trailing_page :
    (restClient.listing "worker-0" .instances trailing).1 = .ok [worker] ∧
      (restClient.lookUp "worker-0" .instances trailing).1.Tells [worker] := by
  have hlisting : (restClient.listing "worker-0" .instances trailing).1 = .ok [worker] := by
    decide +kernel
  have hlookUp : (restClient.lookUp "worker-0" .instances trailing).1 = .ok (some worker) := by
    decide +kernel
  obtain ⟨-, first, rest, -, -, hall, htells, hiff⟩ := lookUp_tells_iff (Prod.ext hlisting rfl)
  refine ⟨hlisting, hiff.mpr (.inr ?_)⟩
  have hfirst : first.items = [worker] := by
    rw [hlookUp] at htells
    generalize first.items = items at htells
    cases htells
    rfl
  rw [List.flatMap_cons, hfirst] at hall
  exact List.flatMap_eq_nil_iff.mp (List.cons.inj hall).2.symm

open Sample in
/-- An empty page before the last one hides what is there. -/
theorem lookUp_misses_later_page :
    (restClient.listing "worker-0" .instances leading).1 = .ok [worker] ∧
      (restClient.lookUp "worker-0" .instances leading).1 = .ok none := by
  decide +kernel

end CloudSteward
