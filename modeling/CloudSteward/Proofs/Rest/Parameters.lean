import CloudSteward.Proofs.Rest.Listing
import Mathlib.Data.List.Forall2

/-!
# Parameters of requests

A look-up by name and every page of a listing are asked for with parameters. Some of them come
from outside: the folder from the settings, the name of the resource from the cluster, the token
of a page from the reply before it. None of these is more to the API than the value of its
parameter, whatever characters it consists of.

Results:

* `asked_eq`: what a talk asks a server in reach, and one that is not.
* `sends_get`: what is sent to ask the API for a page.
* `Client.Follows.carries`: the parameters of the pages of a listing.
* `parameters_sent_exact`: the parameters of look-ups and listings are those that are meant.
-/

namespace CloudSteward

open Client Json

variable {α : Type} {c : Client} {s s' : Session}

/-! ## Parameters of a request -/

/-- A request that carries parameters behind an address, and nothing else: they are read from its
    query, which consists of characters that are sent as they are, and arrive at every address
    without a mark of its own. -/
structure Request.Carries (r : Request) (address : String)
    (parameters : List (String × String)) : Prop where
  verb : r.verb = .get
  body : r.body = none
  query : ∃ q, r.url = address ++ "?" ++ q ∧ Text.pairs? q = some parameters ∧
    ∀ ch ∈ q.toList, Text.isQueryChar ch = true
  arrives : '?' ∉ address.toList ∧ '#' ∉ address.toList →
    Text.parameters? r.url = some parameters

theorem carries_pageRequest (token url : String) {filters : List (String × String)}
    (h : filters ≠ []) (pageToken : Option String) :
    (pageRequest token url filters pageToken).Carries url (pageParameters filters pageToken) where
  verb := rfl
  body := rfl
  query := ⟨_, rfl, Text.pairs?_query (by simp [pageParameters, h]), fun _ hc =>
    Text.isQueryChar_of_mem_query hc⟩
  arrives hurl := Text.parameters?_query_iff.mpr hurl _ (by simp [pageParameters, h])

/-! ## What a talk asks -/

/-- What a talk asks the API, as far as its server notes it. -/
def Talk.asked (t : Talk α) (s : Session) : List Sent :=
  toApi (s.sentUntil (t s).2)

section Asked

variable {l : List Sent}

/-- A server out of reach notes nothing. -/
theorem Session.Sends.sentUntil_eq_nil (h : s.Sends l s') (hr : s.server.reachable = false) :
    s.sentUntil s' = [] := by
  have hserver : s'.server = s.server := by
    induction h with
    | nothing s => rfl
    | keep kept _ ih => exact ih hr
    | @send s s' r l _ ih =>
      have hsent : (s.send r).2 = s := by simp [Session.send, hr]
      rw [hsent] at ih
      exact ih hr
  rw [Session.sentUntil, hserver, List.drop_length]
  rfl

theorem asked_eq {t : Talk α} (h : s.Sends l (t s).2) :
    t.asked s = if s.server.reachable then toApi l else [] := by
  rw [Talk.asked]
  split
  · rename_i hr
    rw [h.sentUntil_eq hr]
  · rename_i hr
    rw [h.sentUntil_eq_nil (Bool.eq_false_iff.mpr hr)]
    rfl

/-- The requests to the API with which a page is asked for: one if there is an access token, and
    otherwise none. -/
inductive Client.AsksOnce (c : Client) (s : Session) (url : String)
    (filters : List (String × String)) (pageToken : Option String) : List Sent → Prop
  | asked {token : String} {x : Sent} {s₁ : Session}
      (obtained : c.credentials.token s = (.ok token, s₁))
      (asks : x.request = pageRequest token url filters pageToken) :
      c.AsksOnce s url filters pageToken [x]
  | unsent (denied : ∀ token s₁, c.credentials.token s ≠ (.ok token, s₁)) :
      c.AsksOnce s url filters pageToken []

variable {item? : Json → Option α} {url : String} {filters : List (String × String)}
  {pageToken : Option String}

/-- What is sent to ask the API for a page. -/
theorem sends_get (c : Client) (item? : Json → Option α) (url : String)
    (filters : List (String × String)) (pageToken : Option String) (s : Session) :
    ∃ l, s.Sends l (c.get (Page.ofJson? item?)
        (withQuery url (pageParameters filters pageToken)) s).2 ∧
      c.AsksOnce s url filters pageToken (toApi l) := by
  obtain ⟨l, hhands⟩ := hands_token c.credentials s
  have hget : c.get (Page.ofJson? item?) (withQuery url (pageParameters filters pageToken)) s = _ :=
    fetch_eq ..
  generalize hobtained : c.credentials.token s = obtained at hhands hget
  rw [hget]
  rcases obtained with ⟨token | e | _, s₁⟩
  · refine ⟨_, hhands.sends.append (.one s₁ (pageRequest token url filters pageToken)), ?_⟩
    rw [toApi_of_page hhands.aside rfl]
    exact .asked hobtained rfl
  · refine ⟨l, hhands.sends, ?_⟩
    rw [toApi_of_aside hhands.aside]
    exact .unsent fun _ _ h => by cases hobtained.symm.trans h
  · refine ⟨l, hhands.sends, ?_⟩
    rw [toApi_of_aside hhands.aside]
    exact .unsent fun _ _ h => by cases hobtained.symm.trans h

theorem Client.AsksOnce.carries (h : c.AsksOnce s url filters pageToken l)
    (hfilters : filters ≠ []) :
    ∀ x ∈ l, x.request.Carries url (pageParameters filters pageToken) := by
  cases h with
  | asked _ asks =>
    rw [List.forall_mem_singleton, asks]
    exact carries_pageRequest _ url hfilters pageToken
  | unsent _ => simp

theorem Client.AsksOnce.length_of_token (h : c.AsksOnce s url filters pageToken l)
    {token : String} {s₁ : Session} (htoken : c.credentials.token s = (.ok token, s₁)) :
    l.length = 1 := by
  cases h with
  | asked _ _ => rfl
  | unsent denied => exact absurd htoken (denied token s₁)

end Asked

/-! ## Look-ups -/

/-- A look-up asks once. -/
theorem sends_findUnique (c : Client) (item? : Json → Option α) (url kinds name : String)
    (s : Session) :
    ∃ l, s.Sends l (c.findUnique item? url kinds name s).2 ∧
      c.AsksOnce s url (c.nameParameters name) none (toApi l) := by
  rw [findUnique, bind_ofExcept]
  exact sends_get c item? url (c.nameParameters name) none s

/-! ## Listings -/

section Listings

variable {item? : Json → Option α} {url : String} {filters : List (String × String)}
  {pageToken : Option String} {kept : Option CachedToken} {l : List Sent} {v : Verdict (List α)}

/-- The token of the next page that the reply to a request has. -/
def Sent.nextToken? (item? : Json → Option α) (x : Sent) : Option String :=
  (x.delivery.read? (Page.ofJson? item?)).bind Client.nextToken?

/-- The page tokens that requests are meant to have: the first one is given, each other is that
    of the reply before. -/
def pageTokens (item? : Json → Option α) : Option String → List Sent → List (Option String)
  | _, [] => []
  | pageToken, x :: l => pageToken :: pageTokens item? (x.nextToken? item?) l

theorem nextToken?_of_read {x : Sent} {p : Page α} {url : String}
    (read : readDelivery (Page.ofJson? item?) .get url x.delivery = .ok p) :
    x.nextToken? item? = Client.nextToken? p := by
  rw [Sent.nextToken?, readDelivery_eq_ok_iff.mp read]
  rfl

/-- The requests of a listing carry the filters and their page tokens, by induction on the pages
    that it asks for. -/
theorem Client.Follows.carries (h : c.Follows item? url filters kept pageToken l v)
    (hfilters : filters ≠ []) :
    List.Forall₂ (fun x t => x.request.Carries url (pageParameters filters t)) (toApi l)
      (pageTokens item? pageToken (toApi l)) := by
  induction h with
  | unsent aside _ =>
    rw [toApi_of_aside aside]
    exact .nil
  | unread aside asks _ =>
    rw [toApi_of_page aside asks]
    exact .cons (asks ▸ carries_pageRequest _ url hfilters _) .nil
  | last aside asks _ _ =>
    rw [toApi_of_page aside asks]
    exact .cons (asks ▸ carries_pageRequest _ url hfilters _) .nil
  | more aside asks read leads _ ih =>
    rw [toApi_append, toApi_of_page aside asks, List.singleton_append, pageTokens,
      nextToken?_of_read read, leads]
    exact .cons (asks ▸ carries_pageRequest _ url hfilters _) ih

/-- A listing asks for its first page, and for others afterwards. -/
theorem sends_pagesFrom (c : Client) (item? : Json → Option α) (url : String)
    (filters : List (String × String)) (pageToken : Option String) (s : Session) :
    ∃ l l', s.Sends (l ++ l') (c.pagesFrom item? url filters pageToken s).2 ∧
      c.AsksOnce s url filters pageToken (toApi l) := by
  obtain ⟨l, hsends, hasks⟩ := sends_get c item? url filters pageToken s
  rcases hget : c.get (Page.ofJson? item?) (withQuery url (pageParameters filters pageToken)) s
    with ⟨p | e | _, s₁⟩ <;> rw [hget] at hsends
  · rw [pagesFrom_of_page hget]
    cases Client.nextToken? p with
    | none => exact ⟨l, [], by simpa using hsends, hasks⟩
    | some next =>
      obtain ⟨l', hsends', -⟩ := follows_pagesFrom c item? url filters (some next) s₁
      exact ⟨l, l', hsends.append hsends', hasks⟩
  · rw [pagesFrom_of_error hget]
    exact ⟨l, [], by simpa using hsends, hasks⟩
  · rw [pagesFrom_of_aborted hget]
    exact ⟨l, [], by simpa using hsends, hasks⟩

end Listings

/-! ## No injection -/

/-- **No injection.** Cut at each `&` and each part at its first `=`, a query gives the pairs back
    from which it is written, and it would do so with any other escaping that writes for a byte
    what stands for it. So a look-up asks with the folder, the name and the size of the page, and
    each page of a listing is asked for with the filters of the listing and the token of the reply
    before, and with nothing else, whatever characters the folder, the name, the filters and the
    tokens consist of. With an access token and a server in reach a look-up does ask, once, and a
    listing does ask for its first page. -/
theorem parameters_sent_exact {escape : UInt8 → List Char}
    (hescape : ∀ b, Text.StandsFor (escape b) b) {pairs : List (String × String)}
    (hpairs : pairs ≠ []) (c : Client) (item? : Json → Option α) (url kinds name : String)
    (s : Session) :
    Text.pairs? (Text.query pairs) = some pairs ∧
      Text.pairs? (Text.queryBy escape pairs) = some pairs ∧
      (∀ x ∈ (c.findUnique item? url kinds name).asked s, x.request.Carries url
        [("folderId", c.folderId), ("filter", "name=\"" ++ name ++ "\""), ("pageSize", "2")]) ∧
      List.Forall₂ (fun x t => x.request.Carries url
          (pairs ++ (t.map ("pageToken", ·)).toList))
        ((c.allPages item? url pairs).asked s)
        (pageTokens item? none ((c.allPages item? url pairs).asked s)) ∧
      (s.server.reachable = true → ∀ token s₁, c.credentials.token s = (.ok token, s₁) →
        ((c.findUnique item? url kinds name).asked s).length = 1 ∧
          (c.allPages item? url pairs).asked s ≠ []) := by
  obtain ⟨found, hfound, honce⟩ := sends_findUnique c item? url kinds name s
  obtain ⟨listed, hlisted, hfollows⟩ := follows_pagesFrom c item? url pairs none s
  obtain ⟨first, others, hfirst, hasks⟩ := sends_pagesFrom c item? url pairs none s
  refine ⟨Text.pairs?_query hpairs, Text.pairs?_queryBy hescape hpairs, ?_, ?_,
    fun hr token s₁ htoken => ⟨?_, ?_⟩⟩
  · rw [asked_eq hfound]
    split
    · exact honce.carries (by simp [nameParameters])
    · simp
  · have hasked := asked_eq (t := c.allPages item? url pairs) hlisted
    rw [hasked]
    split
    · exact hfollows.carries hpairs
    · exact .nil
  · rw [asked_eq hfound, if_pos hr]
    exact honce.length_of_token htoken
  · have hasked := asked_eq (t := c.allPages item? url pairs) hfirst
    rw [hasked, if_pos hr, toApi_append]
    intro hnil
    have hlength := hasks.length_of_token htoken
    rw [(List.append_eq_nil_iff.mp hnil).1] at hlength
    cases hlength

namespace Sample

/-- Parameters whose names and values have all that means something in a query. -/
def hostileParameters : List (String × String) :=
  [("folderId", "b1g&pageSize=9#"), ("a=b&c", "\"100%\" é?+")]

/-- A name that would end its parameter and begin another. -/
def hostileName : String := "a\"&pageSize=9#é"

/-- A server whose page tokens would do the same. -/
def hostileServer : Session :=
  scripted [.reply 200 "\x7b\"instances\":[],\"nextPageToken\":\"t&u=v\"\x7d"]

end Sample

open Sample in
/-- What is sent with hostile names, values and page tokens. -/
theorem parameters_sent_hostile :
    (∀ b, Text.StandsFor (Text.encodeByte b) b) ∧ hostileParameters ≠ [] ∧
      Text.pairs? (Text.queryBy Text.encodeByte hostileParameters) = some hostileParameters ∧
      (∀ x ∈ (restClient.findUnique Instance.ofJson? restClient.instancesUrl "instances"
          hostileName).asked hostileServer, x.request.Carries restClient.instancesUrl
        [("folderId", "b1g"), ("filter", "name=\"a\"&pageSize=9#é\""), ("pageSize", "2")]) ∧
      ((restClient.findUnique Instance.ofJson? restClient.instancesUrl "instances"
          hostileName).asked hostileServer).map (·.request.url) =
        ["http://api.test/compute/v1/instances?folderId=b1g&" ++
          "filter=name%3D%22a%22%26pageSize%3D9%23%C3%A9%22&pageSize=2"] ∧
      ((restClient.allPages Instance.ofJson? restClient.instancesUrl hostileParameters).asked
          hostileServer).map (·.request.url) =
        ["http://api.test/compute/v1/instances?folderId=b1g%26pageSize%3D9%23&" ++
            "a%3Db%26c=%22100%25%22%20%C3%A9%3F%2B",
          "http://api.test/compute/v1/instances?folderId=b1g%26pageSize%3D9%23&" ++
            "a%3Db%26c=%22100%25%22%20%C3%A9%3F%2B&pageToken=t%26u%3Dv"] := by
  have hparameters : hostileParameters ≠ [] := by decide
  obtain ⟨-, hread, hfound, -, -⟩ := parameters_sent_exact Text.standsFor_encodeByte hparameters
    restClient Instance.ofJson? restClient.instancesUrl "instances" hostileName hostileServer
  exact ⟨Text.standsFor_encodeByte, hparameters, hread, hfound, by decide +kernel,
    by decide +kernel⟩

end CloudSteward
