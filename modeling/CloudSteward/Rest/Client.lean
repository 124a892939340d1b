import CloudSteward.Program
import CloudSteward.Resource.Encode
import CloudSteward.Rest.Token
import CloudSteward.Text.Percent
import CloudSteward.Text.Quoted

/-!
# The client of the cloud API

Every call is a request with a token. A listing is followed page by page, and a
change returns an operation that is asked for until it is done; both end with
the script of the server at the latest, since each round takes a delivery off
it.

Results:

* `script_fetch_lt`: a request that succeeds takes a delivery off the script.
* `awaitDone_of_done`: an operation that is done is not asked for.
-/

namespace CloudSteward

open Json

/-- The roots of the API's services. -/
structure Endpoints where
  compute : String
  vpc : String
  balancing : String
  operations : String
deriving DecidableEq, Repr

/-- All services behind one address. -/
def Endpoints.singleHost (address : String) : Endpoints :=
  let root := withoutTrailingSlashes address
  ⟨root ++ "/compute/v1", root ++ "/vpc/v1", root ++ "/load-balancer/v1", root ++ "/operations"⟩

/-- A client of the cloud API. -/
structure Client where
  credentials : Credentials
  endpoints : Endpoints
  folderId : String
  regionId : String
deriving DecidableEq, Repr

namespace Client

/-! ## Requests -/

/-- Sends a request with a token. -/
def sendAuthorized (c : Client) (verb : Verb) (url : String) (body : Option Json) :
    Talk Delivery := do
  let token ← c.credentials.token
  Talk.send ⟨verb, url, .api token, body⟩

/-- Sends a request and reads the reply. -/
def fetch {α : Type} (c : Client) (decode : Json → Option α) (verb : Verb) (url : String)
    (body : Option Json) : Talk α := do
  let delivery ← c.sendAuthorized verb url body
  Talk.ofExcept (readDelivery decode verb url delivery)

/-- Asks for a resource. -/
def get {α : Type} (c : Client) (decode : Json → Option α) (url : String) : Talk α :=
  c.fetch decode .get url none

/-! ## A successful request shortens the script -/

theorem script_send_lt {α : Type} {decode : Json → Option α} {verb : Verb} {url : String}
    {s : Session} {r : Request} {a : α}
    (h : readDelivery decode verb url (s.send r).1 = .ok a) :
    (s.send r).2.server.script.length < s.server.script.length := by
  by_cases hr : s.server.reachable = true
  · cases hs : s.server.script with
    | nil => simp [Session.send, hr, hs, readDelivery, exhausted, bodyOf, isSuccess, bind,
        Except.bind] at h
    | cons cue rest => simp [Session.send, hr, hs]
  · simp [Session.send, hr, readDelivery, bodyOf, bind, Except.bind] at h

theorem script_fetch_lt {α : Type} {c : Client} {decode : Json → Option α} {verb : Verb}
    {url : String} {body : Option Json} {s s' : Session} {a : α}
    (h : c.fetch decode verb url body s = (.ok a, s')) :
    s'.server.script.length < s.server.script.length := by
  have ht := consumes_token c.credentials s
  simp only [fetch, sendAuthorized, bind, Talk.bind, Talk.send] at h
  rcases hc : c.credentials.token s with ⟨_ | _ | _, s1⟩
  · rename_i token
    rw [hc] at h ht
    simp only at h
    cases hr : readDelivery decode verb url (s1.send ⟨verb, url, .api token, body⟩).1 with
    | error e => rw [hr] at h; simp [Talk.ofExcept, Talk.fail] at h
    | ok v =>
      rw [hr] at h
      simp only [Talk.ofExcept, pure, Prod.mk.injEq] at h
      rw [← h.2]
      exact Nat.lt_of_lt_of_le (script_send_lt hr) ht
  · rw [hc] at h; simp at h
  · rw [hc] at h; simp at h

/-! ## Listings -/

/-- The address of a listing with parameters. -/
def withQuery (url : String) (parameters : List (String × String)) : String :=
  s!"{url}?{Text.query parameters}"

/-- The parameters of a page of a listing. -/
def pageParameters (filters : List (String × String)) (pageToken : Option String) :
    List (String × String) :=
  filters ++ (pageToken.map fun t => ("pageToken", t)).toList

/-- The token of the page after this one. -/
def nextToken? {α : Type} (p : Page α) : Option String :=
  p.nextPageToken.filter (!·.isEmpty)

/-- All resources of a listing from some page on. -/
def pagesFrom {α : Type} (c : Client) (item? : Json → Option α) (url : String)
    (filters : List (String × String)) (pageToken : Option String) : Talk (List α) := fun s =>
  match _h : c.get (Page.ofJson? item?) (withQuery url (pageParameters filters pageToken)) s with
  | (.error e, s') => (.error e, s')
  | (.aborted, s') => (.aborted, s')
  | (.ok page, s') =>
    match nextToken? page with
    | none => (.ok page.items, s')
    | some token =>
      match c.pagesFrom item? url filters (some token) s' with
      | (.ok more, s'') => (.ok (page.items ++ more), s'')
      | (.error e, s'') => (.error e, s'')
      | (.aborted, s'') => (.aborted, s'')
termination_by s => s.server.script.length
decreasing_by exact script_fetch_lt _h

/-- All resources of a listing. -/
def allPages {α : Type} (c : Client) (item? : Json → Option α) (url : String)
    (filters : List (String × String)) : Talk (List α) :=
  c.pagesFrom item? url filters none

/-- Number of resources of a full page. -/
def fullPage : String := "1000"

/-- The parameters of a look-up by name; two resources are enough to see that a
    name is not unique. -/
def nameParameters (c : Client) (name : String) : List (String × String) :=
  [("folderId", c.folderId), ("filter", s!"name=\"{name}\""), ("pageSize", "2")]

/-- The one resource of a page. -/
def only {α : Type} (c : Client) (kinds name : String) (p : Page α) :
    Except CloudError (Option α) :=
  match p.items with
  | [] => .ok none
  | [a] => .ok (some a)
  | items =>
    .error (.ambiguous
      s!"{items.length} {kinds} named {Text.quoted name} found in folder {c.folderId}")

/-- The resource of a unique name. -/
def findUnique {α : Type} (c : Client) (item? : Json → Option α) (url kinds name : String) :
    Talk (Option α) := do
  let page ← c.get (Page.ofJson? item?) (withQuery url (c.nameParameters name))
  Talk.ofExcept (c.only kinds name page)

/-! ## Changes -/

/-- The result of an operation that is done. -/
def outcomeOf (o : Operation) : Except CloudError Operation :=
  match o.error with
  | some status => .error (.operation o.id status.code status.message)
  | none => .ok o

/-- The address of an operation. -/
def operationUrl (c : Client) (id : String) : String :=
  s!"{withoutTrailingSlashes c.endpoints.operations}/{id}"

/-- Asks for an operation until it is done. -/
def awaitDone (c : Client) (o : Operation) : Talk Operation := fun s =>
  if o.done then Talk.ofExcept (outcomeOf o) s
  else
    match _h : c.get Operation.ofJson? (c.operationUrl o.id) s with
    | (.ok o, s') => c.awaitDone o s'
    | (.error e, s') => (.error e, s')
    | (.aborted, s') => (.aborted, s')
termination_by s => s.server.script.length
decreasing_by exact script_fetch_lt _h

/-- The response of an operation that is done. -/
def responseOf {α : Type} (decode : Json → Option α) (o : Operation) : Except CloudError α :=
  match o.response with
  | none => .error (.api 200 s!"operation {o.id} completed without a response")
  | some response =>
    match decode response with
    | some a => .ok a
    | none => .error .serialization

/-- Makes a change and waits for what comes of it. -/
def mutate {α : Type} (c : Client) (decode : Json → Option α) (verb : Verb) (url : String)
    (body : Json) : Talk α := do
  let started ← c.fetch Operation.ofJson? verb url (some body)
  let done ← c.awaitDone started
  Talk.ofExcept (responseOf decode done)

/-- Success instead of an error that says that a resource is missing. -/
def missingAsDone : Except CloudError Operation → Except CloudError Unit
  | .ok _ => .ok ()
  | .error e => if e.isNotFound then .ok () else .error e

/-- Deletes a resource. Success means that it is gone, whether by this call or
    before. -/
def remove (c : Client) (url : String) : Talk Unit := do
  match ← (c.fetch Operation.ofJson? .delete url none).attempt with
  | .ok started => Talk.ofExcept (missingAsDone (← (c.awaitDone started).attempt))
  | .error e => Talk.ofExcept (missingAsDone (.error e))

/-! ## Calls -/

/-- The address of the instances. -/
def instancesUrl (c : Client) : String := c.endpoints.compute ++ "/instances"

/-- The address of a subnet. -/
def subnetUrl (c : Client) (id : String) : String := s!"{c.endpoints.vpc}/subnets/{id}"

/-- The address of a route table. -/
def routeTableUrl (c : Client) (id : String) : String := s!"{c.endpoints.vpc}/routeTables/{id}"

/-- The address of the target groups. -/
def targetGroupsUrl (c : Client) : String := c.endpoints.balancing ++ "/targetGroups"

/-- The address of the balancers. -/
def balancersUrl (c : Client) : String := c.endpoints.balancing ++ "/networkLoadBalancers"

/-- Makes a call. -/
def perform (c : Client) : (call : Call) → Talk call.Reply
  | .getInstance id => c.get Instance.ofJson? s!"{c.instancesUrl}/{id}"
  | .findInstance name => c.findUnique Instance.ofJson? c.instancesUrl "instances" name
  | .getSubnet id => c.get Subnet.ofJson? (c.subnetUrl id)
  | .getRouteTable id => c.get RouteTable.ofJson? (c.routeTableUrl id)
  | .setRoutes id routes =>
    c.mutate RouteTable.ofJson? .patch (c.routeTableUrl id)
      (.obj [("updateMask", .str "staticRoutes"),
        ("staticRoutes", listToJson StaticRoute.toJson routes)])
  | .listTargetGroups =>
    c.allPages TargetGroup.ofJson? c.targetGroupsUrl
      [("folderId", c.folderId), ("pageSize", fullPage)]
  | .findTargetGroup name =>
    c.findUnique TargetGroup.ofJson? c.targetGroupsUrl "target groups" name
  | .createTargetGroup request =>
    c.mutate TargetGroup.ofJson? .post c.targetGroupsUrl request.toJson
  | .addTargets id targets =>
    c.mutate TargetGroup.ofJson? .post s!"{c.targetGroupsUrl}/{id}:addTargets"
      (.obj [("targets", listToJson Target.toJson targets)])
  | .removeTargets id targets =>
    c.mutate TargetGroup.ofJson? .post s!"{c.targetGroupsUrl}/{id}:removeTargets"
      (.obj [("targets", listToJson Target.toJson targets)])
  | .deleteTargetGroup id => c.remove s!"{c.targetGroupsUrl}/{id}"
  | .findBalancer name =>
    c.findUnique Balancer.ofJson? c.balancersUrl "network load balancers" name
  | .createBalancer request => c.mutate Balancer.ofJson? .post c.balancersUrl request.toJson
  | .deleteBalancer id => c.remove s!"{c.balancersUrl}/{id}"
  | .addListener id listener =>
    c.mutate Balancer.ofJson? .post s!"{c.balancersUrl}/{id}:addListener"
      (.obj [("listenerSpec", listener.toJson)])
  | .removeListener id name =>
    c.mutate Balancer.ofJson? .post s!"{c.balancersUrl}/{id}:removeListener"
      (.obj [("listenerName", .str name)])
  | .attachTargetGroup id attachment =>
    c.mutate Balancer.ofJson? .post s!"{c.balancersUrl}/{id}:attachTargetGroup"
      (.obj [("attachedTargetGroup", attachment.toJson)])
  | .detachTargetGroup id group =>
    c.mutate Balancer.ofJson? .post s!"{c.balancersUrl}/{id}:detachTargetGroup"
      (.obj [("targetGroupId", .str group)])

/-! ## Laws -/

theorem awaitDone_of_done {c : Client} {o : Operation} {s : Session} (h : o.done = true) :
    c.awaitDone o s = Talk.ofExcept (outcomeOf o) s := by
  rw [awaitDone]
  simp [h]

end Client

end CloudSteward
