import CloudSteward.Proofs.Rest.Fetch

/-!
# Waiting for a change

A change is asked for once. The reply is an operation, and as long as the operation is
not done the client asks for it again, each time under the id of the reply before. It
stops at the first reply that is not an operation in progress, and what that reply says
is what the call returns.

Results:

* `awaits_await`: the exchanges of a request that starts an operation and is waited for.
* `change_follows_operation`: what a change sends, where it stops and what it returns.
-/

namespace CloudSteward

open Client Json

variable {α : Type} {c : Client} {s : Session}

/-! ## Requests that start an operation -/

/-- Sends a request that starts an operation, and waits until the operation is done. -/
def Client.await (c : Client) (verb : Verb) (url : String) (body : Option Json) :
    Talk Operation := do
  let started ← c.fetch Operation.ofJson? verb url body
  c.awaitDone started

/-- The exchanges and the verdict with which an operation is started and waited for. -/
inductive Client.Awaits (c : Client) :
    Verb → String → Option Json → List Exchange → Verdict Operation → Prop
  | failed {verb : Verb} {url : String} {body : Option Json} {l : List Exchange} {e : CloudError}
      (fetched : c.Fetches Operation.ofJson? verb url body l (.error e)) :
      c.Awaits verb url body l (.error e)
  | aborted {verb : Verb} {url : String} {body : Option Json} {l : List Exchange}
      (fetched : c.Fetches Operation.ofJson? verb url body l .aborted) :
      c.Awaits verb url body l .aborted
  | done {verb : Verb} {url : String} {body : Option Json} {l : List Exchange} {o : Operation}
      (fetched : c.Fetches Operation.ofJson? verb url body l (.ok o)) (done : o.done = true) :
      c.Awaits verb url body l (.ofExcept (outcomeOf o))
  | pending {verb : Verb} {url : String} {body : Option Json} {l rest : List Exchange}
      {o : Operation} {v : Verdict Operation}
      (fetched : c.Fetches Operation.ofJson? verb url body l (.ok o)) (pending : o.done = false)
      (waits : c.Awaits .get (c.operationUrl o.id) none rest v) :
      c.Awaits verb url body (l ++ rest) v

/-- An operation that is not done is asked for, and the reply starts it anew. -/
theorem awaitDone_of_pending {o : Operation} (h : o.done = false) :
    c.awaitDone o s = c.await .get (c.operationUrl o.id) none s := by
  rw [awaitDone]
  show _ = Talk.bind _ _ s
  rw [Talk.bind]
  simp only [h, Bool.false_eq_true, if_false, Client.get]
  split <;> simp_all

theorem awaits_await (c : Client) (verb : Verb) (url : String) (body : Option Json)
    (s : Session) :
    ∃ l, s.server.Serves l (c.await verb url body s).2.server ∧
      c.Awaits verb url body l (c.await verb url body s).1 := by
  obtain ⟨l, hl, hfetched⟩ := fetches_fetch c Operation.ofJson? verb url body s
  show ∃ l, s.server.Serves l (Talk.bind _ _ s).2.server ∧
    c.Awaits verb url body l (Talk.bind _ _ s).1
  rw [Talk.bind]
  rcases hfetch : c.fetch Operation.ofJson? verb url body s with ⟨o | e | _, s₁⟩
  · rw [hfetch] at hl hfetched
    cases hdone : o.done with
    | true =>
      simp only [awaitDone_of_done hdone, ofExcept_apply]
      exact ⟨l, hl, .done hfetched hdone⟩
    | false =>
      have hshorter := script_fetch_lt hfetch
      obtain ⟨rest, hrest, hwaits⟩ := awaits_await c .get (c.operationUrl o.id) none s₁
      simp only [awaitDone_of_pending hdone]
      exact ⟨l ++ rest, hl.append hrest, .pending hfetched hdone hwaits⟩
  · rw [hfetch] at hl hfetched
    exact ⟨l, hl, .failed hfetched⟩
  · rw [hfetch] at hl hfetched
    exact ⟨l, hl, .aborted hfetched⟩
termination_by s.server.script.length

/-! ## With a token given in advance -/

/-- The operation that a delivery holds. -/
def Delivery.operation? : Delivery → Option Operation := Delivery.read? Operation.ofJson?

/-- The request for an operation. -/
def Client.pollRequest (c : Client) (token id : String) : Request :=
  ⟨.get, c.operationUrl id, .api token, none⟩

/-- Exchanges that begin with a request and end with a delivery: each delivery but the last
    is an operation that is not done, and the request after it is the one for that
    operation. -/
inductive Client.Chain (c : Client) (token : String) :
    Request → List Exchange → Delivery → Prop
  | last {r : Request} {d : Delivery} (stops : ∀ o, d.operation? = some o → o.done = true) :
      c.Chain token r [⟨r, d⟩] d
  | more {r : Request} {d last : Delivery} {o : Operation} {l : List Exchange}
      (started : d.operation? = some o) (pending : o.done = false)
      (rest : c.Chain token (c.pollRequest token o.id) l last) :
      c.Chain token r (⟨r, d⟩ :: l) last

/-- The verdict on an operation that a last delivery leaves. -/
inductive Delivery.Leaves : Delivery → Verdict Operation → Prop
  | nothing {d : Delivery} {e : CloudError} (unread : d.operation? = none) : d.Leaves (.error e)
  | done {d : Delivery} {o : Operation} (read : d.operation? = some o) (done : o.done = true) :
      d.Leaves (.ofExcept (outcomeOf o))

section Fixed

variable {decode : Json → Option α} {verb : Verb} {url token : String} {body : Option Json}
  {l : List Exchange}

/-- With a token given in advance a value is read from the one exchange there is. -/
theorem Client.Fetches.ok_of_fixed {a : α} (h : c.Fetches decode verb url body l (.ok a))
    (hc : c.credentials = .fixed token) :
    ∃ d, l = [⟨⟨verb, url, .api token, body⟩, d⟩] ∧ d.read? decode = some a := by
  cases h with
  | read obtained read =>
    rw [hc] at obtained
    cases obtained
    exact ⟨_, rfl, read⟩

theorem Client.Fetches.error_of_fixed {e : CloudError}
    (h : c.Fetches decode verb url body l (.error e)) (hc : c.credentials = .fixed token) :
    ∃ d, l = [⟨⟨verb, url, .api token, body⟩, d⟩] ∧ d.read? decode = none := by
  cases h with
  | unsent obtained =>
    rw [hc] at obtained
    cases obtained
  | refused obtained unread _ =>
    rw [hc] at obtained
    cases obtained
    exact ⟨_, rfl, unread⟩

theorem Client.Fetches.not_aborted_of_fixed (hc : c.credentials = .fixed token) :
    ¬ c.Fetches decode verb url body l .aborted := by
  intro h
  cases h with
  | aborted obtained =>
    rw [hc] at obtained
    cases obtained

/-- What is awaited with such a token is a chain, by induction on the operations that are
    asked for. -/
theorem Client.Awaits.chain {v : Verdict Operation} (h : c.Awaits verb url body l v)
    (hc : c.credentials = .fixed token) :
    ∃ last, c.Chain token ⟨verb, url, .api token, body⟩ l last ∧ last.Leaves v := by
  induction h with
  | failed fetched =>
    obtain ⟨d, rfl, hunread⟩ := fetched.error_of_fixed hc
    refine ⟨d, .last fun o ho => ?_, .nothing hunread⟩
    cases hunread.symm.trans ho
  | aborted fetched => exact absurd fetched (Fetches.not_aborted_of_fixed hc)
  | done fetched hdone =>
    obtain ⟨d, rfl, hread⟩ := fetched.ok_of_fixed hc
    refine ⟨d, .last fun o ho => ?_, .done hread hdone⟩
    cases hread.symm.trans ho
    exact hdone
  | pending fetched hpending _ ih =>
    obtain ⟨d, rfl, hread⟩ := fetched.ok_of_fixed hc
    obtain ⟨last, hchain, hleaves⟩ := ih
    exact ⟨last, .more hread hpending hchain, hleaves⟩

end Fixed

/-- Every request of a chain but the first one asks for an operation. -/
theorem Client.Chain.count_changes {token : String} {r : Request} {l : List Exchange}
    {last : Delivery} (h : c.Chain token r l last) :
    l.countP (·.request.verb != .get) = if r.verb = .get then 0 else 1 := by
  induction h with
  | last => split <;> simp_all
  | more _ _ _ ih =>
    rw [List.countP_cons, ih]
    split <;> simp_all [pollRequest]

/-! ## Changes -/

/-- Whether calls of a kind make a change and return what has come of it. -/
def Method.isAwaited : Method → Bool
  | .setRoutes | .createTargetGroup | .addTargets | .removeTargets | .createBalancer
  | .addListener | .removeListener | .attachTargetGroup | .detachTargetGroup => true
  | _ => false

/-- The reply of such a call that the document of a change holds. -/
def Call.replyOf? : (call : Call) → Json → Option call.Reply
  | .setRoutes _ _ => RouteTable.ofJson?
  | .createTargetGroup _ | .addTargets _ _ | .removeTargets _ _ => TargetGroup.ofJson?
  | .createBalancer _ | .addListener _ _ | .removeListener _ _ | .attachTargetGroup _ _
  | .detachTargetGroup _ _ => Balancer.ofJson?
  | _ => fun _ => none

theorem mutate_eq (decode : Json → Option α) (verb : Verb) (url : String) (body : Json) :
    c.mutate decode verb url body s =
      ((c.await verb url (some body) s).1.andThen (responseOf decode),
        (c.await verb url (some body) s).2) := by
  rw [← bind_ofExcept]
  show Talk.bind _ _ s = Talk.bind (Talk.bind _ _) _ s
  rw [Talk.bind, Talk.bind, Talk.bind]
  rcases c.fetch Operation.ofJson? verb url (some body) s with ⟨o | e | _, s₁⟩ <;> rfl

/-- The request that such a call begins with, under a token. -/
def Client.changeRequest? (c : Client) (token : String) : Call → Option Request
  | .setRoutes id routes => some ⟨.patch, c.routeTableUrl id, .api token,
      some (.obj [("updateMask", .str "staticRoutes"),
        ("staticRoutes", listToJson StaticRoute.toJson routes)])⟩
  | .createTargetGroup request => post c.targetGroupsUrl request.toJson
  | .addTargets id targets =>
    post s!"{c.targetGroupsUrl}/{id}:addTargets"
      (.obj [("targets", listToJson Target.toJson targets)])
  | .removeTargets id targets =>
    post s!"{c.targetGroupsUrl}/{id}:removeTargets"
      (.obj [("targets", listToJson Target.toJson targets)])
  | .createBalancer request => post c.balancersUrl request.toJson
  | .addListener id listener =>
    post s!"{c.balancersUrl}/{id}:addListener" (.obj [("listenerSpec", listener.toJson)])
  | .removeListener id name =>
    post s!"{c.balancersUrl}/{id}:removeListener" (.obj [("listenerName", .str name)])
  | .attachTargetGroup id attachment =>
    post s!"{c.balancersUrl}/{id}:attachTargetGroup"
      (.obj [("attachedTargetGroup", attachment.toJson)])
  | .detachTargetGroup id group =>
    post s!"{c.balancersUrl}/{id}:detachTargetGroup" (.obj [("targetGroupId", .str group)])
  | _ => none
where
  /-- A request that sends a document. -/
  post (url : String) (body : Json) : Option Request := some ⟨.post, url, .api token, some body⟩

/-- What is awaited is one change, whose request is not a question. -/
theorem perform_eq_mutate {call : Call} (token : String) (h : call.method.isAwaited = true) :
    ∃ verb url body, verb ≠ .get ∧
      c.changeRequest? token call = some ⟨verb, url, .api token, some body⟩ ∧
      c.perform call = c.mutate call.replyOf? verb url body := by
  cases call <;> first
    | exact ⟨_, _, _, by decide, rfl, rfl⟩
    | cases h

/-- The response of an operation has a value exactly if it is there and can be read. -/
theorem responseOf_eq_ok_iff {decode : Json → Option α} {o : Operation} {a : α} :
    responseOf decode o = .ok a ↔ ∃ json, o.response = some json ∧ decode json = some a := by
  rw [responseOf]
  cases o.response with
  | none => simp
  | some json => cases hdecode : decode json <;> simp [hdecode]

/-- An operation that is done gives a value exactly if it has no error and its response has
    the value. -/
theorem outcomeOf_andThen_eq_ok_iff {decode : Json → Option α} {o : Operation} {a : α} :
    (Verdict.ofExcept (outcomeOf o)).andThen (responseOf decode) = .ok a ↔
      o.error = none ∧ ∃ json, o.response = some json ∧ decode json = some a := by
  rw [outcomeOf]
  cases o.error with
  | some status => simp [Verdict.ofExcept, Verdict.andThen]
  | none =>
    show Verdict.ofExcept (responseOf decode o) = .ok a ↔ _
    rw [← responseOf_eq_ok_iff]
    cases responseOf decode o <;> simp [Verdict.ofExcept]

namespace Delivery.Leaves

variable {decode : Json → Option α} {d : Delivery} {v : Verdict Operation}

theorem ok_iff {a : α} (h : d.Leaves v) :
    v.andThen (responseOf decode) = .ok a ↔
      ∃ o json, d.operation? = some o ∧ o.done = true ∧ o.error = none ∧
        o.response = some json ∧ decode json = some a := by
  cases h with
  | nothing hunread =>
    constructor
    · intro h
      cases h
    · rintro ⟨o, json, ho, -⟩
      cases hunread.symm.trans ho
  | @done o hread hdone =>
    rw [outcomeOf_andThen_eq_ok_iff]
    constructor
    · rintro ⟨herror, json, hresponse, hjson⟩
      exact ⟨o, json, hread, hdone, herror, hresponse, hjson⟩
    · rintro ⟨o', json, ho', -, herror, hresponse, hjson⟩
      cases hread.symm.trans ho'
      exact ⟨herror, json, hresponse, hjson⟩

theorem error_of_error {o : Operation} {status : RpcStatus} (h : d.Leaves v)
    (ho : d.operation? = some o) (herror : o.error = some status) :
    v.andThen (responseOf decode) = .error (.operation o.id status.code status.message) := by
  cases h with
  | nothing hunread => cases hunread.symm.trans ho
  | done hread _ =>
    cases hread.symm.trans ho
    rw [outcomeOf, herror]
    rfl

end Delivery.Leaves

/-- **Waiting for a change.** With a token given in advance, a call that makes a change sends
    the request for it, which is no question, and then asks for the operation of each reply
    that is not done; it stops at the first reply that is no such operation. It returns a value
    exactly if that reply is an operation without an error whose response has the value; an
    error of the operation becomes the error of the call. -/
theorem change_follows_operation {call : Call} {token : String}
    (hcredentials : c.credentials = .fixed token) (hcall : call.method.isAwaited = true) :
    ∃ first l last, c.changeRequest? token call = some first ∧
      first.verb ≠ .get ∧ first.audience = .api token ∧
      s.server.Serves l (c.perform call s).2.server ∧ c.Chain token first l last ∧
      l.countP (·.request.verb != .get) = 1 ∧
      (∀ v, (c.perform call s).1 = .ok v ↔
        ∃ o json, last.operation? = some o ∧ o.done = true ∧ o.error = none ∧
          o.response = some json ∧ call.replyOf? json = some v) ∧
      ∀ o status, last.operation? = some o → o.error = some status →
        (c.perform call s).1 = .error (.operation o.id status.code status.message) := by
  obtain ⟨verb, url, body, hverb, hrequest, hperform⟩ :=
    perform_eq_mutate (c := c) token hcall
  obtain ⟨l, hl, hawaits⟩ := awaits_await c verb url (some body) s
  obtain ⟨last, hchain, hleaves⟩ := hawaits.chain hcredentials
  have hcount := hchain.count_changes
  rw [if_neg hverb] at hcount
  rw [hperform, mutate_eq]
  exact ⟨_, l, last, hrequest, hverb, rfl, hl, hchain, hcount, fun v => hleaves.ok_iff,
    fun o status ho herror => hleaves.error_of_error ho herror⟩

namespace Sample

/-- Two operations in progress, and the second one done. -/
def changing : Session :=
  scripted [pendingReply "op1", pendingReply "op2",
    .reply 200 ("\x7b\"id\":\"op2\",\"done\":true,\"response\":" ++
      "\x7b\"id\":\"enp1\",\"folderId\":\"b1g\",\"name\":\"k8senpnet\"\x7d\x7d")]

end Sample

open Sample in
/-- The second question is for the operation of the second reply. -/
theorem change_follows_renamed_operation :
    (restClient.perform (.addTargets "enp1" []) changing).1 =
        .ok ⟨"enp1", "b1g", "k8senpnet", "", [], .empty⟩ ∧
      ∃ l, changing.server.Serves l (restClient.perform (.addTargets "enp1" []) changing).2.server ∧
        l.map (·.request.url) =
          ["http://api.test/load-balancer/v1/targetGroups/enp1:addTargets",
            "http://api.test/operations/op1", "http://api.test/operations/op2"] ∧
        l.countP (·.request.verb != .get) = 1 := by
  have hawaited : (Call.addTargets "enp1" []).method.isAwaited = true := rfl
  obtain ⟨-, l, -, -, -, -, hl, -, hcount, -⟩ :=
    change_follows_operation (c := restClient) (s := changing) rfl hawaited
  refine ⟨by decide +kernel, l, hl, ?_, hcount⟩
  rw [requests_scripted hl Request.url]
  decide +kernel

end CloudSteward
