import CloudSteward.Memory.Store

/-!
# Running programs against the cloud in memory

A world is a cloud in memory together with what goes wrong in it. Each kind of
call has three queues of incidents, and every call of that kind takes the next
one of each: whether it never returns, what another writer stores just before
it, and whether it fails. A call that never returns is not recorded and takes
nothing from the other queues; one that fails is not recorded either. Writes to
the cluster are recorded. They may be refused, and a patch whose request is
about an object of another kind fails.

Results:

* `run_bind`: a composed program runs its first part first.
-/

namespace CloudSteward

/-- The incidents ahead of each kind of call; a queue that has run out brings
    none. -/
structure Incidents where
  /-- Whether the call never returns. -/
  hangs : Method → List Bool
  /-- What another writer stores just before the call. -/
  intrusions : Method → List Supply
  /-- The error that the call ends with. -/
  failures : Method → List (Option CloudError)

/-- Nothing goes wrong. -/
def Incidents.none : Incidents := ⟨fun _ => [], fun _ => [], fun _ => []⟩

/-- What was observed of a run. -/
structure Journal where
  /-- The changes that were called for, in order. -/
  changes : List Call
  /-- Number of calls that only read. -/
  reads : Nat
  /-- The writes that were sent to the cluster, in order. -/
  writes : List ClusterWrite

/-- Nothing observed yet. -/
def Journal.blank : Journal := ⟨[], 0, []⟩

/-- A cloud in memory with its surroundings. -/
structure World where
  store : Store
  incidents : Incidents
  /-- The status that each request to the cluster is refused with, if it is. -/
  refusals : List (Option Nat)
  journal : Journal
  /-- The names of the nodes of the last complete sync. -/
  visited : Option NameSet

/-- How a program ended. -/
inductive Outcome (α : Type) where
  | done (a : α)
  | failed (e : SyncError)
  /-- Stopped by a fault that no error describes. -/
  | aborted
  /-- Waiting for a call that never returns. -/
  | hung

namespace World

/-- A world in which nothing has happened and nothing will go wrong. -/
def ofStore (store : Store) : World := ⟨store, .none, [], .blank, none⟩

/-! ## Calls -/

/-- A queue of one kind without its first entry. -/
def dropHead {α : Type} (m : Method) (queues : Method → List α) : Method → List α :=
  fun k => if k = m then (queues k).tail else queues k

/-- Takes the next entry of a queue of hangs. -/
def takeHang (w : World) (m : Method) : Bool × World :=
  ((w.incidents.hangs m).headD false,
    { w with incidents := { w.incidents with hangs := dropHead m w.incidents.hangs } })

/-- Lets another writer store what it has for this moment. -/
def intrude (w : World) (m : Method) : World :=
  { w with
    store := (w.incidents.intrusions m).head?.elim w.store w.store.put
    incidents := { w.incidents with intrusions := dropHead m w.incidents.intrusions } }

/-- Takes the next entry of a queue of failures. -/
def takeFailure (w : World) (m : Method) : Option CloudError × World :=
  ((w.incidents.failures m).head?.join,
    { w with incidents := { w.incidents with failures := dropHead m w.incidents.failures } })

/-- Notes a call. -/
def record (w : World) (c : Call) : World :=
  { w with
    journal :=
      if c.method.isRead then { w.journal with reads := w.journal.reads + 1 }
      else { w.journal with changes := w.journal.changes ++ [c] } }

/-- Serves a call from the store. -/
def serve (w : World) (c : Call) : Except CloudError c.Reply × World :=
  let (reply, store) := w.store.answer c
  (reply, { w.record c with store })

/-- The answer to a call; none if it never returns. -/
def answer (w : World) (c : Call) : Option (Except CloudError c.Reply) × World :=
  match w.takeHang c.method with
  | (true, w) => (none, w)
  | (false, w) =>
    match (w.intrude c.method).takeFailure c.method with
    | (some e, w) => (some (.error e), w)
    | (none, w) =>
      let (reply, w) := w.serve c
      (some reply, w)

/-! ## Deleting several groups -/

/-- Number of groups that are deleted at the same time. -/
def deleteSlots : Nat := 4

/-- Deletes groups in order, with so many slots free. A deletion that never
    returns keeps its slot, and then the whole never returns, unless another
    deletion fails. -/
def deleteGroups (w : World) (free : Nat) :
    List String → Option (Except CloudError Unit) × World
  | [] => (if free < deleteSlots then none else some (.ok ()), w)
  | id :: rest =>
    if free = 0 then (none, w)
    else
      match w.answer (.deleteTargetGroup id) with
      | (none, w) => w.deleteGroups (free - 1) rest
      | (some (.ok _), w) => w.deleteGroups free rest
      | (some (.error e), w) =>
        if e.isNotFound then w.deleteGroups free rest else (some (.error e), w)

/-! ## Writes to the cluster -/

/-- The cluster's answer to a request for a write, which it may refuse. A patch is
    answered with an object of the kind that its path is about, a deletion
    without one. -/
def reply (w : World) (c : ClusterWrite) (r : ClusterRequest) : Except WriteError Unit :=
  match w.refusals.head?.join with
  | some status => .error (.refused status)
  | none => if c.isDelete ∨ r.target.kind = c.kind then .ok () else .error .misdirected

/-- Sends a write to the cluster. -/
def write (w : World) (c : ClusterWrite) : Except WriteError Unit × World :=
  match c.request? with
  | none => (.error .unaddressable, w)
  | some r =>
    (w.reply c r,
      { w with
        refusals := w.refusals.tail
        journal := { w.journal with writes := w.journal.writes ++ [c] } })

end World

/-! ## Programs -/

/-- Runs a program in a world. -/
def Program.run {α : Type} : Program α → World → Outcome α × World
  | .pure a, w => (.done a, w)
  | .fail e, w => (.failed e, w)
  | .abort, w => (.aborted, w)
  | .call c next, w =>
    match w.answer c with
    | (none, w) => (.hung, w)
    | (some reply, w) => (next reply).run w
  | .deleteGroups ids next, w =>
    match w.deleteGroups World.deleteSlots ids with
    | (none, w) => (.hung, w)
    | (some reply, w) => (next reply).run w
  | .write c next, w =>
    match w.write c with
    | (reply, w) => (next reply).run w
  | .visited next, w => (next w.visited).run w
  | .remember names next, w => next.run { w with visited := names }

/-! ## Laws -/

theorem run_bind {α β : Type} (p : Program α) (f : α → Program β) (w : World) :
    (p.bind f).run w =
      match p.run w with
      | (.done a, w) => (f a).run w
      | (.failed e, w) => (.failed e, w)
      | (.aborted, w) => (.aborted, w)
      | (.hung, w) => (.hung, w) := by
  induction p generalizing w with
  | pure a => rfl
  | fail e => rfl
  | abort => rfl
  | call c next ih =>
    simp only [Program.bind, Program.run]
    rcases w.answer c with ⟨_ | reply, w'⟩
    · rfl
    · exact ih reply w'
  | deleteGroups ids next ih =>
    simp only [Program.bind, Program.run]
    rcases w.deleteGroups World.deleteSlots ids with ⟨_ | reply, w'⟩
    · rfl
    · exact ih reply w'
  | write c next ih => exact ih _ _
  | visited next ih => exact ih _ _
  | remember names next ih => exact ih _

end CloudSteward
