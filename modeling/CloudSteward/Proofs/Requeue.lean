import CloudSteward.Proofs.Backoff
import CloudSteward.Proofs.Balancer.Ensure
import CloudSteward.Steward

/-!
# Delays over whole runs

The steward counts failures for each service and each node, and the count decides how
long the next attempt has to wait. Read off a history of results, newest first, the
count of an object is the number of its retryable errors since its last other result:
results of other objects are passed over, and a success and an error that is not worth
another attempt both start the object over. Beyond 2^32 - 1 the count stays as it is.
The delay doubles with the count and is a minute once fourteen failures have gone
before, so that neither this limit nor the one of the doublings can be seen in it.

Results:

* `BackoffPolicy.default_delay`: the delay in nanoseconds.
* `counted_eq_after`: a history makes the moves of its results.
* `failures_counted`: the count of a key after any history.
* `settle_requeues`: when an object is visited again after any history.
* `Steward.Reached`: the stewards that some runs lead to, with what the runs came to.
* `Steward.requeues_exact`: counts and delays of services and nodes over whole runs.
-/

namespace CloudSteward

/-! ## Delays -/

namespace BackoffPolicy

/-- The delay of the default policy: further doublings are above the minute anyhow. -/
theorem default_delay (count : Nat) :
    (default.delay count).nanos = min (5 * 1000000 * 2 ^ count) (60 * 1000000000) :=
  delay_of_reached (by decide) count

end BackoffPolicy

/-! ## Histories of results -/

/-- An object and what one of its reconciliations came to. -/
abbrev Settlement := ObjectKey × Except SyncError NextVisit

/-- Whether a result counts as a failure that another attempt may mend. -/
def retried : Except SyncError NextVisit → Bool
  | .ok _ => false
  | .error e => e.isRetryable

example : retried (.error (.timeout serviceDeadline)) = true := by rfl

/-- What a result counts as: a failure, or a fresh start. -/
def Settlement.move (x : Settlement) : Backoff.Move ObjectKey :=
  if retried x.2 then .fail x.1 else .forget x.1

theorem Settlement.key_move (x : Settlement) : x.move.key = x.1 := by
  unfold Settlement.move
  split <;> rfl

theorem Settlement.isFail_move (x : Settlement) : x.move.isFail = retried x.2 := by
  unfold Settlement.move
  split
  · rename_i h
    exact h.symm
  · rename_i h
    exact (Bool.not_eq_true _ ▸ h : retried x.2 = false).symm

/-- The retryable errors of an object since its last other result, the newest result
    first. -/
def retries (key : ObjectKey) (history : List Settlement) : Nat :=
  ((history.filter (·.1 = key)).takeWhile fun x => retried x.2).length

/-- What is counted after a history, the newest result first. -/
def counted : List Settlement → Backoff ObjectKey
  | [] => .start .default
  | (key, result) :: history => (settle (counted history) key result).2

/-- How an object is visited again after a result, when so many retryable errors went
    before it. -/
def Requeues (count : Nat) : Except SyncError NextVisit → NextVisit → Prop
  | .ok wanted, visit => visit = wanted
  | .error e, visit =>
    if e.isRetryable then
      ∃ delay, visit = .after delay ∧
        delay.nanos = min (5 * 1000000 * 2 ^ count) (60 * 1000000000)
    else visit = .onChange

section Histories

variable (key other : ObjectKey) (result : Except SyncError NextVisit) (history : List Settlement)

theorem retries_same :
    retries key ((key, result) :: history) =
      if retried result then retries key history + 1 else 0 := by
  by_cases h : retried result = true <;> simp [retries, h]

theorem settle_of_retryable (b : Backoff ObjectKey) {e : SyncError} (h : e.isRetryable = true) :
    settle b key (.error e) = (.after (b.fail key).1, (b.fail key).2) :=
  if_pos h

theorem settle_of_final (b : Backoff ObjectKey) {e : SyncError} (h : e.isRetryable = false) :
    settle b key (.error e) = (.onChange, b.forget key) :=
  if_neg (by simp [h])

/-- Settling a result makes the move of it. -/
theorem settle_eq_step (b : Backoff ObjectKey) (x : Settlement) :
    (settle b x.1 x.2).2 = b.step x.move := by
  obtain ⟨key, result⟩ := x
  cases result with
  | ok visit => rfl
  | error e =>
    cases h : e.isRetryable with
    | true =>
      have hmove : Settlement.move (key, .error e) = .fail key := if_pos h
      rw [hmove, settle_of_retryable key b h]
      rfl
    | false =>
      have hmove : Settlement.move (key, .error e) = .forget key := if_neg (by simp [retried, h])
      rw [hmove, settle_of_final key b h]
      rfl

theorem counted_eq_after :
    counted history = .after .default (history.map Settlement.move) := by
  induction history with
  | nil => rfl
  | cons x rest ih =>
    show (settle (counted rest) x.1 x.2).2 = _
    rw [settle_eq_step, ih]
    rfl

theorem retries_eq_failuresSince :
    retries key history = Backoff.failuresSince key (history.map Settlement.move) := by
  have hkey : (fun move : Backoff.Move ObjectKey => decide (move.key = key)) ∘ Settlement.move =
      fun x => decide (x.1 = key) := by
    funext x
    rw [Function.comp_apply, Settlement.key_move]
  have hfail : Backoff.Move.isFail ∘ Settlement.move = fun x => retried x.2 := by
    funext x
    rw [Function.comp_apply, Settlement.isFail_move]
  unfold retries Backoff.failuresSince
  rw [List.filter_map, hkey, List.takeWhile_map, hfail, List.length_map]

/-- The count of an object is that of its retryable errors since its last other
    result, as far as counting goes. -/
theorem failures_counted :
    (counted history).failures key = min (retries key history) greatestFailureCount := by
  rw [counted_eq_after, retries_eq_failuresSince, Backoff.failures_after]

/-- A retryable error costs the delay of the count, which is as if nothing limited it. -/
theorem delay_counted :
    ((counted history).fail key).1 = BackoffPolicy.default.delay (retries key history) := by
  rw [counted_eq_after, retries_eq_failuresSince, Backoff.delay_after]

/-- The next visit after any history. -/
theorem settle_requeues :
    Requeues (retries key history) result (settle (counted history) key result).1 := by
  cases result with
  | ok visit => rfl
  | error e =>
    show if e.isRetryable then _ else _
    cases h : e.isRetryable with
    | true =>
      rw [settle_of_retryable key _ h, if_pos rfl]
      exact ⟨_, congrArg _ (delay_counted key history), BackoffPolicy.default_delay _⟩
    | false =>
      rw [settle_of_final key _ h, if_neg Bool.false_ne_true]

end Histories

/-- Results of other objects are not told from none at all: the count and the next
    visit follow from the results of the object itself. -/
theorem settle_of_same_results {key : ObjectKey} {history history' : List Settlement}
    (h : history.filter (·.1 = key) = history'.filter (·.1 = key)) :
    (counted history).failures key = (counted history').failures key ∧
      ∀ result, (settle (counted history) key result).1 =
        (settle (counted history') key result).1 := by
  have hretries : retries key history = retries key history' := by
    unfold retries
    rw [h]
  refine ⟨by rw [failures_counted, failures_counted, hretries], fun result => ?_⟩
  cases result with
  | ok visit => rfl
  | error e =>
    cases he : e.isRetryable with
    | true =>
      rw [settle_of_retryable key _ he, settle_of_retryable key _ he, delay_counted,
        delay_counted, hretries]
    | false => rw [settle_of_final key _ he, settle_of_final key _ he]

/-! ## Runs of the steward -/

namespace Steward

/-- The stewards that some runs lead to, with the results of the services and of the
    nodes, the newest first. Between two reconciliations the cluster and the world may
    become any others. -/
inductive Reached : List Settlement → List Settlement → Steward → Prop where
  | start (settings : Settings) (cluster : Cluster) (world : World) :
    Reached [] [] (.start settings cluster world)
  | meanwhile {services nodes : List Settlement} {s : Steward} (cluster : Cluster)
    (world : World) (h : Reached services nodes s) :
    Reached services nodes { s with cluster, world }
  /-- A reconciliation of a service has come to any result. -/
  | service {services nodes : List Settlement} {s : Steward} (key : ObjectKey)
    (result : Except SyncError NextVisit) (h : Reached services nodes s) :
    Reached ((key, result) :: services) nodes
      { s with services := (settle s.services key result).2 }
  /-- A reconciliation of a node has come to any result. -/
  | node {services nodes : List Settlement} {s : Steward} (key : ObjectKey)
    (result : Except SyncError NextVisit) (h : Reached services nodes s) :
    Reached services ((key, result) :: nodes)
      { s with nodes := (settle s.nodes key result).2 }

variable {services nodes : List Settlement} {s : Steward}

/-- Services and nodes are counted apart, each by their own history. -/
theorem Reached.counts (h : s.Reached services nodes) :
    s.services = counted services ∧ s.nodes = counted nodes := by
  induction h with
  | start settings cluster world => exact ⟨rfl, rfl⟩
  | meanwhile cluster world h ih => exact ih
  | service key result h ih => exact ⟨congrArg (fun b => (settle b key result).2) ih.1, ih.2⟩
  | node key result h ih => exact ⟨ih.1, congrArg (fun b => (settle b key result).2) ih.2⟩

theorem Reached.serviceFailures_eq (h : s.Reached services nodes) {key : ObjectKey}
    {service : Service} (hkey : service.metadata.key? = some key) :
    s.serviceFailures service = min (retries key services) greatestFailureCount := by
  unfold serviceFailures
  rw [hkey, h.counts.1]
  exact failures_counted key services

/-- A reconciliation of a service that has come to a result in time, and what it makes
    of the steward. -/
theorem Reached.reconcileService (h : s.Reached services nodes) {key : ObjectKey}
    {service : Service} (hkey : service.metadata.key? = some key)
    {result : Except SyncError NextVisit}
    (hresult : ((CloudSteward.reconcileService s.settings s.cluster service).run
      s.world).1.byDeadline? serviceDeadline = some result) :
    ∃ visit s', s.reconcileService service = (some (.ofResult result visit), s') ∧
      Requeues (retries key services) result visit ∧
      s'.Reached ((key, result) :: services) nodes := by
  let after := ((CloudSteward.reconcileService s.settings s.cluster service).run s.world).2
  refine ⟨(settle s.services key result).1, _, ?_, ?_,
    (h.service key result).meanwhile s.cluster after⟩
  · unfold Steward.reconcileService Steward.run
    dsimp only
    rw [hresult, hkey]
  · rw [h.counts.1]
    exact settle_requeues key result services

/-- A reconciliation of a node that has come to a result, and what it makes of the
    steward. -/
theorem Reached.reconcileNode (h : s.Reached services nodes) {key : ObjectKey} {node : Node}
    (hkey : node.metadata.key? = some key) {result : Except SyncError NextVisit}
    (hresult : ((CloudSteward.reconcileNode s.settings node).run s.world).1.result? =
      some result) :
    ∃ visit s', s.reconcileNode node = (some (.ofResult result visit), s') ∧
      Requeues (retries key nodes) result visit ∧
      s'.Reached services ((key, result) :: nodes) := by
  let after := ((CloudSteward.reconcileNode s.settings node).run s.world).2
  refine ⟨(settle s.nodes key result).1, _, ?_, ?_,
    (h.node key result).meanwhile s.cluster after⟩
  · unfold Steward.reconcileNode Steward.run
    dsimp only
    rw [hresult, hkey]
  · rw [h.counts.2]
    exact settle_requeues key result nodes

/-- After any run the failures of a service are its retryable errors since its last
    other result, and the next reconciliation of a service or a node asks for a visit
    after 5 ms doubled so many times, but no more than a minute, if it ends with a
    retryable error. Any other error waits for a change and starts the object over.
    What came of other objects plays no part in this. -/
theorem requeues_exact (h : s.Reached services nodes) (key : ObjectKey) :
    (∀ service : Service, service.metadata.key? = some key →
      s.serviceFailures service = min (retries key services) greatestFailureCount ∧
      ∀ result, ((CloudSteward.reconcileService s.settings s.cluster service).run
          s.world).1.byDeadline? serviceDeadline = some result →
        ∃ visit s', s.reconcileService service = (some (.ofResult result visit), s') ∧
          Requeues (retries key services) result visit ∧
          s'.Reached ((key, result) :: services) nodes ∧
          (retried result = false → s'.serviceFailures service = 0)) ∧
    (∀ node : Node, node.metadata.key? = some key →
      ∀ result, ((CloudSteward.reconcileNode s.settings node).run s.world).1.result? =
          some result →
        ∃ visit s', s.reconcileNode node = (some (.ofResult result visit), s') ∧
          Requeues (retries key nodes) result visit ∧
          s'.Reached services ((key, result) :: nodes)) ∧
    (∀ result, Requeues (retries key services) result (settle s.services key result).1 ∧
      Requeues (retries key nodes) result (settle s.nodes key result).1) ∧
    ∀ services' nodes' (t : Steward), t.Reached services' nodes' →
      services.filter (·.1 = key) = services'.filter (·.1 = key) →
      (∀ service : Service, service.metadata.key? = some key →
        s.serviceFailures service = t.serviceFailures service) ∧
      ∀ result, (settle s.services key result).1 = (settle t.services key result).1 := by
  refine ⟨fun service hkey => ⟨h.serviceFailures_eq hkey, fun result hresult => ?_⟩,
    fun node hkey result hresult => h.reconcileNode hkey hresult, fun result => ?_,
    fun services' nodes' t ht hsame => ?_⟩
  · obtain ⟨visit, s', hattempt, hrequeues, hreached⟩ := h.reconcileService hkey hresult
    refine ⟨visit, s', hattempt, hrequeues, hreached, fun hover => ?_⟩
    rw [hreached.serviceFailures_eq hkey, retries_same, hover]
    exact Nat.zero_min _
  · rw [h.counts.1, h.counts.2]
    exact ⟨settle_requeues key result services, settle_requeues key result nodes⟩
  · rw [h.counts.1, ht.counts.1]
    obtain ⟨hcount, hvisit⟩ := settle_of_same_results hsame
    refine ⟨fun service hkey => ?_, hvisit⟩
    rw [h.serviceFailures_eq hkey, ht.serviceFailures_eq hkey, ← failures_counted, hcount,
      failures_counted]

end Steward

namespace Sample

/-- What tells the service from others. -/
def webKey : ObjectKey := ⟨some "default", "web"⟩

/-- Two timeouts of the service, and between them an error of another service. -/
def timeouts : List Settlement :=
  [(webKey, .error (.timeout serviceDeadline)),
    (⟨some "default", "api"⟩, .error (.validation "Service has no ports")),
    (webKey, .error (.timeout serviceDeadline))]

/-- The small cluster in which no call returns. -/
def silentWorld : World :=
  { World.ofStore store with incidents := { Incidents.none with hangs := fun _ => [true] } }

/-- A steward after the timeouts. -/
def afterTimeouts : Steward :=
  { Steward.start settings ⟨nodes, [service]⟩ silentWorld with services := counted timeouts }

theorem reached_afterTimeouts : afterTimeouts.Reached timeouts [] :=
  (((Steward.Reached.start settings ⟨nodes, [service]⟩ silentWorld).service webKey _).service
    _ _).service webKey _

end Sample

open Sample in
/-- The third timeout of the service asks for a visit after twenty milliseconds. -/
theorem requeues_third_timeout :
    afterTimeouts.serviceFailures service = 2 ∧
      ∃ delay s', afterTimeouts.reconcileService service =
          (some ⟨some (.timeout serviceDeadline), .after delay⟩, s') ∧
        delay.nanos = 20 * 1000000 ∧ s'.serviceFailures service = 3 := by
  obtain ⟨hservice, -⟩ := Steward.requeues_exact reached_afterTimeouts webKey
  obtain ⟨hcount, hnext⟩ := hservice service rfl
  have hhung : ((reconcileService settings ⟨nodes, [service]⟩ service).run
      silentWorld).1.byDeadline? serviceDeadline = some (.error (.timeout serviceDeadline)) := by
    rfl
  obtain ⟨visit, s', hattempt, ⟨delay, hvisit, hdelay⟩, hreached, -⟩ := hnext _ hhung
  subst hvisit
  have hkey : service.metadata.key? = some webKey := by rfl
  exact ⟨hcount, delay, s', hattempt, hdelay, hreached.serviceFailures_eq hkey⟩

end CloudSteward
