import CloudSteward.Proofs.Route.Rewrite
import Mathlib.Data.List.Forall2

/-!
# Routes of others

Every change of a route table writes all of its routes back. This module follows the
routes that a change is not about through any run of listings, changes and passes, with
any failures: they are in every update that is sent, and after it, as they were.

Results:

* `Program.Spares`: a program leaves a part of the routes alone, in the table and in
  every update that it sends; `spares_bind`, `spares_attempt`, `spares_rewriteRoutes`.
* `spares_putRoute`, `spares_deleteRoute`: a change for a node spares all other routes.
* `spares_reconcileRoutes`: a pass spares the routes that belong to no node.
* `others_untouched`: what every run of listings, changes and passes spares.
-/

namespace CloudSteward

open Program

variable {α β κ : Type}

/-! ## Sparing a part of the routes -/

/-- A call about a table that leaves a part of its routes alone: that part is still as it
    was given, and routes are written back only if they are others with the same part. -/
def Event.Spares (tableId : String) (part : List StaticRoute → κ) (given : Option κ) :
    Event → Prop
  | .called w c =>
    (w.store.routes? tableId).map part = given ∧
      (c = .getRouteTable tableId ∨
        ∃ current routes, c = .setRoutes tableId routes ∧
          w.store.routes? tableId = some current ∧ routes ≠ current ∧
          part routes = part current)
  | .deleted _ _ | .wrote _ _ => False

/-- A program leaves a part of the routes of a table alone if nobody else writes them. -/
structure Program.Spares (p : Program α) (tableId : String) (part : List StaticRoute → κ) :
    Prop where
  kept : ∀ {w w' : World} {o : Outcome α}, w.incidents.Keep (·.routes? tableId) →
    p.run w = (o, w') → (w'.store.routes? tableId).map part = (w.store.routes? tableId).map part
  events : ∀ {w : World}, w.incidents.Keep (·.routes? tableId) →
    ∀ e ∈ p.events w, e.Spares tableId part ((w.store.routes? tableId).map part)

section Spares

variable {tableId : String} {part : List StaticRoute → κ}

theorem spares_pure (a : α) : (Pure.pure a : Program α).Spares tableId part where
  kept _ h := by
    cases h
    rfl
  events _ e he := by cases he

theorem spares_ofExcept (x : Except SyncError α) : (ofExcept x).Spares tableId part := by
  cases x with
  | ok a => exact spares_pure a
  | error e =>
    refine ⟨fun _ h => ?_, fun _ e he => ?_⟩
    · cases h
      rfl
    · cases he

theorem spares_bind {p : Program α} {f : α → Program β} (hp : p.Spares tableId part)
    (hf : ∀ a, (f a).Spares tableId part) : (p >>= f).Spares tableId part where
  kept hk h := by
    rcases run_bind_cases h with ⟨-, o₁, hrun, -⟩ | ⟨a, w₁, hrun, h⟩
    · exact hp.kept hk hrun
    · exact ((hf a).kept (keep_run hk hrun) h).trans (hp.kept hk hrun)
  events {w} hk e he := by
    rw [events_bind] at he
    rcases List.mem_append.mp he with he | he
    · exact hp.events hk e he
    · split at he
      · rename_i a w₁ hrun
        rw [← hp.kept hk hrun]
        exact (hf a).events (keep_run hk hrun) e he
      · cases he

theorem spares_attempt {p : Program α} (hp : p.Spares tableId part) :
    p.attempt.Spares tableId part where
  kept {w w' o} hk h := by
    rw [run_attempt] at h
    rcases hrun : p.run w with ⟨o₁, w₁⟩
    rw [hrun] at h
    have hsame := hp.kept hk hrun
    cases o₁ <;> cases h <;> exact hsame
  events hk e he := by
    rw [events_attempt] at he
    exact hp.events hk e he

/-- A rewrite leaves alone what the function that makes the new routes leaves alone. -/
theorem spares_rewriteRoutes {make : List StaticRoute → List StaticRoute}
    (hmake : ∀ routes, part (make routes) = part routes) :
    (rewriteRoutes tableId make).Spares tableId part where
  kept hk h := by
    rcases rewriteRoutes_cases hk h with ⟨-, hsame⟩ | ⟨before, -, hbefore, hafter⟩
    · rw [hsame]
    · rw [hbefore, hafter, Option.map_some, Option.map_some, hmake]
  events {w} hk e he := by
    rcases mem_events_rewriteRoutes hk he with rfl | ⟨before, w₁, rfl, hw, hw₁, hne⟩
    · exact ⟨rfl, .inl rfl⟩
    · exact ⟨by rw [hw, hw₁], .inr ⟨before, make before, rfl, hw₁, hne, hmake before⟩⟩

/-! ## The operations -/

theorem spares_listRoutes (c : Cluster) : (listRoutes c tableId).Spares tableId foreignRoutes := by
  rw [listRoutes_eq]
  exact spares_bind (spares_rewriteRoutes (foreignRoutes_map_refreshed c.nodes)) fun _ =>
    spares_pure _

/-- A change for a node spares what all its other routes decide. -/
theorem spares_putRoute (c : Cluster) (r : Route)
    (hpart : ∀ {routes routes'}, withoutRoutesOf r.targetNode routes' =
      withoutRoutesOf r.targetNode routes → part routes' = part routes) :
    (putRoute c tableId r).Spares tableId part := by
  rw [putRoute_eq]
  refine spares_bind (spares_ofExcept _) fun nextHop => ?_
  exact spares_bind (spares_rewriteRoutes fun routes => hpart (foreign_upsert _ _ _ routes))
    fun _ => spares_pure _

theorem spares_deleteRoute (r : Route)
    (hpart : ∀ {routes routes'}, withoutRoutesOf r.targetNode routes' =
      withoutRoutesOf r.targetNode routes → part routes' = part routes) :
    (deleteRoute tableId r).Spares tableId part := by
  rw [deleteRoute_eq]
  exact spares_bind (spares_rewriteRoutes fun routes => hpart (withoutRoutesOf_idem _ routes))
    fun _ => spares_pure _

theorem spares_nodeStep (c : Cluster) (found : SortedMap String (List Route)) (n : Node) :
    (nodeStep c tableId found n).Spares tableId foreignRoutes := by
  rw [nodeStep]
  split
  · exact spares_pure ()
  · split
    · exact spares_pure ()
    · exact spares_putRoute c _ foreignRoutes_congr

theorem spares_tryAll {steps : List (Program Unit)}
    (h : ∀ p ∈ steps, p.Spares tableId part) : (tryAll steps).Spares tableId part := by
  induction steps with
  | nil => exact spares_pure []
  | cons p rest ih =>
    refine spares_bind (spares_attempt (h p List.mem_cons_self)) fun r => ?_
    exact spares_bind (ih fun q hq => h q (List.mem_cons_of_mem p hq)) fun _ => spares_pure _

/-- A pass spares the routes that belong to no node. -/
theorem spares_reconcileRoutes (c : Cluster) (nodes : List Node) :
    (reconcileRoutes c tableId nodes).Spares tableId foreignRoutes := by
  refine spares_bind (spares_listRoutes c) fun listed => ?_
  refine spares_bind (spares_tryAll fun p hp => ?_) fun results => spares_ofExcept _
  rcases List.mem_append.mp hp with hp | hp
  · obtain ⟨n, -, rfl⟩ := List.mem_map.mp hp
    exact spares_nodeStep c _ n
  · obtain ⟨r, -, rfl⟩ := List.mem_map.mp hp
    exact spares_deleteRoute r foreignRoutes_congr

end Spares

/-! ## Runs -/

/-- Something that is done with a route table. -/
inductive RouteJob where
  | list (c : Cluster)
  /-- A route is created or updated. -/
  | put (c : Cluster) (r : Route)
  | delete (r : Route)
  | reconcile (c : Cluster) (nodes : List Node)

/-- The program of a job. -/
def RouteJob.program (tableId : String) : RouteJob → Program Unit
  | .list c => do
    let _ ← listRoutes c tableId
  | .put c r => putRoute c tableId r
  | .delete r => deleteRoute tableId r
  | .reconcile c nodes => reconcileRoutes c tableId nodes

/-- A job and what goes wrong in it. -/
structure RouteTurn where
  job : RouteJob
  incidents : Incidents

namespace RouteTurn

/-- The world in which a turn begins. -/
def enter (t : RouteTurn) (w : World) : World := { w with incidents := t.incidents }

/-- The world after a turn. -/
def play (tableId : String) (w : World) (t : RouteTurn) : World :=
  ((t.job.program tableId).run (t.enter w)).2

/-- The world after several turns. -/
def playAll (tableId : String) (w : World) (turns : List RouteTurn) : World :=
  turns.foldl (play tableId) w

/-- The events of a turn. -/
def events (tableId : String) (w : World) (t : RouteTurn) : List Event :=
  (t.job.program tableId).events (t.enter w)

end RouteTurn

/-- A route is as it was, but for the next hop if it is a node's. -/
def StaticRoute.SameButHop (r r' : StaticRoute) : Prop :=
  r' = r ∨ r.owner?.isSome = true ∧ ∃ ip, r' = { r with nextHop := ip }

/-- What a job may do to the routes of a table, if there is one. -/
def RouteJob.Confined (before after : Option (List StaticRoute)) : RouteJob → Prop
  | .list _ => Option.Rel (List.Forall₂ StaticRoute.SameButHop) before after
  -- routes of other nodes and those of nobody, in their common order
  | .put _ r | .delete r =>
    after.map (withoutRoutesOf r.targetNode) = before.map (withoutRoutesOf r.targetNode)
  | .reconcile _ _ => after.map foreignRoutes = before.map foreignRoutes

section Turns

variable {tableId : String} {w : World} {t : RouteTurn}

/-- A listing changes nothing but the next hops of routes of nodes. -/
theorem listRoutes_confined {c : Cluster} {w' : World} {o : Outcome (List Route)}
    (hk : w.incidents.Keep (·.routes? tableId)) (h : (listRoutes c tableId).run w = (o, w')) :
    Option.Rel (List.Forall₂ StaticRoute.SameButHop) (w.store.routes? tableId)
      (w'.store.routes? tableId) := by
  rw [listRoutes_eq] at h
  obtain ⟨o₁, hrun, -⟩ := run_bind_pure h
  rcases rewriteRoutes_cases hk hrun with ⟨-, hsame⟩ | ⟨before, -, hbefore, hafter⟩
  · rw [hsame]
    cases w.store.routes? tableId with
    | none => exact .none
    | some routes => exact .some (List.forall₂_same.mpr fun r _ => .inl rfl)
  · rw [hbefore, hafter]
    exact .some (List.forall₂_map_right_iff.mpr
      (List.forall₂_same.mpr fun r _ => refreshed_cases c.nodes r))

/-- Every job spares the routes that belong to no node. -/
theorem RouteJob.spares (job : RouteJob) : (job.program tableId).Spares tableId foreignRoutes := by
  cases job with
  | list c => exact spares_bind (spares_listRoutes c) fun _ => spares_pure ()
  | put c r => exact spares_putRoute c r foreignRoutes_congr
  | delete r => exact spares_deleteRoute r foreignRoutes_congr
  | reconcile c nodes => exact spares_reconcileRoutes c nodes

theorem RouteJob.confined (job : RouteJob) {w' : World} {o : Outcome Unit}
    (hk : w.incidents.Keep (·.routes? tableId)) (h : (job.program tableId).run w = (o, w')) :
    job.Confined (w.store.routes? tableId) (w'.store.routes? tableId) := by
  cases job with
  | list c =>
    obtain ⟨o₁, hrun, -⟩ := run_bind_pure h
    exact listRoutes_confined hk hrun
  | put c r => exact (spares_putRoute c r id).kept hk h
  | delete r => exact (spares_deleteRoute r id).kept hk h
  | reconcile c nodes => exact (spares_reconcileRoutes c nodes).kept hk h

theorem foreign_playAll {turns : List RouteTurn}
    (hk : ∀ t ∈ turns, t.incidents.Keep (·.routes? tableId)) :
    ((RouteTurn.playAll tableId w turns).store.routes? tableId).map foreignRoutes =
      (w.store.routes? tableId).map foreignRoutes := by
  induction turns generalizing w with
  | nil => rfl
  | cons t rest ih =>
    have hrest := ih (w := t.play tableId w) fun x hx => hk x (List.mem_cons_of_mem t hx)
    have hfirst := t.job.spares.kept (w := t.enter w) (hk t List.mem_cons_self) rfl
    exact hrest.trans hfirst

/-- **Routes of others.** After any listings, changes and passes, with any arguments and
    failures, while nobody else writes the table, one more of them finds the routes that
    belong to no node as they were, and leaves them so. Every call that it makes meets
    them so; it reads the table or writes other routes than are there back, with these
    among them in their order. A change for a node leaves all routes but the node's as they
    were, and a listing leaves all but the next hops of routes of nodes. -/
theorem others_untouched {turns : List RouteTurn}
    (hk : ∀ x ∈ turns, x.incidents.Keep (·.routes? tableId))
    (ht : t.incidents.Keep (·.routes? tableId)) :
    let before := RouteTurn.playAll tableId w turns
    let after := t.play tableId before
    let foreign := (w.store.routes? tableId).map foreignRoutes
    (before.store.routes? tableId).map foreignRoutes = foreign ∧
      (after.store.routes? tableId).map foreignRoutes = foreign ∧
      (∀ e ∈ t.events tableId before, e.Spares tableId foreignRoutes foreign) ∧
      t.job.Confined (before.store.routes? tableId) (after.store.routes? tableId) := by
  intro before after foreign
  have hbefore : (before.store.routes? tableId).map foreignRoutes = foreign := foreign_playAll hk
  have hafter := t.job.spares.kept (w := t.enter before) ht rfl
  have hevents := t.job.spares.events (w := t.enter before) ht
  refine ⟨hbefore, hafter.trans hbefore, fun e he => ?_,
    t.job.confined (w := t.enter before) ht rfl⟩
  rw [← hbefore]
  exact hevents e he

end Turns

namespace Sample

/-- A node with pod addresses. -/
def podNode (name cidr ip : String) : Node where
  metadata := ⟨some name, none, none, none, .empty, .empty, [], none, none⟩
  providerId? := none
  podCidr? := some cidr
  taints := []
  addresses := [⟨"InternalIP", ip⟩]
  conditions := []

/-- Two nodes with pod addresses. -/
def podNodes : Cluster :=
  ⟨[podNode "worker-0" "10.1.0.0/24" "10.0.0.5", podNode "worker-1" "10.1.1.0/24" "10.0.0.6"], []⟩

/-- A route of nobody. -/
def officeRoute : StaticRoute := ⟨"192.168.0.0/16", "10.0.0.254", .empty⟩

/-- A cloud with one route table: a route of nobody between two of one node, which lead to
    an old address, and a route of a node that is gone. -/
def routeStore : Store :=
  { Store.empty "b1g" with
    routeTables := Inventory.empty.put ⟨"rt", "b1g", "pods", "enpnet",
      [ownedRoute "worker-0" "10.1.0.0/24" "10.0.0.9", officeRoute,
        ownedRoute "worker-0" "10.1.7.0/24" "10.0.0.9",
        ownedRoute "worker-9" "10.1.9.0/24" "10.0.0.9"]⟩ }

/-- So many updates of route tables fail as are told to; nothing else goes wrong. -/
def refusedUpdates (refused : List Bool) : Incidents :=
  { Incidents.none with
    failures := fun m =>
      if m = .setRoutes then refused.map fun b => if b then some .http else none else [] }

end Sample

open Sample in
/-- Between a pass whose second update is refused and the next pass a node's routes are
    deleted. -/
theorem others_untouched_twice :
    let turns := [⟨.reconcile podNodes podNodes.nodes, refusedUpdates [false, true]⟩,
      ⟨.delete (routeFor "worker-1" ""), .none⟩]
    let t : RouteTurn := ⟨.reconcile podNodes podNodes.nodes, .none⟩
    let after := t.play "rt" (RouteTurn.playAll "rt" (.ofStore routeStore) turns)
    after.store.routes? "rt" = some [ownedRoute "worker-0" "10.1.0.0/24" "10.0.0.5", officeRoute,
        ownedRoute "worker-1" "10.1.1.0/24" "10.0.0.6"] ∧
      (after.store.routes? "rt").map foreignRoutes = some [officeRoute] := by
  intro turns t after
  have hk : ∀ x ∈ turns, x.incidents.Keep (·.routes? "rt") := by
    intro x hx
    simp only [turns, List.mem_cons, List.not_mem_nil, or_false] at hx
    rcases hx with rfl | rfl
    · exact keep_of_no_intrusions (fun _ => rfl) _
    · exact keep_of_no_intrusions (fun _ => rfl) _
  obtain ⟨-, hafter, -, -⟩ := others_untouched (w := .ofStore routeStore) (t := t) hk
    (keep_of_no_intrusions (fun _ => rfl) _)
  exact ⟨by rfl, hafter.trans (by rfl)⟩

end CloudSteward
