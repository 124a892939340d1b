import CloudSteward.Program
import CloudSteward.Route.Table

/-!
# Pod routes of the cluster

The route table is read afresh for every change and written back as a whole, and
only if it has changed. A pass over all nodes gives each node with pod addresses
and an internal address its route and removes the routes of nodes that are gone;
every step is tried, and the first error is reported.

Results:

* `firstError_append`: of two lists of results, the first error of the first one
  counts.
-/

namespace CloudSteward

open Program

/-! ## Single changes -/

/-- The routes of a table. -/
def currentRoutes (tableId : String) : Program (List StaticRoute) := do
  return (← ask (.getRouteTable tableId)).routes

/-- Writes routes back, unless they are as they were read. -/
def storeRoutes (tableId : String) (before routes : List StaticRoute) : Program Unit := do
  unless before = routes do
    let _ ← ask (.setRoutes tableId routes)

/-- The internal address of a node. -/
def nextHopOf (c : Cluster) (node : String) : Except SyncError String :=
  match c.node? node with
  | none => .error (.node node "not found")
  | some n =>
    match n.internalIp? with
    | some ip => .ok ip
    | none => .error (.node node "has no InternalIP address")

/-- Gives a node its route. -/
def putRoute (c : Cluster) (tableId : String) (r : Route) : Program Unit := do
  let nextHop ← ofExcept (nextHopOf c r.targetNode)
  let before ← currentRoutes tableId
  storeRoutes tableId before (upsert r.targetNode r.destination nextHop before)

/-- Removes the routes of a node. -/
def deleteRoute (tableId : String) (r : Route) : Program Unit := do
  let before ← currentRoutes tableId
  storeRoutes tableId before (withoutRoutesOf r.targetNode before)

/-- Lists the routes of nodes, after bringing their next hops up to date. -/
def listRoutes (c : Cluster) (tableId : String) : Program (List Route) := do
  let before ← currentRoutes tableId
  storeRoutes tableId before (before.map (refreshed c.nodes))
  return before.filterMap (listed? c.nodes)

/-! ## A pass over all nodes -/

/-- The route of a node with the given pod addresses. -/
def routeFor (node cidr : String) : Route := ⟨node, node, cidr, false⟩

/-- The routes of each node, in the order of the table. -/
def routesByNode (routes : List Route) : SortedMap String (List Route) :=
  routes.foldl (fun m r => m.insert r.targetNode ((m.get? r.targetNode).getD [] ++ [r])) .empty

/-- The pod addresses of a node that is to have a route. -/
def routedCidr? (n : Node) : Option String :=
  if n.internalIp?.isSome then n.podCidr else none

/-- Whether a node has exactly the route it should have. -/
def hasOnlyRoute (routes : List Route) (cidr : String) : Bool :=
  match routes with
  | [r] => r.destination == cidr
  | _ => false

/-- The step that gives a node its route, if one is needed. -/
def nodeStep (c : Cluster) (tableId : String) (found : SortedMap String (List Route)) (n : Node) :
    Program Unit :=
  match routedCidr? n with
  | none => .pure ()
  | some cidr =>
    if hasOnlyRoute ((found.get? n.name).getD []) cidr then .pure ()
    else putRoute c tableId (routeFor n.name cidr)

/-- The routes of nodes that are gone. -/
def staleRoutes (found : SortedMap String (List Route)) (nodes : List Node) : List Route :=
  (found.entries.filter fun e => !(nodes.map Node.name).contains e.1).flatMap (·.2)

/-- Tries each of several steps. -/
def tryAll : List (Program Unit) → Program (List (Except SyncError Unit))
  | [] => .pure []
  | p :: rest => do
    let r ← p.attempt
    return r :: (← tryAll rest)

/-- The first error among some results. -/
def firstError : List (Except SyncError Unit) → Except SyncError Unit
  | [] => .ok ()
  | .error e :: _ => .error e
  | .ok _ :: rest => firstError rest

/-- Brings the routes in line with some nodes. -/
def reconcileRoutes (c : Cluster) (tableId : String) (nodes : List Node) : Program Unit := do
  let found := routesByNode (← listRoutes c tableId)
  let results ← tryAll (nodes.map (nodeStep c tableId found) ++
    (staleRoutes found nodes).map (deleteRoute tableId))
  ofExcept (firstError results)

/-- Several passes, each over the nodes of the cluster; a failed pass does not
    keep the next one from running. -/
def routePasses (c : Cluster) (tableId : String) : Nat → Program Unit
  | 0 => .pure ()
  | n + 1 => do
    let _ ← (reconcileRoutes c tableId c.nodes).attempt
    routePasses c tableId n

/-- Seconds between two passes. -/
def routePeriod : Nat := 10

/-- Number of passes within some seconds; the first is made at once. -/
def passesWithin (seconds : Nat) : Nat := seconds / routePeriod + 1

/-! ## Laws -/

theorem firstError_append (l r : List (Except SyncError Unit)) :
    firstError (l ++ r) = match firstError l with
      | .ok _ => firstError r
      | .error e => .error e := by
  induction l with
  | nil => rfl
  | cons x l ih =>
    cases x with
    | ok u => exact ih
    | error e => rfl

end CloudSteward
