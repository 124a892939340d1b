import CloudSteward.Cluster.Object
import CloudSteward.Resource.Basic

/-!
# Pod routes in a route table

A route that carries the name of a node in a label belongs to that node; a route
without the label belongs to someone else. Each node has one route: the first
one with its name, which is replaced in place, while later ones are dropped. A
node without a route gets one at the end.

Results:

* `upsert_of_absent`: a node without a route gets one at the end.
* `foreign_upsert`: the routes of others keep their content and order.
-/

namespace CloudSteward

/-- The node that a route belongs to. -/
def StaticRoute.owner? (r : StaticRoute) : Option String :=
  r.labels.get? nodeRoleLabel

/-- Whether a route belongs to a node. -/
def StaticRoute.isOf (r : StaticRoute) (node : String) : Bool :=
  r.owner? == some node

/-- The route of a node. -/
def ownedRoute (node cidr nextHop : String) : StaticRoute :=
  ⟨cidr, nextHop, SortedMap.empty.insert nodeRoleLabel node⟩

/-- The routes that do not belong to a node. -/
def withoutRoutesOf (node : String) (routes : List StaticRoute) : List StaticRoute :=
  routes.filter fun r => !r.isOf node

/-- Puts the route of a node in the place of its first one and drops its others;
    at the end if it has none. -/
def upsert (node cidr nextHop : String) : List StaticRoute → List StaticRoute
  | [] => [ownedRoute node cidr nextHop]
  | r :: rest =>
    if r.isOf node then ownedRoute node cidr nextHop :: withoutRoutesOf node rest
    else r :: upsert node cidr nextHop rest

/-! ## Listing -/

/-- A pod route as the cluster sees it. -/
structure Route where
  name : String
  targetNode : String
  destination : String
  /-- No node has the address that the route leads to. -/
  blackhole : Bool
deriving DecidableEq, Repr

/-- The internal address of the last node of a name that has one. -/
def addressOf? (nodes : List Node) (name : String) : Option String :=
  ((nodes.filter (·.name == name)).reverse.findSome? Node.internalIp?)

/-- A route with its next hop brought in line with the address of its node. -/
def refreshed (nodes : List Node) (r : StaticRoute) : StaticRoute :=
  match r.owner?.bind (addressOf? nodes) with
  | some ip => { r with nextHop := ip }
  | none => r

/-- A route of a node as the cluster sees it. -/
def listed? (nodes : List Node) (r : StaticRoute) : Option Route :=
  r.owner?.map fun node => ⟨node, node, r.destination, (addressOf? nodes node).isNone⟩

/-! ## Laws -/

theorem isOf_ownedRoute (node cidr nextHop : String) :
    (ownedRoute node cidr nextHop).isOf node = true := by
  simp [ownedRoute, StaticRoute.isOf, StaticRoute.owner?, SortedMap.get?_insert]

theorem upsert_of_absent {node cidr nextHop : String} {routes : List StaticRoute}
    (h : ∀ r ∈ routes, r.isOf node = false) :
    upsert node cidr nextHop routes = routes ++ [ownedRoute node cidr nextHop] := by
  induction routes with
  | nil => rfl
  | cons r rest ih =>
    have hr := h r (by simp)
    rw [upsert, if_neg (by simp [hr]), ih fun q hq => h q (by simp [hq])]
    rfl

/-- The routes that do not belong to the node are the same before and after. -/
theorem foreign_upsert (node cidr nextHop : String) (routes : List StaticRoute) :
    withoutRoutesOf node (upsert node cidr nextHop routes) = withoutRoutesOf node routes := by
  induction routes with
  | nil => simp [upsert, withoutRoutesOf, isOf_ownedRoute]
  | cons r rest ih =>
    rw [upsert]
    split
    · rename_i hr
      simp [withoutRoutesOf, isOf_ownedRoute, hr]
    · rename_i hr
      simp only [withoutRoutesOf] at ih
      simp [withoutRoutesOf, hr, ih]

end CloudSteward
