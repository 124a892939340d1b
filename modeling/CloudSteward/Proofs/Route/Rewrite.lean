import CloudSteward.Proofs.Events
import CloudSteward.Proofs.Parts
import CloudSteward.Route.Sync

/-!
# Rewriting a route table

Whatever is done to a route table, its routes are read, other routes are made of them
and written back, unless they are the same. So each operation is told by the function
that makes the new routes of the old ones, and what the function leaves alone the
operation leaves alone.

Results:

* `foreignRoutes_congr`, `routesOf_congr`: what leaves all but one node's routes alone
  leaves each other node's and nobody's routes alone.
* `putRoute_eq`, `deleteRoute_eq`, `listRoutes_eq`: each operation is a rewrite.
* `addressOf?_of_mem`, `refreshed_idem`: which address a refreshed route leads to.
* `rewriteRoutes_cases`: a rewrite fails without effect or is carried out.
* `mem_events_rewriteRoutes`: what a rewrite calls for.
-/

namespace CloudSteward

open Program

/-! ## Parts of a table -/

/-- The routes that belong to no node. -/
def foreignRoutes (routes : List StaticRoute) : List StaticRoute :=
  routes.filter fun r => r.owner?.isNone

/-- The routes of a node. -/
def routesOf (node : String) (routes : List StaticRoute) : List StaticRoute :=
  routes.filter (·.isOf node)

theorem isOf_iff {r : StaticRoute} {node : String} :
    r.isOf node = true ↔ r.owner? = some node := by
  simp [StaticRoute.isOf]

theorem mem_routesOf {name : String} {routes : List StaticRoute} {r : StaticRoute} :
    r ∈ routesOf name routes ↔ r ∈ routes ∧ r.owner? = some name := by
  rw [routesOf, List.mem_filter, isOf_iff]

theorem foreignRoutes_withoutRoutesOf (node : String) (routes : List StaticRoute) :
    foreignRoutes (withoutRoutesOf node routes) = foreignRoutes routes := by
  rw [foreignRoutes, withoutRoutesOf, List.filter_filter]
  refine List.filter_congr fun r _ => ?_
  cases ho : r.owner? <;> simp [StaticRoute.isOf, ho]

theorem routesOf_withoutRoutesOf {node other : String} (hne : other ≠ node)
    (routes : List StaticRoute) :
    routesOf other (withoutRoutesOf node routes) = routesOf other routes := by
  rw [routesOf, withoutRoutesOf, List.filter_filter]
  refine List.filter_congr fun r _ => ?_
  by_cases ho : r.owner? = some other <;> simp [StaticRoute.isOf, ho, hne]

theorem routesOf_withoutRoutesOf_self (node : String) (routes : List StaticRoute) :
    routesOf node (withoutRoutesOf node routes) = [] := by
  rw [routesOf, withoutRoutesOf, List.filter_filter, List.filter_eq_nil_iff]
  simp

/-- Whoever leaves all but one node's routes alone leaves nobody's routes alone. -/
theorem foreignRoutes_congr {node : String} {routes routes' : List StaticRoute}
    (h : withoutRoutesOf node routes' = withoutRoutesOf node routes) :
    foreignRoutes routes' = foreignRoutes routes := by
  rw [← foreignRoutes_withoutRoutesOf node, h, foreignRoutes_withoutRoutesOf]

/-- Whoever leaves all but one node's routes alone leaves each other node's routes alone. -/
theorem routesOf_congr {node other : String} {routes routes' : List StaticRoute}
    (h : withoutRoutesOf node routes' = withoutRoutesOf node routes) (hne : other ≠ node) :
    routesOf other routes' = routesOf other routes := by
  rw [← routesOf_withoutRoutesOf hne, h, routesOf_withoutRoutesOf hne]

theorem withoutRoutesOf_idem (node : String) (routes : List StaticRoute) :
    withoutRoutesOf node (withoutRoutesOf node routes) = withoutRoutesOf node routes := by
  simp [withoutRoutesOf, List.filter_filter]

/-- Once its route is put a node has that route only. -/
theorem routesOf_upsert (node cidr nextHop : String) (routes : List StaticRoute) :
    routesOf node (upsert node cidr nextHop routes) = [ownedRoute node cidr nextHop] := by
  induction routes with
  | nil => simp [upsert, routesOf, isOf_ownedRoute]
  | cons r rest ih =>
    rw [upsert]
    split
    · rw [routesOf, List.filter_cons, if_pos (isOf_ownedRoute node cidr nextHop)]
      exact congrArg _ (routesOf_withoutRoutesOf_self node rest)
    · rename_i hr
      rw [routesOf, List.filter_cons, if_neg hr]
      exact ih

/-! ## Bringing next hops up to date -/

section Refreshed

variable (nodes : List Node)

/-- A route is refreshed by giving it another next hop, if any, and then it is a node's. -/
theorem refreshed_cases (r : StaticRoute) :
    refreshed nodes r = r ∨
      r.owner?.isSome = true ∧ ∃ ip, refreshed nodes r = { r with nextHop := ip } := by
  rw [refreshed]
  split
  · rename_i ip h
    refine .inr ⟨?_, ip, rfl⟩
    obtain ⟨owner, ho, -⟩ := Option.bind_eq_some_iff.mp h
    rw [ho]
    rfl
  · exact .inl rfl

theorem owner?_refreshed (r : StaticRoute) : (refreshed nodes r).owner? = r.owner? := by
  rcases refreshed_cases nodes r with h | ⟨-, ip, h⟩ <;> rw [h]
  rfl

theorem destination_refreshed (r : StaticRoute) :
    (refreshed nodes r).destination = r.destination := by
  rcases refreshed_cases nodes r with h | ⟨-, ip, h⟩ <;> rw [h]

theorem refreshed_of_foreign {r : StaticRoute} (h : r.owner?.isNone = true) :
    refreshed nodes r = r := by
  rcases refreshed_cases nodes r with h' | ⟨hsome, -⟩
  · exact h'
  · rw [Option.isNone_iff_eq_none.mp h] at hsome
    cases hsome

theorem refreshed_idem (r : StaticRoute) :
    refreshed nodes (refreshed nodes r) = refreshed nodes r := by
  rw [refreshed, owner?_refreshed]
  cases hip : r.owner?.bind (addressOf? nodes) with
  | none => rfl
  | some ip =>
    have hr : refreshed nodes r = { r with nextHop := ip } := by rw [refreshed, hip]
    rw [hr]

theorem foreignRoutes_map_refreshed (routes : List StaticRoute) :
    foreignRoutes (routes.map (refreshed nodes)) = foreignRoutes routes := by
  rw [foreignRoutes, List.filter_map]
  have hsame : (fun r : StaticRoute => r.owner?.isNone) ∘ refreshed nodes =
      fun r => r.owner?.isNone := by
    funext r
    rw [Function.comp_apply, owner?_refreshed]
  rw [hsame, foreignRoutes]
  refine (List.map_congr_left fun r hr => ?_).trans (List.map_id _)
  exact refreshed_of_foreign nodes (List.mem_filter.mp hr).2

theorem routesOf_map_refreshed (node : String) (routes : List StaticRoute) :
    routesOf node (routes.map (refreshed nodes)) =
      (routesOf node routes).map (refreshed nodes) := by
  rw [routesOf, List.filter_map]
  have hsame : (fun r : StaticRoute => r.isOf node) ∘ refreshed nodes = fun r => r.isOf node := by
    funext r
    rw [Function.comp_apply, StaticRoute.isOf, owner?_refreshed, StaticRoute.isOf]
  rw [hsame]
  rfl

end Refreshed

/-- If names are different the address for a name is that of its node. -/
theorem addressOf?_of_mem {nodes : List Node} (hnames : (nodes.map Node.name).Nodup) {n : Node}
    (hn : n ∈ nodes) : addressOf? nodes n.name = n.internalIp? := by
  have honly : nodes.filter (·.name == n.name) = [n] := by
    induction nodes with
    | nil => cases hn
    | cons m rest ih =>
      obtain ⟨hnew, hrest⟩ := List.nodup_cons.mp hnames
      rcases List.mem_cons.mp hn with rfl | hn
      · rw [List.filter_cons, if_pos (beq_self_eq_true _), List.filter_eq_nil_iff.mpr]
        intro other hother hname
        exact hnew (List.mem_map.mpr ⟨other, hother, beq_iff_eq.mp hname⟩)
      · have hne : ¬ (m.name == n.name) = true := fun hname =>
          hnew (List.mem_map.mpr ⟨n, hn, (beq_iff_eq.mp hname).symm⟩)
        rw [List.filter_cons, if_neg hne, ih hrest hn]
  rw [addressOf?, honly]
  cases hip : n.internalIp? <;> simp [hip]

theorem refreshed_of_address {nodes : List Node} {r : StaticRoute} {name ip : String}
    (ho : r.owner? = some name) (hip : addressOf? nodes name = some ip) :
    refreshed nodes r = { r with nextHop := ip } := by
  rw [refreshed, ho, Option.bind_some, hip]

/-! ## Rewriting -/

/-- Reads the routes of a table, writes back what is made of them, and gives the routes
    that were read. -/
def rewriteRoutes (tableId : String) (make : List StaticRoute → List StaticRoute) :
    Program (List StaticRoute) := do
  let before ← currentRoutes tableId
  storeRoutes tableId before (make before)
  return before

theorem putRoute_eq (c : Cluster) (tableId : String) (r : Route) :
    putRoute c tableId r = (do
      let nextHop ← ofExcept (nextHopOf c r.targetNode)
      let _ ← rewriteRoutes tableId (upsert r.targetNode r.destination nextHop)) := by
  simp [putRoute, rewriteRoutes]

theorem deleteRoute_eq (tableId : String) (r : Route) :
    deleteRoute tableId r = (do
      let _ ← rewriteRoutes tableId (withoutRoutesOf r.targetNode)) := by
  simp [deleteRoute, rewriteRoutes]

theorem listRoutes_eq (c : Cluster) (tableId : String) :
    listRoutes c tableId = (do
      let before ← rewriteRoutes tableId (·.map (refreshed c.nodes))
      return before.filterMap (listed? c.nodes)) := by
  simp [listRoutes, rewriteRoutes]

/-- The routes of a table, if there is one. -/
def Store.routes? (st : Store) (tableId : String) : Option (List StaticRoute) :=
  (st.routeTables.get? tableId).map (·.routes)

section Runs

variable {tableId : String} {w w' : World}

theorem getRouteTable_eq_ok {st : Store} {table : RouteTable}
    (h : st.getRouteTable tableId = .ok table) : st.routes? tableId = some table.routes := by
  rw [Store.routes?, existing_eq_ok_iff.mp h]
  rfl

theorem setRoutes_eq_ok {st st' : Store} {routes : List StaticRoute} {table : RouteTable}
    (h : st.setRoutes tableId routes = (.ok table, st')) :
    st'.routes? tableId = some routes := by
  rw [Store.setRoutes] at h
  cases hold : st.getRouteTable tableId with
  | error e =>
    rw [hold] at h
    cases h
  | ok old =>
    rw [hold] at h
    cases h
    have hid : old.id = tableId := Inventory.key_eq_of_get? (existing_eq_ok_iff.mp hold)
    rw [Store.routes?, Inventory.get?_put, if_pos hid.symm]
    rfl

theorem setRoutes_eq_error {st st' : Store} {routes : List StaticRoute} {e : CloudError}
    (h : st.setRoutes tableId routes = (.error e, st')) : st' = st := by
  rw [Store.setRoutes] at h
  split at h <;> cases h
  rfl

/-- Reading a table changes nothing, and gives its routes if it succeeds. -/
theorem currentRoutes_cases {o : Outcome (List StaticRoute)}
    (hk : w.incidents.Keep (·.routes? tableId))
    (h : (currentRoutes tableId).run w = (o, w')) :
    w'.store.routes? tableId = w.store.routes? tableId ∧
      ∀ before, o = .done before → w.store.routes? tableId = some before := by
  have hreads : (currentRoutes tableId).Within (·.Keeps (·.routes? tableId)) :=
    within_bind (within_ask fun _ => rfl) fun _ => trivial
  refine ⟨part_run hreads hk h, ?_⟩
  rintro before rfl
  obtain ⟨table, w₁, hask, h⟩ := run_bind_eq_done.mp h
  cases h
  have hcall := congrArg Prod.fst (answer_eq_ok (run_ask_eq_done.mp hask))
  rw [← part_met hk .getRouteTable]
  exact getRouteTable_eq_ok hcall

/-- Writing routes back fails without effect or is carried out. -/
theorem storeRoutes_cases {before routes : List StaticRoute} {o : Outcome Unit}
    (hk : w.incidents.Keep (·.routes? tableId)) (hbefore : w.store.routes? tableId = some before)
    (h : (storeRoutes tableId before routes).run w = (o, w')) :
    (o.isDone = false ∧ w'.store.routes? tableId = some before) ∨
      (o = .done () ∧ w'.store.routes? tableId = some routes) := by
  rw [storeRoutes] at h
  split at h
  · rename_i hsame
    cases h
    exact .inr ⟨rfl, hsame ▸ hbefore⟩
  · rcases run_bind_cases h with ⟨ho, o₁, hask, ho₁⟩ | ⟨table, w₁, hask, h⟩
    · refine .inl ⟨ho, ?_⟩
      rw [← hbefore]
      exact part_of_ask_failed hk (fun hs => by rw [setRoutes_eq_error hs]) hask ho₁
    · cases h
      exact .inr ⟨rfl, setRoutes_eq_ok (answer_eq_ok (run_ask_eq_done.mp hask))⟩

/-- A rewrite fails without effect or is carried out. -/
theorem rewriteRoutes_cases {make : List StaticRoute → List StaticRoute}
    {o : Outcome (List StaticRoute)} (hk : w.incidents.Keep (·.routes? tableId))
    (h : (rewriteRoutes tableId make).run w = (o, w')) :
    (o.isDone = false ∧ w'.store.routes? tableId = w.store.routes? tableId) ∨
      ∃ before, o = .done before ∧ w.store.routes? tableId = some before ∧
        w'.store.routes? tableId = some (make before) := by
  rcases run_bind_cases h with ⟨ho, o₁, hread, -⟩ | ⟨before, w₁, hread, h⟩
  · exact .inl ⟨ho, (currentRoutes_cases hk hread).1⟩
  obtain ⟨hsame, hbefore⟩ := currentRoutes_cases hk hread
  have hbefore := hbefore before rfl
  have hk₁ := keep_run hk hread
  rcases run_bind_cases h with ⟨ho, o₁, hstore, ho₁⟩ | ⟨_, w₂, hstore, h⟩
  · rcases storeRoutes_cases hk₁ (hsame.trans hbefore) hstore with ⟨-, hroutes⟩ | ⟨rfl, -⟩
    · exact .inl ⟨ho, hroutes.trans hbefore.symm⟩
    · cases ho₁
  · cases h
    rcases storeRoutes_cases hk₁ (hsame.trans hbefore) hstore with ⟨ho, -⟩ | ⟨-, hroutes⟩
    · cases ho
    · exact .inr ⟨before, rfl, hbefore, hroutes⟩

/-- A listing that succeeds has brought the next hops up to date. -/
theorem listRoutes_done {c : Cluster} {listed : List Route}
    (hk : w.incidents.Keep (·.routes? tableId))
    (h : (listRoutes c tableId).run w = (.done listed, w')) :
    ∃ before, w.store.routes? tableId = some before ∧
      w'.store.routes? tableId = some (before.map (refreshed c.nodes)) ∧
      before.filterMap (listed? c.nodes) = listed := by
  rw [listRoutes_eq] at h
  obtain ⟨read, w₁, hrun, h⟩ := run_bind_eq_done.mp h
  cases h
  rcases rewriteRoutes_cases hk hrun with ⟨hfailed, -⟩ | ⟨before, hread, hbefore, hafter⟩
  · cases hfailed
  · cases hread
    exact ⟨read, hbefore, hafter, rfl⟩

/-- A rewrite reads the table as it is, and writes back other routes only. -/
theorem mem_events_rewriteRoutes {make : List StaticRoute → List StaticRoute} {e : Event}
    (hk : w.incidents.Keep (·.routes? tableId))
    (he : e ∈ (rewriteRoutes tableId make).events w) :
    e = .called w (.getRouteTable tableId) ∨
      ∃ before w₁, e = .called w₁ (.setRoutes tableId (make before)) ∧
        w.store.routes? tableId = some before ∧ w₁.store.routes? tableId = some before ∧
        make before ≠ before := by
  rw [rewriteRoutes, events_bind] at he
  rcases List.mem_append.mp he with he | he
  · rw [currentRoutes, events_bind_pure, events_ask] at he
    exact .inl (List.mem_singleton.mp he)
  · split at he
    · rename_i before w₁ hread
      obtain ⟨hsame, hbefore⟩ := currentRoutes_cases hk hread
      have hbefore := hbefore before rfl
      rw [events_bind_pure, storeRoutes] at he
      split at he
      · cases he
      · rename_i hother
        rw [events_bind_pure, events_ask] at he
        exact .inr ⟨before, w₁, List.mem_singleton.mp he, hbefore, hsame.trans hbefore,
          Ne.symm hother⟩
    · cases he

end Runs

end CloudSteward
