import CloudSteward.Proofs.Route.Attempts
import CloudSteward.Proofs.Route.Others

/-!
# A pass over the nodes

A pass lists the routes, which brings their next hops up to date, and then tries the
step of each node and the deletion of each route whose node is gone. It works on the
listing, while each step rewrites the table; it may, because what a step decides by is
left alone by all steps before it.

Results:

* `hasOnlyRoute_listed_iff`, `mem_staleRoutes`: what the listing tells about a table.
* `Converged`, `events_of_converged`: a pass over routes that are in line only reads.
* `pass_run`: a pass whose listing has succeeded tries every step.
* `passEffect_of_ranAll`, `PassEffect.converged`: what the steps leave behind.
* `reconcileRoutes_converges`: what a pass reports and what it leaves behind.
-/

namespace CloudSteward

open Program

/-! ## What a listing tells -/

theorem getD_routesByNode (l : List Route) (name : String) :
    ((routesByNode l).get? name).getD [] = l.filter (·.targetNode == name) := by
  -- for any map that the routes are added to
  suffices h : ∀ m : SortedMap String (List Route),
      ((l.foldl (fun m r => m.insert r.targetNode ((m.get? r.targetNode).getD [] ++ [r])) m).get?
        name).getD [] = (m.get? name).getD [] ++ l.filter (·.targetNode == name) from h .empty
  induction l with
  | nil => simp
  | cons r rest ih =>
    intro m
    rw [List.foldl_cons, ih, SortedMap.get?_insert]
    by_cases hname : name = r.targetNode
    · simp [hname]
    · simp [hname, Ne.symm hname]

/-- The routes that are listed for a node are those of the node in the table. -/
theorem filter_listed (nodes : List Node) (routes : List StaticRoute) (name : String) :
    (routes.filterMap (listed? nodes)).filter (·.targetNode == name) =
      (routesOf name routes).map fun r =>
        ⟨name, name, r.destination, (addressOf? nodes name).isNone⟩ := by
  induction routes with
  | nil => rfl
  | cons r rest ih =>
    rw [routesOf] at ih ⊢
    cases ho : r.owner? with
    | none => simp [listed?, ho, StaticRoute.isOf, ih]
    | some owner =>
      by_cases hname : owner = name
      · simp [listed?, ho, StaticRoute.isOf, hname, ih]
      · simp [listed?, ho, StaticRoute.isOf, hname, ih]

theorem hasOnlyRoute_listed_iff {nodes : List Node} {routes : List StaticRoute}
    {name cidr : String} :
    hasOnlyRoute (((routesByNode (routes.filterMap (listed? nodes))).get? name).getD []) cidr =
        true ↔
      ∃ r, routesOf name routes = [r] ∧ r.destination = cidr := by
  rw [getD_routesByNode, filter_listed]
  rcases routesOf name routes with _ | ⟨r, _ | ⟨r', rest⟩⟩ <;> simp [hasOnlyRoute]

/-- A route is stale if its node is gone. -/
theorem mem_staleRoutes {l : List Route} {nodes : List Node} {r : Route} :
    r ∈ staleRoutes (routesByNode l) nodes ↔ r ∈ l ∧ r.targetNode ∉ nodes.map Node.name := by
  simp only [staleRoutes, List.mem_flatMap, List.mem_filter, Bool.not_eq_true',
    List.contains_eq_mem, decide_eq_false_iff_not, Prod.exists]
  constructor
  · rintro ⟨name, found, ⟨hentry, hgone⟩, hr⟩
    have hfound := SortedMap.get?_eq_some_iff.mpr hentry
    have hlisted := getD_routesByNode l name
    rw [hfound, Option.getD_some] at hlisted
    rw [hlisted] at hr
    obtain ⟨hr, hname⟩ := List.mem_filter.mp hr
    exact ⟨hr, by rwa [beq_iff_eq.mp hname]⟩
  · rintro ⟨hr, hgone⟩
    have hlisted := getD_routesByNode l r.targetNode
    have hmem : r ∈ ((routesByNode l).get? r.targetNode).getD [] := by
      rw [hlisted]
      exact List.mem_filter.mpr ⟨hr, beq_self_eq_true _⟩
    cases hfound : (routesByNode l).get? r.targetNode with
    | none =>
      rw [hfound] at hmem
      cases hmem
    | some found =>
      rw [hfound] at hmem
      exact ⟨r.targetNode, found, ⟨SortedMap.get?_eq_some_iff.mp hfound, hgone⟩, hmem⟩

/-- The node of a stale route owns a route of the table. -/
theorem exists_of_stale {nodes : List Node} {routes : List StaticRoute} {d : Route}
    (hd : d ∈ staleRoutes (routesByNode (routes.filterMap (listed? nodes))) nodes) :
    (∃ r ∈ routes, r.owner? = some d.targetNode) ∧ d.targetNode ∉ nodes.map Node.name := by
  obtain ⟨hlisted, hgone⟩ := mem_staleRoutes.mp hd
  obtain ⟨r, hr, hd⟩ := List.mem_filterMap.mp hlisted
  obtain ⟨owner, ho, rfl⟩ := Option.map_eq_some_iff.mp hd
  exact ⟨⟨r, hr, ho⟩, hgone⟩

/-- A node that is gone but owns a route has a stale one. -/
theorem stale_of_owner {nodes : List Node} {routes : List StaticRoute} {r : StaticRoute}
    {name : String} (hr : r ∈ routes) (ho : r.owner? = some name)
    (hgone : name ∉ nodes.map Node.name) :
    ∃ d ∈ staleRoutes (routesByNode (routes.filterMap (listed? nodes))) nodes,
      d.targetNode = name :=
  ⟨⟨name, name, r.destination, (addressOf? nodes name).isNone⟩,
    mem_staleRoutes.mpr ⟨List.mem_filterMap.mpr ⟨r, hr, by rw [listed?, ho]; rfl⟩, hgone⟩, rfl⟩

/-! ## Routes in line with the nodes -/

/-- The routes of a table are in line with some nodes. -/
structure Converged (nodes : List Node) (routes : List StaticRoute) : Prop where
  fresh : ∀ r ∈ routes, refreshed nodes r = r
  routed : ∀ n ∈ nodes, n.Routed routes
  owners : ∀ r ∈ routes, ∀ name, r.owner? = some name → name ∈ nodes.map Node.name

section Runs

variable {c : Cluster} {tableId : String} {w w₁ : World} {listed : List Route}

/-- Trying programs that do nothing calls for nothing. -/
theorem events_tryAll_of_pure {ps : List (Program Unit)} (h : ∀ p ∈ ps, p = .pure ()) (w : World) :
    (tryAll ps).events w = [] := by
  induction ps with
  | nil => rfl
  | cons p rest ih =>
    obtain rfl := h p List.mem_cons_self
    rw [tryAll]
    exact (events_bind_pure w).trans (ih fun q hq => h q (List.mem_cons_of_mem _ hq))

/-- Nothing is to be done where routes are in line. -/
theorem steps_of_converged {routes : List StaticRoute} (h : Converged c.nodes routes) :
    ∀ p ∈ c.nodes.map (nodeStep c tableId (routesByNode (routes.filterMap (listed? c.nodes)))) ++
        (staleRoutes (routesByNode (routes.filterMap (listed? c.nodes))) c.nodes).map
          (deleteRoute tableId), p = .pure () := by
  intro p hp
  rcases List.mem_append.mp hp with hp | hp
  · obtain ⟨n, hn, rfl⟩ := List.mem_map.mp hp
    rw [nodeStep]
    split
    · rfl
    · rename_i cidr hcidr
      obtain ⟨hpod, ip, hip⟩ := routedCidr?_eq_some_iff.mp hcidr
      obtain ⟨r, hr, hdestination, -⟩ := h.routed n hn cidr ip hpod hip
      exact if_pos (hasOnlyRoute_listed_iff.mpr ⟨r, hr, hdestination⟩)
  · obtain ⟨d, hd, rfl⟩ := List.mem_map.mp hp
    obtain ⟨⟨r, hr, ho⟩, hgone⟩ := exists_of_stale hd
    exact absurd (h.owners r hr _ ho) hgone

/-- A pass over routes that are in line reads the table once and calls for nothing else. -/
theorem events_of_converged {routes : List StaticRoute} (h : Converged c.nodes routes)
    (hk : w.incidents.Keep (·.routes? tableId)) (hroutes : w.store.routes? tableId = some routes) :
    (reconcileRoutes c tableId c.nodes).events w = [.called w (.getRouteTable tableId)] := by
  have hsame : routes.map (refreshed c.nodes) = routes :=
    (List.map_congr_left h.fresh).trans (List.map_id _)
  have hlist : (listRoutes c tableId).events w = [.called w (.getRouteTable tableId)] := by
    rw [listRoutes_eq, events_bind_pure, rewriteRoutes, events_bind, currentRoutes,
      events_bind_pure, events_ask]
    refine (congrArg _ ?_).trans (List.append_nil _)
    split
    · rename_i before w₁ hread
      obtain ⟨-, hbefore⟩ := currentRoutes_cases hk hread
      cases (hbefore before rfl).symm.trans hroutes
      rw [events_bind_pure, storeRoutes, if_pos hsame.symm]
      rfl
    · rfl
  rw [reconcileRoutes, events_bind, hlist]
  refine (congrArg _ ?_).trans (List.append_nil _)
  split
  · rename_i listed w₁ hrun
    obtain ⟨before, hbefore, -, rfl⟩ := listRoutes_done hk hrun
    cases hbefore.symm.trans hroutes
    rw [events_bind, events_tryAll_of_pure (steps_of_converged h), List.nil_append]
    split
    · rename_i results w₂ _
      cases firstError results <;> rfl
    · rfl
  · rfl

/-! ## A pass -/

/-- A pass whose listing has succeeded tries all steps, first those of the nodes. -/
theorem pass_run (hprompt : w.Prompt) (hlist : (listRoutes c tableId).run w = (.done listed, w₁)) :
    ∃ own gone w₂ w',
      RanAll (c.nodes.map (nodeStep c tableId (routesByNode listed))) w₁ own w₂ ∧
      RanAll ((staleRoutes (routesByNode listed) c.nodes).map (deleteRoute tableId)) w₂ gone w' ∧
      (reconcileRoutes c tableId c.nodes).run w = (.ofExcept (firstError (own ++ gone)), w') := by
  have hprompt₁ := prompt_run hprompt hlist
  have hsteps : ∀ p ∈ c.nodes.map (nodeStep c tableId (routesByNode listed)), p.Returns :=
    List.forall_mem_map.mpr fun n _ => returns_nodeStep c tableId _ n
  have hdeletions : ∀ p ∈ (staleRoutes (routesByNode listed) c.nodes).map (deleteRoute tableId),
      p.Returns := List.forall_mem_map.mpr fun r _ => returns_deleteRoute tableId r
  obtain ⟨own, w₂, hown⟩ := exists_ranAll hsteps hprompt₁
  obtain ⟨gone, w', hgone⟩ := exists_ranAll hdeletions (hown.prompt hprompt₁)
  refine ⟨own, gone, w₂, w', hown, hgone, ?_⟩
  rw [reconcileRoutes, run_bind_of_done hlist, run_bind_of_done (tryAll_run (hown.append hgone))]
  exact run_ofExcept _ w'

/-- What was found for a node can be relied on once next hops are up to date. -/
theorem routed_of_found (hnames : (c.nodes.map Node.name).Nodup) {routes : List StaticRoute}
    {n : Node} (hn : n ∈ c.nodes) {cidr : String}
    (honly : hasOnlyRoute (((routesByNode (routes.filterMap (listed? c.nodes))).get?
      n.name).getD []) cidr = true)
    (hcidr : routedCidr? n = some cidr) : n.Routed (routes.map (refreshed c.nodes)) := by
  intro cidr' ip hpod hip
  obtain ⟨hpod', -⟩ := routedCidr?_eq_some_iff.mp hcidr
  cases hpod'.symm.trans hpod
  obtain ⟨r, hr, hdestination⟩ := hasOnlyRoute_listed_iff.mp honly
  have ho : r.owner? = some n.name := (mem_routesOf.mp (hr ▸ List.mem_singleton_self r)).2
  have hrefreshed := refreshed_of_address ho ((addressOf?_of_mem hnames hn).trans hip)
  refine ⟨refreshed c.nodes r, by rw [routesOf_map_refreshed, hr]; rfl, ?_, by rw [hrefreshed]⟩
  rw [destination_refreshed, hdestination]

/-- What a pass leaves behind, from the results of the steps for its nodes and of the
    deletions of routes of nodes that are gone. -/
structure PassEffect (nodes : List Node) (own gone : List (Except SyncError Unit))
    (before after : List StaticRoute) : Prop where
  routed : ∀ n, (n, .ok ()) ∈ nodes.zip own → n.Routed after
  unrouted : ∀ n ∈ nodes, n.podCidr = none →
    routesOf n.name after = (routesOf n.name before).map (refreshed nodes)
  owners : (∀ r ∈ gone, r = .ok ()) →
    ∀ r ∈ after, ∀ name, r.owner? = some name → name ∈ nodes.map Node.name

/-- The steps of a pass, one kind after the other: deletions are for nodes that are gone,
    and so they leave alone what the steps for the nodes have done. -/
theorem passEffect_of_ranAll (hnames : (c.nodes.map Node.name).Nodup)
    (hk : w₁.incidents.Keep (·.routes? tableId)) {before : List StaticRoute}
    (hroutes : w₁.store.routes? tableId = some (before.map (refreshed c.nodes)))
    (hlisted : before.filterMap (listed? c.nodes) = listed) {w₂ w' : World}
    {own gone : List (Except SyncError Unit)}
    (hown : RanAll (c.nodes.map (nodeStep c tableId (routesByNode listed))) w₁ own w₂)
    (hgone : RanAll ((staleRoutes (routesByNode listed) c.nodes).map (deleteRoute tableId))
      w₂ gone w') :
    ∃ after, w'.store.routes? tableId = some after ∧ PassEffect c.nodes own gone before after := by
  subst hlisted
  obtain ⟨routes₂, hroutes₂, hserved⟩ := nodeSteps_ran hnames (List.Subset.refl _) hnames hk hroutes
    (fun n hn cidr honly hcidr => routed_of_found hnames hn honly hcidr) hown
  obtain ⟨after, hafter, hdeleted⟩ := deletions_ran (hown.keep hk) hroutes₂ hgone
  have hkept : ∀ n ∈ c.nodes, routesOf n.name after = routesOf n.name routes₂ := by
    intro n hn
    refine hdeleted.others n.name fun hstale => ?_
    obtain ⟨d, hd, hname⟩ := List.mem_map.mp hstale
    exact (exists_of_stale hd).2 (hname ▸ List.mem_map_of_mem hn)
  refine ⟨after, hafter, ⟨fun n hn => ?_, fun n hn hpod => ?_, fun hok r hr name ho => ?_⟩⟩
  · exact (hserved.routed n hn).congr (hkept n (List.of_mem_zip hn).1)
  · have hnone : routedCidr? n = none := by rw [routedCidr?, hpod, ite_self]
    rw [hkept n hn, hserved.unrouted n hn hnone, routesOf_map_refreshed]
  · by_contra hname
    have hr : r ∈ routesOf name after := mem_routesOf.mpr ⟨hr, ho⟩
    -- a route of a node that is gone has been found, and then it has been deleted
    rcases hfound : routesOf name before with _ | ⟨q, _⟩
    · have hnil : routesOf name routes₂ = [] := by
        rw [hserved.others name hname, routesOf_map_refreshed, hfound, List.map_nil]
      rw [hdeleted.nothing_new name hnil] at hr
      cases hr
    · obtain ⟨hq, hqo⟩ := mem_routesOf.mp (hfound ▸ List.mem_cons_self)
      obtain ⟨d, hd, rfl⟩ := stale_of_owner hq hqo hname
      rw [hdeleted.gone hok d hd] at hr
      cases hr

/-- After a pass without failed steps the routes are in line. -/
theorem PassEffect.converged (hnames : (c.nodes.map Node.name).Nodup)
    {own gone : List (Except SyncError Unit)} {before after : List StaticRoute}
    (h : PassEffect c.nodes own gone before after) (hlength : own.length = c.nodes.length)
    (hown : ∀ r ∈ own, r = .ok ()) (hgone : ∀ r ∈ gone, r = .ok ()) :
    Converged c.nodes after := by
  have hrouted : ∀ n ∈ c.nodes, n.Routed after := by
    intro n hn
    rw [← List.map_fst_zip (Nat.le_of_eq hlength.symm)] at hn
    obtain ⟨⟨m, r⟩, hm, rfl⟩ := List.mem_map.mp hn
    have hr := hown r (List.of_mem_zip hm).2
    exact h.routed m (hr ▸ hm)
  refine ⟨fun r hr => ?_, hrouted, h.owners hgone⟩
  cases ho : r.owner? with
  | none => exact refreshed_of_foreign c.nodes (by rw [ho]; rfl)
  | some name =>
    obtain ⟨n, hn, rfl⟩ := List.mem_map.mp (h.owners hgone r hr name ho)
    have hr : r ∈ routesOf n.name after := mem_routesOf.mpr ⟨hr, ho⟩
    cases hip : n.internalIp? with
    | none => rw [refreshed, ho, Option.bind_some, addressOf?_of_mem hnames hn, hip]
    | some ip =>
      cases hpod : n.podCidr with
      | none =>
        rw [h.unrouted n hn hpod] at hr
        obtain ⟨q, -, rfl⟩ := List.mem_map.mp hr
        exact refreshed_idem c.nodes q
      | some cidr =>
        obtain ⟨q, hq, -, hhop⟩ := hrouted n hn cidr ip hpod hip
        rw [hq, List.mem_singleton] at hr
        rw [refreshed_of_address ho ((addressOf?_of_mem hnames hn).trans hip), hr, ← hhop]

/-- **Convergence of pod routes.** Let nodes have different names and let nobody else write
    the table. If calls return, a pass whose listing has succeeded tries the step of every
    node and then the deletion of every route whose node is gone, whatever fails, and

    * it succeeds exactly if no step has failed, and else it reports the error of the first
      step that has failed;
    * each node whose step has not failed has exactly the route that leads from its pod
      addresses to its internal address, if it has both;
    * if the pass succeeds, every route of a node is of one that is there, nodes without pod
      addresses have kept their routes, and any further pass only reads the table. -/
theorem reconcileRoutes_converges (hnames : (c.nodes.map Node.name).Nodup)
    (hk : w.incidents.Keep (·.routes? tableId)) (hprompt : w.Prompt)
    (hlist : (listRoutes c tableId).run w = (.done listed, w₁)) :
    let pass := (reconcileRoutes c tableId c.nodes).run w
    ∃ own gone w₂ before after,
      RanAll (c.nodes.map (nodeStep c tableId (routesByNode listed))) w₁ own w₂ ∧
      RanAll ((staleRoutes (routesByNode listed) c.nodes).map (deleteRoute tableId))
        w₂ gone pass.2 ∧
      w.store.routes? tableId = some before ∧ pass.2.store.routes? tableId = some after ∧
      (pass.1 = .done () ↔ ∀ r ∈ own ++ gone, r = .ok ()) ∧
      (∀ e, pass.1 = .failed e ↔ ∃ earlier later,
        own ++ gone = earlier ++ .error e :: later ∧ ∀ r ∈ earlier, r = .ok ()) ∧
      own.length = c.nodes.length ∧ (∀ n, (n, .ok ()) ∈ c.nodes.zip own → n.Routed after) ∧
      (pass.1 = .done () →
        (∀ r ∈ after, ∀ name, r.owner? = some name → name ∈ c.nodes.map Node.name) ∧
        (∀ n ∈ c.nodes, n.podCidr = none →
          routesOf n.name after = (routesOf n.name before).map (refreshed c.nodes)) ∧
        ∀ u : World, u.incidents.Keep (·.routes? tableId) →
          u.store.routes? tableId = some after →
          (reconcileRoutes c tableId c.nodes).events u = [.called u (.getRouteTable tableId)]) := by
  intro pass
  obtain ⟨before, hbefore, hroutes, hlisted⟩ := listRoutes_done hk hlist
  obtain ⟨own, gone, w₂, w', hown, hgone, hpass⟩ := pass_run hprompt hlist
  obtain ⟨after, hafter, heffect⟩ :=
    passEffect_of_ranAll hnames (keep_run hk hlist) hroutes hlisted hown hgone
  have hlength : own.length = c.nodes.length := hown.length.trans (List.length_map _)
  have hdone : pass.1 = .done () ↔ ∀ r ∈ own ++ gone, r = .ok () := by
    rw [show pass.1 = _ from congrArg Prod.fst hpass, ofExcept_eq_done_iff, firstError_eq_ok_iff]
  have hfailed : ∀ e, pass.1 = .failed e ↔ ∃ earlier later,
      own ++ gone = earlier ++ .error e :: later ∧ ∀ r ∈ earlier, r = .ok () := by
    intro e
    rw [show pass.1 = _ from congrArg Prod.fst hpass, ofExcept_eq_failed_iff,
      firstError_eq_error_iff]
  have hend : pass.2 = w' := congrArg Prod.snd hpass
  refine ⟨own, gone, w₂, before, after, hown, hend ▸ hgone, hbefore, hend ▸ hafter, hdone, hfailed,
    hlength, heffect.routed, fun h => ?_⟩
  have hok := List.forall_mem_append.mp (hdone.mp h)
  have hconverged := heffect.converged hnames hlength hok.1 hok.2
  exact ⟨hconverged.owners, heffect.unrouted, fun u hu hroutes =>
    events_of_converged hconverged hu hroutes⟩

end Runs

open Sample in
-- the update for the first node is refused, and the second node is served all the same
example :
    let pass := (reconcileRoutes podNodes "rt" podNodes.nodes).run
      { World.ofStore routeStore with incidents := refusedUpdates [false, true] }
    pass.1 = .failed (.cloud .http) ∧
      pass.2.store.routes? "rt" = some [ownedRoute "worker-0" "10.1.0.0/24" "10.0.0.5", officeRoute,
        ownedRoute "worker-0" "10.1.7.0/24" "10.0.0.5",
        ownedRoute "worker-1" "10.1.1.0/24" "10.0.0.6"] := by
  exact ⟨rfl, rfl⟩

open Sample in
/-- A pass makes one route of a node's two, keeps the route of nobody, adds a route of a
    node that had none, and removes that of a node that is gone. -/
theorem reconcileRoutes_converges_table :
    let pass := (reconcileRoutes podNodes "rt" podNodes.nodes).run (.ofStore routeStore)
    let after := [ownedRoute "worker-0" "10.1.0.0/24" "10.0.0.5", officeRoute,
      ownedRoute "worker-1" "10.1.1.0/24" "10.0.0.6"]
    pass.1 = .done () ∧ pass.2.store.routes? "rt" = some after ∧
      (reconcileRoutes podNodes "rt" podNodes.nodes).events pass.2 =
        [.called pass.2 (.getRouteTable "rt")] := by
  intro pass after
  have hk : (World.ofStore routeStore).incidents.Keep (·.routes? "rt") :=
    keep_of_no_intrusions (fun _ => rfl) _
  have hdone : pass.1 = .done () := by rfl
  have hafter : pass.2.store.routes? "rt" = some after := by rfl
  obtain ⟨own, gone, w₂, before, after', -, -, -, hafter', -, -, -, -, hsettled⟩ :=
    reconcileRoutes_converges (c := podNodes) (by decide) hk (fun m hm => by cases hm) rfl
  cases hafter.symm.trans hafter'
  obtain ⟨-, -, hreads⟩ := hsettled hdone
  exact ⟨hdone, hafter, hreads pass.2 (keep_run hk rfl) hafter⟩

end CloudSteward
