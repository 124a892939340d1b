import CloudSteward.Proofs.Calm
import CloudSteward.Proofs.Route.Rewrite
import Mathlib.Data.List.Nodup

/-!
# Steps that are tried one after another

In a pass over the nodes each step is tried, whatever becomes of the others. A step is
about the routes of one node, and it fails without effect or does what it is for. Where
the nodes have different names, no step undoes what another has done.

Results:

* `World.Prompt`, `Program.Returns`: programs that end where every call returns.
* `RanAll`: several programs run one after another, with what became of each;
  `tryAll_run`, `exists_ranAll`.
* `nodeStep_effect`, `deleteRoute_effect`: what one step does to the table.
* `nodeSteps_ran`, `deletions_ran`: what all steps of a kind do to it, by induction on
  the steps.
-/

namespace CloudSteward

open Program

variable {α β : Type}

/-! ## Programs that return -/

/-- Every call returns. -/
def World.Prompt (w : World) : Prop := ∀ m, true ∉ w.incidents.hangs m

/-- The outcome of a program that ends with a result or an error. -/
def Outcome.ofExcept : Except SyncError α → Outcome α
  | .ok a => .done a
  | .error e => .failed e

theorem ofExcept_eq_done_iff {x : Except SyncError Unit} :
    Outcome.ofExcept x = .done () ↔ x = .ok () := by
  cases x <;> simp [Outcome.ofExcept]

theorem ofExcept_eq_failed_iff {x : Except SyncError Unit} {e : SyncError} :
    Outcome.ofExcept x = .failed e ↔ x = .error e := by
  cases x <;> simp [Outcome.ofExcept]

theorem hangs_answer (w : World) (c : Call) (m : Method) :
    (w.answer c).2.incidents.hangs m <:+ w.incidents.hangs m := by
  have hdrop : World.dropHead c.method w.incidents.hangs m <:+ w.incidents.hangs m := by
    rw [World.dropHead]
    split
    · exact List.tail_suffix _
    · exact List.suffix_refl _
  rcases answer_ways w c with h | ⟨e, h⟩ | h <;> rw [h] <;> exact hdrop

theorem prompt_run {p : Program α} {w w' : World} {o : Outcome α} (hw : w.Prompt)
    (h : p.run w = (o, w')) : w'.Prompt := by
  have hframe : Frame (fun w w' => w.Prompt → w'.Prompt) fun _ => True :=
    { refl := fun _ => id
      trans := fun h₁ h₂ hw => h₂ (h₁ hw)
      call := fun w c _ hw m hm => hw m ((hangs_answer w c m).subset hm)
      write := fun w c _ hw => by rwa [World.Prompt, incidents_write]
      remember := fun _ _ _ hw => hw }
  exact run_frame hframe (within_of_forall (fun _ => trivial) p) h hw

/-- Where every call returns the program ends with a result or an error. -/
def Program.Returns (p : Program α) : Prop :=
  ∀ w, w.Prompt → ∃ r w', p.run w = (.ofExcept r, w')

theorem returns_pure (a : α) : (Pure.pure a : Program α).Returns := fun w _ => ⟨.ok a, w, rfl⟩

theorem run_ofExcept (x : Except SyncError α) (w : World) :
    (ofExcept x).run w = (.ofExcept x, w) := by
  cases x <;> rfl

theorem returns_ofExcept (x : Except SyncError α) : (ofExcept x).Returns :=
  fun w _ => ⟨x, w, run_ofExcept x w⟩

theorem returns_ask (c : Call) : (ask c).Returns := by
  intro w hw
  have hanswered : (w.answer c).1 ≠ none := by
    rw [answer_eq, if_neg]
    · split <;> simp
    · intro hhang
      refine hw c.method ?_
      cases hq : w.incidents.hangs c.method with
      | nil =>
        rw [hq] at hhang
        cases hhang
      | cons b rest =>
        rw [hq] at hhang
        rw [show b = true from hhang]
        exact List.mem_cons_self
  rw [ask, Program.run]
  rcases ha : w.answer c with ⟨_ | e | r, w₁⟩
  · rw [ha] at hanswered
    exact absurd rfl hanswered
  · exact ⟨.error (.cloud e), w₁, rfl⟩
  · exact ⟨.ok r, w₁, rfl⟩

theorem returns_bind {p : Program α} {f : α → Program β} (hp : p.Returns)
    (hf : ∀ a, (f a).Returns) : (p >>= f).Returns := by
  intro w hw
  obtain ⟨r, w₁, hrun⟩ := hp w hw
  cases r with
  | error e => exact ⟨.error e, w₁, run_bind_of_failed hrun⟩
  | ok a =>
    obtain ⟨r, w', h⟩ := hf a w₁ (prompt_run hw hrun)
    exact ⟨r, w', (run_bind_of_done hrun).trans h⟩

/-! ## Trying each of several programs -/

/-- Several programs have run one after another, whatever has become of each. -/
inductive RanAll : List (Program Unit) → World → List (Except SyncError Unit) → World → Prop
  | nil (w : World) : RanAll [] w [] w
  | cons {p : Program Unit} {rest : List (Program Unit)} {w w₁ w' : World}
      {r : Except SyncError Unit} {results : List (Except SyncError Unit)}
      (first : p.run w = (.ofExcept r, w₁)) (others : RanAll rest w₁ results w') :
      RanAll (p :: rest) w (r :: results) w'

theorem RanAll.append {ps qs : List (Program Unit)} {w w₁ w' : World}
    {rs ss : List (Except SyncError Unit)} (h₁ : RanAll ps w rs w₁) (h₂ : RanAll qs w₁ ss w') :
    RanAll (ps ++ qs) w (rs ++ ss) w' := by
  induction h₁ with
  | nil => exact h₂
  | cons first _ ih => exact .cons first (ih h₂)

theorem RanAll.length {ps : List (Program Unit)} {w w' : World} {rs : List (Except SyncError Unit)}
    (h : RanAll ps w rs w') : rs.length = ps.length := by
  induction h with
  | nil => rfl
  | cons _ _ ih => rw [List.length_cons, ih, List.length_cons]

theorem RanAll.keep {κ : Type} {part : Store → κ} {ps : List (Program Unit)} {w w' : World}
    {rs : List (Except SyncError Unit)} (h : RanAll ps w rs w') (hk : w.incidents.Keep part) :
    w'.incidents.Keep part := by
  induction h with
  | nil => exact hk
  | cons first _ ih => exact ih (keep_run hk first)

theorem RanAll.prompt {ps : List (Program Unit)} {w w' : World}
    {rs : List (Except SyncError Unit)} (h : RanAll ps w rs w') (hw : w.Prompt) : w'.Prompt := by
  induction h with
  | nil => exact hw
  | cons first _ ih => exact ih (prompt_run hw first)

/-- Trying programs gives what has become of each. -/
theorem tryAll_run {ps : List (Program Unit)} {w w' : World} {rs : List (Except SyncError Unit)}
    (h : RanAll ps w rs w') : (tryAll ps).run w = (.done rs, w') := by
  induction h with
  | nil => rfl
  | @cons p rest w w₁ w' r results first _ ih =>
    have hattempt : p.attempt.run w = (.done r, w₁) := by
      rw [run_attempt, first]
      cases r <;> rfl
    rw [tryAll]
    exact run_bind_eq_done.mpr ⟨r, w₁, hattempt, run_bind_eq_done.mpr ⟨results, w', ih, rfl⟩⟩

/-- Programs that return can all be run one after another. -/
theorem exists_ranAll {ps : List (Program Unit)} (hp : ∀ p ∈ ps, p.Returns) {w : World}
    (hw : w.Prompt) : ∃ rs w', RanAll ps w rs w' := by
  induction ps generalizing w with
  | nil => exact ⟨[], w, .nil w⟩
  | cons p rest ih =>
    obtain ⟨r, w₁, hrun⟩ := hp p List.mem_cons_self w hw
    obtain ⟨rs, w', hrest⟩ := ih (fun q hq => hp q (List.mem_cons_of_mem p hq)) (prompt_run hw hrun)
    exact ⟨r :: rs, w', .cons hrun hrest⟩

/-- No error is reported exactly if no step has failed. -/
theorem firstError_eq_ok_iff {rs : List (Except SyncError Unit)} :
    firstError rs = .ok () ↔ ∀ r ∈ rs, r = .ok () := by
  induction rs with
  | nil => simp [firstError]
  | cons r rest ih =>
    cases r with
    | ok u => simp [firstError, ih]
    | error e => simp [firstError]

/-- The error of the first step that has failed is reported. -/
theorem firstError_eq_error_iff {rs : List (Except SyncError Unit)} {e : SyncError} :
    firstError rs = .error e ↔
      ∃ before after, rs = before ++ .error e :: after ∧ ∀ r ∈ before, r = .ok () := by
  constructor
  · intro h
    induction rs with
    | nil => cases h
    | cons r rest ih =>
      cases r with
      | ok u =>
        obtain ⟨before, after, hrest, hok⟩ := ih h
        refine ⟨.ok () :: before, after, by rw [hrest]; rfl, fun r hr => ?_⟩
        rcases List.mem_cons.mp hr with rfl | hr
        · rfl
        · exact hok r hr
      | error e' =>
        cases h
        exact ⟨[], rest, rfl, by simp⟩
  · rintro ⟨before, after, rfl, hok⟩
    rw [firstError_append, firstError_eq_ok_iff.mpr hok]
    rfl

/-! ## One step -/

theorem returns_rewriteRoutes (tableId : String) (make : List StaticRoute → List StaticRoute) :
    (rewriteRoutes tableId make).Returns := by
  refine returns_bind (returns_bind (returns_ask _) fun _ => returns_pure _) fun before => ?_
  refine returns_bind ?_ fun _ => returns_pure _
  rw [storeRoutes]
  split
  · exact returns_pure ()
  · exact returns_bind (returns_ask _) fun _ => returns_pure ()

theorem returns_nodeStep (c : Cluster) (tableId : String) (found : SortedMap String (List Route))
    (n : Node) : (nodeStep c tableId found n).Returns := by
  rw [nodeStep]
  split
  · exact returns_pure ()
  · split
    · exact returns_pure ()
    · rw [putRoute_eq]
      refine returns_bind (returns_ofExcept _) fun _ => ?_
      exact returns_bind (returns_rewriteRoutes _ _) fun _ => returns_pure ()

theorem returns_deleteRoute (tableId : String) (r : Route) : (deleteRoute tableId r).Returns := by
  rw [deleteRoute_eq]
  exact returns_bind (returns_rewriteRoutes _ _) fun _ => returns_pure ()

/-- A node with pod addresses and an internal address has exactly the route that leads the
    one to the other. -/
def Node.Routed (n : Node) (routes : List StaticRoute) : Prop :=
  ∀ cidr ip, n.podCidr = some cidr → n.internalIp? = some ip →
    ∃ r, routesOf n.name routes = [r] ∧ r.destination = cidr ∧ r.nextHop = ip

theorem Node.Routed.congr {n : Node} {routes routes' : List StaticRoute} (h : n.Routed routes)
    (hsame : routesOf n.name routes' = routesOf n.name routes) : n.Routed routes' := by
  intro cidr ip hcidr hip
  rw [hsame]
  exact h cidr ip hcidr hip

theorem routedCidr?_eq_some_iff {n : Node} {cidr : String} :
    routedCidr? n = some cidr ↔ n.podCidr = some cidr ∧ ∃ ip, n.internalIp? = some ip := by
  rw [routedCidr?]
  cases n.internalIp? <;> simp

/-- What the step of a node does to the routes of a table, if the routes that were found
    are these. -/
inductive StepEffect (found : SortedMap String (List Route)) (n : Node)
    (r : Except SyncError Unit) (routes routes' : List StaticRoute) : Prop
  | unrouted (none : routedCidr? n = none) (same : routes' = routes)
  | upToDate (cidr : String) (routed : routedCidr? n = some cidr)
      (only : hasOnlyRoute ((found.get? n.name).getD []) cidr = true) (same : routes' = routes)
  | failed (e : SyncError) (h : r = .error e) (same : routes' = routes)
  | put (cidr ip : String) (cidr_eq : n.podCidr = some cidr) (ip_eq : n.internalIp? = some ip)
      (h : routes' = upsert n.name cidr ip routes)

section Steps

variable {c : Cluster} {tableId : String} {found : SortedMap String (List Route)}
  {w w' : World} {r : Except SyncError Unit} {routes routes' : List StaticRoute}

/-- A node is found by its name if no other has it. -/
theorem node?_of_mem (hnames : (c.nodes.map Node.name).Nodup) {n : Node} (hn : n ∈ c.nodes) :
    c.node? n.name = some n := by
  rw [Cluster.node?]
  cases hfound : c.nodes.find? (·.name == n.name) with
  | none => exact absurd (List.find?_eq_none.mp hfound n hn) (by simp)
  | some found =>
    have hname : found.name = n.name := by simpa using List.find?_some hfound
    rw [List.inj_on_of_nodup_map hnames (List.mem_of_find?_eq_some hfound) hn hname]

/-- The step of a node fails without effect or does what it is for. -/
theorem nodeStep_effect (hnames : (c.nodes.map Node.name).Nodup) {n : Node} (hn : n ∈ c.nodes)
    (hk : w.incidents.Keep (·.routes? tableId)) (hroutes : w.store.routes? tableId = some routes)
    (h : (nodeStep c tableId found n).run w = (.ofExcept r, w')) :
    ∃ routes', w'.store.routes? tableId = some routes' ∧ StepEffect found n r routes routes' := by
  rw [nodeStep] at h
  split at h
  · rename_i hnone
    obtain ⟨-, rfl⟩ := Prod.mk.inj h
    exact ⟨routes, hroutes, .unrouted hnone rfl⟩
  · rename_i cidr hcidr
    split at h
    · rename_i honly
      obtain ⟨-, rfl⟩ := Prod.mk.inj h
      exact ⟨routes, hroutes, .upToDate cidr hcidr honly rfl⟩
    · obtain ⟨hpod, ip, hip⟩ := routedCidr?_eq_some_iff.mp hcidr
      have hhop : nextHopOf c (routeFor n.name cidr).targetNode = .ok ip := by
        rw [nextHopOf, routeFor, node?_of_mem hnames hn]
        simp only [hip]
      rw [putRoute_eq, hhop] at h
      obtain ⟨o, hrun, ho⟩ := run_bind_pure h
      rcases rewriteRoutes_cases hk hrun with ⟨hfailed, hsame⟩ | ⟨before, -, hbefore, hafter⟩
      · refine ⟨routes, hsame.trans hroutes, ?_⟩
        rw [hfailed] at ho
        cases r with
        | ok u => cases ho
        | error e => exact .failed e rfl rfl
      · cases hbefore.symm.trans hroutes
        exact ⟨_, hafter, .put cidr ip hpod hip rfl⟩

/-- A step leaves the routes of all others alone. -/
theorem StepEffect.others {n : Node} (h : StepEffect found n r routes routes') :
    withoutRoutesOf n.name routes' = withoutRoutesOf n.name routes := by
  cases h with
  | unrouted _ same => rw [same]
  | upToDate _ _ _ same => rw [same]
  | failed _ _ same => rw [same]
  | put cidr ip _ _ h => rw [h, foreign_upsert]

/-- The step of a node that is to have no route does nothing. -/
theorem StepEffect.same {n : Node} (h : StepEffect found n r routes routes')
    (hnone : routedCidr? n = none) : routes' = routes := by
  cases h with
  | unrouted _ same => exact same
  | upToDate _ _ _ same => exact same
  | failed _ _ same => exact same
  | put cidr ip hcidr hip _ =>
    rw [routedCidr?_eq_some_iff.mpr ⟨hcidr, ip, hip⟩] at hnone
    cases hnone

/-- After a step that has not failed the node is routed, if what was found can be relied on. -/
theorem StepEffect.routed {n : Node} (h : StepEffect found n (.ok ()) routes routes')
    (hfound : ∀ cidr, hasOnlyRoute ((found.get? n.name).getD []) cidr = true →
      routedCidr? n = some cidr → n.Routed routes) : n.Routed routes' := by
  cases h with
  | unrouted hnone _ =>
    intro cidr ip hcidr hip
    rw [routedCidr?_eq_some_iff.mpr ⟨hcidr, ip, hip⟩] at hnone
    cases hnone
  | upToDate cidr hcidr honly same =>
    rw [same]
    exact hfound cidr honly hcidr
  | failed _ h _ => cases h
  | put cidr ip hcidr hip h =>
    intro cidr' ip' hcidr' hip'
    cases hcidr.symm.trans hcidr'
    cases hip.symm.trans hip'
    exact ⟨ownedRoute n.name cidr ip, by rw [h, routesOf_upsert], rfl, rfl⟩

/-- A deletion fails without effect or removes the routes of its node. -/
theorem deleteRoute_effect {d : Route} (hk : w.incidents.Keep (·.routes? tableId))
    (hroutes : w.store.routes? tableId = some routes)
    (h : (deleteRoute tableId d).run w = (.ofExcept r, w')) :
    ((∃ e, r = .error e) ∧ w'.store.routes? tableId = some routes) ∨
      (r = .ok () ∧ w'.store.routes? tableId = some (withoutRoutesOf d.targetNode routes)) := by
  rw [deleteRoute_eq] at h
  obtain ⟨o, hrun, ho⟩ := run_bind_pure h
  rcases rewriteRoutes_cases hk hrun with ⟨hfailed, hsame⟩ | ⟨before, hdone, hbefore, hafter⟩
  · rw [hfailed] at ho
    cases r with
    | ok u => cases ho
    | error e => exact .inl ⟨⟨e, rfl⟩, hsame.trans hroutes⟩
  · cases hbefore.symm.trans hroutes
    rw [hdone] at ho
    cases r with
    | ok u => exact .inr ⟨rfl, hafter⟩
    | error e => cases ho

/-! ## All steps of a kind -/

/-- What the steps of some nodes leave of the routes that they began with. -/
structure NodesServed (nodes : List Node) (results : List (Except SyncError Unit))
    (routes routes' : List StaticRoute) : Prop where
  others : ∀ name, name ∉ nodes.map Node.name → routesOf name routes' = routesOf name routes
  unrouted : ∀ n ∈ nodes, routedCidr? n = none →
    routesOf n.name routes' = routesOf n.name routes
  routed : ∀ n, (n, .ok ()) ∈ nodes.zip results → n.Routed routes'

/-- The steps of nodes of different names, by induction on the nodes: each begins with the
    node's routes as they were found, because none before it has touched them. -/
theorem nodeSteps_ran (hnames : (c.nodes.map Node.name).Nodup) {nodes : List Node}
    (hsub : nodes ⊆ c.nodes) (hnodup : (nodes.map Node.name).Nodup)
    {results : List (Except SyncError Unit)} (hk : w.incidents.Keep (·.routes? tableId))
    (hroutes : w.store.routes? tableId = some routes)
    (hfound : ∀ n ∈ nodes, ∀ cidr, hasOnlyRoute ((found.get? n.name).getD []) cidr = true →
      routedCidr? n = some cidr → n.Routed routes)
    (h : RanAll (nodes.map (nodeStep c tableId found)) w results w') :
    ∃ routes', w'.store.routes? tableId = some routes' ∧
      NodesServed nodes results routes routes' := by
  induction nodes generalizing w routes results with
  | nil =>
    cases h
    refine ⟨routes, hroutes, fun _ _ => rfl, fun n hn => ?_, fun n hn => ?_⟩
    · cases hn
    · cases hn
  | cons n rest ih =>
    obtain ⟨hnew, hnodup⟩ := List.nodup_cons.mp hnodup
    cases h with
    | @cons _ _ _ w₁ _ r results first others =>
    obtain ⟨routes₁, hroutes₁, heffect⟩ :=
      nodeStep_effect hnames (hsub List.mem_cons_self) hk hroutes first
    have hother : ∀ name, name ≠ n.name → routesOf name routes₁ = routesOf name routes :=
      fun name hne => routesOf_congr heffect.others hne
    have hne : ∀ m ∈ rest, m.name ≠ n.name := fun m hm hname =>
      hnew (List.mem_map.mpr ⟨m, hm, hname⟩)
    obtain ⟨routes', hroutes', hserved⟩ := ih (fun m hm => hsub (List.mem_cons_of_mem n hm)) hnodup
      (keep_run hk first) hroutes₁
      (fun m hm cidr honly hcidr => (hfound m (List.mem_cons_of_mem n hm) cidr honly hcidr).congr
        (hother m.name (hne m hm))) others
    refine ⟨routes', hroutes', ⟨fun name hname => ?_, fun m hm hnone => ?_, fun m hm => ?_⟩⟩
    · rw [List.map_cons, List.mem_cons, not_or] at hname
      rw [hserved.others name hname.2, hother name hname.1]
    · rcases List.mem_cons.mp hm with rfl | hm
      · rw [hserved.others m.name hnew, heffect.same hnone]
      · rw [hserved.unrouted m hm hnone, hother m.name (hne m hm)]
    · rw [List.zip_cons_cons, List.mem_cons] at hm
      rcases hm with hm | hm
      · obtain ⟨rfl, rfl⟩ := Prod.mk.inj hm
        exact (heffect.routed (hfound m List.mem_cons_self)).congr (hserved.others m.name hnew)
      · exact hserved.routed m hm

/-- What deletions leave of the routes that they began with. -/
structure RoutesDeleted (deleted : List Route) (results : List (Except SyncError Unit))
    (routes routes' : List StaticRoute) : Prop where
  others : ∀ name, name ∉ deleted.map (·.targetNode) →
    routesOf name routes' = routesOf name routes
  nothing_new : ∀ name, routesOf name routes = [] → routesOf name routes' = []
  gone : (∀ r ∈ results, r = .ok ()) → ∀ d ∈ deleted, routesOf d.targetNode routes' = []

theorem routesOf_withoutRoutesOf_nil {name : String} (h : routesOf name routes = [])
    (other : String) : routesOf name (withoutRoutesOf other routes) = [] := by
  by_cases hne : name = other
  · rw [hne, routesOf_withoutRoutesOf_self]
  · rw [routesOf_withoutRoutesOf hne, h]

/-- Deletions, by induction on the routes that are deleted. -/
theorem deletions_ran {deleted : List Route} {results : List (Except SyncError Unit)}
    (hk : w.incidents.Keep (·.routes? tableId)) (hroutes : w.store.routes? tableId = some routes)
    (h : RanAll (deleted.map (deleteRoute tableId)) w results w') :
    ∃ routes', w'.store.routes? tableId = some routes' ∧
      RoutesDeleted deleted results routes routes' := by
  induction deleted generalizing w routes results with
  | nil =>
    cases h
    refine ⟨routes, hroutes, fun _ _ => rfl, fun _ h => h, fun _ d hd => ?_⟩
    cases hd
  | cons d rest ih =>
    cases h with
    | @cons _ _ _ w₁ _ r results first others =>
    have hk₁ := keep_run hk first
    rcases deleteRoute_effect hk hroutes first with ⟨⟨e, rfl⟩, hroutes₁⟩ | ⟨rfl, hroutes₁⟩
    · obtain ⟨routes', hroutes', hdeleted⟩ := ih hk₁ hroutes₁ others
      refine ⟨routes', hroutes', ⟨fun name hname => hdeleted.others name fun hmem => ?_,
        hdeleted.nothing_new, fun hok => ?_⟩⟩
      · exact hname (List.mem_cons_of_mem _ hmem)
      · cases hok _ List.mem_cons_self
    · obtain ⟨routes', hroutes', hdeleted⟩ := ih hk₁ hroutes₁ others
      refine ⟨routes', hroutes', ⟨fun name hname => ?_, fun name hnil => ?_, fun hok x hx => ?_⟩⟩
      · rw [List.map_cons, List.mem_cons, not_or] at hname
        rw [hdeleted.others name hname.2, routesOf_withoutRoutesOf hname.1]
      · exact hdeleted.nothing_new name (routesOf_withoutRoutesOf_nil hnil d.targetNode)
      · rcases List.mem_cons.mp hx with rfl | hx
        · exact hdeleted.nothing_new _ (routesOf_withoutRoutesOf_self _ _)
        · exact hdeleted.gone (fun r hr => hok r (List.mem_cons_of_mem _ hr)) x hx

end Steps

end CloudSteward
