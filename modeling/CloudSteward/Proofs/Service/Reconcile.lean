import CloudSteward.Proofs.Balancer.Ensure
import CloudSteward.Proofs.Events

/-!
# Reconciling a service, step by step

Besides its calls a reconciliation writes to its service alone: the reported
addresses, and the finalizers with nothing changed but the mark. It creates no
balancer of another name. The mark is set before anything is called, and it is
lifted only after the balancer was found to be gone.

Results:

* `serveService_of_unmarked`, `releaseService_eq`: when the mark is set and lifted.
* `within_reconcileService`: every step that a reconciliation may take.
* `absent_run`: no balancer of another name appears.
* `ensureLoadBalancerDeleted_done`: a release that ends well leaves no balancer of
  the name.
-/

namespace CloudSteward

open Program

/-! ## Steps -/

/-- Finalizers that are those of a service but for the mark. -/
def Service.AgreesOn (service : Service) (finalizers : List String) : Prop :=
  finalizers.filter (· != cleanupFinalizer) = service.unmarkedFinalizers

/-- What a reconciliation may write: addresses and agreeing finalizers of its own
    service. -/
def ClusterWrite.About (service : Service) : ClusterWrite → Prop
  | .setFinalizers target finalizers => target = service ∧ service.AgreesOn finalizers
  | .setIngress target _ => target = service
  | .patchNode _ _ | .setAddresses _ _ | .deleteNode _ => False

/-- A step of a sync, or one that places the balancer of a service. -/
def Action.Tends (service : Service) (a : Action) : Prop :=
  a.Syncs ∨ ∃ name, balancerName? service = some name ∧ a.Places name

/-- A step that tends the balancer of a service or reports its addresses. -/
def Action.Reports (service : Service) : Action → Prop
  | .write c => ∃ ingress, c = .setIngress service ingress
  | a => a.Tends service

/-- A step of the reconciliation of a service. -/
def Action.Reconciles (service : Service) : Action → Prop
  | .write c => c.About service
  | a => a.Tends service

section Steps

variable {service : Service} {a : Action}

theorem not_tends_write (c : ClusterWrite) : ¬ (Action.write c).Tends service := by
  rintro (h | ⟨name, -, h⟩) <;> exact h

theorem Action.Tends.reports (h : a.Tends service) : a.Reports service := by
  cases a with
  | call c => exact h
  | write c => exact absurd h (not_tends_write c)
  | remember names => exact h

theorem Action.Reports.reconciles (h : a.Reports service) : a.Reconciles service := by
  cases a with
  | call c => exact h
  | write c =>
    obtain ⟨ingress, rfl⟩ := h
    exact rfl
  | remember names => exact h

theorem agreesOn_marked (service : Service) : service.AgreesOn service.markedFinalizers := by
  rw [Service.AgreesOn, Service.markedFinalizers, Service.unmarkedFinalizers, List.filter_append]
  simp

theorem agreesOn_unmarked (service : Service) : service.AgreesOn service.unmarkedFinalizers := by
  rw [Service.AgreesOn, Service.unmarkedFinalizers, List.filter_filter]
  simp

/-! ## Parts of a reconciliation -/

/-- Ensures the balancer of a service and reports its addresses. -/
def reportBalancer (s : Settings) (c : Cluster) (service : Service) : Program Unit := do
  let status ← ensureLoadBalancer s c.services service c.nodes
  unless service.balancerStatus = some status do
    change (.setIngress service status.ingress)

theorem serveService_of_marked {s : Settings} {c : Cluster}
    (h : service.hasCleanupFinalizer = true) :
    serveService s c service = reportBalancer s c service := by
  rw [serveService, reportBalancer]
  simp only [h, if_true]

theorem serveService_of_unmarked {s : Settings} {c : Cluster}
    (h : service.hasCleanupFinalizer = false) :
    serveService s c service = (do
      change (.setFinalizers service service.markedFinalizers)
      reportBalancer s c service) := by
  rw [serveService, reportBalancer]
  simp only [h]
  rfl

/-- Lifts the mark of a service, and its reported addresses unless it goes away
    anyhow. -/
def liftMark (service : Service) : Program Unit := do
  unless service.isDeleting do
    change (.setIngress service none)
  change (.setFinalizers service service.unmarkedFinalizers)

theorem releaseService_eq (s : Settings) (services : List Service) (service : Service) :
    releaseService s services service = (do
      ensureLoadBalancerDeleted s services service
      liftMark service) := rfl

theorem reconcileService_of_active {s : Settings} {c : Cluster} (h : service.isActive = true) :
    reconcileService s c service = (do
      serveService s c service
      return .onChange) := by
  rw [reconcileService]
  simp only [h, if_true]

theorem reconcileService_of_marked {s : Settings} {c : Cluster} (ha : service.isActive = false)
    (hm : service.hasCleanupFinalizer = true) :
    reconcileService s c service = (do
      releaseService s c.services service
      return .onChange) := by
  rw [reconcileService]
  simp only [ha, hm, Bool.false_eq_true, if_false, if_true]

theorem within_ensureLoadBalancer (s : Settings) (services : List Service) (service : Service)
    (nodes : List Node) :
    (ensureLoadBalancer s services service nodes).Within (·.Tends service) := by
  refine within_bind ?_ fun _ => trivial
  rw [ensureBalancer_eq, describedBalancer]
  cases hspec : balancerSpec service s with
  | error e => cases e <;> trivial
  | ok spec =>
    have hname := (balancerSpec_eq_ok hspec).1
    show Program.Within _ (if nodes.isEmpty then _ else _)
    split
    · trivial
    · refine within_bind ((within_syncTargetGroups s services nodes).mono fun _ => .inl) fun _ => ?_
      exact (within_placeAttached s spec).mono fun _ h => .inr ⟨spec.name, hname, h⟩

theorem within_ensureLoadBalancerDeleted (s : Settings) (services : List Service)
    (service : Service) :
    (ensureLoadBalancerDeleted s services service).Within (·.Tends service) := by
  rw [ensureLoadBalancerDeleted_eq, namedBalancer]
  cases hname : balancerName? service with
  | none => trivial
  | some name =>
    show Program.Within _ (removeNamed name >>= fun _ => syncTargetGroups s services [])
    refine within_bind ((within_removeNamed name).mono fun _ h => .inr ⟨name, hname, h⟩) fun _ => ?_
    exact (within_syncTargetGroups s services []).mono fun _ => .inl

theorem within_reportBalancer (s : Settings) (c : Cluster) (service : Service) :
    (reportBalancer s c service).Within (·.Reports service) := by
  refine within_bind ((within_ensureLoadBalancer s _ service _).mono fun _ => Action.Tends.reports)
    fun status => ?_
  split
  · trivial
  · exact within_change ⟨_, rfl⟩

theorem within_liftMark (service : Service) :
    (liftMark service).Within (·.Reconciles service) := by
  have hlast : (change (.setFinalizers service service.unmarkedFinalizers)).Within
      (·.Reconciles service) := within_change ⟨rfl, agreesOn_unmarked service⟩
  rw [liftMark]
  split
  · exact hlast
  · exact within_bind (within_change rfl) fun _ => hlast

theorem callsNothing_liftMark (service : Service) :
    (liftMark service).Within Action.CallsNothing := by
  rw [liftMark]
  split
  · exact within_change trivial
  · exact within_bind (within_change trivial) fun _ => within_change trivial

/-- **Steps of a reconciliation.** It calls about target groups, and about balancers
    but creates none of another name; it writes to its service alone. -/
theorem within_reconcileService (s : Settings) (c : Cluster) (service : Service) :
    (reconcileService s c service).Within (·.Reconciles service) := by
  have hreport := (within_reportBalancer s c service).mono fun _ => Action.Reports.reconciles
  cases hactive : service.isActive with
  | true =>
    rw [reconcileService_of_active hactive]
    refine within_bind ?_ fun _ => trivial
    cases hmark : service.hasCleanupFinalizer with
    | true =>
      rw [serveService_of_marked hmark]
      exact hreport
    | false =>
      rw [serveService_of_unmarked hmark]
      exact within_bind (within_change ⟨rfl, agreesOn_marked service⟩) fun _ => hreport
  | false =>
    cases hmark : service.hasCleanupFinalizer with
    | true =>
      rw [reconcileService_of_marked hactive hmark]
      refine within_bind ?_ fun _ => trivial
      rw [releaseService_eq]
      exact within_bind ((within_ensureLoadBalancerDeleted s _ service).mono fun _ h =>
        h.reports.reconciles) fun _ => within_liftMark service
    | false =>
      rw [reconcileService_of_plain hactive hmark]
      trivial

end Steps

/-! ## Balancers of other names -/

/-- A call that creates no balancer of a name leaves the name unused. -/
theorem preserves_absent {name : String} {c : Call}
    (hc : ∀ r, c = .createBalancer r → r.name ≠ name) :
    (Action.call c).Preserves fun st => st.balancersNamed name = [] := by
  intro st hst
  rw [Store.balancersNamed_eq_nil_iff] at hst ⊢
  intro b hb
  obtain ⟨old, here, -, hname, -⟩ | ⟨r, hr, hname, -⟩ := Store.answer_origin hb
  · rw [hname]
    exact hst old here
  · rw [hname]
    exact hc r hr

theorem Action.Reconciles.preserves_absent {service : Service} {a : Action} {name : String}
    (h : a.Reconciles service) (hname : balancerName? service ≠ some name) :
    a.Preserves fun st => st.balancersNamed name = [] := by
  cases a with
  | call c =>
    refine CloudSteward.preserves_absent fun r hr hn => ?_
    subst hr
    rcases h with h | ⟨own, hown, h⟩
    · cases h
    · have hsame : r.name = own := h
      rw [hown, ← hsame, hn] at hname
      exact hname rfl
  | write c => trivial
  | remember names => trivial

section Runs

variable {s : Settings} {c : Cluster} {service : Service} {w w' : World}

/-- The reconciliation of a service creates no balancer of another name. -/
theorem absent_run {name : String} {o : Outcome NextVisit}
    (hname : balancerName? service ≠ some name) (hk : w.incidents.Keep Store.balancers)
    (habsent : w.store.balancersNamed name = [])
    (h : (reconcileService s c service).run w = (o, w')) :
    w'.store.balancersNamed name = [] := by
  have hframe := frame_preserves Store.balancers (P := fun st => st.balancersNamed name = [])
    fun {st st'} hst hsame _ => by
      rw [Store.balancersNamed, hsame]
      exact hst
  exact (run_frame hframe ((within_reconcileService s c service).mono fun _ ha =>
    ha.preserves_absent hname) h ⟨hk, habsent⟩).2

/-! ## Removing a balancer -/

/-- A deletion that fails because there is no balancer is right about that. -/
def Event.truthful : Event → Bool
  | .called w (.deleteBalancer id) =>
    match w.answer (.deleteBalancer id) with
    | (some (.error e), w') => !e.isNotFound || (w'.store.balancers.get? id).isNone
    | _ => true
  | _ => true

/-- A removal that ends well takes away the balancer of the id and no other. -/
theorem removeBalancer_done {id : String} (hk : w.incidents.Keep Store.balancers)
    (htruth : ∀ e ∈ (removeBalancer id).events w, e.truthful = true)
    (h : (removeBalancer id).run w = (.done (), w')) :
    w'.store.balancers = w.store.balancers.erase id := by
  obtain ⟨reply, w₁, ha, h⟩ := run_bind_eq_done.mp h
  have ha := run_answer_eq_done.mp ha
  cases reply with
  | ok _ =>
    cases h
    exact deleteBalancer_done hk ha
  | error e =>
    dsimp only at h
    split at h
    · rename_i hgone
      cases h
      have hfree := htruth _ (mem_events_bind_left (mem_events_answer (.deleteBalancer id) w) _)
      simp only [Event.truthful, ha, hgone, Bool.not_true, Bool.false_or, Option.isNone_iff_eq_none]
        at hfree
      -- the deletion has failed, so the store is as the call has met it
      have hsame : w'.store.balancers = w.store.balancers := by
        rcases answer_eq_error ha with hs | hs
        · rw [hs, part_met hk]
        · cases congrArg Prod.fst hs
      rw [← hsame]
      exact (Inventory.erase_of_get?_eq_none hfree).symm
    · cases h

/-- Deleting the balancer of a name leaves the name unused if it ends well. -/
theorem removeNamed_done {name : String} (hk : w.incidents.Keep Store.balancers)
    (htruth : ∀ e ∈ (removeNamed name).events w, e.truthful = true)
    (h : (removeNamed name).run w = (.done (), w')) :
    w'.store.balancersNamed name = [] := by
  obtain ⟨found, w₁, hfind, h⟩ := run_bind_eq_done.mp h
  obtain ⟨hsame, hnamed⟩ := findBalancer_done (hk _) hfind
  rw [Store.balancersNamed, ← hsame] at hnamed
  cases found with
  | none =>
    cases h
    exact hnamed
  | some b =>
    have hremoved := removeBalancer_done (keep_run hk hfind)
      (fun e he => htruth e (mem_events_bind_right hfind he)) h
    exact Store.balancersNamed_erase hnamed hremoved

/-- Releasing the balancer of a service leaves its name unused if it ends well. -/
theorem ensureLoadBalancerDeleted_done {services : List Service} {name : String}
    (hname : balancerName? service = some name) (hk : w.incidents.Keep Store.balancers)
    (htruth : ∀ e ∈ (ensureLoadBalancerDeleted s services service).events w, e.truthful = true)
    (h : (ensureLoadBalancerDeleted s services service).run w = (.done (), w')) :
    w'.store.balancersNamed name = [] := by
  rw [ensureLoadBalancerDeleted_eq] at h htruth
  obtain ⟨own, w₁, hown, h⟩ := run_bind_eq_done.mp h
  obtain ⟨⟨⟩, w₂, hremove, hsync⟩ := run_bind_eq_done.mp h
  have htruth₁ : ∀ e ∈ (removeNamed own).events w₁, e.truthful = true := fun e he =>
    htruth e (mem_events_bind_right hown (mem_events_bind_left he _))
  obtain ⟨hsame, rfl⟩ := namedBalancer_done hown
  cases hname.symm.trans hsame
  rw [Store.balancersNamed, balancers_syncTargetGroups (keep_run hk hremove) hsync]
  exact removeNamed_done hk htruth₁ hremove

end Runs

end CloudSteward
