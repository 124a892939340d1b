import CloudSteward.Cluster.Effect
import CloudSteward.Proofs.Balancer.Progress
import CloudSteward.Proofs.Service.Orphan
import CloudSteward.Proofs.Service.Reconcile
import CloudSteward.Proofs.TargetGroup.Converge
import CloudSteward.Steward

/-!
# A reconciled service is left alone

A reconciliation that ends well has left the service and the cloud as it wants
them: with its own writes taken into account it describes the same balancer as
before, finds its names remembered, the balancer as described and the status as
reported, or else there is nothing left to release. So the next one only reads.

Results:

* `ensureBalancer_of_placed`: ensuring a balancer that is in place only reads.
* `reportBalancer_done`, `liftMark_done`: a service after what was written to it.
* `Steward.reconcileService_ok_iff`: a successful attempt is a run that ends well.
* `reconcileService_settles`: nothing is changed or written the second time.
-/

namespace CloudSteward

open Program

/-! ## A service after some writes -/

/-- A service after writes to it, every one of them taken. -/
def Service.written (service : Service) (l : List AnsweredWrite) : Service :=
  l.foldl (fun s x => x.1.onService s) service

theorem written_append (service : Service) (l more : List AnsweredWrite) :
    service.written (l ++ more) = (service.written l).written more :=
  List.foldl_append

section Runs

variable {s : Settings} {c : Cluster} {service : Service} {w w' : World}

theorem change_done {write : ClusterWrite} (h : (change write).run w = (.done (), w')) :
    w'.incidents = w.incidents ∧ w'.store = w.store ∧ w'.visited = w.visited := by
  have hw : (w.write write).2 = w' := congrArg Prod.snd (run_change_eq_done.mp h)
  rw [← hw, incidents_write, store_write, visited_write]
  exact ⟨rfl, rfl, rfl⟩

theorem written_change (write : ClusterWrite) (w : World) (target : Service) :
    target.written ((change write).writes w) = write.onService target := by
  rw [writes_change]
  rfl

/-- What tends a balancer writes nothing. -/
theorem writes_of_tends {α : Type} {p : Program α} (hp : p.Within (·.Tends service)) (w : World) :
    p.writes w = [] :=
  writes_eq_nil hp not_tends_write w

/-- The service reports the balancer that was ensured, whether this had to be written
    or was there. -/
theorem reportBalancer_done (target : Service)
    (h : (reportBalancer s c service).run w = (.done (), w'))
    (hstatus : target.balancerStatus = service.balancerStatus) :
    ∃ b w₁, (ensureBalancer s c.services service c.nodes).run w = (.done b, w₁) ∧
      w'.store = w₁.store ∧ w'.visited = w₁.visited ∧
      target.written ((reportBalancer s c service).writes w) =
        { target with balancerStatus := some (ingressStatus b) } := by
  obtain ⟨status, w₁, hstatus₁, h⟩ := run_bind_eq_done.mp h
  have hwrites := writes_bind_of_done hstatus₁ fun status => do
    unless service.balancerStatus = some status do
      change (.setIngress service status.ingress)
  obtain ⟨b, w₂, hensure, hb⟩ := run_bind_eq_done.mp hstatus₁
  cases hb
  refine ⟨b, w₁, hensure, ?_⟩
  rw [reportBalancer, hwrites, writes_of_tends (within_ensureLoadBalancer s _ service _),
    List.nil_append]
  split at h
  · rename_i hsame
    cases h
    rw [if_pos hsame, ← hsame, ← hstatus]
    exact ⟨rfl, rfl, rfl⟩
  · rename_i hother
    obtain ⟨-, hstore, hvisited⟩ := change_done h
    rw [if_neg hother, written_change]
    exact ⟨hstore, hvisited, rfl⟩

/-- A service that was served is marked and reports the balancer that was ensured. -/
theorem serveService_done (h : (serveService s c service).run w = (.done (), w')) :
    ∃ finalizers b w₁ w₂, cleanupFinalizer ∈ finalizers ∧ w₁.incidents = w.incidents ∧
      w₁.store = w.store ∧
      (ensureBalancer s c.services service c.nodes).run w₁ = (.done b, w₂) ∧
      w'.store = w₂.store ∧ w'.visited = w₂.visited ∧
      service.written ((serveService s c service).writes w) =
        { service with
          metadata := { service.metadata with finalizers }
          balancerStatus := some (ingressStatus b) } := by
  cases hmark : service.hasCleanupFinalizer with
  | true =>
    rw [serveService_of_marked hmark] at h ⊢
    obtain ⟨b, w₁, hensure, hstore, hvisited, hwritten⟩ := reportBalancer_done service h rfl
    have hmem : cleanupFinalizer ∈ service.metadata.finalizers := List.contains_iff_mem.mp hmark
    exact ⟨_, b, w, w₁, hmem, rfl, rfl, hensure, hstore, hvisited, hwritten⟩
  | false =>
    rw [serveService_of_unmarked hmark] at h ⊢
    obtain ⟨⟨⟩, w₁, hset, h⟩ := run_bind_eq_done.mp h
    obtain ⟨hincidents, hstore₁, -⟩ := change_done hset
    rw [writes_bind_of_done hset, written_append, written_change]
    let marked := ClusterWrite.onService (.setFinalizers service service.markedFinalizers) service
    obtain ⟨b, w₂, hensure, hstore, hvisited, hwritten⟩ := reportBalancer_done marked h rfl
    have hmem : cleanupFinalizer ∈ service.markedFinalizers := by simp [Service.markedFinalizers]
    exact ⟨_, b, w₁, w₂, hmem, hincidents, hstore₁, hensure, hstore, hvisited, hwritten⟩

/-- A service is unmarked when its mark was lifted. -/
theorem liftMark_done (h : (liftMark service).run w = (.done (), w')) :
    ∃ status, service.written ((liftMark service).writes w) =
      { service with
        metadata := { service.metadata with finalizers := service.unmarkedFinalizers }
        balancerStatus := status } := by
  rw [liftMark] at h ⊢
  split at h
  · rename_i hdeleting
    rw [if_pos hdeleting, written_change]
    exact ⟨_, rfl⟩
  · rename_i hstays
    obtain ⟨⟨⟩, w₁, hclear, h⟩ := run_bind_eq_done.mp h
    rw [if_neg hstays, writes_bind_of_done hclear, written_append, written_change, written_change]
    exact ⟨_, rfl⟩

/-! ## Ensuring what is in place -/

/-- Ensuring a balancer that is in place looks up its group and the balancer, and
    does nothing else. -/
theorem ensureBalancer_of_placed {services : List Service} {nodes : List Node}
    {spec : BalancerSpec} {group : TargetGroup} {b : Balancer} (hw : w.Calm) (hnodes : nodes ≠ [])
    (hvisited : w.visited = some (nodeNames (nodes.filter Node.isEligible)))
    (hspec : balancerSpec service s = .ok spec)
    (hgroup : w.store.groupsNamed spec.targetGroupName = [group])
    (hplaced : BalancerPlaced spec (attachmentFor spec group) b w.store) :
    (ensureBalancer s services service nodes).run w = (.done b, w.afterReads 2) := by
  rw [ensureBalancer_run hspec hnodes (syncTargetGroups_of_visited hnodes hvisited) hw hgroup,
    placeBalancer_run_of_present (calm_afterReads hw 1) hplaced.named, if_pos hplaced.type,
    convergeBalancer_of_matches hplaced.matching, afterReads_afterReads]
  rfl

/-- The nodes are not empty and their names are remembered when a balancer was
    ensured. -/
theorem visited_of_ensure_done {services : List Service} {nodes : List Node} {b : Balancer}
    (h : (ensureBalancer s services service nodes).run w = (.done b, w')) :
    nodes ≠ [] ∧ w'.visited = some (nodeNames (nodes.filter Node.isEligible)) := by
  rw [ensureBalancer_eq] at h
  obtain ⟨spec, w₁, -, h⟩ := run_bind_eq_done.mp h
  split at h
  · cases h
  · rename_i hnodes
    have hnodes : nodes ≠ [] := by simpa using hnodes
    obtain ⟨⟨⟩, w₂, hsync, h⟩ := run_bind_eq_done.mp h
    rw [visited_of_places (within_placeAttached s spec) h]
    exact ⟨hnodes, visited_of_sync_done hnodes hsync⟩

/-! ## Reconciling what is settled -/

/-- The reconciliation of a service only reads, wherever the cloud and the
    remembered names are these. -/
def Service.Rests (s : Settings) (nodes : List Node) (st : Store) (visited : Option NameSet)
    (service : Service) : Prop :=
  ∀ services w, w.Calm → w.store = st → w.visited = visited →
    ∃ n, (reconcileService s ⟨nodes, services⟩ service).run w = (.done .onChange, w.afterReads n)

theorem rests_of_plain {nodes : List Node} {st : Store} {visited : Option NameSet}
    (hactive : service.isActive = false) (hmark : service.hasCleanupFinalizer = false) :
    service.Rests s nodes st visited := by
  intro services w _ _ _
  rw [reconcileService_of_plain hactive hmark]
  exact ⟨0, rfl⟩

/-- A marked service rests if its balancer is in place and reported. -/
theorem rests_of_placed {nodes : List Node} {st : Store} {spec : BalancerSpec}
    {group : TargetGroup} {b : Balancer} (hactive : service.isActive = true)
    (hmark : service.hasCleanupFinalizer = true) (hnodes : nodes ≠ [])
    (hspec : balancerSpec service s = .ok spec)
    (hgroup : st.groupsNamed spec.targetGroupName = [group])
    (hplaced : BalancerPlaced spec (attachmentFor spec group) b st)
    (hstatus : service.balancerStatus = some (ingressStatus b)) :
    service.Rests s nodes st (some (nodeNames (nodes.filter Node.isEligible))) := by
  intro services w hw hstore hvisited
  subst hstore
  have hensure : (ensureBalancer s services service nodes).run w = (.done b, w.afterReads 2) :=
    ensureBalancer_of_placed hw hnodes hvisited hspec hgroup hplaced
  have hreport : (reportBalancer s ⟨nodes, services⟩ service).run w =
      (.done (), w.afterReads 2) := by
    have hreported : (ensureLoadBalancer s services service nodes).run w =
        (.done (ingressStatus b), w.afterReads 2) := by
      rw [ensureLoadBalancer, run_bind_of_done hensure, run_pure]
    rw [reportBalancer, run_bind_of_done hreported, if_pos hstatus, run_pure]
  rw [reconcileService_of_active hactive, serveService_of_marked hmark, run_bind_of_done hreport]
  exact ⟨2, rfl⟩

/-- A service rests after the writes of a reconciliation that has ended well. -/
theorem rests_of_reconcile_done {visit : NextVisit}
    (hgroups : w.incidents.Keep Store.targetGroups)
    (hbalancers : w.incidents.Keep Store.balancers)
    (hd : ∀ name, balancerName? service = some name →
      ∀ b ∈ w.store.balancersNamed name, b.Distinct)
    (h : (reconcileService s c service).run w = (.done visit, w')) :
    (service.written ((reconcileService s c service).writes w)).Rests s c.nodes w'.store
      w'.visited := by
  cases hactive : service.isActive with
  | true =>
    rw [reconcileService_of_active hactive] at h ⊢
    obtain ⟨⟨⟩, w₁, hserve, h⟩ := run_bind_eq_done.mp h
    cases h
    rw [writes_bind_of_done hserve, writes_pure, List.append_nil]
    obtain ⟨finalizers, b, w₁, w₂, hmem, hincidents, hstore₁, hensure, hstore, hvisited,
      hwritten⟩ := serveService_done hserve
    rw [← hincidents] at hgroups hbalancers
    rw [← hstore₁] at hd
    obtain ⟨spec, group, hspec, hgroup, hplaced⟩ :=
      ensureBalancer_done hgroups hbalancers hd hensure
    obtain ⟨hnodes, hvisited₂⟩ := visited_of_ensure_done hensure
    rw [hwritten, hstore, hvisited, hvisited₂]
    -- the description is read off parts that no write has changed
    refine rests_of_placed hactive (List.contains_iff_mem.mpr hmem) hnodes ?_ hgroup hplaced rfl
    exact hspec
  | false =>
    cases hmark : service.hasCleanupFinalizer with
    | true =>
      rw [reconcileService_of_marked hactive hmark, releaseService_eq] at h ⊢
      obtain ⟨⟨⟩, w₁, hrelease, h⟩ := run_bind_eq_done.mp h
      obtain ⟨⟨⟩, w₂, hdelete, hlift⟩ := run_bind_eq_done.mp hrelease
      obtain ⟨status, hwritten⟩ := liftMark_done hlift
      rw [writes_bind_of_done hrelease, writes_bind_of_done hdelete, writes_pure, List.append_nil,
        writes_of_tends (within_ensureLoadBalancerDeleted s _ service), List.nil_append, hwritten]
      refine rests_of_plain hactive ?_
      simp [Service.hasCleanupFinalizer, Service.unmarkedFinalizers]
    | false =>
      rw [reconcileService_of_plain hactive hmark]
      exact rests_of_plain hactive hmark

end Runs

/-! ## The steward -/

/-- An attempt without an error is a run that ends well, for a service that has a
    key. -/
theorem Steward.reconcileService_ok_iff {s s' : Steward} {service : Service} {visit : NextVisit} :
    s.reconcileService service = (some ⟨none, visit⟩, s') ↔
      ∃ key w', service.metadata.key? = some key ∧
        (CloudSteward.reconcileService s.settings s.cluster service).run s.world =
          (.done visit, w') ∧
        s' = { s with world := w', services := s.services.forget key } := by
  rw [Steward.reconcileService, Steward.run]
  dsimp only
  rcases (CloudSteward.reconcileService s.settings s.cluster service).run s.world with
    ⟨v | e | _ | _, w₁⟩
  case done =>
    cases service.metadata.key? with
    | none => simp [Outcome.byDeadline?]
    | some key =>
      simp only [Outcome.byDeadline?, settle, Attempt.ofResult, Prod.mk.injEq, Option.some.injEq,
        Attempt.mk.injEq, true_and, Outcome.done.injEq]
      constructor
      · rintro ⟨rfl, rfl⟩
        exact ⟨key, w₁, rfl, ⟨rfl, rfl⟩, rfl⟩
      · rintro ⟨_, _, rfl, ⟨rfl, rfl⟩, rfl⟩
        exact ⟨rfl, rfl⟩
  all_goals
    cases service.metadata.key? <;> simp [Outcome.byDeadline?, Attempt.ofResult]

/-- A steward for whom nothing goes wrong any more, with a new journal and perhaps
    other services in view. -/
def Steward.undisturbed (s : Steward) (services : List Service) : Steward :=
  { s with
    cluster := { s.cluster with services }
    world := { s.world with incidents := .none, refusals := [], journal := .blank } }

/-- **Fixpoint.** After a reconciliation that was successful, whatever has failed on the
    way, its writes are taken into the service and the service is reconciled again. The
    second reconciliation is successful too; it calls for no change of the cloud and
    writes nothing to the cluster, and store and remembered names are as they were. -/
theorem reconcileService_settles {s s' : Steward} {service : Service} {visit : NextVisit}
    (hgroups : s.world.incidents.Keep Store.targetGroups)
    (hbalancers : s.world.incidents.Keep Store.balancers)
    (hd : ∀ name, balancerName? service = some name →
      ∀ b ∈ s.world.store.balancersNamed name, b.Distinct)
    (h : s.reconcileService service = (some ⟨none, visit⟩, s')) (services : List Service) :
    let writes := (CloudSteward.reconcileService s.settings s.cluster service).writes s.world
    ∃ s'', (s'.undisturbed services).reconcileService (service.written writes) =
        (some ⟨none, .onChange⟩, s'') ∧
      s''.world.journal.changes = [] ∧ s''.world.journal.writes = [] ∧
      s''.world.store = s'.world.store ∧ s''.world.visited = s'.world.visited := by
  intro writes
  obtain ⟨key, w', hkey, hrun, rfl⟩ := Steward.reconcileService_ok_iff.mp h
  have hrests : (service.written writes).Rests s.settings s.cluster.nodes w'.store w'.visited :=
    rests_of_reconcile_done hgroups hbalancers hd hrun
  obtain ⟨n, hagain⟩ := hrests services
    { w' with incidents := .none, refusals := [], journal := .blank } rfl rfl rfl
  have hkey' : (service.written writes).metadata.key? = some key := by
    have hsame := (undergoes_foldl writes service).sameObject
    rw [ObjectMeta.key?, show (service.written writes).metadata.name = _ from hsame.name,
      show (service.written writes).metadata.namespaceName = _ from hsame.namespaceName]
    exact hkey
  exact ⟨_, Steward.reconcileService_ok_iff.mpr ⟨key, _, hkey', hagain, rfl⟩, rfl, rfl, rfl, rfl⟩

namespace Sample

/-- A steward for the small cluster with the outdated balancer. -/
def steward : Steward := .start settings ⟨nodes, [service]⟩ outdatedWorld

/-- The writes of the steward to the service. -/
def firstWrites : List AnsweredWrite :=
  (reconcileService settings steward.cluster service).writes steward.world

end Sample

open Sample in
/-- The outdated balancer is brought up to date with five changes and two writes, and
    then there is nothing left to do. -/
theorem reconcileService_settles_outdated :
    (steward.reconcileService service).1 = some ⟨none, .onChange⟩ ∧
      (steward.reconcileService service).2.world.journal.changes.length = 5 ∧
      firstWrites.length = 2 ∧
      ∃ s'', ((steward.reconcileService service).2.undisturbed []).reconcileService
          (service.written firstWrites) = (some ⟨none, .onChange⟩, s'') ∧
        s''.world.journal.changes = [] ∧ s''.world.journal.writes = [] := by
  have h : steward.reconcileService service =
      (some ⟨none, .onChange⟩, (steward.reconcileService service).2) := by
    rfl
  have hd : ∀ name, balancerName? service = some name →
      ∀ b ∈ steward.world.store.balancersNamed name, b.Distinct := by
    intro name hname b hb
    have hgiven : balancerName? service = some "a0f1e2d" := by decide
    have honly : steward.world.store.balancersNamed "a0f1e2d" = [outdated] := by rfl
    rw [hgiven] at hname
    cases hname
    rw [honly, List.mem_singleton] at hb
    subst hb
    exact ⟨by decide, by decide⟩
  obtain ⟨s'', hagain, hchanges, hwrites, -⟩ :=
    reconcileService_settles (keep_of_no_intrusions (fun _ => rfl) _)
      (keep_of_no_intrusions (fun _ => rfl) _) hd h []
  refine ⟨by rw [h], by decide +kernel, by decide +kernel, s'', hagain, hchanges, hwrites⟩

end CloudSteward
