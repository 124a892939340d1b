import CloudSteward.Cluster.Effect
import CloudSteward.Proofs.Service.Reconcile
import Mathlib.Data.List.Pairwise
import Mathlib.Logic.Relation

/-!
# No balancer without its service

Services are edited and deleted by users and reconciled one at a time, and any
call or write of a reconciliation may fail or never return. A service that is
deleted stays as long as it has finalizers. Whatever happens, the balancer of a
service is never left behind: as long as there is one, there is the service, and
it has the mark.

Results:

* `Undergoes.finalizers`: finalizers change only by writes of finalizers.
* `reconcileService_guards`: the mark and the balancer after one reconciliation.
* `Site.Sound.step`: every step of the system keeps the invariant.
* `no_orphaned_balancer`: what holds in every state that can be reached.
-/

namespace CloudSteward

open Program

/-! ## What writes make of a service -/

/-- What a service becomes by writes, in their order. A write that is answered with
    an error may have had its effect nevertheless. -/
inductive Undergoes : List AnsweredWrite → Service → Service → Prop
  | done (service : Service) : Undergoes [] service service
  | took {c : ClusterWrite} {r : Except WriteError Unit} {rest : List AnsweredWrite}
      {service result : Service} (h : Undergoes rest (c.onService service) result) :
      Undergoes ((c, r) :: rest) service result
  | lost {c : ClusterWrite} {e : WriteError} {rest : List AnsweredWrite}
      {service result : Service} (h : Undergoes rest service result) :
      Undergoes ((c, .error e) :: rest) service result

/-- One object, perhaps at two times. -/
structure Service.SameObject (a b : Service) : Prop where
  uid : b.metadata.uid = a.metadata.uid
  name : b.metadata.name = a.metadata.name
  namespaceName : b.metadata.namespaceName = a.metadata.namespaceName

theorem Service.SameObject.refl (a : Service) : a.SameObject a := ⟨rfl, rfl, rfl⟩

theorem Service.SameObject.trans {a b c : Service} (h₁ : a.SameObject b) (h₂ : b.SameObject c) :
    a.SameObject c :=
  ⟨h₂.uid.trans h₁.uid, h₂.name.trans h₁.name, h₂.namespaceName.trans h₁.namespaceName⟩

theorem Service.SameObject.balancerName {a b : Service} (h : a.SameObject b) :
    balancerName? b = balancerName? a := by
  rw [balancerName?, balancerName?, h.uid]

section Undergoes

variable {l : List AnsweredWrite} {service result : Service}

/-- The effects of the writes when every one of them is taken. -/
theorem undergoes_foldl (l : List AnsweredWrite) (service : Service) :
    Undergoes l service (l.foldl (fun s x => x.1.onService s) service) := by
  induction l generalizing service with
  | nil => exact .done service
  | cons x rest ih => exact .took (ih _)

theorem Undergoes.sameObject (h : Undergoes l service result) : service.SameObject result := by
  induction h with
  | done service => exact .refl service
  | @took c r rest service result h ih =>
    have hwrite : service.SameObject (c.onService service) := by
      cases c <;> exact ⟨rfl, rfl, rfl⟩
    exact hwrite.trans ih
  | lost h ih => exact ih

/-- Finalizers change only by writes of finalizers. -/
theorem Undergoes.finalizers (h : Undergoes l service result)
    (hl : ∀ x ∈ l, ∃ target ingress, x.1 = .setIngress target ingress) :
    result.metadata.finalizers = service.metadata.finalizers := by
  induction h with
  | done service => rfl
  | @took c r rest service result h ih =>
    obtain ⟨target, ingress, rfl⟩ : ∃ target ingress, c = .setIngress target ingress :=
      hl _ List.mem_cons_self
    exact ih fun x hx => hl x (List.mem_cons_of_mem _ hx)
  | lost h ih => exact ih fun x hx => hl x (List.mem_cons_of_mem _ hx)

end Undergoes

section Runs

variable {s : Settings} {c : Cluster} {service result : Service} {name : String} {w w' : World}

/-! ## One reconciliation -/

/-- How a reconciliation leaves the balancer of a service. -/
inductive Guarded (name : String) (service result : Service) (w w' : World) : Prop
  | marked (h : result.hasCleanupFinalizer = true)
  | absent (h : w'.store.balancersNamed name = [])
  | untouched (hmark : service.hasCleanupFinalizer = false)
      (hsame : w'.store.balancers = w.store.balancers)

theorem marked_of_finalizers (h : result.metadata.finalizers = service.metadata.finalizers)
    (hmark : service.hasCleanupFinalizer = true) : result.hasCleanupFinalizer = true := by
  rwa [Service.hasCleanupFinalizer, h]

/-- Reporting addresses leaves a marked service marked. -/
theorem marked_of_reportBalancer {current : Service} (hmark : current.hasCleanupFinalizer = true)
    (hu : Undergoes ((reportBalancer s c service).writes w) current result) :
    result.hasCleanupFinalizer = true := by
  refine marked_of_finalizers (hu.finalizers fun x hx => ?_) hmark
  obtain ⟨w₁, write, he, rfl⟩ := mem_writes_iff.mp hx
  obtain ⟨ingress, hwrite⟩ := permitted_of_mem_events (within_reportBalancer s c service) he
  exact ⟨service, ingress, hwrite⟩

theorem serveService_guards {o : Outcome Unit}
    (hu : Undergoes ((serveService s c service).writes w) service result)
    (h : (serveService s c service).run w = (o, w')) : Guarded name service result w w' := by
  cases hmark : service.hasCleanupFinalizer with
  | true =>
    rw [serveService_of_marked hmark] at hu
    exact .marked (marked_of_reportBalancer hmark hu)
  | false =>
    rw [serveService_of_unmarked hmark] at h hu
    rcases run_bind_cases h with ⟨-, o₁, hfirst, -⟩ | ⟨_, w₁, hfirst, h⟩
    · -- the mark could not be set, and nothing has been called
      refine .untouched hmark ?_
      rw [store_run (within_change trivial) hfirst]
    · rw [writes_bind_of_done hfirst, writes_change, run_change_eq_done.mp hfirst] at hu
      have hset : ((ClusterWrite.setFinalizers service service.markedFinalizers).onService
          service).hasCleanupFinalizer = true := by
        simp [Service.hasCleanupFinalizer, ClusterWrite.onService, Service.markedFinalizers]
      -- an accepted write has its effect, and what follows leaves the mark
      cases hu with
      | took hu => exact .marked (marked_of_reportBalancer hset hu)

theorem releaseService_guards {services : List Service} {o : Outcome Unit}
    (hname : balancerName? service = some name) (hmark : service.hasCleanupFinalizer = true)
    (hk : w.incidents.Keep Store.balancers)
    (htruth : ∀ e ∈ (releaseService s services service).events w, e.truthful = true)
    (hu : Undergoes ((releaseService s services service).writes w) service result)
    (h : (releaseService s services service).run w = (o, w')) :
    Guarded name service result w w' := by
  rw [releaseService_eq] at h hu htruth
  rcases run_bind_cases h with ⟨-, o₁, hdelete, ho₁⟩ | ⟨⟨⟩, w₁, hdelete, h⟩
  · -- the mark is lifted last, and that was not reached
    rw [writes_bind_of_not_done hdelete ho₁,
      writes_eq_nil (within_ensureLoadBalancerDeleted s services service) not_tends_write] at hu
    cases hu
    exact .marked hmark
  · refine .absent ?_
    rw [store_run (callsNothing_liftMark service) h]
    exact ensureLoadBalancerDeleted_done hname hk
      (fun e he => htruth e (mem_events_bind_left he _)) hdelete

/-- **One reconciliation.** However it ends, the service is marked, or it has no
    balancer, or it was not marked before and no balancer has changed. -/
theorem reconcileService_guards {o : Outcome NextVisit} (hname : balancerName? service = some name)
    (hk : w.incidents.Keep Store.balancers)
    (htruth : ∀ e ∈ (reconcileService s c service).events w, e.truthful = true)
    (hu : Undergoes ((reconcileService s c service).writes w) service result)
    (h : (reconcileService s c service).run w = (o, w')) : Guarded name service result w w' := by
  cases hactive : service.isActive with
  | true =>
    rw [reconcileService_of_active hactive] at h hu
    rw [Program.writes, events_bind_pure] at hu
    obtain ⟨o₁, h, -⟩ := run_bind_pure h
    exact serveService_guards hu h
  | false =>
    cases hmark : service.hasCleanupFinalizer with
    | true =>
      rw [reconcileService_of_marked hactive hmark] at h hu htruth
      rw [Program.writes, events_bind_pure] at hu
      rw [events_bind_pure] at htruth
      obtain ⟨o₁, h, -⟩ := run_bind_pure h
      exact releaseService_guards hname hmark hk htruth hu h
    | false =>
      rw [reconcileService_of_plain hactive hmark] at h
      cases h
      exact .untouched hmark rfl

end Runs

/-! ## Services and their users -/

/-- Services whose balancers have different names. -/
def Service.Apart (a b : Service) : Prop :=
  ∀ name, balancerName? a = some name → balancerName? b ≠ some name

instance : Std.Symm Service.Apart where
  symm _ _ h name hb ha := h name ha hb

/-- What is left of a service: nothing once it goes away and has no finalizers. -/
def Service.kept (service : Service) : List Service :=
  if service.isDeleting && service.metadata.finalizers.isEmpty then [] else [service]

theorem kept_of_marked {service : Service} (h : service.hasCleanupFinalizer = true) :
    service.kept = [service] := by
  have hne : service.metadata.finalizers ≠ [] := by
    intro hnil
    rw [Service.hasCleanupFinalizer, hnil] at h
    cases h
  rw [Service.kept, if_neg (by simp [hne])]

theorem eq_of_mem_kept {service other : Service} (h : other ∈ service.kept) : other = service := by
  rw [Service.kept] at h
  split at h
  · cases h
  · exact List.mem_singleton.mp h

/-- The services of a cluster, the cloud, and the names of the nodes of the last
    complete sync. -/
structure Site where
  store : Store
  visited : Option NameSet
  services : List Service

/-- A world in which a reconciliation may start: anything may go wrong in it, but no
    other writer changes balancers. -/
structure Site.Opens (site : Site) (w : World) : Prop where
  store : w.store = site.store
  visited : w.visited = site.visited
  balancers : w.incidents.Keep Store.balancers

/-- What can happen next. A user changes a service in any way that leaves the object
    and the mark what they are, or a service is reconciled as it is at the moment,
    whatever nodes and services the reconciliation sees besides. A call that never
    returns ends the reconciliation, so that states between two calls are reached,
    too. -/
inductive Site.Step (s : Settings) : Site → Site → Prop
  | edit {site : Site} {before after : List Service} {service edited : Service}
      (here : site.services = before ++ service :: after) (same : service.SameObject edited)
      (mark : edited.hasCleanupFinalizer = service.hasCleanupFinalizer) :
      Step s site { site with services := before ++ edited.kept ++ after }
  | reconcile {site : Site} {before after : List Service} {service result : Service}
      {c : Cluster} {w w' : World} {o : Outcome NextVisit}
      (here : site.services = before ++ service :: after) (opens : site.Opens w)
      (run : (reconcileService s c service).run w = (o, w'))
      (truthful : ∀ e ∈ (reconcileService s c service).events w, e.truthful = true)
      (writes : Undergoes ((reconcileService s c service).writes w) service result) :
      Step s site ⟨w'.store, w'.visited, before ++ result.kept ++ after⟩

/-- The services are those of the start, and a balancer of one of their names has a
    marked service. -/
structure Site.Sound (start site : Site) : Prop where
  known : ∀ service ∈ site.services, ∃ origin ∈ start.services, origin.SameObject service
  guarded : ∀ name, (∃ origin ∈ start.services, balancerName? origin = some name) →
    site.store.balancersNamed name ≠ [] →
    ∃ service ∈ site.services, balancerName? service = some name ∧
      service.hasCleanupFinalizer = true

theorem Site.Sound.start {start : Site}
    (hnone : ∀ service ∈ start.services, ∀ name, balancerName? service = some name →
      start.store.balancersNamed name = []) : start.Sound start where
  known service hmem := ⟨service, hmem, .refl service⟩
  guarded name := by
    rintro ⟨origin, hmem, hname⟩ hne
    exact absurd (hnone origin hmem name hname) hne

/-- The invariant survives when one service is replaced and every name in use is
    still guarded by the service or was guarded by one that keeps its mark. -/
theorem Site.Sound.replace {start site : Site} (h : start.Sound site) {st : Store}
    {visited : Option NameSet} {before after : List Service} {service result : Service}
    (here : site.services = before ++ service :: after) (same : service.SameObject result)
    (hguard : ∀ name, st.balancersNamed name ≠ [] →
      (balancerName? service = some name ∧ result.hasCleanupFinalizer = true) ∨
        site.store.balancersNamed name ≠ [] ∧
          (balancerName? service = some name → service.hasCleanupFinalizer = true →
            result.hasCleanupFinalizer = true)) :
    start.Sound ⟨st, visited, before ++ result.kept ++ after⟩ where
  known other hother := by
    have hknown := h.known
    rw [here] at hknown
    rw [List.append_assoc, List.mem_append, List.mem_append] at hother
    rcases hother with hother | hother | hother
    · exact hknown other (List.mem_append_left _ hother)
    · obtain ⟨origin, hmem, hsame⟩ := hknown service (by simp)
      rw [eq_of_mem_kept hother]
      exact ⟨origin, hmem, hsame.trans same⟩
    · exact hknown other (by simp [hother])
  guarded name horigin hne := by
    have hresult : balancerName? service = some name → result.hasCleanupFinalizer = true →
        ∃ other ∈ before ++ result.kept ++ after, balancerName? other = some name ∧
          other.hasCleanupFinalizer = true := by
      intro hname hmark
      rw [kept_of_marked hmark]
      exact ⟨result, by simp, by rw [same.balancerName, hname], hmark⟩
    rcases hguard name hne with ⟨hname, hmark⟩ | ⟨hbefore, hkeeps⟩
    · exact hresult hname hmark
    · obtain ⟨other, hother, hname, hmark⟩ := h.guarded name horigin hbefore
      rw [here, List.mem_append, List.mem_cons] at hother
      rcases hother with hother | rfl | hother
      · exact ⟨other, by simp [hother], hname, hmark⟩
      · exact hresult hname (hkeeps hname hmark)
      · exact ⟨other, by simp [hother], hname, hmark⟩

theorem Site.Sound.step {s : Settings} {start site site' : Site} (h : start.Sound site)
    (hstep : Site.Step s site site') : start.Sound site' := by
  cases hstep with
  | edit here same mark =>
    exact h.replace here same fun name hne => .inr ⟨hne, fun _ hmark => mark.trans hmark⟩
  | @reconcile before after service result c w w' o here opens run truthful writes =>
    refine h.replace here writes.sameObject fun name hne => ?_
    by_cases hname : balancerName? service = some name
    · cases reconcileService_guards hname opens.balancers truthful writes run with
      | marked hmark => exact .inl ⟨hname, hmark⟩
      | absent habsent => exact absurd habsent hne
      | untouched hmark hsame =>
        rw [Store.balancersNamed, hsame, opens.store] at hne
        refine .inr ⟨hne, fun _ hmarked => ?_⟩
        rw [hmark] at hmarked
        cases hmarked
    · -- a balancer of another name cannot be new
      refine .inr ⟨fun habsent => hne ?_, fun h => absurd h hname⟩
      rw [← opens.store] at habsent
      exact absent_run hname opens.balancers habsent run

/-- The invariant holds after any number of steps. -/
theorem Site.Sound.steps {s : Settings} {start site : Site} (h : start.Sound start)
    (hsteps : Relation.ReflTransGen (Site.Step s) start site) : start.Sound site := by
  induction hsteps with
  | refl => exact h
  | tail _ hstep ih => exact ih.step hstep

/-- **No orphaned balancer.** Services with different balancer names start without
    balancers. Whatever users do and however reconciliations end, as long as there is
    a balancer of a service's name the service is there and has the mark. Every list
    of finalizers that a reconciliation writes is that of its service but for the
    mark, in the same order. -/
theorem no_orphaned_balancer {s : Settings} {start site : Site}
    (hdistinct : start.services.Pairwise Service.Apart)
    (hnone : ∀ service ∈ start.services, ∀ name, balancerName? service = some name →
      start.store.balancersNamed name = [])
    (hsteps : Relation.ReflTransGen (Site.Step s) start site) :
    (∀ service ∈ start.services, ∀ name, balancerName? service = some name →
      site.store.balancersNamed name ≠ [] →
      ∃ current ∈ site.services, service.SameObject current ∧
        current.hasCleanupFinalizer = true) ∧
    ∀ current ∈ site.services, ∀ (c : Cluster) (w w₁ : World) (target : Service)
      (finalizers : List String),
      .wrote w₁ (.setFinalizers target finalizers) ∈ (reconcileService s c current).events w →
      target = current ∧ finalizers.filter (· != cleanupFinalizer) =
        current.metadata.finalizers.filter (· != cleanupFinalizer) := by
  constructor
  · intro service hmem name hname hne
    have hsound := (Site.Sound.start hnone).steps hsteps
    obtain ⟨current, hcurrent, hcname, hmark⟩ := hsound.guarded name ⟨service, hmem, hname⟩ hne
    obtain ⟨origin, horigin, hsame⟩ := hsound.known current hcurrent
    have honame : balancerName? origin = some name := by rw [← hsame.balancerName, hcname]
    have heq : service = origin := by
      by_contra hne
      exact hdistinct.forall hmem horigin hne name hname honame
    exact ⟨current, hcurrent, heq ▸ hsame, hmark⟩
  · intro current _ c w w₁ target finalizers he
    exact permitted_of_mem_events (within_reconcileService s c current) he

namespace Sample

/-- The reconciliation of a service that is the only one of the small cluster. -/
def visit (current : Service) : Program NextVisit :=
  reconcileService settings ⟨nodes, [current]⟩ current

/-- The service after a reconciliation whose writes are all taken. -/
def result (current : Service) (w : World) : Service :=
  ((visit current).writes w).foldl (fun s x => x.1.onService s) current

/-- What a reconciliation of the only service makes of the site. -/
def visitedSite (current : Service) (w : World) : Site :=
  ⟨((visit current).run w).2.store, ((visit current).run w).2.visited,
    [] ++ (result current w).kept ++ []⟩

theorem step_visited {site : Site} {current : Service} {w : World}
    (here : site.services = [current]) (opens : site.Opens w)
    (truthful : ((visit current).events w).all Event.truthful = true) :
    Site.Step settings site (visitedSite current w) :=
  Site.Step.reconcile here opens rfl (List.all_eq_true.mp truthful) (undergoes_foldl _ _)

/-- A service that a user has deleted. -/
def deleting (current : Service) : Service :=
  { current with metadata := { current.metadata with deletionTimestamp := some ⟨0, 0⟩ } }

theorem step_deleting {site : Site} {current : Service}
    (here : site.services = [] ++ current :: []) :
    Site.Step settings site { site with services := [] ++ (deleting current).kept ++ [] } :=
  .edit here ⟨rfl, rfl, rfl⟩ rfl

/-- The small cluster before its service is reconciled. -/
def newcomer : Site := ⟨store, none, [service]⟩

/-- The service is served. -/
def served : Site := visitedSite service (.ofStore store)

/-- The served service when it is to be deleted. -/
def leaving : Service := deleting (result service (.ofStore store))

/-- The service is to be deleted. -/
def deleted : Site := { served with services := [] ++ leaving.kept ++ [] }

/-- A world in which deleting a balancer never returns. -/
def stuck : World :=
  { World.ofStore served.store with
    incidents :=
      { Incidents.none with hangs := fun m => if m = .deleteBalancer then [true] else [] }
    visited := served.visited }

/-- The release of the service does not come to an end. -/
def waiting : Site := visitedSite leaving stuck

theorem step_served : Site.Step settings newcomer served :=
  step_visited rfl ⟨rfl, rfl, keep_of_no_intrusions (fun _ => rfl) _⟩ (by decide +kernel)

theorem step_deleted : Site.Step settings served deleted := by
  have hkept : served.services = [] ++ result service (.ofStore store) :: [] := by
    rw [served, visitedSite, kept_of_marked (by decide +kernel), List.append_nil]
  exact step_deleting hkept

theorem step_waiting : Site.Step settings deleted waiting := by
  refine step_visited ?_ ⟨rfl, rfl, keep_of_no_intrusions (fun _ => rfl) _⟩ (by decide +kernel)
  rw [deleted, kept_of_marked (by decide +kernel), List.append_nil, List.nil_append]

end Sample

open Sample in
/-- A release that does not come to an end leaves the balancer and the marked
    service. -/
theorem no_orphaned_balancer_waiting :
    Relation.ReflTransGen (Site.Step settings) newcomer waiting ∧
      waiting.store.balancersNamed "a0f1e2d" ≠ [] ∧
      ∃ current ∈ waiting.services, service.SameObject current ∧
        current.hasCleanupFinalizer = true := by
  have hsteps : Relation.ReflTransGen (Site.Step settings) newcomer waiting :=
    ((Relation.ReflTransGen.single step_served).tail step_deleted).tail step_waiting
  have hbalancer : waiting.store.balancersNamed "a0f1e2d" ≠ [] := by decide +kernel
  have hnone : ∀ other ∈ newcomer.services, ∀ name, balancerName? other = some name →
      newcomer.store.balancersNamed name = [] := fun _ _ _ _ => rfl
  have hdistinct : newcomer.services.Pairwise Service.Apart := List.pairwise_singleton _ _
  have hname : balancerName? service = some "a0f1e2d" := by decide
  have hmem : service ∈ newcomer.services := List.mem_cons_self
  obtain ⟨hmarked, -⟩ := no_orphaned_balancer hdistinct hnone hsteps
  exact ⟨hsteps, hbalancer, hmarked service hmem "a0f1e2d" hname hbalancer⟩

end CloudSteward
