import CloudSteward.Balancer.Ensure
import CloudSteward.Reconcile.Visit

/-!
# Reconciling a service

A service that wants a balancer is marked with the cleanup finalizer before
anything is created for it, and the mark is lifted only when its balancer is
gone. Its status names the addresses of the balancer and is written only if it
has changed.

Results:

* `reconcileService_of_plain`: a service without balancer and mark is left alone.
-/

namespace CloudSteward

open Program

/-- The finalizers of a service with the mark added at the end. -/
def Service.markedFinalizers (s : Service) : List String :=
  s.metadata.finalizers ++ [cleanupFinalizer]

/-- The finalizers of a service without the mark. -/
def Service.unmarkedFinalizers (s : Service) : List String :=
  s.metadata.finalizers.filter (· != cleanupFinalizer)

/-- Removes the balancer of a marked service, its reported addresses unless the
    service goes away anyhow, and the mark. -/
def releaseService (s : Settings) (services : List Service) (service : Service) :
    Program Unit := do
  ensureLoadBalancerDeleted s services service
  unless service.isDeleting do
    change (.setIngress service none)
  change (.setFinalizers service service.unmarkedFinalizers)

/-- Marks a service, brings its balancer to the description and reports the
    addresses. -/
def serveService (s : Settings) (c : Cluster) (service : Service) : Program Unit := do
  unless service.hasCleanupFinalizer do
    change (.setFinalizers service service.markedFinalizers)
  let status ← ensureLoadBalancer s c.services service c.nodes
  unless service.balancerStatus = some status do
    change (.setIngress service status.ingress)

/-- Brings the cloud in line with a service. -/
def reconcileService (s : Settings) (c : Cluster) (service : Service) : Program NextVisit := do
  if service.isActive then serveService s c service
  else if service.hasCleanupFinalizer then releaseService s c.services service
  return .onChange

/-- The time a service's reconciliation may take. -/
def serviceDeadline : Span := .ofSeconds 300

/-! ## Laws -/

theorem reconcileService_of_plain {s : Settings} {c : Cluster} {service : Service}
    (ha : service.isActive = false) (hf : service.hasCleanupFinalizer = false) :
    reconcileService s c service = .pure .onChange := by
  rw [reconcileService]
  simp [ha, hf]
  rfl

end CloudSteward
