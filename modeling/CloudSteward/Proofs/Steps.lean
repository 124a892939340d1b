import CloudSteward.Proofs.Parts
import CloudSteward.Reconcile.Service

/-!
# The steps that reconcilers take

Collecting the desired targets only reads. Besides that a sync calls for changes
of target groups alone, and placing or removing a balancer for changes of
balancers alone, so that neither can disturb what the other is about. A balancer
is created under no name but that of its description.

Results:

* `within_desiredTargets`, `within_syncTargetGroups`, `within_placeAttached`,
  `within_removeNamed`: what each part may do.
* `within_syncTargetGroups_of_nodes`, `attaches_placeBalancer`: what makes no attachment
  dangle.
* `balancers_syncTargetGroups`: a sync leaves the balancers as they are.
* `targetGroups_of_places`, `visited_of_places`: placing a balancer leaves the target
  groups and the remembered names as they are.
-/

namespace CloudSteward

open Program

/-- Kinds of calls that read or change target groups. -/
def Method.aboutGroups (m : Method) : Bool := m.isRead || m.changesGroups

/-- Kinds of calls that read, create target groups or change their targets. -/
def Method.fillsGroups (m : Method) : Bool :=
  m.isRead || m.changesGroups && m != .deleteTargetGroup

/-- Kinds of calls that read or change balancers. -/
def Method.aboutBalancers (m : Method) : Bool := m.isRead || m.changesBalancers

theorem changesBalancers_of_aboutGroups {m : Method} (h : m.aboutGroups = true) :
    m.changesBalancers = false := by
  cases m <;> first | rfl | cases h

theorem changesGroups_of_aboutBalancers {m : Method} (h : m.aboutBalancers = true) :
    m.changesGroups = false := by
  cases m <;> first | rfl | cases h

theorem Action.Calls.mono {kinds kinds' : Method → Bool}
    (h : ∀ m, kinds m = true → kinds' m = true) {a : Action} (ha : a.Calls kinds) :
    a.Calls kinds' := by
  cases a with
  | call c => exact h _ ha
  | write c => exact ha
  | remember names => exact ha

theorem Program.Within.fillsGroups {α : Type} {p : Program α}
    (h : p.Within (·.Calls Method.isRead)) : p.Within (·.Calls Method.fillsGroups) :=
  h.mono fun _ => Action.Calls.mono fun m hm => by simp [Method.fillsGroups, hm]

/-! ## Collecting the desired targets -/

theorem within_instanceByProviderId (raw : String) :
    (instanceByProviderId raw).Within (·.Calls Method.isRead) := by
  rw [instanceByProviderId]
  split
  · trivial
  · exact within_ask rfl
  · refine within_bind (within_answer rfl) fun r => ?_
    cases r with
    | ok found => trivial
    | error e =>
      dsimp only
      split <;> trivial

theorem within_networkOf (memo : SubnetMemo) (subnetId : String) :
    (networkOf memo subnetId).Within (·.Calls Method.isRead) := by
  rw [networkOf]
  split
  · trivial
  · exact within_bind (within_ask rfl) fun _ => trivial

theorem within_desiredOfInterfaces (s : Settings) (groupPrefix instanceName : String)
    (memo : SubnetMemo) (desired : DesiredTargets) (interfaces : List Interface) :
    (desiredOfInterfaces s groupPrefix instanceName memo desired interfaces).Within
      (·.Calls Method.isRead) := by
  induction interfaces generalizing memo desired with
  | nil => trivial
  | cons i rest ih =>
    refine within_bind (within_require _ _) fun address => ?_
    exact within_bind (within_networkOf memo i.subnetId) fun _ => ih _ _

theorem within_desiredTargets (s : Settings) (nodes : List Node) :
    (desiredTargets s nodes).Within (·.Calls Method.isRead) := by
  suffices h : ∀ memo desired,
      (desiredOfNodes s memo desired nodes).Within (·.Calls Method.isRead) from h _ _
  induction nodes with
  | nil => exact fun _ _ => trivial
  | cons n rest ih =>
    intro memo desired
    refine within_bind (within_instanceByProviderId n.providerId) fun found? => ?_
    refine within_bind (within_require _ _) fun found => ?_
    exact within_bind (within_desiredOfInterfaces s _ _ memo desired _) fun _ => ih _ _

/-! ## Changing target groups -/

theorem within_fetchGroup (name : String) : (fetchGroup name).Within (·.Calls Method.isRead) := by
  refine within_bind (within_answer rfl) fun r => ?_
  cases r with
  | ok found => trivial
  | error e =>
    dsimp only
    split <;> trivial

theorem within_adjustGroup (group : TargetGroup) (targets : TargetSet) :
    (adjustGroup group targets).Within (·.Calls Method.fillsGroups) := by
  have hremove : ∀ l, (do
      let _ ← ask (.removeTargets group.id l) : Program Unit).Within
        (·.Calls Method.fillsGroups) :=
    fun l => within_bind (within_ask rfl) fun _ => trivial
  rw [adjustGroup]
  dsimp only
  split
  · split
    · trivial
    · exact hremove _
  · refine within_bind (within_ask rfl) fun _ => ?_
    split
    · trivial
    · exact hremove _

theorem within_createGroup (s : Settings) (name : String) (targets : TargetSet) :
    (createGroup s name targets).Within (·.Calls Method.fillsGroups) := by
  refine within_bind (within_answer rfl) fun r => ?_
  cases r with
  | ok group => trivial
  | error e =>
    dsimp only
    split
    · exact within_bind (within_fetchGroup name).fillsGroups fun found =>
        within_bind (within_require _ _) fun group => within_adjustGroup group targets
    · trivial

theorem within_convergeGroup (s : Settings) (name : String) (targets : TargetSet) :
    (convergeGroup s name targets).Within (·.Calls Method.fillsGroups) := by
  refine within_bind (within_fetchGroup name).fillsGroups fun found => ?_
  cases found with
  | none => exact within_createGroup s name targets
  | some group => exact within_adjustGroup group targets

theorem within_convergeGroups (s : Settings) (l : List (String × TargetSet)) :
    (convergeGroups s l).Within (·.Calls Method.fillsGroups) := by
  induction l with
  | nil => trivial
  | cons entry rest ih => exact within_bind (within_convergeGroup s _ _) fun _ => ih

theorem within_deleteClusterGroups (s : Settings) :
    (deleteClusterGroups s).Within (·.Calls Method.aboutGroups) := by
  refine within_bind (within_ask rfl) fun groups => ⟨fun _ _ => rfl, fun r => ?_⟩
  cases r <;> trivial

/-! ## Syncing -/

/-- What a sync of some nodes does: it fills target groups and replaces the remembered
    names. -/
def Action.Fills : Action → Prop
  | .call c => c.method.fillsGroups = true
  | .remember _ => True
  | .write _ => False

/-- What a sync does: it calls about target groups and replaces the remembered
    names. -/
def Action.Syncs : Action → Prop
  | .call c => c.method.aboutGroups = true
  | .remember _ => True
  | .write _ => False

theorem Action.Calls.fills {a : Action} (h : a.Calls Method.fillsGroups) : a.Fills := by
  cases a with
  | call c => exact h
  | write c => exact h
  | remember names => trivial

theorem Action.Calls.syncs {a : Action} (h : a.Calls Method.aboutGroups) : a.Syncs := by
  cases a with
  | call c => exact h
  | write c => exact h
  | remember names => trivial

theorem Action.Fills.syncs {a : Action} (h : a.Fills) : a.Syncs := by
  cases a with
  | call c =>
    have hc : c.method.fillsGroups = true := h
    show c.method.aboutGroups = true
    revert hc
    cases c.method <;> decide
  | write c => exact h
  | remember names => trivial

/-- A sync of some nodes deletes no target group. -/
theorem within_syncTargetGroups_of_nodes (s : Settings) (services : List Service)
    {nodes : List Node} (hnodes : nodes ≠ []) :
    (syncTargetGroups s services nodes).Within Action.Fills := by
  have fills : ∀ {α : Type} {p : Program α}, p.Within (·.Calls Method.fillsGroups) →
      p.Within Action.Fills := fun h => h.mono fun _ => Action.Calls.fills
  rw [syncTargetGroups, if_neg (by simpa using hnodes)]
  intro last
  dsimp only
  split
  · trivial
  · refine within_bind (fills (within_desiredTargets s _).fillsGroups) fun desired => ?_
    exact within_bind (fills (within_convergeGroups s _)) fun _ => ⟨trivial, trivial⟩

theorem within_syncTargetGroups (s : Settings) (services : List Service) (nodes : List Node) :
    (syncTargetGroups s services nodes).Within Action.Syncs := by
  by_cases hnodes : nodes = []
  · rw [hnodes, syncTargetGroups, if_pos (by rfl)]
    split
    · trivial
    · refine within_bind ?_ fun _ => ⟨trivial, trivial⟩
      exact (within_deleteClusterGroups s).mono fun _ => Action.Calls.syncs
  · exact (within_syncTargetGroups_of_nodes s services hnodes).mono fun _ => Action.Fills.syncs

/-! ## Changing balancers -/

/-- A call about balancers that creates none of another name; no other step. -/
def Action.Places (name : String) : Action → Prop
  | .call (.createBalancer r) => r.name = name
  | .call c => c.method.aboutBalancers = true
  | .write _ | .remember _ => False

/-- A call about balancers that creates none of another name and attaches nothing but
    one group; no other step. -/
def Action.Attaches (name : String) (attachment : Attachment) : Action → Prop
  | .call (.createBalancer r) => r.name = name ∧ r.attachments = [attachment]
  | .call (.attachTargetGroup _ a) => a = attachment
  | .call c => c.method.aboutBalancers = true
  | .write _ | .remember _ => False

theorem Action.Places.calls {name : String} {a : Action} (h : a.Places name) :
    a.Calls Method.aboutBalancers := by
  cases a with
  | call c => cases c <;> first | rfl | exact h
  | write c => exact h
  | remember names => exact h

theorem Action.Attaches.places {name : String} {attachment : Attachment} {a : Action}
    (h : a.Attaches name attachment) : a.Places name := by
  cases a with
  | call c =>
    cases c with
    | createBalancer r => exact h.1
    | attachTargetGroup id b => exact rfl
    | _ => exact h
  | write c => exact h
  | remember names => exact h

section Attaching

variable (name : String) (attachment : Attachment)

theorem within_removeListeners (id : String) (names : List String) (b : Balancer) :
    (removeListeners id names b).Within (·.Attaches name attachment) := by
  induction names generalizing b with
  | nil => trivial
  | cons listener rest ih => exact within_bind (within_ask rfl) ih

theorem within_addListeners (id : String) (l : List ListenerSpec) (b : Balancer) :
    (addListeners id l b).Within (·.Attaches name attachment) := by
  induction l generalizing b with
  | nil => trivial
  | cons listener rest ih => exact within_bind (within_ask rfl) ih

theorem within_detachGroups (id : String) (groups : List String) (b : Balancer) :
    (detachGroups id groups b).Within (·.Attaches name attachment) := by
  induction groups generalizing b with
  | nil => trivial
  | cons group rest ih => exact within_bind (within_ask rfl) ih

theorem within_convergeBalancer (b : Balancer) (spec : BalancerSpec) :
    (convergeBalancer b spec attachment).Within (·.Attaches name attachment) := by
  refine within_bind (within_removeListeners name attachment _ _ _) fun b₁ => ?_
  refine within_bind (within_addListeners name attachment _ _ _) fun b₂ => ?_
  refine within_bind (within_detachGroups name attachment _ _ _) fun b₃ => ?_
  split
  · trivial
  · exact within_ask rfl

theorem within_createBalancer (s : Settings) (spec : BalancerSpec) :
    (createBalancer s spec attachment).Within (·.Attaches spec.name attachment) := by
  refine within_bind (within_answer ⟨rfl, rfl⟩) fun r => ?_
  cases r with
  | ok b => trivial
  | error e =>
    dsimp only
    split
    · exact within_bind (within_ask rfl) fun found =>
        within_bind (within_require _ _) fun b => within_convergeBalancer _ attachment b spec
    · trivial

/-- Placing a balancer attaches nothing but the group of its description. -/
theorem attaches_placeBalancer (s : Settings) (spec : BalancerSpec) :
    (placeBalancer s spec attachment).Within (·.Attaches spec.name attachment) := by
  refine within_bind (within_ask rfl) fun found => ?_
  cases found with
  | none => exact within_createBalancer attachment s spec
  | some existing =>
    dsimp only
    split
    · exact within_convergeBalancer _ attachment existing spec
    · exact within_bind (within_ask rfl) fun _ => within_createBalancer attachment s spec

end Attaching

theorem within_placeBalancer (s : Settings) (spec : BalancerSpec) (attachment : Attachment) :
    (placeBalancer s spec attachment).Within (·.Places spec.name) :=
  (attaches_placeBalancer attachment s spec).mono fun _ => Action.Attaches.places

/-- Finds the target group of a description and places the balancer. -/
def placeAttached (s : Settings) (spec : BalancerSpec) : Program Balancer := do
  let found ← ask (.findTargetGroup spec.targetGroupName)
  let group ← require found (.targetGroupNotFound spec.targetGroupName)
  placeBalancer s spec (attachmentFor spec group)

/-- The target groups are synced before a balancer is placed. -/
theorem ensureBalancer_eq (s : Settings) (services : List Service) (service : Service)
    (nodes : List Node) :
    ensureBalancer s services service nodes = (do
      let spec ← describedBalancer s service
      if nodes.isEmpty then
        .fail (.validation s!"no nodes available for load balancer {spec.name}")
      else do
        syncTargetGroups s services nodes
        placeAttached s spec) := rfl

theorem within_placeAttached (s : Settings) (spec : BalancerSpec) :
    (placeAttached s spec).Within (·.Places spec.name) :=
  within_bind (within_ask rfl) fun _ =>
    within_bind (within_require _ _) fun _ => within_placeBalancer s spec _

theorem within_removeBalancer (name id : String) :
    (removeBalancer id).Within (·.Places name) := by
  refine within_bind (within_answer rfl) fun r => ?_
  cases r with
  | ok _ => trivial
  | error e =>
    dsimp only
    split <;> trivial

/-- Deletes the balancer of a name, if there is one. -/
def removeNamed (name : String) : Program Unit := do
  match ← ask (.findBalancer name) with
  | some b => removeBalancer b.id
  | none => Pure.pure ()

/-- A balancer is removed before the target groups are. -/
theorem ensureLoadBalancerDeleted_eq (s : Settings) (services : List Service)
    (service : Service) :
    ensureLoadBalancerDeleted s services service = (do
      let name ← namedBalancer service
      removeNamed name
      syncTargetGroups s services []) := by
  simp only [ensureLoadBalancerDeleted, removeNamed, LawfulMonad.bind_assoc]
  refine congrArg _ (funext fun name => congrArg _ (funext fun found => ?_))
  cases found <;> rfl

theorem within_removeNamed (name : String) :
    (removeNamed name).Within (·.Places name) := by
  refine within_bind (within_ask rfl) fun found => ?_
  cases found with
  | none => trivial
  | some b => exact within_removeBalancer name b.id

/-! ## What is left alone -/

theorem Action.Calls.keepsBalancers {a : Action} (h : a.Calls Method.aboutGroups) :
    a.Keeps Store.balancers :=
  keeps_balancers_of_calls
    (h.mono fun m hm => by simp [changesBalancers_of_aboutGroups hm])

theorem Action.Calls.keepsTargetGroups {a : Action} (h : a.Calls Method.aboutBalancers) :
    a.Keeps Store.targetGroups :=
  keeps_targetGroups_of_calls
    (h.mono fun m hm => by simp [changesGroups_of_aboutBalancers hm])

theorem Action.Syncs.keepsBalancers {a : Action} (h : a.Syncs) : a.Keeps Store.balancers := by
  cases a with
  | call c => exact Action.Calls.keepsBalancers h
  | write c => trivial
  | remember names => trivial

section Runs

variable {α : Type} {p : Program α} {w w' : World}

/-- A sync leaves the balancers as they are. -/
theorem balancers_syncTargetGroups {s : Settings} {services : List Service} {nodes : List Node}
    {o : Outcome Unit} (hk : w.incidents.Keep Store.balancers)
    (h : (syncTargetGroups s services nodes).run w = (o, w')) :
    w'.store.balancers = w.store.balancers :=
  part_run ((within_syncTargetGroups s services nodes).mono fun _ => Action.Syncs.keepsBalancers)
    hk h

/-- Placing a balancer leaves the target groups as they are. -/
theorem targetGroups_of_places {name : String} {o : Outcome α} (hp : p.Within (·.Places name))
    (hk : w.incidents.Keep Store.targetGroups) (h : p.run w = (o, w')) :
    w'.store.targetGroups = w.store.targetGroups :=
  part_run (hp.mono fun _ ha => ha.calls.keepsTargetGroups) hk h

/-- Placing a balancer leaves the remembered names as they are. -/
theorem visited_of_places {name : String} {o : Outcome α} (hp : p.Within (·.Places name))
    (h : p.run w = (o, w')) : w'.visited = w.visited :=
  visited_run (hp.mono fun _ => Action.Places.calls) h

theorem targetGroups_of_reads {o : Outcome α} (hp : p.Within (·.Calls Method.isRead))
    (hk : w.incidents.Keep Store.targetGroups) (h : p.run w = (o, w')) :
    w'.store.targetGroups = w.store.targetGroups := by
  have keeps : ∀ a : Action, a.Calls Method.isRead → a.Calls Method.aboutBalancers :=
    fun _ => Action.Calls.mono fun m hm => by simp [Method.aboutBalancers, hm]
  exact part_run (hp.mono fun a ha => (keeps a ha).keepsTargetGroups) hk h

end Runs

end CloudSteward
