import CloudSteward.Proofs.Balancer.Ensure

/-!
# The errors that programs end with

A call that has to succeed ends a program with the error of the cloud; every other
error is one that the program spells out itself. Which errors a program can end with
can therefore be read off its text, whatever it is answered. Only one step of all
ends with the error that a target group is missing: the look-up of the group that a
service attaches.

Results:

* `run_failed`: a run fails with an error that the program may end with.
* `failsOnly_syncTargetGroups`, `failsOnly_placeBalancer`: what comes before and after
  the look-up never says that a group is missing.
* `ensureBalancer_groupMissing`: what has happened when ensuring a balancer says so.
-/

namespace CloudSteward

open Program

variable {α β : Type}

/-- Every error that a program may end with, whatever it is answered, is one of these. -/
def Program.FailsOnly (ok : SyncError → Prop) : Program α → Prop
  | .pure _ | .abort => True
  | .fail e => ok e
  | .call _ next => ∀ r, (next r).FailsOnly ok
  | .deleteGroups _ next => ∀ r, (next r).FailsOnly ok
  | .write _ next => ∀ r, (next r).FailsOnly ok
  | .visited next => ∀ names, (next names).FailsOnly ok
  | .remember _ next => next.FailsOnly ok

section Rules

variable {ok : SyncError → Prop}

theorem failsOnly_bind {p : Program α} {f : α → Program β} (hp : p.FailsOnly ok)
    (hf : ∀ a, (f a).FailsOnly ok) : (p >>= f).FailsOnly ok := by
  show (p.bind f).FailsOnly ok
  induction p with
  | pure a => exact hf a
  | fail e => exact hp
  | abort => trivial
  | call c next ih => exact fun r => ih r (hp r)
  | deleteGroups ids next ih => exact fun r => ih r (hp r)
  | write c next ih => exact fun r => ih r (hp r)
  | visited next ih => exact fun names => ih names (hp names)
  | remember names next ih => exact ih hp

theorem failsOnly_answer (c : Call) : (Program.answer c).FailsOnly ok := fun _ => trivial

theorem failsOnly_ask (h : ∀ e, ok (.cloud e)) (c : Call) : (ask c).FailsOnly ok := by
  intro r
  cases r with
  | ok reply => trivial
  | error e => exact h e

theorem failsOnly_require {e : SyncError} (h : ok e) (o : Option α) :
    (require o e).FailsOnly ok := by
  cases o with
  | some a => trivial
  | none => exact h

/-- A run fails with one of the errors that the program may end with. -/
theorem run_failed {p : Program α} (hp : p.FailsOnly ok) {w w' : World} {e : SyncError}
    (h : p.run w = (.failed e, w')) : ok e := by
  induction p generalizing w with
  | pure a => cases h
  | fail e' =>
    cases h
    exact hp
  | abort => cases h
  | call c next ih =>
    rw [Program.run] at h
    split at h
    · cases h
    · exact ih _ (hp _) h
  | deleteGroups ids next ih =>
    rw [Program.run] at h
    split at h
    · cases h
    · exact ih _ (hp _) h
  | write c next ih => exact ih _ (hp _) h
  | visited next ih => exact ih _ (hp _) h
  | remember names next ih => exact ih hp h

end Rules

/-! ## Missing groups -/

/-- Whether an error says that a target group is missing. -/
def SyncError.isGroupMissing : SyncError → Bool
  | .targetGroupNotFound _ => true
  | _ => false

/-- An error other than that a target group is missing. -/
abbrev SyncError.Other (e : SyncError) : Prop := e.isGroupMissing = false

theorem failsOnly_askOther (c : Call) : (ask c).FailsOnly SyncError.Other :=
  failsOnly_ask (fun _ => rfl) c

theorem failsOnly_instanceByProviderId (raw : String) :
    (instanceByProviderId raw).FailsOnly SyncError.Other := by
  rw [instanceByProviderId]
  split
  · rfl
  · exact failsOnly_askOther _
  · refine failsOnly_bind (failsOnly_answer _) fun r => ?_
    cases r with
    | ok found => trivial
    | error e =>
      dsimp only
      split
      · trivial
      · rfl

theorem failsOnly_networkOf (memo : SubnetMemo) (subnetId : String) :
    (networkOf memo subnetId).FailsOnly SyncError.Other := by
  rw [networkOf]
  split
  · trivial
  · exact failsOnly_bind (failsOnly_askOther _) fun _ => trivial

theorem failsOnly_desiredOfInterfaces (s : Settings) (groupPrefix instanceName : String)
    (memo : SubnetMemo) (desired : DesiredTargets) (interfaces : List Interface) :
    (desiredOfInterfaces s groupPrefix instanceName memo desired interfaces).FailsOnly
      SyncError.Other := by
  induction interfaces generalizing memo desired with
  | nil => trivial
  | cons i rest ih =>
    refine failsOnly_bind (failsOnly_require (by rfl) _) fun address => ?_
    exact failsOnly_bind (failsOnly_networkOf memo i.subnetId) fun _ => ih _ _

theorem failsOnly_desiredTargets (s : Settings) (nodes : List Node) :
    (desiredTargets s nodes).FailsOnly SyncError.Other := by
  suffices h : ∀ memo desired,
      (desiredOfNodes s memo desired nodes).FailsOnly SyncError.Other from h _ _
  induction nodes with
  | nil => exact fun _ _ => trivial
  | cons n rest ih =>
    intro memo desired
    refine failsOnly_bind (failsOnly_instanceByProviderId n.providerId) fun found? => ?_
    refine failsOnly_bind (failsOnly_require (by rfl) _) fun found => ?_
    exact failsOnly_bind (failsOnly_desiredOfInterfaces s _ _ memo desired _) fun _ => ih _ _

theorem failsOnly_fetchGroup (name : String) : (fetchGroup name).FailsOnly SyncError.Other := by
  refine failsOnly_bind (failsOnly_answer _) fun r => ?_
  cases r with
  | ok found => trivial
  | error e =>
    dsimp only
    split
    · trivial
    · rfl

theorem failsOnly_adjustGroup (group : TargetGroup) (targets : TargetSet) :
    (adjustGroup group targets).FailsOnly SyncError.Other := by
  have hremove : ∀ l, (do
      let _ ← ask (.removeTargets group.id l) : Program Unit).FailsOnly SyncError.Other :=
    fun l => failsOnly_bind (failsOnly_askOther _) fun _ => trivial
  rw [adjustGroup]
  dsimp only
  split
  · split
    · trivial
    · exact hremove _
  · refine failsOnly_bind (failsOnly_askOther _) fun _ => ?_
    split
    · trivial
    · exact hremove _

theorem failsOnly_createGroup (s : Settings) (name : String) (targets : TargetSet) :
    (createGroup s name targets).FailsOnly SyncError.Other := by
  refine failsOnly_bind (failsOnly_answer _) fun r => ?_
  cases r with
  | ok group => trivial
  | error e =>
    dsimp only
    split
    · exact failsOnly_bind (failsOnly_fetchGroup name) fun found =>
        failsOnly_bind (failsOnly_require (by rfl) _) fun group =>
          failsOnly_adjustGroup group targets
    · rfl

theorem failsOnly_convergeGroups (s : Settings) (l : List (String × TargetSet)) :
    (convergeGroups s l).FailsOnly SyncError.Other := by
  induction l with
  | nil => trivial
  | cons entry rest ih =>
    refine failsOnly_bind (failsOnly_bind (failsOnly_fetchGroup _) fun found => ?_) fun _ => ih
    cases found with
    | none => exact failsOnly_createGroup s _ _
    | some group => exact failsOnly_adjustGroup group _

theorem failsOnly_deleteClusterGroups (s : Settings) :
    (deleteClusterGroups s).FailsOnly SyncError.Other := by
  refine failsOnly_bind (failsOnly_askOther _) fun groups r => ?_
  cases r with
  | ok _ => trivial
  | error e => rfl

theorem failsOnly_syncTargetGroups (s : Settings) (services : List Service)
    (nodes : List Node) : (syncTargetGroups s services nodes).FailsOnly SyncError.Other := by
  rw [syncTargetGroups]
  split
  · split
    · trivial
    · exact failsOnly_bind (failsOnly_deleteClusterGroups s) fun _ => trivial
  · intro last
    dsimp only
    split
    · trivial
    · refine failsOnly_bind (failsOnly_desiredTargets s _) fun desired => ?_
      exact failsOnly_bind (failsOnly_convergeGroups s _) fun _ => trivial

theorem failsOnly_removeListeners (id : String) (names : List String) (b : Balancer) :
    (removeListeners id names b).FailsOnly SyncError.Other := by
  induction names generalizing b with
  | nil => trivial
  | cons listener rest ih => exact failsOnly_bind (failsOnly_askOther _) ih

theorem failsOnly_addListeners (id : String) (l : List ListenerSpec) (b : Balancer) :
    (addListeners id l b).FailsOnly SyncError.Other := by
  induction l generalizing b with
  | nil => trivial
  | cons listener rest ih => exact failsOnly_bind (failsOnly_askOther _) ih

theorem failsOnly_detachGroups (id : String) (groups : List String) (b : Balancer) :
    (detachGroups id groups b).FailsOnly SyncError.Other := by
  induction groups generalizing b with
  | nil => trivial
  | cons group rest ih => exact failsOnly_bind (failsOnly_askOther _) ih

theorem failsOnly_convergeBalancer (b : Balancer) (spec : BalancerSpec)
    (attachment : Attachment) :
    (convergeBalancer b spec attachment).FailsOnly SyncError.Other := by
  refine failsOnly_bind (failsOnly_removeListeners _ _ _) fun b₁ => ?_
  refine failsOnly_bind (failsOnly_addListeners _ _ _) fun b₂ => ?_
  refine failsOnly_bind (failsOnly_detachGroups _ _ _) fun b₃ => ?_
  split
  · trivial
  · exact failsOnly_askOther _

theorem failsOnly_createBalancer (s : Settings) (spec : BalancerSpec) (attachment : Attachment) :
    (createBalancer s spec attachment).FailsOnly SyncError.Other := by
  refine failsOnly_bind (failsOnly_answer _) fun r => ?_
  cases r with
  | ok b => trivial
  | error e =>
    dsimp only
    split
    · exact failsOnly_bind (failsOnly_askOther _) fun found =>
        failsOnly_bind (failsOnly_require (by rfl) _) fun b => failsOnly_convergeBalancer b spec _
    · rfl

theorem failsOnly_placeBalancer (s : Settings) (spec : BalancerSpec) (attachment : Attachment) :
    (placeBalancer s spec attachment).FailsOnly SyncError.Other := by
  refine failsOnly_bind (failsOnly_askOther _) fun found => ?_
  cases found with
  | none => exact failsOnly_createBalancer s spec attachment
  | some existing =>
    dsimp only
    split
    · exact failsOnly_convergeBalancer existing spec attachment
    · exact failsOnly_bind (failsOnly_askOther _) fun _ =>
        failsOnly_createBalancer s spec attachment

theorem failsOnly_describedBalancer (s : Settings) (service : Service) :
    (describedBalancer s service).FailsOnly SyncError.Other := by
  rw [describedBalancer]
  split
  · trivial
  · rfl
  · trivial

section Ensure

variable {s : Settings} {services : List Service} {service : Service} {nodes : List Node}
  {w w' : World} {name : String}

theorem require_groupMissing {found : Option TargetGroup} {groupName : String}
    (h : (require found (.targetGroupNotFound groupName)).run w =
      (.failed (.targetGroupNotFound name), w')) :
    found = none ∧ groupName = name ∧ w = w' := by
  cases found with
  | none =>
    cases h
    exact ⟨rfl, rfl, rfl⟩
  | some group => cases h

theorem placeAttached_groupMissing {spec : BalancerSpec}
    (h : (placeAttached s spec).run w = (.failed (.targetGroupNotFound name), w')) :
    (ask (.findTargetGroup spec.targetGroupName)).run w = (.done none, w') ∧
      name = spec.targetGroupName := by
  rcases run_bind_eq_failed.mp h with hfind | ⟨found, w₁, hfind, h⟩
  · cases run_failed (failsOnly_askOther _) hfind
  · rcases run_bind_eq_failed.mp h with hr | ⟨group, w₂, -, hplace⟩
    · obtain ⟨rfl, rfl, rfl⟩ := require_groupMissing hr
      exact ⟨hfind, rfl⟩
    · cases run_failed (failsOnly_placeBalancer s spec _) hplace

/-- Ensuring a balancer says that a group is missing only when the sync has ended well and
    the group of the described name is not found after it. -/
theorem ensureBalancer_groupMissing
    (h : (ensureBalancer s services service nodes).run w =
      (.failed (.targetGroupNotFound name), w')) :
    ∃ spec w₁, balancerSpec service s = .ok spec ∧ nodes ≠ [] ∧
      (syncTargetGroups s services nodes).run w = (.done (), w₁) ∧
      (ask (.findTargetGroup spec.targetGroupName)).run w₁ = (.done none, w') ∧
      name = spec.targetGroupName := by
  rw [ensureBalancer_eq] at h
  rcases run_bind_eq_failed.mp h with hfail | ⟨spec, w₁, hdescribed, h⟩
  · cases run_failed (failsOnly_describedBalancer s service) hfail
  · obtain ⟨hspec, rfl⟩ := describedBalancer_done hdescribed
    split at h
    · cases h
    · rename_i hnodes
      rcases run_bind_eq_failed.mp h with hsync | ⟨_, w₂, hsync, h⟩
      · cases run_failed (failsOnly_syncTargetGroups s services nodes) hsync
      · obtain ⟨hfind, hname⟩ := placeAttached_groupMissing h
        exact ⟨spec, w₂, hspec, by simpa using hnodes, hsync, hfind, hname⟩

end Ensure

end CloudSteward
