import CloudSteward.Proofs.Balancer.Ensure
import CloudSteward.Proofs.Footprint

/-!
# What the reconciliation of a service leaves alone

A service is behind one balancer, the one of its name, and its nodes are behind the
target groups that their networks give. Whatever fails on the way, ensuring the balancer
changes nothing else: not the balancers of other services, not the groups of other
names, no instance, subnet or route table. Deleting the balancer may be followed by a
cleanup, and that takes the groups whose name starts with the name of the cluster.

Results:

* `staysIn_convergeGroups`, `staysIn_deleteClusterGroups`: changes of target groups.
* `staysIn_placeAttached`, `staysIn_removeNamed`: changes of a balancer.
* `ensureBalancer_keeps_others`: the balancer of a service is ensured.
* `reconciliation_keeps_others`: ensuring, updating and deleting, with any outcome.
-/

namespace CloudSteward

open Program

/-! ## Target groups -/

section Groups

variable {scope : Scope} {s : Settings} {name : String}

theorem staysIn_adjustGroup (group : TargetGroup) (targets : TargetSet) :
    (adjustGroup group targets).StaysIn scope (.groups [group.id]) := by
  have hid : ∃ ids, Held.groups [group.id] = .groups ids ∧ group.id ∈ ids :=
    ⟨_, rfl, List.mem_singleton.mpr rfl⟩
  have hremove : ∀ l, (do
      let _ ← ask (.removeTargets group.id l) : Program Unit).Within
        (·.StaysIn scope (.groups [group.id])) :=
    fun l => within_bind (within_ask hid) fun _ => trivial
  refine staysIn_of_within ?_
  rw [adjustGroup]
  dsimp only
  split
  · split
    · trivial
    · exact hremove _
  · refine within_bind (within_ask hid) fun _ => ?_
    split
    · trivial
    · exact hremove _

theorem staysIn_createGroup (hname : scope.group name) (targets : TargetSet) :
    (createGroup s name targets).StaysIn scope .nothing := by
  refine staysIn_bind (staysIn_of_within (within_answer hname)) fun r => ?_
  cases r with
  | ok group => exact staysIn_of_within trivial
  | error e =>
    dsimp only
    split
    · refine staysIn_fetchGroup hname fun found => ?_
      cases found with
      | none => exact staysIn_of_within trivial
      | some group => exact staysIn_adjustGroup group targets
    · exact staysIn_of_within trivial

theorem staysIn_convergeGroup (hname : scope.group name) (targets : TargetSet) :
    (convergeGroup s name targets).StaysIn scope .nothing := by
  refine staysIn_fetchGroup hname fun found => ?_
  cases found with
  | none => exact staysIn_createGroup hname targets
  | some group => exact staysIn_adjustGroup group targets

theorem staysIn_convergeGroups {l : List (String × TargetSet)}
    (h : ∀ entry ∈ l, scope.group entry.1) : (convergeGroups s l).StaysIn scope .nothing := by
  induction l with
  | nil => exact staysIn_of_within trivial
  | cons entry rest ih =>
    refine staysIn_bind (staysIn_convergeGroup (h entry List.mem_cons_self) _) fun _ => ?_
    exact ih fun other hother => h other (List.mem_cons_of_mem entry hother)

/-- A cleanup deletes groups by the ids under which it has listed groups of the cluster. -/
theorem staysIn_deleteClusterGroups (h : ∀ rest, scope.group (s.clusterName ++ rest)) :
    (deleteClusterGroups s).StaysIn scope .nothing := by
  have hpick : ∀ g : TargetGroup, g.belongsTo s.clusterName = true → scope.group g.name := by
    intro g hg
    obtain ⟨rest, hname⟩ := belongsTo_iff.mp hg
    rw [hname]
    exact h rest
  refine staysIn_listTargetGroups hpick fun groups => staysIn_of_within ⟨?_, fun r => ?_⟩
  · exact fun id hid => ⟨_, rfl, hid⟩
  · cases r <;> trivial

/-- A sync without nodes changes nothing but in a cleanup. -/
theorem staysIn_cleanup {services : List Service}
    (h : services.any Service.isActive = false → ∀ rest, scope.group (s.clusterName ++ rest)) :
    (syncTargetGroups s services []).StaysIn scope .nothing := by
  rw [syncTargetGroups, if_pos (by rfl)]
  split
  · exact staysIn_of_within trivial
  · rename_i hactive
    refine staysIn_bind (staysIn_deleteClusterGroups (h (by simpa using hactive))) fun _ => ?_
    exact staysIn_of_within ⟨trivial, trivial⟩

/-- A sync of some nodes changes the groups that it has collected targets for. -/
theorem othersKept_sync {services : List Service} {nodes : List Node} {w w' : World}
    {o : Outcome Unit} (hnodes : nodes ≠ [])
    (hdesired : ∀ desired w₁, (desiredTargets s (nodes.filter Node.isEligible)).run w =
      (.done desired, w₁) → ∀ name ∈ desired.keys, scope.group name)
    (hw : w.Alone) (h : (syncTargetGroups s services nodes).run w = (o, w')) :
    w.store.OthersKept scope w'.store := by
  rw [syncTargetGroups, if_neg (by simpa using hnodes), Program.run] at h
  split at h
  · cases h
    exact .refl scope _
  · have hreads : (desiredTargets s (nodes.filter Node.isEligible)).StaysIn scope .nothing :=
      staysIn_of_reads (within_desiredTargets s _)
    rcases run_bind_cases h with ⟨-, o₁, hcollect, -⟩ | ⟨desired, w₁, hcollect, h⟩
    · exact hreads w o₁ w' hw trivial hcollect
    · have hgroups : ∀ entry ∈ desired.entries, scope.group entry.1 := fun entry hentry =>
        hdesired desired w₁ hcollect entry.1 (List.mem_map_of_mem hentry)
      have hrest := staysIn_bind (staysIn_convergeGroups (s := s) hgroups) fun _ =>
        staysIn_of_within (p := .remember (some (nodeNames (nodes.filter Node.isEligible)))
          (.pure ())) ⟨trivial, trivial⟩
      exact (hreads w _ w₁ hw trivial hcollect).trans (hrest w₁ o w' (hw.run hcollect) trivial h)

end Groups

/-! ## Balancers -/

section Balancers

variable {scope : Scope} {s : Settings} {spec : BalancerSpec} {attachment : Attachment}
  {name id : String}

theorem editing_removeListeners (names : List String) (b : Balancer) :
    (removeListeners id names b).Within (·.StaysIn scope (.balancer id)) := by
  induction names generalizing b with
  | nil => trivial
  | cons listener rest ih => exact within_bind (within_ask rfl) ih

theorem editing_addListeners (l : List ListenerSpec) (b : Balancer) :
    (addListeners id l b).Within (·.StaysIn scope (.balancer id)) := by
  induction l generalizing b with
  | nil => trivial
  | cons listener rest ih => exact within_bind (within_ask rfl) ih

theorem editing_detachGroups (groups : List String) (b : Balancer) :
    (detachGroups id groups b).Within (·.StaysIn scope (.balancer id)) := by
  induction groups generalizing b with
  | nil => trivial
  | cons group rest ih => exact within_bind (within_ask rfl) ih

/-- All changes go to the id of the balancer that was looked up, not to those of the
    balancers that the changes answer with. -/
theorem staysIn_convergeBalancer (b : Balancer) :
    (convergeBalancer b spec attachment).StaysIn scope (.balancer b.id) := by
  refine staysIn_of_within ?_
  refine within_bind (editing_removeListeners _ _) fun b₁ => ?_
  refine within_bind (editing_addListeners _ _) fun b₂ => ?_
  refine within_bind (editing_detachGroups _ _) fun b₃ => ?_
  split
  · trivial
  · exact within_ask rfl

theorem staysIn_createBalancer (hname : scope.balancer spec.name) :
    (createBalancer s spec attachment).StaysIn scope .nothing := by
  refine staysIn_bind (staysIn_of_within (within_answer hname)) fun r => ?_
  cases r with
  | ok b => exact staysIn_of_within trivial
  | error e =>
    dsimp only
    split
    · refine staysIn_findBalancer hname fun found => ?_
      cases found with
      | none => exact staysIn_of_within trivial
      | some b => exact staysIn_convergeBalancer b
    · exact staysIn_of_within trivial

theorem staysIn_placeBalancer (hname : scope.balancer spec.name) :
    (placeBalancer s spec attachment).StaysIn scope .nothing := by
  refine staysIn_findBalancer hname fun found => ?_
  cases found with
  | none => exact staysIn_createBalancer hname
  | some existing =>
    dsimp only
    split
    · exact staysIn_convergeBalancer existing
    · exact staysIn_bind (staysIn_of_within (within_ask rfl)) fun _ => staysIn_createBalancer hname

theorem staysIn_placeAttached (hname : scope.balancer spec.name) :
    (placeAttached s spec).StaysIn scope .nothing := by
  refine staysIn_bind (staysIn_of_reads (within_ask (by rfl))) fun found => ?_
  refine staysIn_bind (staysIn_of_within (within_require _ _)) fun group => ?_
  exact staysIn_placeBalancer hname

theorem staysIn_removeNamed (hname : scope.balancer name) :
    (removeNamed name).StaysIn scope .nothing := by
  refine staysIn_findBalancer hname fun found => ?_
  cases found with
  | none => exact staysIn_of_within trivial
  | some b =>
    refine staysIn_bind (staysIn_of_within (within_answer rfl)) fun r => ?_
    cases r with
    | ok _ => exact staysIn_of_within trivial
    | error e =>
      dsimp only
      split <;> exact staysIn_of_within trivial

end Balancers

/-! ## Services -/

/-- What ensuring the balancer of a service may change: this balancer, and the groups
    that the eligible nodes have targets for. -/
def Scope.ensuring (s : Settings) (service : Service) (nodes : List Node) (w : World) : Scope where
  balancer name := balancerName? service = some name
  group name := ∃ desired w', (desiredTargets s (nodes.filter Node.isEligible)).run w =
    (.done desired, w') ∧ name ∈ desired.keys

/-- What deleting the balancer of a service may change: this balancer, and the groups
    of the cluster if no service wants a balancer. -/
def Scope.deleting (s : Settings) (services : List Service) (service : Service) : Scope where
  balancer name := balancerName? service = some name
  group name := services.any Service.isActive = false ∧ ∃ rest, name = s.clusterName ++ rest

section Services

variable {s : Settings} {services : List Service} {service : Service} {nodes : List Node}
  {w w' : World}

theorem ensureBalancer_keeps_others {o : Outcome Balancer} (hw : w.Alone)
    (h : (ensureBalancer s services service nodes).run w = (o, w')) :
    w.store.OthersKept (.ensuring s service nodes w) w'.store := by
  rw [ensureBalancer_eq] at h
  rcases run_bind_cases h with ⟨-, o₁, hdescribe, -⟩ | ⟨spec, w₁, hdescribe, h⟩
  · rw [describedBalancer] at hdescribe
    split at hdescribe <;> cases hdescribe <;> exact .refl _ _
  · obtain ⟨hspec, rfl⟩ := describedBalancer_done hdescribe
    have hname : balancerName? service = some spec.name := (balancerSpec_parts hspec).1
    split at h
    · cases h
      exact .refl _ _
    · rename_i hnodes
      have hnodes : nodes ≠ [] := by simpa using hnodes
      have hsync {o : Outcome Unit} {w₂ : World}
          (hrun : (syncTargetGroups s services nodes).run w = (o, w₂)) :
          w.store.OthersKept (.ensuring s service nodes w) w₂.store :=
        othersKept_sync hnodes (fun desired w₁ hrun name hmem => ⟨desired, w₁, hrun, hmem⟩) hw hrun
      rcases run_bind_cases h with ⟨-, o₁, hrun, -⟩ | ⟨_, w₂, hrun, h⟩
      · exact hsync hrun
      · exact (hsync hrun).trans
          (staysIn_placeAttached hname w₂ o w' (hw.run hrun) trivial h)

theorem ensureLoadBalancerDeleted_keeps_others {o : Outcome Unit} (hw : w.Alone)
    (h : (ensureLoadBalancerDeleted s services service).run w = (o, w')) :
    w.store.OthersKept (.deleting s services service) w'.store := by
  rw [ensureLoadBalancerDeleted_eq] at h
  rcases run_bind_cases h with ⟨-, o₁, hnamed, -⟩ | ⟨name, w₁, hnamed, h⟩
  · rw [namedBalancer] at hnamed
    split at hnamed <;> cases hnamed <;> exact .refl _ _
  · obtain ⟨hname, rfl⟩ := namedBalancer_done hnamed
    refine staysIn_bind (staysIn_removeNamed hname) (fun _ => ?_) w o w' hw trivial h
    exact staysIn_cleanup fun hactive rest => ⟨hactive, rest, rfl⟩

/-- **Footprint.** However they end, and whatever fails on the way, ensuring, updating
    and deleting the balancer of a service leave every other balancer, every instance,
    subnet and route table as it was, and so every target group but those that targets
    were collected for, or those of the cluster if a cleanup was due. -/
theorem reconciliation_keeps_others (s : Settings) (services : List Service) (service : Service)
    (nodes : List Node) (hw : w.Alone) :
    (∀ o w', (ensureLoadBalancer s services service nodes).run w = (o, w') →
      w.store.OthersKept (.ensuring s service nodes w) w'.store) ∧
    (∀ o w', (updateLoadBalancer s services service nodes).run w = (o, w') →
      w.store.OthersKept (.ensuring s service nodes w) w'.store) ∧
    ∀ o w', (ensureLoadBalancerDeleted s services service).run w = (o, w') →
      w.store.OthersKept (.deleting s services service) w'.store := by
  refine ⟨fun o w' h => ?_, fun o w' h => ?_, fun o w' h => ?_⟩
  · obtain ⟨o₁, hensure, -⟩ := run_bind_pure h
    exact ensureBalancer_keeps_others hw hensure
  · obtain ⟨o₁, hensure, -⟩ := run_bind_pure h
    exact ensureBalancer_keeps_others hw hensure
  · exact ensureLoadBalancerDeleted_keeps_others hw h

end Services

namespace Sample

/-- The balancer of another service. -/
def neighbour : Balancer := { outdated with id := "nlb-2", name := "b1f2e3d" }

/-- A group that somebody has made by hand. -/
def manual : TargetGroup := ⟨"tgr", "b1g", "manual", "zone", [⟨"e9b", "10.0.0.5"⟩], .empty⟩

/-- The small cluster with the outdated balancer, beside the balancer of another service
    and a group of another name. The new group cannot be attached. -/
def besideOthers : World :=
  { World.ofStore { store with
      targetGroups := Inventory.empty.put manual
      balancers := (Inventory.empty.put outdated).put neighbour } with
    incidents := failingOnce .attachTargetGroup .http }

/-- Ids that are given do not look like those of the small cluster. -/
theorem idOf_ne {id : String} (h : id.toList.head? ≠ some 'e') (n : Nat) : Store.idOf n ≠ id := by
  rintro rfl
  rw [Store.idOf, String.toList_append] at h
  exact h rfl

theorem alone_besideOthers : besideOthers.Alone where
  keep := keep_of_no_intrusions (fun _ => rfl) _
  groups n _ := (Inventory.get?_put _ _ _).trans (if_neg (idOf_ne (by decide) n))
  balancers n _ :=
    (Inventory.get?_put _ _ _).trans ((if_neg (idOf_ne (by decide) n)).trans
      ((Inventory.get?_put _ _ _).trans (if_neg (idOf_ne (by decide) n))))

end Sample

open Sample in
/-- The balancer is left half converged; the other balancer and the other group are as
    they were. -/
theorem reconciliation_keeps_others_halfway :
    ∃ w', (ensureLoadBalancer settings [] service nodes).run besideOthers =
        (.failed (.cloud .http), w') ∧
      outdated ∉ w'.store.balancers ∧ neighbour ∈ w'.store.balancers ∧
      manual ∈ w'.store.targetGroups := by
  obtain ⟨hensure, -, -⟩ :=
    reconciliation_keeps_others settings [] service nodes alone_besideOthers
  have hkept := hensure _ ((ensureLoadBalancer settings [] service nodes).run besideOthers).2 rfl
  have hname : balancerName? service ≠ some neighbour.name := by decide
  have hgroup : ¬ (Scope.ensuring settings service nodes besideOthers).group manual.name := by
    rintro ⟨desired, w', hrun, hmem⟩
    have hdesired : ((desiredTargets settings (nodes.filter Node.isEligible)).run
        besideOthers).1 = .done (SortedMap.empty.insert "k8senpnet"
          (.ofMembers [⟨"e9b", "10.0.0.5"⟩, ⟨"e9b", "10.0.0.6"⟩])) := by
      rfl
    rw [hrun] at hdesired
    cases hdesired
    revert hmem
    decide
  refine ⟨_, by rfl, ?_, (hkept.balancers _ hname).mpr (by rfl),
    (hkept.targetGroups _ hgroup).mpr (by rfl)⟩
  rw [Inventory.mem_iff]
  decide +kernel

end CloudSteward
