import CloudSteward.NodeSet
import CloudSteward.Proofs.TargetGroup.Cache

/-!
# Which changes of the node set reach the target groups

The node set is followed by name, providerID and eligibility, and every change of
this view asks for a sync. The sync in its turn goes by the names of the eligible
nodes alone. The two agree where a change adds or removes an eligible name. A node
that keeps its name and gets another providerID is a change for the one and none
for the other: the sync ends well, and the targets of the old instance stay.

Results:

* `relist_changed_iff`: a relisting is a change exactly when the view is another one.
* `NodeView.change_of_same_names`: what a change can be that keeps the eligible names.
* `sync_after_change_iff`: when exactly a change takes effect.
* `sync_after_change_stale`: a change that does not.
-/

namespace CloudSteward

open Program

/-! ## The view of a list of nodes -/

/-- What balancers see of a list of nodes. -/
def NodeView.ofNodes (nodes : List Node) : NodeView :=
  SortedMap.ofList (nodes.map fun n => (n.name, n.key))

/-- The watch starts over with a list of nodes. -/
def NodeSet.relist (x : NodeSet) (nodes : List Node) : Bool × NodeSet :=
  (nodes.foldl (fun x n => (x.observe (.initApply n)).2) (x.observe .init).2).observe .initDone

namespace NodeSet

/-- Listing some nodes leaves the view as it is until the list is complete. -/
theorem foldl_initApply (current listed : NodeView) (nodes : List Node) :
    nodes.foldl (fun x n => (NodeSet.observe x (.initApply n)).2) ⟨current, some listed⟩ =
      ⟨current, some (nodes.foldl (fun m n => m.insert n.name n.key) listed)⟩ := by
  induction nodes generalizing listed with
  | nil => rfl
  | cons n rest ih => exact ih (listed.insert n.name n.key)

theorem relist_eq (x : NodeSet) (nodes : List Node) :
    x.relist nodes =
      (decide (NodeView.ofNodes nodes ≠ x.current), ⟨NodeView.ofNodes nodes, none⟩) := by
  have hview : nodes.foldl (fun m n => m.insert n.name n.key) .empty = NodeView.ofNodes nodes := by
    rw [NodeView.ofNodes, SortedMap.ofList, List.foldl_map]
  have hinit : (x.observe .init).2 = ⟨x.current, some .empty⟩ := rfl
  rw [relist, hinit, foldl_initApply, hview]
  rfl

theorem relist_changed_iff (x : NodeSet) (nodes : List Node) :
    (x.relist nodes).1 = true ↔ NodeView.ofNodes nodes ≠ x.current := by
  rw [relist_eq, decide_eq_true_iff]

end NodeSet

namespace NodeView

theorem get?_foldl_of_notMem {nodes : List Node} {name : String}
    (h : name ∉ nodes.map Node.name) (m : NodeView) :
    (nodes.foldl (fun m n => m.insert n.name n.key) m).get? name = m.get? name := by
  induction nodes generalizing m with
  | nil => rfl
  | cons n rest ih =>
    rw [List.map_cons, List.mem_cons, not_or] at h
    rw [List.foldl_cons, ih h.2, SortedMap.get?_insert, if_neg h.1]

/-- Of nodes with different names each is seen under its name. -/
theorem get?_ofNodes {nodes : List Node} (hnodup : (nodes.map Node.name).Nodup) {n : Node}
    (hn : n ∈ nodes) : (ofNodes nodes).get? n.name = some n.key := by
  suffices h : ∀ m : NodeView,
      (nodes.foldl (fun m n => m.insert n.name n.key) m).get? n.name = some n.key by
    rw [ofNodes, SortedMap.ofList, List.foldl_map]
    exact h .empty
  induction nodes with
  | nil => cases hn
  | cons first rest ih =>
    obtain ⟨hfirst, hrest⟩ := List.nodup_cons.mp hnodup
    intro m
    rcases List.mem_cons.mp hn with rfl | hn
    · rw [List.foldl_cons, get?_foldl_of_notMem hfirst, SortedMap.get?_insert, if_pos rfl]
    · exact ih hrest hn _

/-- How two lists of nodes can look different although the same names are eligible: a
    node has kept its name and its eligibility and has another providerID, or the
    difference is about a name that is eligible in neither list. -/
inductive QuietChange (before after : List Node) (name : String) : Prop where
  | replaced (old new : Node) (hold : old ∈ before.filter Node.isEligible)
      (hnew : new ∈ after.filter Node.isEligible) (hname : old.name = name)
      (hsame : new.name = name) (hprovider : new.providerId ≠ old.providerId)
  | irrelevant (hbefore : name ∉ (before.filter Node.isEligible).map Node.name)
      (hafter : name ∉ (after.filter Node.isEligible).map Node.name)

theorem takesTraffic_of_isEligible {n : Node} (h : n.isEligible = true) :
    n.takesTraffic = true := by
  rw [Node.isEligible, Bool.and_eq_true] at h
  exact h.2

theorem change_of_same_names {before after : List Node} (hbefore : (before.map Node.name).Nodup)
    (hafter : (after.map Node.name).Nodup) (hchange : ofNodes after ≠ ofNodes before)
    (hnames : ∀ name, name ∈ (after.filter Node.isEligible).map Node.name ↔
      name ∈ (before.filter Node.isEligible).map Node.name) :
    ∃ name, (ofNodes after).get? name ≠ (ofNodes before).get? name ∧
      QuietChange before after name := by
  obtain ⟨name, hname⟩ : ∃ name, (ofNodes after).get? name ≠ (ofNodes before).get? name := by
    by_contra hall
    exact hchange (SortedMap.ext_get? fun name => by_contra fun hne => hall ⟨name, hne⟩)
  refine ⟨name, hname, ?_⟩
  by_cases hmem : name ∈ (before.filter Node.isEligible).map Node.name
  · obtain ⟨old, hold, hold'⟩ := List.mem_map.mp hmem
    obtain ⟨new, hnew, hnew'⟩ := List.mem_map.mp ((hnames name).mpr hmem)
    refine .replaced old new hold hnew hold' hnew' fun hsame => hname ?_
    obtain ⟨hin, heligible⟩ := List.mem_filter.mp hold
    obtain ⟨hin', heligible'⟩ := List.mem_filter.mp hnew
    -- both take traffic, so only the providerID could tell them apart
    have hkey : new.key = old.key := by
      rw [Node.key, Node.key, hsame, takesTraffic_of_isEligible heligible,
        takesTraffic_of_isEligible heligible']
    have hget := get?_ofNodes hbefore hin
    have hget' := get?_ofNodes hafter hin'
    rw [hold'] at hget
    rw [hnew'] at hget'
    rw [hget, hget', hkey]
  · exact .irrelevant hmem fun h => hmem ((hnames name).mp h)

end NodeView

/-! ## Two syncs -/

theorem mem_names_of_nodeNames_eq {before after : List Node}
    (h : nodeNames before = nodeNames after) (name : String) :
    name ∈ after.map Node.name ↔ name ∈ before.map Node.name := by
  have hhas := congrArg (SortedSet.has · name) h
  simp only [nodeNames, SortedSet.has_ofMembers] at hhas
  exact (decide_eq_decide.mp hhas).symm

section Syncs

variable {s : Settings} {services₁ services₂ : List Service} {nodes₁ nodes₂ : List Node}
  {w w₁ w₂ : World}

/-- Without remembered names a sync that ends well has given every wanted group its
    targets. -/
theorem meets_of_sync_of_forgotten (hnodes : nodes₂ ≠ []) (hforgotten : w.visited = none)
    (hspare : w.incidents.SpareGroups) (hfresh : w.store.FreshGroups)
    (h : (syncTargetGroups s services₂ nodes₂).run w = (.done (), w₂)) :
    w₂.store.Meets (w.store.wantedTargets s (nodes₂.filter Node.isEligible)) := by
  have hlast : w.visited ≠ some (nodeNames (nodes₂.filter Node.isEligible)) := by simp [hforgotten]
  obtain ⟨-, hplaced, -⟩ := syncTargetGroups_done hnodes hlast hspare hfresh h
  exact hplaced.meets

/-- A sync of nodes with the eligible names of the sync before it does nothing. -/
theorem eq_of_sync_same_names (hnodes₁ : nodes₁ ≠ []) (hnodes₂ : nodes₂ ≠ [])
    (hnames : nodeNames (nodes₁.filter Node.isEligible) =
      nodeNames (nodes₂.filter Node.isEligible))
    (h₁ : (syncTargetGroups s services₁ nodes₁).run w = (.done (), w₁))
    (h₂ : (syncTargetGroups s services₂ nodes₂).run w₁ = (.done (), w₂)) : w₂ = w₁ := by
  have hvisited := visited_of_sync_done hnodes₁ h₁
  rw [hnames] at hvisited
  rw [syncTargetGroups_of_visited hnodes₂ hvisited] at h₂
  exact (Prod.mk.inj h₂).2.symm

/-- After a sync of some nodes, one of other nodes meets what these want exactly if
    the eligible names are others or everything is in place already. -/
theorem meets_after_sync_iff (hnodes₁ : nodes₁ ≠ []) (hnodes₂ : nodes₂ ≠ [])
    (hspare : w.incidents.SpareGroups) (hfresh : w.store.FreshGroups)
    (h₁ : (syncTargetGroups s services₁ nodes₁).run w = (.done (), w₁))
    (h₂ : (syncTargetGroups s services₂ nodes₂).run w₁ = (.done (), w₂)) :
    w₂.store.Meets (w₁.store.wantedTargets s (nodes₂.filter Node.isEligible)) ↔
      nodeNames (nodes₁.filter Node.isEligible) ≠ nodeNames (nodes₂.filter Node.isEligible) ∨
        w₁.store.Meets (w₁.store.wantedTargets s (nodes₂.filter Node.isEligible)) := by
  by_cases hnames : nodeNames (nodes₁.filter Node.isEligible) =
      nodeNames (nodes₂.filter Node.isEligible)
  · rw [eq_of_sync_same_names hnodes₁ hnodes₂ hnames h₁ h₂]
    simp [hnames]
  · have hlast : w₁.visited ≠ some (nodeNames (nodes₂.filter Node.isEligible)) := by
      rw [visited_of_sync_done hnodes₁ h₁]
      exact fun h => hnames (Option.some.inj h)
    have hfresh₁ := freshGroups_run hspare.targetGroups hfresh h₁
    obtain ⟨-, hplaced, -⟩ := syncTargetGroups_done hnodes₂ hlast (hspare.run h₁) hfresh₁ h₂
    exact iff_of_true hplaced.meets (.inl hnames)

/-- **Effect of a change.** The nodes are synced, their view changes, and they are
    synced again. The second sync leaves the wanted groups as a sync without
    remembered names would leave them exactly if the names of the eligible nodes have
    changed or the groups were right before. If the names are the same, the second
    sync has done nothing, the groups hold what the nodes before the change wanted,
    and the change is that of a providerID or about a node that takes no part. -/
theorem sync_after_change_iff {x : NodeSet} (hnodes₁ : nodes₁ ≠ []) (hnodes₂ : nodes₂ ≠ [])
    (hnodup₁ : (nodes₁.map Node.name).Nodup) (hnodup₂ : (nodes₂.map Node.name).Nodup)
    (hview : x.current = .ofNodes nodes₁) (hchange : (x.relist nodes₂).1 = true)
    (hspare : w.incidents.SpareGroups) (hfresh : w.store.FreshGroups)
    (h₁ : (syncTargetGroups s services₁ nodes₁).run w = (.done (), w₁))
    (h₂ : (syncTargetGroups s services₂ nodes₂).run w₁ = (.done (), w₂)) :
    let before := nodes₁.filter Node.isEligible
    let after := nodes₂.filter Node.isEligible
    let wanted := w₁.store.wantedTargets s after
    (∀ services v v', v.store = w₁.store → v.visited = none → v.incidents.SpareGroups →
      (syncTargetGroups s services nodes₂).run v = (.done (), v') →
      ((∀ name ∈ wanted.map (·.1), SameTargets v'.store w₂.store name) ↔
        nodeNames before ≠ nodeNames after ∨ w₁.store.Meets wanted)) ∧
    (nodeNames before = nodeNames after →
      w₂ = w₁ ∧
      (w.visited ≠ some (nodeNames before) →
        w₂.store.Meets (w.store.wantedTargets s before)) ∧
      ∃ name, (NodeView.ofNodes nodes₂).get? name ≠ (NodeView.ofNodes nodes₁).get? name ∧
        NodeView.QuietChange nodes₁ nodes₂ name) := by
  intro before after wanted
  refine ⟨fun services v v' hstore hforgotten hspare' h => ?_, fun hnames => ?_⟩
  · have hfresh₁ := freshGroups_run hspare.targetGroups hfresh h₁
    rw [← hstore] at hfresh₁
    have hmeets := meets_of_sync_of_forgotten hnodes₂ hforgotten hspare' hfresh₁ h
    rw [hstore] at hmeets
    rw [← meets_iff_sameTargets hmeets]
    exact meets_after_sync_iff hnodes₁ hnodes₂ hspare hfresh h₁ h₂
  · have hidle : w₂ = w₁ := eq_of_sync_same_names hnodes₁ hnodes₂ hnames h₁ h₂
    have hviews : NodeView.ofNodes nodes₂ ≠ .ofNodes nodes₁ := by
      rw [← hview]
      exact (x.relist_changed_iff nodes₂).mp hchange
    refine ⟨hidle, fun hlast => ?_,
      NodeView.change_of_same_names hnodup₁ hnodup₂ hviews (mem_names_of_nodeNames_eq hnames)⟩
    obtain ⟨-, hplaced, -⟩ := syncTargetGroups_done hnodes₁ hlast hspare hfresh h₁
    rw [hidle]
    exact hplaced.meets

end Syncs

namespace Sample

/-- The world after a sync of some nodes. -/
def afterSync (nodes : List Node) (w : World) : World :=
  ((syncTargetGroups settings [] nodes).run w).2

/-- A node set that has seen the first node. -/
def watching : NodeSet := (NodeSet.start.relist [node "worker-0" "fhm1"]).2

/-- The world after a sync of the first node. -/
def settled : World := afterSync [node "worker-0" "fhm1"] (.ofStore store)

end Sample

open Sample in
/-- The first node makes way for the second one, which takes its place in the group. -/
theorem sync_after_change_renamed :
    (watching.relist [node "worker-1" "fhm2"]).1 = true ∧
      ∀ name ∈ (settled.store.wantedTargets settings
          ([node "worker-1" "fhm2"].filter Node.isEligible)).map (·.1),
        SameTargets (afterSync [node "worker-1" "fhm2"] { settled with visited := none }).store
          (afterSync [node "worker-1" "fhm2"] settled).store name := by
  have hchange : (watching.relist [node "worker-1" "fhm2"]).1 = true := by decide
  have h₁ : (syncTargetGroups settings [] [node "worker-0" "fhm1"]).run (.ofStore store) =
      (.done (), settled) := by
    rfl
  have h₂ : (syncTargetGroups settings [] [node "worker-1" "fhm2"]).run settled =
      (.done (), afterSync [node "worker-1" "fhm2"] settled) := by
    rfl
  have hforgotten :
      (syncTargetGroups settings [] [node "worker-1" "fhm2"]).run { settled with visited := none } =
        (.done (), afterSync [node "worker-1" "fhm2"] { settled with visited := none }) := by
    rfl
  have hspare : (World.ofStore store).incidents.SpareGroups :=
    spareGroups_of_no_intrusions fun _ => rfl
  obtain ⟨heffect, -⟩ := sync_after_change_iff (by decide) (by decide) (by decide) (by decide)
    rfl hchange hspare freshGroups_store h₁ h₂
  have hspare₁ : settled.incidents.SpareGroups := hspare.run h₁
  have hsame := heffect [] { settled with visited := none } _ rfl rfl hspare₁ hforgotten
  exact ⟨hchange, hsame.mpr (.inl (by decide))⟩

open Sample in
/-- The first node keeps its name and gets the second instance. This is a change of
    the node set, and both syncs end well; but the group keeps the target of the first
    instance, where a sync without remembered names gives it that of the second. -/
theorem sync_after_change_stale :
    (watching.relist [node "worker-0" "fhm2"]).1 = true ∧
      ((syncTargetGroups settings [] [node "worker-0" "fhm1"]).run (.ofStore store)).1.isDone =
        true ∧
      ((syncTargetGroups settings [] [node "worker-0" "fhm2"]).run settled).1.isDone = true ∧
      ((afterSync [node "worker-0" "fhm2"] settled).store.groupsNamed "k8senpnet").map
          (·.targets) = [[⟨"e9b", "10.0.0.5"⟩]] ∧
      ((afterSync [node "worker-0" "fhm2"] { settled with visited := none }).store.groupsNamed
          "k8senpnet").map (·.targets) = [[⟨"e9b", "10.0.0.6"⟩]] := by
  exact ⟨by decide, by decide, by decide, by decide, by decide⟩

end CloudSteward
