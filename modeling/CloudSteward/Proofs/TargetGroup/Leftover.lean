import CloudSteward.Proofs.TargetGroup.Converge

/-!
# What syncs leave in groups that nobody wants any more

A sync brings the groups that its nodes want to their targets and leaves every other
group alone. After any number of syncs a group therefore holds what the newest sync
wanted that wanted the group at all. When the last node of a network is gone, no
later sync looks at its group, and the group keeps the targets of that node.

A history of syncs is the list of their nodes, the newest first. A sync of the names
that are remembered does nothing, so only the effective ones count.

Results:

* `Synced.sound`: what the groups hold after any history.
* `nothingLeft_iff`: when exactly no target is left over.
* `leftover_of_excluded`: a history that leaves targets over.
-/

namespace CloudSteward

open Program

/-! ## Histories -/

/-- Syncs that end well, each going on where the one before it has ended. -/
inductive Synced (s : Settings) (w : World) : List (List Node) → World → Prop
  | start : Synced s w [] w
  | sync {earlier : List (List Node)} {nodes : List Node} {w₁ w₂ : World}
      (services : List Service) (before : Synced s w earlier w₁) (some_nodes : nodes ≠ [])
      (run : (syncTargetGroups s services nodes).run w₁ = (.done (), w₂)) :
      Synced s w (nodes :: earlier) w₂

/-- The names that are remembered after a history, if these were at its start. -/
def rememberedAfter (last : Option NameSet) : List (List Node) → Option NameSet
  | [] => last
  | nodes :: _ => some (nodeNames (nodes.filter Node.isEligible))

/-- The syncs of a history that have not found their names remembered. -/
def effective (last : Option NameSet) : List (List Node) → List (List Node)
  | [] => []
  | nodes :: earlier =>
    if rememberedAfter last earlier = some (nodeNames (nodes.filter Node.isEligible)) then
      effective last earlier
    else nodes :: effective last earlier

/-- The targets that the eligible ones of some nodes want. -/
def Store.wantedBy (st : Store) (s : Settings) (nodes : List Node) : List (String × Target) :=
  st.wantedTargets s (nodes.filter Node.isEligible)

/-- The names of the groups that targets are wanted in. -/
def groupNames (wanted : List (String × Target)) : List String :=
  wanted.map (·.1)

/-- The newest of some lists of targets that wants a group. -/
def newestWanting (name : String) (lists : List (List (String × Target))) :
    Option (List (String × Target)) :=
  lists.find? fun wanted => (groupNames wanted).contains name

/-- What is stored under the name of a group: exactly one group with the targets that
    are wanted in it, or no group if nothing is said of it. -/
def Store.Holds (st : Store) (name : String) : Option (List (String × Target)) → Prop
  | none => st.groupsNamed name = []
  | some wanted => ∃ group, st.groupsNamed name = [group] ∧
      ∀ t, t ∈ group.targets ↔ (name, t) ∈ wanted

theorem newestWanting_cons_of_mem {name : String} {wanted : List (String × Target)}
    (h : name ∈ groupNames wanted) (lists : List (List (String × Target))) :
    newestWanting name (wanted :: lists) = some wanted :=
  List.find?_cons_of_pos (List.contains_iff_mem.mpr h)

/-- The newest list that wants a group is one of the lists, and it does want the
    group. -/
theorem newestWanting_eq_some {name : String} {lists : List (List (String × Target))}
    {newest : List (String × Target)} (h : newestWanting name lists = some newest) :
    newest ∈ lists ∧ name ∈ groupNames newest := by
  rw [newestWanting] at h
  exact ⟨List.mem_of_find?_eq_some h, by simpa using List.find?_some h⟩

theorem exists_newestWanting {name : String} {lists : List (List (String × Target))}
    {wanted : List (String × Target)} (hmem : wanted ∈ lists) (hname : name ∈ groupNames wanted) :
    ∃ newest, newestWanting name lists = some newest := by
  rw [← Option.isSome_iff_exists, newestWanting, List.find?_isSome]
  exact ⟨wanted, hmem, List.contains_iff_mem.mpr hname⟩

/-! ## One sync -/

/-- What is stored under a name depends on the groups of the name alone. -/
theorem Store.Holds.congr {st st' : Store} {name : String}
    {wanted? : Option (List (String × Target))} (h : st.Holds name wanted?)
    (hsame : ∀ g : TargetGroup, g.name = name → (g ∈ st'.targetGroups ↔ g ∈ st.targetGroups)) :
    st'.Holds name wanted? := by
  cases wanted? with
  | none =>
    have hnone := Store.groupsNamed_eq_nil_iff.mp h
    refine Store.groupsNamed_eq_nil_iff.mpr fun g hg hname => ?_
    exact hnone g ((hsame g hname).mp hg) hname
  | some wanted =>
    obtain ⟨group, hgroup, htargets⟩ := h
    obtain ⟨hmem, hname, honly⟩ := Inventory.filter_values_eq_singleton_iff.mp hgroup
    refine ⟨group, Inventory.filter_values_eq_singleton_iff.mpr ⟨?_, hname, ?_⟩, htargets⟩
    · exact (hsame group (by simpa using hname)).mpr hmem
    · intro g hg hname'
      exact honly g ((hsame g (by simpa using hname')).mp hg) hname'

/-- Groups that were brought to the targets of a list hold these; other groups hold
    what they held. -/
theorem GroupsPlaced.holds {wanted : List (String × Target)} {st st' : Store}
    (h : GroupsPlaced (gathered wanted).entries st.targetGroups st'.targetGroups)
    {lists : List (List (String × Target))}
    (hbefore : ∀ name, st.Holds name (newestWanting name lists)) (name : String) :
    st'.Holds name (newestWanting name (wanted :: lists)) := by
  by_cases hname : name ∈ groupNames wanted
  · rw [newestWanting_cons_of_mem hname]
    exact h.meets name hname
  · have hnewest : newestWanting name (wanted :: lists) = newestWanting name lists :=
      List.find?_cons_of_neg (by simpa using hname)
    rw [hnewest]
    refine (hbefore name).congr fun g hg => h.others g fun hentry => hname ?_
    rw [← hg]
    exact mem_names_of_gathered hentry

/-! ## Many syncs -/

/-- A store without target groups. -/
def Store.Groupless (st : Store) : Prop := ∀ id, st.targetGroups.get? id = none

theorem Store.Groupless.freshGroups {st : Store} (h : st.Groupless) : st.FreshGroups :=
  fun _ _ => h _

/-- The lists of targets that the effective syncs of a history have wanted. -/
def wantedLately (s : Settings) (w : World) (history : List (List Node)) :
    List (List (String × Target)) :=
  (effective w.visited history).map (w.store.wantedBy s)

section Histories

variable {s : Settings} {w w' : World} {history earlier : List (List Node)} {last : List Node}

/-- What every history keeps. -/
structure Synced.Sound (s : Settings) (w : World) (history : List (List Node)) (w' : World) :
    Prop where
  spare : w'.incidents.SpareGroups
  fresh : w'.store.FreshGroups
  instances : w'.store.instances = w.store.instances
  subnets : w'.store.subnets = w.store.subnets
  visited : w'.visited = rememberedAfter w.visited history
  holds : ∀ name, w'.store.Holds name (newestWanting name (wantedLately s w history))

theorem Synced.Sound.start (hspare : w.incidents.SpareGroups) (hgroupless : w.store.Groupless) :
    Synced.Sound s w [] w where
  spare := hspare
  fresh := hgroupless.freshGroups
  instances := rfl
  subnets := rfl
  visited := rfl
  holds name := by
    refine Store.groupsNamed_eq_nil_iff.mpr fun g hg => ?_
    rw [Inventory.mem_iff, hgroupless] at hg
    cases hg

/-- One more sync. -/
theorem Synced.Sound.step {services : List Service} {nodes : List Node} {w₁ w₂ : World}
    (h : Synced.Sound s w earlier w₁) (hnodes : nodes ≠ [])
    (hrun : (syncTargetGroups s services nodes).run w₁ = (.done (), w₂)) :
    Synced.Sound s w (nodes :: earlier) w₂ := by
  refine ⟨h.spare.run hrun, freshGroups_run h.spare.targetGroups h.fresh hrun,
    (instances_run h.spare.instances hrun).trans h.instances,
    (subnets_run h.spare.subnets hrun).trans h.subnets, visited_of_sync_done hnodes hrun, ?_⟩
  by_cases hlast : w₁.visited = some (nodeNames (nodes.filter Node.isEligible))
  · have hidle : effective w.visited (nodes :: earlier) = effective w.visited earlier := by
      rw [effective, if_pos (h.visited ▸ hlast)]
    rw [syncTargetGroups_of_visited hnodes hlast] at hrun
    cases hrun
    rw [wantedLately, hidle]
    exact h.holds
  · have hcounts : effective w.visited (nodes :: earlier) =
        nodes :: effective w.visited earlier := by
      rw [effective, if_neg (h.visited ▸ hlast)]
    obtain ⟨-, hplaced, -⟩ := syncTargetGroups_done hnodes hlast h.spare h.fresh hrun
    rw [wantedTargets_congr h.instances h.subnets] at hplaced
    rw [wantedLately, hcounts, List.map_cons]
    exact hplaced.holds h.holds

/-- After any history every group holds what the newest effective sync wanted that
    wanted the group, and there is no group that none has wanted. -/
theorem Synced.sound (hspare : w.incidents.SpareGroups) (hgroupless : w.store.Groupless)
    (h : Synced s w history w') : Synced.Sound s w history w' := by
  induction h with
  | start => exact .start hspare hgroupless
  | sync services before hnodes hrun ih => exact ih.step hnodes hrun

/-! ## What is left over -/

/-- Every target of a group is wanted in it. -/
def Store.NothingLeft (st : Store) (wanted : List (String × Target)) : Prop :=
  ∀ group ∈ st.targetGroups, ∀ t ∈ group.targets, (group.name, t) ∈ wanted

/-- A store that holds of every group what the newest list wants has nothing left over
    of older lists exactly if the newest list wants every group that an older one
    wanted. -/
theorem nothingLeft_iff_of_holds {st : Store} {wanted : List (String × Target)}
    {lists : List (List (String × Target))}
    (h : ∀ name, st.Holds name (newestWanting name (wanted :: lists))) :
    st.NothingLeft wanted ↔
      ∀ older ∈ lists, ∀ name ∈ groupNames older, name ∈ groupNames wanted := by
  constructor
  · intro hnothing older holder name hname
    obtain ⟨newest, hnewest⟩ := exists_newestWanting (List.mem_cons_of_mem wanted holder) hname
    obtain ⟨-, hwanted⟩ := newestWanting_eq_some hnewest
    have hholds := h name
    rw [hnewest] at hholds
    obtain ⟨group, hgroup, htargets⟩ := hholds
    obtain ⟨hmem, hgname, -⟩ := Inventory.filter_values_eq_singleton_iff.mp hgroup
    have hgname : group.name = name := by simpa using hgname
    -- the group has a target, and this target is wanted in it
    obtain ⟨⟨_, t⟩, ht, rfl⟩ := List.mem_map.mp hwanted
    have hleft := hnothing group hmem t ((htargets t).mpr ht)
    rw [hgname] at hleft
    exact List.mem_map.mpr ⟨_, hleft, rfl⟩
  · intro hall group hmem t ht
    have hlisted : group ∈ st.groupsNamed group.name :=
      List.mem_filter.mpr ⟨Inventory.mem_values.mpr hmem, by simp⟩
    have hholds := h group.name
    cases hnewest : newestWanting group.name (wanted :: lists) with
    | none =>
      rw [hnewest] at hholds
      rw [show st.groupsNamed group.name = [] from hholds] at hlisted
      cases hlisted
    | some newest =>
      have hname : group.name ∈ groupNames wanted := by
        obtain ⟨hmem, hwants⟩ := newestWanting_eq_some hnewest
        rcases List.mem_cons.mp hmem with rfl | holder
        · exact hwants
        · exact hall newest holder _ hwants
      rw [newestWanting_cons_of_mem hname] at hholds
      obtain ⟨only, honly, htargets⟩ := hholds
      rw [honly, List.mem_singleton] at hlisted
      subst hlisted
      exact (htargets t).mp ht

/-- **Leftover targets.** Groups are created and brought to their targets by syncs
    alone, and the last sync has found other names remembered than its own. Then the
    wanted groups have their targets; every group holds what the newest effective sync
    wanted that wanted it; and no target is left over exactly if the last sync wants
    every group that an effective one before it has wanted. -/
theorem nothingLeft_iff (hspare : w.incidents.SpareGroups) (hgroupless : w.store.Groupless)
    (h : Synced s w (last :: earlier) w')
    (hlast : rememberedAfter w.visited earlier ≠
      some (nodeNames (last.filter Node.isEligible))) :
    w'.store.Meets (w.store.wantedBy s last) ∧
      (∀ name, w'.store.Holds name
        (newestWanting name (w.store.wantedBy s last :: wantedLately s w earlier))) ∧
      (w'.store.NothingLeft (w.store.wantedBy s last) ↔
        ∀ older ∈ wantedLately s w earlier, ∀ name ∈ groupNames older,
          name ∈ groupNames (w.store.wantedBy s last)) := by
  have hholds := (h.sound hspare hgroupless).holds
  have hcounts : wantedLately s w (last :: earlier) =
      w.store.wantedBy s last :: wantedLately s w earlier := by
    rw [wantedLately, effective, if_neg hlast]
    rfl
  rw [hcounts] at hholds
  refine ⟨fun name hname => ?_, hholds, nothingLeft_iff_of_holds hholds⟩
  have hnewest := hholds name
  rw [newestWanting_cons_of_mem hname] at hnewest
  exact hnewest

end Histories

namespace Sample

/-- A node that balancers leave out. -/
def excluded (n : Node) : Node :=
  { n with metadata := { n.metadata with labels := n.metadata.labels.insert excludeLabel "" } }

/-- The world after a sync of both nodes. -/
def both : World := ((syncTargetGroups settings [] nodes).run (.ofStore store)).2

/-- The world after a sync of both nodes and one of other nodes. -/
def thenSync (others : List Node) : World := ((syncTargetGroups settings [] others).run both).2

theorem synced_both : Synced settings (.ofStore store) [nodes] both :=
  .sync [] .start (by decide) rfl

end Sample

open Sample in
/-- When one of two nodes of a network leaves, its target does not stay. -/
theorem nothingLeft_of_fewer :
    Synced settings (.ofStore store) [[node "worker-1" "fhm2"], nodes]
        (thenSync [node "worker-1" "fhm2"]) ∧
      (thenSync [node "worker-1" "fhm2"]).store.NothingLeft
        [("k8senpnet", ⟨"e9b", "10.0.0.6"⟩)] := by
  have hsynced : Synced settings (.ofStore store) [[node "worker-1" "fhm2"], nodes]
      (thenSync [node "worker-1" "fhm2"]) :=
    .sync [] synced_both (by decide) rfl
  have hwanted : store.wantedBy settings [node "worker-1" "fhm2"] =
      [("k8senpnet", ⟨"e9b", "10.0.0.6"⟩)] := by
    decide
  obtain ⟨-, -, hiff⟩ := nothingLeft_iff (spareGroups_of_no_intrusions fun _ => rfl)
    (fun _ => rfl) hsynced (by decide)
  rw [show (World.ofStore store).store.wantedBy settings _ = _ from hwanted] at hiff
  exact ⟨hsynced, hiff.mpr (by decide)⟩

open Sample in
/-- When both nodes of a network are left out, nothing is wanted any more, but the
    group keeps both targets. -/
theorem leftover_of_excluded :
    Synced settings (.ofStore store) [nodes.map excluded, nodes]
        (thenSync (nodes.map excluded)) ∧
      rememberedAfter none [nodes] ≠
        some (nodeNames ((nodes.map excluded).filter Node.isEligible)) ∧
      store.wantedBy settings (nodes.map excluded) = [] ∧
      ((thenSync (nodes.map excluded)).store.groupsNamed "k8senpnet").map (·.targets) =
        [[⟨"e9b", "10.0.0.5"⟩, ⟨"e9b", "10.0.0.6"⟩]] := by
  exact ⟨.sync [] synced_both (by decide) rfl, by decide, by decide, by decide⟩

end CloudSteward
