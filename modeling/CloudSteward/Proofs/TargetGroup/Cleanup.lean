import CloudSteward.Proofs.Calm
import CloudSteward.Proofs.TargetGroup.Converge
import Mathlib.Logic.Function.Basic
import Mathlib.Tactic.ByContra

/-!
# Whose groups a cleanup takes

Several clusters may keep their target groups in one folder. Each creates groups under
names of its own: the prefix of a node, the name of the cluster and a network. When a
cluster has no nodes and no services left it deletes every group whose name starts with
the name of the cluster. These are the groups that it has created if no prefix stands in
front of the name and no other cluster's groups start with it.

Results:

* `deleteClusterGroups_dropped`, `deleteClusterGroups_done`: what a cleanup deletes and what
  it leaves, however it ends and when it ends well.
* `syncTargetGroups_origin`: where the groups after a sync come from.
* `Folder.Reached.named`: groups are named after the cluster that has created them.
* `cleanup_exact_iff`: when a cleanup takes exactly the groups of its cluster.
* `cleanup_takes_other_groups`: one that does neither.
-/

namespace CloudSteward

open Program

/-! ## Deleting groups -/

/-- Groups have been deleted, at most those of some ids. -/
structure GroupsDropped (ids : List String) (before after : TargetGroups) : Prop where
  subset : ∀ g : TargetGroup, g ∈ after → g ∈ before
  others : ∀ g : TargetGroup, g ∈ before → g.id ∉ ids → g ∈ after

namespace GroupsDropped

variable {ids : List String} {before between after : TargetGroups}

theorem refl (ids : List String) (groups : TargetGroups) : GroupsDropped ids groups groups :=
  ⟨fun _ => id, fun _ h _ => h⟩

theorem trans (h₁ : GroupsDropped ids before between) (h₂ : GroupsDropped ids between after) :
    GroupsDropped ids before after where
  subset g hg := h₁.subset g (h₂.subset g hg)
  others g hg hid := h₂.others g (h₁.others g hg hid) hid

theorem erase {id : String} (h : id ∈ ids) (groups : TargetGroups) :
    GroupsDropped ids groups (groups.erase id) where
  subset _ hg := (Inventory.mem_erase.mp hg).2
  others _ hg hid := Inventory.mem_erase.mpr ⟨fun e => hid (e ▸ h), hg⟩

end GroupsDropped

/-- A step that deletes no group but those of some ids, and changes none. -/
def Action.Deletes (ids : List String) : Action → Prop
  | .call c => c.method.isRead = true ∨ ∃ id ∈ ids, c = .deleteTargetGroup id
  | .write _ => False
  | .remember _ => True

theorem answer_deletes {ids : List String} {w : World} {c : Call}
    (hk : w.incidents.Keep Store.targetGroups) (hc : Action.Deletes ids (.call c)) :
    GroupsDropped ids w.store.targetGroups (w.answer c).2.store.targetGroups := by
  rcases hc with hread | ⟨id, hid, rfl⟩
  · have hreads : Action.Calls Method.aboutBalancers (.call c) := by
      simp [Action.Calls, Method.aboutBalancers, hread]
    rw [part_answer hk hreads.keepsTargetGroups]
    exact .refl ids _
  · rcases answer_cases w (.deleteTargetGroup id) with ⟨-, hs⟩ | ⟨e, -, hs⟩ | ⟨-, hs⟩
    · rw [hs]
      exact .refl ids _
    · rw [hs, part_met hk]
      exact .refl ids _
    · have hserved : (w.answer (.deleteTargetGroup id)).2.store.targetGroups =
          w.store.targetGroups.erase id := by
        rw [hs, ← part_met hk]
        rfl
      rw [hserved]
      exact .erase hid _

theorem frame_deletes (ids : List String) :
    Frame (fun w w' => w.incidents.Keep Store.targetGroups →
      w'.incidents.Keep Store.targetGroups ∧
        GroupsDropped ids w.store.targetGroups w'.store.targetGroups)
      (Action.Deletes ids) where
  refl _ h := ⟨h, .refl ids _⟩
  trans h₁ h₂ h :=
    have ⟨hk, hd₁⟩ := h₁ h
    have ⟨hk, hd₂⟩ := h₂ hk
    ⟨hk, hd₁.trans hd₂⟩
  call _ c hc h := ⟨keep_answer h c, answer_deletes h hc⟩
  write _ _ h := h.elim
  remember _ _ _ h := ⟨h, .refl ids _⟩

/-- No deletion of a group fails with the word that the group is gone. -/
def Incidents.Truthful (i : Incidents) : Prop :=
  ∀ e, some e ∈ i.failures .deleteTargetGroup → e.isNotFound = false

theorem Incidents.Truthful.answer {w : World} (h : w.incidents.Truthful) (c : Call) :
    (w.answer c).2.incidents.Truthful :=
  fun e he => h e ((failures_answer w c .deleteTargetGroup).subset he)

theorem truthful_of_calm {w : World} (h : w.Calm) : w.incidents.Truthful := by
  rw [show w.incidents = .none from h]
  intro e he
  cases he

theorem spareGroups_of_calm {w : World} (h : w.Calm) : w.incidents.SpareGroups :=
  ⟨keep_of_calm h _, keep_of_calm h _, keep_of_calm h _⟩

/-- The store does not refuse to delete a group, so an error was ahead of the call. -/
theorem error_of_deleteTargetGroup {w w' : World} {id : String} {e : CloudError}
    (h : w.answer (.deleteTargetGroup id) = (some (.error e), w')) :
    some e ∈ w.incidents.failures .deleteTargetGroup := by
  rw [answer_eq] at h
  split at h
  · cases h
  · split at h
    · rename_i e' hnext
      cases h
      exact List.mem_of_mem_head? (Option.join_eq_some_iff.mp hnext)
    · cases h

section Deletions

variable {s : Settings} {w w' : World} {ids : List String} {free : Nat}

/-- A deletion that never returns keeps its slot, so all slots are free when all groups
    are deleted. -/
theorem slots_of_deleteGroups_ok (h : w.deleteGroups free ids = (some (.ok ()), w')) :
    World.deleteSlots ≤ free := by
  induction ids generalizing w free with
  | nil =>
    rw [World.deleteGroups] at h
    split at h
    · cases h
    · omega
  | cons id rest ih =>
    rw [World.deleteGroups] at h
    split at h
    · cases h
    · split at h
      · have := ih h
        omega
      · exact ih h
      · split at h
        · exact ih h
        · cases h

theorem groupsDropped_of_deleteGroups {r : Option (Except CloudError Unit)}
    (hk : w.incidents.Keep Store.targetGroups) (h : w.deleteGroups free ids = (r, w')) :
    GroupsDropped ids w.store.targetGroups w'.store.targetGroups := by
  have hdropped := (frame_deletes ids).deleteGroups (fun id hm => .inr ⟨id, hm, rfl⟩) w free hk
  rw [h] at hdropped
  exact hdropped.2

/-- When all deletions end well, no group of the ids is left. -/
theorem deleteGroups_done (hk : w.incidents.Keep Store.targetGroups)
    (htruth : w.incidents.Truthful) (hfree : free ≤ World.deleteSlots)
    (h : w.deleteGroups free ids = (some (.ok ()), w')) (g : TargetGroup)
    (hg : g ∈ w'.store.targetGroups) : g.id ∉ ids := by
  induction ids generalizing w free with
  | nil => exact List.not_mem_nil
  | cons id rest ih =>
    have hk₁ := keep_answer hk (.deleteTargetGroup id)
    have htruth₁ := htruth.answer (.deleteTargetGroup id)
    rw [World.deleteGroups] at h
    split at h
    · cases h
    · split at h
      · have := slots_of_deleteGroups_ok h
        omega
      · rename_i w₁ ha
        rw [ha] at hk₁ htruth₁
        rw [List.mem_cons, not_or]
        refine ⟨fun hid => ?_, ih hk₁ htruth₁ hfree h⟩
        -- the group of this id is gone, and later deletions bring none back
        have hmem := (groupsDropped_of_deleteGroups hk₁ h).subset g hg
        have hserved : w₁.store.targetGroups = (w.met .deleteTargetGroup).targetGroups.erase id :=
          (congrArg (·.2.targetGroups) (answer_eq_ok ha)).symm
        rw [hserved] at hmem
        exact (Inventory.mem_erase.mp hmem).1 hid
      · rename_i e w₁ ha
        rw [htruth e (error_of_deleteTargetGroup ha)] at h
        cases h

theorem belongsTo_iff {g : TargetGroup} {clusterName : String} :
    g.belongsTo clusterName = true ↔ ∃ rest, g.name = clusterName ++ rest := by
  rw [TargetGroup.belongsTo, Option.isSome_iff_exists]
  constructor
  · rintro ⟨rest, h⟩
    rw [afterPrefix?_eq_some_iff] at h
    refine ⟨String.ofList rest, ?_⟩
    rw [← String.toList_inj, String.toList_append, h, String.toList_ofList]
  · rintro ⟨rest, h⟩
    exact ⟨rest.toList, by rw [afterPrefix?_eq_some_iff, h, String.toList_append]⟩

/-- The listed groups are those of the store, and listing them changes none. -/
theorem listTargetGroups_done {groups : List TargetGroup}
    (hk : w.incidents.Keep Store.targetGroups)
    (h : (ask .listTargetGroups).run w = (.done groups, w')) :
    w'.store.targetGroups = w.store.targetGroups ∧
      ∀ g : TargetGroup, g ∈ groups ↔ g ∈ w.store.targetGroups := by
  refine ⟨targetGroups_of_reads (within_ask (by rfl)) hk h, fun g => ?_⟩
  have hreply : (w.met .listTargetGroups).listTargetGroups = groups :=
    Except.ok.inj (congrArg Prod.fst (answer_eq_ok (run_ask_eq_done.mp h)))
  rw [← hreply, Store.listTargetGroups, List.mem_mergeSort, Inventory.mem_values, part_met hk]

/-- The ids of the listed groups that belong to a cluster are those of the stored ones. -/
theorem mem_ownedIds_iff (clusterName : String) {groups : List TargetGroup} {stored : TargetGroups}
    (hlisted : ∀ g : TargetGroup, g ∈ groups ↔ g ∈ stored) {g : TargetGroup} (hg : g ∈ stored) :
    g.id ∈ (groups.filter (·.belongsTo clusterName)).map (·.id) ↔
      g.belongsTo clusterName = true := by
  rw [List.mem_map]
  constructor
  · rintro ⟨owned, howned, hid⟩
    obtain ⟨hmem, hbelongs⟩ := List.mem_filter.mp howned
    rwa [Inventory.eq_of_mem_of_key_eq ((hlisted owned).mp hmem) hg hid] at hbelongs
  · exact fun hbelongs => ⟨g, List.mem_filter.mpr ⟨(hlisted g).mpr hg, hbelongs⟩, rfl⟩

/-- A cleanup, however it ends, deletes groups of the cluster and does nothing else. -/
theorem deleteClusterGroups_dropped {o : Outcome Unit} (hk : w.incidents.Keep Store.targetGroups)
    (h : (deleteClusterGroups s).run w = (o, w')) :
    (∀ g : TargetGroup, g ∈ w'.store.targetGroups → g ∈ w.store.targetGroups) ∧
      ∀ g : TargetGroup, g ∈ w.store.targetGroups → g.belongsTo s.clusterName = false →
        g ∈ w'.store.targetGroups := by
  rcases run_bind_cases h with ⟨-, o₁, hlist, -⟩ | ⟨groups, w₁, hlist, h⟩
  · rw [targetGroups_of_reads (within_ask (by rfl)) hk hlist]
    exact ⟨fun _ => id, fun _ hg _ => hg⟩
  obtain ⟨hsame, hlisted⟩ := listTargetGroups_done hk hlist
  obtain ⟨r, hdelete⟩ : ∃ r, w₁.deleteGroups World.deleteSlots
      ((groups.filter (·.belongsTo s.clusterName)).map (·.id)) = (r, w') := by
    rw [Program.run] at h
    rcases hdelete : w₁.deleteGroups World.deleteSlots
      ((groups.filter (·.belongsTo s.clusterName)).map (·.id)) with ⟨_ | e | _, w₂⟩ <;>
      rw [hdelete] at h <;> cases h <;> exact ⟨_, hdelete⟩
  have hdropped := groupsDropped_of_deleteGroups (keep_run hk hlist) hdelete
  rw [hsame] at hdropped
  refine ⟨hdropped.subset, fun g hg hother => hdropped.others g hg fun hid => ?_⟩
  rw [(mem_ownedIds_iff s.clusterName hlisted hg).mp hid] at hother
  cases hother

/-- A cleanup that ends well deletes groups of the cluster and no others, and all of
    them unless it was told of one that it is gone. -/
theorem deleteClusterGroups_done (hk : w.incidents.Keep Store.targetGroups)
    (h : (deleteClusterGroups s).run w = (.done (), w')) :
    (∀ g : TargetGroup, g ∈ w'.store.targetGroups → g ∈ w.store.targetGroups) ∧
      (∀ g : TargetGroup, g ∈ w.store.targetGroups → g.belongsTo s.clusterName = false →
        g ∈ w'.store.targetGroups) ∧
      (w.incidents.Truthful →
        ∀ g : TargetGroup, g ∈ w'.store.targetGroups → g.belongsTo s.clusterName = false) := by
  obtain ⟨hsubset, hothers⟩ := deleteClusterGroups_dropped hk h
  refine ⟨hsubset, hothers, fun htruth g hg => ?_⟩
  obtain ⟨groups, w₁, hlist, h⟩ := run_bind_eq_done.mp h
  obtain ⟨-, hlisted⟩ := listTargetGroups_done hk hlist
  have hk₁ := keep_run hk hlist
  have htruth₁ : w₁.incidents.Truthful := by
    have := htruth.answer .listTargetGroups
    rwa [run_ask_eq_done.mp hlist] at this
  rw [Program.run] at h
  rcases hdelete : w₁.deleteGroups World.deleteSlots
    ((groups.filter (·.belongsTo s.clusterName)).map (·.id)) with ⟨_ | e | _, w₂⟩ <;>
    rw [hdelete] at h <;> cases h
  have hleft := deleteGroups_done hk₁ htruth₁ (Nat.le_refl _) hdelete g hg
  rw [mem_ownedIds_iff s.clusterName hlisted (hsubset g hg)] at hleft
  simpa using hleft

/-- In a calm world every group is deleted. -/
theorem deleteGroups_run_of_calm (hw : w.Calm) (hfree : World.deleteSlots ≤ free) :
    ∃ w', w.deleteGroups free ids = (some (.ok ()), w') := by
  induction ids generalizing w with
  | nil => exact ⟨w, by rw [World.deleteGroups, if_neg (by omega)]⟩
  | cons id rest ih =>
    have hserve : (w.serve (.deleteTargetGroup id)).1 = .ok () := rfl
    have hslots : free ≠ 0 := by
      intro hnone
      rw [hnone] at hfree
      cases hfree
    obtain ⟨w', h⟩ := ih (calm_serve hw (.deleteTargetGroup id))
    exact ⟨w', by simp only [World.deleteGroups, if_neg hslots, answer_of_calm hw, hserve, h]⟩

/-- Without nodes and without services a sync is a cleanup. -/
theorem syncTargetGroups_of_nothing {services : List Service}
    (hservices : services.any Service.isActive = false)
    (h : (syncTargetGroups s services []).run w = (.done (), w')) :
    ∃ w₁, (deleteClusterGroups s).run w = (.done (), w₁) ∧ w' = { w₁ with visited := none } := by
  rw [syncTargetGroups, if_pos (by rfl), hservices] at h
  obtain ⟨_, w₁, hdelete, h⟩ := run_bind_eq_done.mp h
  cases h
  exact ⟨w₁, hdelete, rfl⟩

/-- In a calm world a cleanup ends well. -/
theorem cleanup_run_of_calm {services : List Service} (hw : w.Calm)
    (hservices : services.any Service.isActive = false) :
    ∃ w', (syncTargetGroups s services []).run w = (.done (), w') := by
  have hlist : (ask .listTargetGroups).run w = (.done w.store.listTargetGroups, w.afterReads 1) :=
    run_read_of_calm hw rfl rfl
  obtain ⟨w₁, hdelete⟩ := deleteGroups_run_of_calm (calm_afterReads hw 1) (Nat.le_refl _)
  refine ⟨{ w₁ with visited := none }, ?_⟩
  rw [syncTargetGroups, if_pos (by rfl), hservices, if_neg Bool.false_ne_true, deleteClusterGroups,
    LawfulMonad.bind_assoc, run_bind_of_done hlist]
  show (Program.deleteGroups _ _).run _ = _
  rw [Program.run, hdelete]
  rfl

end Deletions

/-! ## Where groups come from -/

/-- Where a group after a sync comes from: it was there before, perhaps with other
    targets, or it is a new one and named after the cluster. -/
inductive GroupOrigin (s : Settings) (before : TargetGroups) (g : TargetGroup) : Prop
  | kept (old : TargetGroup) (here : old ∈ before) (id : old.id = g.id) (name : old.name = g.name)
  | created (new : before.get? g.id = none)
      (named : ∃ v networkId, g.name = targetGroupName v s.clusterName networkId)

theorem GroupOrigin.of_mem {s : Settings} {before : TargetGroups} {g : TargetGroup}
    (h : g ∈ before) : GroupOrigin s before g :=
  .kept g h rfl rfl

theorem GroupsPlaced.origin {s : Settings} {st : Store} {nodes : List Node}
    {before after : TargetGroups}
    (h : GroupsPlaced (gathered (st.wantedTargets s nodes)).entries before after)
    {g : TargetGroup} (hg : g ∈ after) : GroupOrigin s before g := by
  cases hold : before.get? g.id with
  | some old =>
    -- the old group is kept with its name, and this is the group of its id
    have hid : old.id = g.id := Inventory.key_eq_of_get? hold
    obtain ⟨targets, hkept⟩ := h.kept old (Inventory.mem_of_get? hold)
    have hsame : { old with targets } = g := Inventory.eq_of_mem_of_key_eq hkept hg hid
    exact .kept old (Inventory.mem_of_get? hold) hid (congrArg TargetGroup.name hsame :)
  | none =>
    refine .created hold ?_
    have hentry : g.name ∈ (gathered (st.wantedTargets s nodes)).entries.map (·.1) := by
      by_contra hother
      have hmem := (h.others g hother).mp hg
      rw [Inventory.mem_iff, hold] at hmem
      cases hmem
    obtain ⟨⟨name, targets⟩, hentry, hname⟩ := List.mem_map.mp hentry
    obtain ⟨⟨t, ht⟩, -⟩ := get?_gathered (SortedMap.get?_eq_some_iff.mpr hentry)
    obtain ⟨n, -, _, -, _, -, subnet, -, -, -, hwanted⟩ := mem_wantedTargets.mp ht
    exact ⟨n.groupPrefix, subnet.networkId, hname.symm.trans hwanted⟩

/-- A sync that ends well creates groups under names of its cluster only. -/
theorem syncTargetGroups_origin {s : Settings} {services : List Service} {nodes : List Node}
    {w w' : World} (hspare : w.incidents.SpareGroups) (hfresh : w.store.FreshGroups)
    (h : (syncTargetGroups s services nodes).run w = (.done (), w')) {g : TargetGroup}
    (hg : g ∈ w'.store.targetGroups) : GroupOrigin s w.store.targetGroups g := by
  by_cases hnodes : nodes = []
  · subst hnodes
    cases hservices : services.any Service.isActive with
    | true =>
      rw [syncTargetGroups, if_pos (by rfl), if_pos hservices] at h
      cases h
      exact .of_mem hg
    | false =>
      obtain ⟨w₁, hdelete, rfl⟩ := syncTargetGroups_of_nothing hservices h
      exact .of_mem ((deleteClusterGroups_done hspare.targetGroups hdelete).1 g hg)
  · by_cases hlast : w.visited = some (nodeNames (nodes.filter Node.isEligible))
    · rw [syncTargetGroups_of_visited hnodes hlast] at h
      cases h
      exact .of_mem hg
    · obtain ⟨-, hplaced, -⟩ := syncTargetGroups_done hnodes hlast hspare hfresh h
      exact hplaced.origin hg

/-! ## Clusters that share a folder -/

/-- The target groups of a folder that several reconcilers share: what each of them
    remembers, and who has created the group of an id. -/
structure Folder (ι : Type) where
  groups : TargetGroups
  visited : ι → Option NameSet
  creator : String → Option ι

namespace Folder

variable {ι : Type} [DecidableEq ι]

/-- A folder that no reconciler has seen. -/
def start (groups : TargetGroups) : Folder ι := ⟨groups, fun _ => none, fun _ => none⟩

/-- The folder after a sync of one reconciler that has ended in a world. -/
def after (x : Folder ι) (i : ι) (w : World) : Folder ι where
  groups := w.store.targetGroups
  visited := Function.update x.visited i w.visited
  creator id := if (x.groups.get? id).isSome then x.creator id else some i

theorem creator_after (x : Folder ι) (i : ι) (w : World) (id : String) :
    (x.after i w).creator id = if (x.groups.get? id).isSome then x.creator id else some i := rfl

/-- A group that is there and was created by a reconciler. -/
def Created (x : Folder ι) (i : ι) (g : TargetGroup) : Prop :=
  g ∈ x.groups ∧ x.creator g.id = some i

/-- A world in which it is a reconciler's turn: the groups are those of the folder, it
    remembers what it did, and no other writer changes groups meanwhile. -/
structure Opens (x : Folder ι) (i : ι) (w : World) : Prop where
  groups : w.store.targetGroups = x.groups
  visited : w.visited = x.visited i
  spare : w.incidents.SpareGroups
  fresh : w.store.FreshGroups

/-- Folders that are reached by syncs that end well, of any reconciler and of any nodes.
    Between two of them anything but the groups may change. -/
inductive Reached (settings : ι → Settings) (groups : TargetGroups) : Folder ι → Prop
  | start : Reached settings groups (.start groups)
  | sync {x : Folder ι} {i : ι} {services : List Service} {nodes : List Node} {w w' : World}
      (before : Reached settings groups x) (opens : x.Opens i w)
      (run : (syncTargetGroups (settings i) services nodes).run w = (.done (), w')) :
      Reached settings groups (x.after i w')

variable {settings : ι → Settings} {groups : TargetGroups} {x : Folder ι}

/-- Every group is named after the cluster that has created it. -/
theorem Reached.named (h : x.Reached settings groups) {i : ι} {g : TargetGroup}
    (hg : x.Created i g) :
    ∃ v networkId, g.name = targetGroupName v (settings i).clusterName networkId := by
  induction h generalizing g with
  | start => cases hg.2
  | @sync x j services nodes w w' before opens run ih =>
    obtain ⟨hmem, hcreator⟩ := hg
    have horigin := syncTargetGroups_origin opens.spare opens.fresh run hmem
    rw [opens.groups] at horigin
    rw [creator_after] at hcreator
    cases horigin with
    | kept old here hid hname =>
      rw [← hid, Inventory.mem_iff.mp here, Option.isSome_some, if_pos rfl] at hcreator
      rw [← hname]
      exact ih ⟨here, hcreator⟩
    | created new named =>
      rw [new, Option.isSome_none, if_neg Bool.false_ne_true] at hcreator
      cases hcreator
      exact named

end Folder

section Cleanup

variable {ι : Type} [DecidableEq ι] {settings : ι → Settings} {groups : TargetGroups}
  {x : Folder ι} {i : ι} {services : List Service} {w w' : World}

/-- A cleanup that ends well leaves the groups whose names do not start with the name of
    the cluster, and these as they are. -/
theorem cleanup_done (hservices : services.any Service.isActive = false)
    (hk : w.incidents.Keep Store.targetGroups) (htruth : w.incidents.Truthful) {s : Settings}
    (h : (syncTargetGroups s services []).run w = (.done (), w')) (g : TargetGroup) :
    g ∈ w'.store.targetGroups ↔
      g ∈ w.store.targetGroups ∧ g.belongsTo s.clusterName = false := by
  obtain ⟨w₁, hdelete, rfl⟩ := syncTargetGroups_of_nothing hservices h
  obtain ⟨hsubset, hothers, hgone⟩ := deleteClusterGroups_done hk hdelete
  exact ⟨fun hg => ⟨hsubset g hg, hgone htruth g hg⟩, fun hg => hothers g hg.1 hg.2⟩

/-- **Cleanup.** Several clusters have synced their nodes in one folder, in any order,
    and then one of them cleans up. What every cluster has created is named after a
    prefix, the cluster and a network. Of the groups that the cluster itself has created
    none remains exactly if all their names start with its name, and of those that a
    cluster has created all are still there, unchanged, exactly if none of their names
    starts so. No other group is touched. -/
theorem cleanup_exact_iff (hreached : x.Reached settings groups) (hopens : x.Opens i w)
    (htruth : w.incidents.Truthful) (hservices : services.any Service.isActive = false)
    (h : (syncTargetGroups (settings i) services []).run w = (.done (), w')) :
    let taken (g : TargetGroup) : Prop := ∃ rest, g.name = (settings i).clusterName ++ rest
    (∀ j g, x.Created j g →
      ∃ v networkId, g.name = targetGroupName v (settings j).clusterName networkId) ∧
    (∀ g : TargetGroup, g ∈ w'.store.targetGroups ↔ g ∈ x.groups ∧ ¬ taken g) ∧
    ((∀ g ∈ w'.store.targetGroups, ¬ x.Created i g) ↔ ∀ g, x.Created i g → taken g) ∧
    ∀ j, (∀ g, x.Created j g → g ∈ w'.store.targetGroups) ↔ ∀ g, x.Created j g → ¬ taken g := by
  intro taken
  have hleft : ∀ g : TargetGroup, g ∈ w'.store.targetGroups ↔ g ∈ x.groups ∧ ¬ taken g := by
    intro g
    rw [cleanup_done hservices hopens.spare.targetGroups htruth h, hopens.groups,
      ← Bool.not_eq_true, belongsTo_iff]
  refine ⟨fun j g hg => hreached.named hg, hleft, ?_, fun j => ?_⟩
  · constructor
    · intro hnone g hg
      by_contra hspared
      exact hnone g ((hleft g).mpr ⟨hg.1, hspared⟩) hg
    · exact fun hall g hg hcreated => ((hleft g).mp hg).2 (hall g hcreated)
  · constructor
    · exact fun hall g hg => ((hleft g).mp (hall g hg)).2
    · exact fun hnone g hg => (hleft g).mpr ⟨hg.1, hnone g hg⟩

end Cleanup

namespace Sample

/-- Two clusters in one folder: the small cluster and one of another name. -/
def clusters (other : String) (first : Bool) : Settings :=
  if first then settings else { settings with clusterName := other }

/-- The first node, with a prefix. -/
def webNode : Node := prefixed (node "worker-0" "fhm1") "web-"

/-- The world after the small cluster has synced a node. -/
def firstSynced (n : Node) : World := ((syncTargetGroups settings [] [n]).run (.ofStore store)).2

/-- Then it is the other cluster's turn. -/
def nextTurn (n : Node) : World := { firstSynced n with visited := none }

/-- The world after the other cluster has synced the second node. -/
def bothSynced (other : String) (n : Node) : World :=
  ((syncTargetGroups (clusters other false) [] [node "worker-1" "fhm2"]).run (nextTurn n)).2

/-- The folder after both syncs. -/
def shared (other : String) (n : Node) : Folder Bool :=
  ((Folder.start .empty).after true (firstSynced n)).after false (bothSynced other n)

/-- The world in which it is the small cluster's turn again. -/
def beforeCleanup (other : String) (n : Node) : World :=
  { bothSynced other n with visited := (firstSynced n).visited }

/-- The two syncs are a history of the folder, and the cleanup can follow. -/
theorem shared_of_done (other : String) (n : Node)
    (h₁ : ((syncTargetGroups settings [] [n]).run (.ofStore store)).1.isDone = true)
    (h₂ : ((syncTargetGroups (clusters other false) [] [node "worker-1" "fhm2"]).run
      (nextTurn n)).1.isDone = true) :
    (shared other n).Reached (clusters other) .empty ∧
      (shared other n).Opens true (beforeCleanup other n) ∧ (beforeCleanup other n).Calm := by
  have hrun₁ : (syncTargetGroups settings [] [n]).run (.ofStore store) =
      (.done (), firstSynced n) := by
    rw [← (exists_of_isDone h₁).choose_spec, firstSynced]
  have hrun₂ : (syncTargetGroups (clusters other false) [] [node "worker-1" "fhm2"]).run
      (nextTurn n) = (.done (), bothSynced other n) := by
    rw [← (exists_of_isDone h₂).choose_spec, bothSynced]
  have hcalm : (World.ofStore store).Calm := rfl
  have hfresh : (World.ofStore store).store.FreshGroups := fun _ _ => rfl
  have hcalm₁ : (nextTurn n).Calm :=
    show (firstSynced n).Calm from calm_run hcalm hrun₁
  have hfresh₁ : (nextTurn n).store.FreshGroups :=
    show (firstSynced n).store.FreshGroups from
      freshGroups_run (keep_of_calm hcalm _) hfresh hrun₁
  have hcalm₂ : (bothSynced other n).Calm := calm_run hcalm₁ hrun₂
  have hfresh₂ : (bothSynced other n).store.FreshGroups :=
    freshGroups_run (keep_of_calm hcalm₁ _) hfresh₁ hrun₂
  have hopens : (Folder.start .empty : Folder Bool).Opens true (.ofStore store) :=
    ⟨rfl, rfl, spareGroups_of_calm hcalm, hfresh⟩
  have hopens₁ : ((Folder.start .empty : Folder Bool).after true (firstSynced n)).Opens false
      (nextTurn n) :=
    ⟨rfl, rfl, spareGroups_of_calm hcalm₁, hfresh₁⟩
  exact ⟨.sync (.sync .start hopens hrun₁) hopens₁ hrun₂,
    ⟨rfl, rfl, spareGroups_of_calm hcalm₂, hfresh₂⟩, hcalm₂⟩

end Sample

open Sample in
/-- Without prefixes and with a name of its own the small cluster takes its group and
    leaves that of the other cluster. -/
theorem cleanup_exact_of_apart :
    let x := shared "prod" (node "worker-0" "fhm1")
    (x.groups.values.map fun g => (g.name, x.creator g.id)) =
        [("k8senpnet", some true), ("prodenpnet", some false)] ∧
      ∃ w', (syncTargetGroups settings [] []).run
          (beforeCleanup "prod" (node "worker-0" "fhm1")) = (.done (), w') ∧
        (∀ g ∈ w'.store.targetGroups, ¬ x.Created true g) ∧
        ∀ g, x.Created false g → g ∈ w'.store.targetGroups := by
  obtain ⟨hreached, hopens, hcalm⟩ :=
    shared_of_done "prod" (node "worker-0" "fhm1") (by decide) (by decide)
  obtain ⟨w', h⟩ : ∃ w', (syncTargetGroups settings [] []).run
      (beforeCleanup "prod" (node "worker-0" "fhm1")) = (.done (), w') :=
    cleanup_run_of_calm hcalm rfl
  obtain ⟨-, -, hown, hothers⟩ := cleanup_exact_iff hreached hopens (truthful_of_calm hcalm) rfl h
  refine ⟨by decide, w', h, hown.mpr ?_, (hothers false).mpr ?_⟩
  · have hall : ∀ g ∈ (shared "prod" (node "worker-0" "fhm1")).groups.values,
        (shared "prod" (node "worker-0" "fhm1")).creator g.id = some true →
          g.belongsTo "k8s" = true := by
      decide
    exact fun g hg => belongsTo_iff.mp (hall g (Inventory.mem_values.mpr hg.1) hg.2)
  · have hnone : ∀ g ∈ (shared "prod" (node "worker-0" "fhm1")).groups.values,
        (shared "prod" (node "worker-0" "fhm1")).creator g.id = some false →
          ¬ g.belongsTo "k8s" = true := by
      decide
    exact fun g hg => mt belongsTo_iff.mpr (hnone g (Inventory.mem_values.mpr hg.1) hg.2)

open Sample in
/-- The small cluster's node has a prefix, and the other cluster's name starts with its
    own. It cleans up and leaves its group, but takes that of the other cluster. -/
theorem cleanup_takes_other_groups :
    let x := shared "k8s-2" webNode
    x.Reached (clusters "k8s-2") .empty ∧ x.Opens true (beforeCleanup "k8s-2" webNode) ∧
      (x.groups.values.map fun g => (g.name, x.creator g.id)) =
        [("web-k8senpnet", some true), ("k8s-2enpnet", some false)] ∧
      ∃ w', (syncTargetGroups settings [] []).run (beforeCleanup "k8s-2" webNode) =
          (.done (), w') ∧
        (∃ g ∈ w'.store.targetGroups, x.Created true g) ∧
        ∃ g, x.Created false g ∧ g ∉ w'.store.targetGroups := by
  obtain ⟨hreached, hopens, hcalm⟩ := shared_of_done "k8s-2" webNode (by decide) (by decide)
  obtain ⟨w', h⟩ : ∃ w', (syncTargetGroups settings [] []).run
      (beforeCleanup "k8s-2" webNode) = (.done (), w') :=
    cleanup_run_of_calm hcalm rfl
  have hleft := cleanup_done rfl (keep_of_calm hcalm _) (truthful_of_calm hcalm) h
  refine ⟨hreached, hopens, by decide, w', h, ?_, ?_⟩
  · have hspared : ∃ g ∈ (shared "k8s-2" webNode).groups.values,
        (shared "k8s-2" webNode).creator g.id = some true ∧ g.belongsTo "k8s" = false := by
      decide
    obtain ⟨g, hg, hcreator, hspared⟩ := hspared
    have hmem := Inventory.mem_values.mp hg
    exact ⟨g, (hleft g).mpr ⟨hmem, hspared⟩, hmem, hcreator⟩
  · have htaken : ∃ g ∈ (shared "k8s-2" webNode).groups.values,
        (shared "k8s-2" webNode).creator g.id = some false ∧ g.belongsTo "k8s" = true := by
      decide
    obtain ⟨g, hg, hcreator, htaken⟩ := htaken
    refine ⟨g, ⟨Inventory.mem_values.mp hg, hcreator⟩, fun hmem => ?_⟩
    have hspared := ((hleft g).mp hmem).2
    rw [show settings.clusterName = "k8s" from rfl, htaken] at hspared
    cases hspared

end CloudSteward
