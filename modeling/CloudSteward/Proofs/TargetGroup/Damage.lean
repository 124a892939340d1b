import CloudSteward.Proofs.Events
import CloudSteward.Proofs.TargetGroup.Cache
import CloudSteward.Proofs.TargetGroup.Cleanup

/-!
# What a failing sync does to target groups

A sync may fail at any of its calls, between one group and the next or between the
additions to a group and its removals. Additions come first, so at every moment a group lacks
no target that it had and is to have, and has none that it neither had nor is to have. A new
group is created with all of its targets at once. Nodes are resolved before anything is
changed.

Results:

* `GroupsTouched.of_placed`, `GroupsTouched.cons`: groups that are done with, and groups one
  after the other.
* `adjustGroup_touched`, `createGroup_touched`, `convergeGroup_touched`: one group, however
  the run ends.
* `convergeGroups_touched`: several groups, by induction.
* `deleteClusterGroups_dropped`: a cleanup, however it ends.
* `syncTargetGroups_damage`: the store after a sync that fails.
-/

namespace CloudSteward

open Program

/-! ## Touched groups -/

/-- No target is missing that is in both sets, and none is there that is in neither. -/
def Midway (old : List Target) (wanted : TargetSet) (now : List Target) : Prop :=
  (∀ t ∈ old, SortedSet.has wanted t = true → t ∈ now) ∧
    ∀ t ∈ now, t ∈ old ∨ SortedSet.has wanted t = true

theorem Midway.refl (l : List Target) (wanted : TargetSet) : Midway l wanted l :=
  ⟨fun _ ht _ => ht, fun _ ht => .inl ht⟩

theorem Midway.of_holds {g : TargetGroup} {wanted : TargetSet} (h : g.Holds wanted)
    (old : List Target) : Midway old wanted g.targets :=
  ⟨fun t _ hw => (h t).mpr hw, fun t ht => .inr ((h t).mp ht)⟩

/-- Groups are on their way to their targets: every group is there and is midway between what
    it held and its targets, groups of other names are as they were, and a group that is new
    is the only one of its name and holds its targets. -/
structure GroupsTouched (l : List (String × TargetSet)) (before after : TargetGroups) : Prop where
  old : ∀ g : TargetGroup, g ∈ before → ∃ targets, { g with targets } ∈ after ∧
    ∀ e ∈ l, g.name = e.1 → Midway g.targets e.2 targets
  new : ∀ g : TargetGroup, g ∈ after → (∃ targets, { g with targets } ∈ before) ∨
    (∀ g' : TargetGroup, g' ∈ before → g'.name ≠ g.name) ∧
      (∀ g' : TargetGroup, g' ∈ after → g'.name = g.name → g' = g) ∧
      ∃ e ∈ l, g.name = e.1 ∧ g.Holds e.2
  others : ∀ g : TargetGroup, g.name ∉ l.map (·.1) → (g ∈ after ↔ g ∈ before)

namespace GroupsTouched

theorem refl (l : List (String × TargetSet)) (groups : TargetGroups) :
    GroupsTouched l groups groups :=
  ⟨fun g hg => ⟨g.targets, hg, fun _ _ _ => .refl _ _⟩, fun g hg => .inl ⟨g.targets, hg⟩,
    fun _ _ => Iff.rfl⟩

/-- Groups that have been brought to their targets are no further than that. -/
theorem of_placed {l : List (String × TargetSet)} {before after : TargetGroups}
    (h : GroupsPlaced l before after) : GroupsTouched l before after where
  old g hg := by
    obtain ⟨targets, hafter⟩ := h.kept g hg
    refine ⟨targets, hafter, fun e he hname => ?_⟩
    obtain ⟨group, hholds, honly⟩ := h.placed e he
    obtain rfl := (honly _).mp ⟨hafter, hname⟩
    exact .of_holds hholds _
  new g hg := by
    by_cases hname : g.name ∈ l.map (·.1)
    · obtain ⟨e, he, hname⟩ := List.mem_map.mp hname
      obtain ⟨group, hholds, honly⟩ := h.placed e he
      obtain rfl := (honly g).mp ⟨hg, hname.symm⟩
      by_cases hbefore : ∃ g' : TargetGroup, g' ∈ before ∧ g'.name = g.name
      · obtain ⟨g', hg', hsame⟩ := hbefore
        obtain ⟨targets, hafter⟩ := h.kept g' hg'
        have heq := (honly _).mp ⟨hafter, hsame.trans hname.symm⟩
        exact .inl ⟨g'.targets, by rwa [← heq]⟩
      · refine .inr ⟨fun g' hg' hsame => hbefore ⟨g', hg', hsame⟩, fun g' hg' hsame => ?_, e, he,
          hname.symm, hholds⟩
        exact (honly g').mp ⟨hg', hsame.trans hname.symm⟩
    · exact .inl ⟨g.targets, (h.others g hname).mp hg⟩
  others := h.others

/-- Groups of other names do not disturb the first one. -/
theorem cons {name : String} {targets : TargetSet} {rest : List (String × TargetSet)}
    {before between after : TargetGroups} (hname : name ∉ rest.map (·.1))
    (h₁ : GroupsTouched [(name, targets)] before between)
    (h₂ : GroupsTouched rest between after) :
    GroupsTouched ((name, targets) :: rest) before after where
  old g hg := by
    by_cases hg' : g.name = name
    · obtain ⟨now, hbetween, hmidway⟩ := h₁.old g hg
      refine ⟨now, (h₂.others _ (by rwa [hg'])).mpr hbetween, fun e he hsame => ?_⟩
      rcases List.mem_cons.mp he with rfl | he
      · exact hmidway _ List.mem_cons_self hsame
      · refine absurd ?_ hname
        rw [← hg', hsame]
        exact List.mem_map_of_mem he
    · obtain ⟨now, hafter, hmidway⟩ := h₂.old g ((h₁.others g (by simpa using hg')).mpr hg)
      refine ⟨now, hafter, fun e he hsame => ?_⟩
      rcases List.mem_cons.mp he with rfl | he
      · exact absurd hsame hg'
      · exact hmidway e he hsame
  new g hg := by
    rcases h₂.new g hg with ⟨now, hbetween⟩ | ⟨hnone, honly, e, he, hsame, hholds⟩
    · rcases h₁.new _ hbetween with hold | ⟨hnone, honly, e, he, hsame, hholds⟩
      · exact .inl hold
      · -- a group that was new in the first step is as it was then
        obtain rfl := List.mem_singleton.mp he
        have hstays (g' : TargetGroup) (h : g'.name = name) := h₂.others g' (by rwa [h])
        have heq : { g with targets := now } = g :=
          Inventory.eq_of_mem_of_key_eq ((hstays _ hsame).mpr hbetween) hg rfl
        rw [heq] at honly hholds
        refine .inr ⟨hnone, fun g' hg' h => honly g' ?_ h, _, List.mem_cons_self, hsame, hholds⟩
        exact (hstays g' (h.trans hsame)).mp hg'
    · refine .inr ⟨fun g' hg' h => ?_, honly, e, List.mem_cons_of_mem _ he, hsame, hholds⟩
      obtain ⟨now, hbetween, -⟩ := h₁.old g' hg'
      exact hnone _ hbetween h
  others g hg := by
    rw [List.map_cons, List.mem_cons, not_or] at hg
    rw [h₂.others g hg.2, h₁.others g (by simpa using hg.1)]

/-- A group of the name has been given other targets. -/
theorem put {before : TargetGroups} {group : TargetGroup} {name : String} {now : List Target}
    {targets : TargetSet} (hname : group.name = name) (hg : group ∈ before)
    (hmidway : Midway group.targets targets now) :
    GroupsTouched [(name, targets)] before (before.put { group with targets := now }) where
  old g hmem := by
    rcases mem_put_cases hg now hmem with ⟨rfl, hput⟩ | hput
    · refine ⟨now, hput, fun e he _ => ?_⟩
      obtain rfl := List.mem_singleton.mp he
      exact hmidway
    · exact ⟨g.targets, hput, fun _ _ _ => .refl _ _⟩
  new g hmem := by
    rcases Inventory.mem_put.mp hmem with rfl | ⟨-, hmem⟩
    · exact .inl ⟨group.targets, hg⟩
    · exact .inl ⟨g.targets, hmem⟩
  others g hother := mem_put_iff_of_name_ne hg now (by simpa [hname] using hother)

end GroupsTouched

/-! ## One group -/

section Runs

variable {s : Settings} {w w' : World} {o : Outcome Unit} {name : String} {targets : TargetSet}

/-- A removal that fails has removed nothing. -/
theorem removeSurplus_failed {id : String} {surplus : List Target}
    (hk : w.incidents.Keep Store.targetGroups)
    (h : (if surplus.isEmpty then Pure.pure () else do
      let _ ← ask (.removeTargets id surplus) : Program Unit).run w = (o, w'))
    (ho : o.isDone = false) : w'.store.targetGroups = w.store.targetGroups := by
  split at h
  · cases h
    cases ho
  · rcases run_bind_cases h with ⟨-, o₁, hremove, ho₁⟩ | ⟨r, w₁, -, h⟩
    · exact removeTargets_failed hk hremove ho₁
    · cases h
      cases ho

theorem adjustGroup_touched {group : TargetGroup} (hk : w.incidents.Keep Store.targetGroups)
    (hnamed : w.store.groupsNamed name = [group])
    (h : (adjustGroup group targets).run w = (o, w')) :
    GroupsTouched [(name, targets)] w.store.targetGroups w'.store.targetGroups := by
  cases ho : o.isDone with
  | true =>
    obtain ⟨_, rfl⟩ := exists_of_isDone ho
    exact .of_placed (adjustGroup_done hk hnamed h)
  | false =>
    obtain ⟨hg, hname, -⟩ := Inventory.filter_values_eq_singleton_iff.mp hnamed
    rw [adjustGroup] at h
    rcases addMissing_cases hk hg h with ⟨-, hsame⟩ | ⟨w₁, added, hk₁, hs₁, hadded, h⟩
    · rw [hsame]
      exact .refl _ _
    · rw [removeSurplus_failed hk₁ h ho, hs₁]
      refine .put (by simpa using hname) hg ⟨fun t ht _ => (hadded t).mpr (.inl ht), ?_⟩
      exact fun t ht => ((hadded t).mp ht).imp_right fun hm => (SortedSet.mem_diff.mp hm).1

theorem createGroup_touched (hk : w.incidents.Keep Store.targetGroups)
    (hfresh : w.store.FreshGroups) (h : (createGroup s name targets).run w = (o, w')) :
    GroupsTouched [(name, targets)] w.store.targetGroups w'.store.targetGroups := by
  cases ho : o.isDone with
  | true =>
    obtain ⟨_, rfl⟩ := exists_of_isDone ho
    exact .of_placed (createGroup_done hk hfresh h)
  | false =>
    rcases run_bind_cases h with ⟨-, o₁, hcreate, ho₁⟩ | ⟨reply, w₁, hcreate, h⟩
    · rw [store_of_answer_failed hcreate ho₁]
      exact .refl _ _
    have ha := run_answer_eq_done.mp hcreate
    have hk₁ := keep_run hk hcreate
    cases reply with
    | ok group =>
      cases h
      cases ho
    | error e =>
      rw [← targetGroups_of_create_error hk ha]
      dsimp only at h
      split at h
      · rcases run_bind_cases h with ⟨-, o₂, hf, -⟩ | ⟨found, w₂, hf, h⟩
        · rw [targetGroups_of_reads (within_fetchGroup name) hk₁ hf]
          exact .refl _ _
        obtain ⟨hsame, hfound⟩ := fetchGroup_done hk₁ hf
        rw [← hsame]
        cases found with
        | none =>
          cases h
          exact .refl _ _
        | some group =>
          refine adjustGroup_touched (keep_run hk₁ hf) ?_ h
          rw [Store.groupsNamed, hsame]
          exact hfound group rfl
      · cases h
        exact .refl _ _

theorem convergeGroup_touched (hk : w.incidents.Keep Store.targetGroups)
    (hfresh : w.store.FreshGroups) (h : (convergeGroup s name targets).run w = (o, w')) :
    GroupsTouched [(name, targets)] w.store.targetGroups w'.store.targetGroups := by
  rcases run_bind_cases h with ⟨-, o₁, hf, -⟩ | ⟨found, w₁, hf, h⟩
  · rw [targetGroups_of_reads (within_fetchGroup name) hk hf]
    exact .refl _ _
  obtain ⟨hsame, hfound⟩ := fetchGroup_done hk hf
  have hk₁ := keep_run hk hf
  rw [← hsame]
  cases found with
  | none => exact createGroup_touched hk₁ (freshGroups_run hk hfresh hf) h
  | some group =>
    refine adjustGroup_touched hk₁ ?_ h
    rw [Store.groupsNamed, hsame]
    exact hfound group rfl

/-! ## All groups -/

/-- Groups of different names are touched one after the other, up to the one that fails. -/
theorem convergeGroups_touched {l : List (String × TargetSet)}
    (hk : w.incidents.Keep Store.targetGroups) (hfresh : w.store.FreshGroups)
    (hnodup : (l.map (·.1)).Nodup) (h : (convergeGroups s l).run w = (o, w')) :
    GroupsTouched l w.store.targetGroups w'.store.targetGroups := by
  induction l generalizing w with
  | nil =>
    cases h
    exact .refl _ _
  | cons entry rest ih =>
    obtain ⟨hname, hrest⟩ := List.nodup_cons.mp hnodup
    rcases run_bind_cases h with ⟨-, o₁, h₁, -⟩ | ⟨_, w₁, h₁, h⟩
    · exact (convergeGroup_touched hk hfresh h₁).cons hname (.refl _ _)
    · exact (convergeGroup_touched hk hfresh h₁).cons hname
        (ih (keep_run hk h₁) (freshGroups_run hk hfresh h₁) hrest h)

/-! ## A failing sync -/

/-- A sync of wanted targets has done no more harm than this. Every group is there; it lacks no
    target that it had and that is wanted, and has none that it neither had nor is wanted. Any
    further group is the only one of a name that was free, and holds the wanted targets.
    Groups of other names are as they were. -/
structure Store.Damaged (before after : Store) (wanted : List (String × Target)) : Prop where
  old : ∀ g : TargetGroup, g ∈ before.targetGroups →
    ∃ targets, { g with targets } ∈ after.targetGroups ∧
      (∀ t ∈ g.targets, (g.name, t) ∈ wanted → t ∈ targets) ∧
      ∀ t ∈ targets, t ∈ g.targets ∨ (g.name, t) ∈ wanted
  new : ∀ g : TargetGroup, g ∈ after.targetGroups →
    (∃ targets, { g with targets } ∈ before.targetGroups) ∨
      before.groupsNamed g.name = [] ∧ after.groupsNamed g.name = [g] ∧
        g.name ∈ wanted.map (·.1) ∧ ∀ t, t ∈ g.targets ↔ (g.name, t) ∈ wanted
  others : ∀ g : TargetGroup, g.name ∉ wanted.map (·.1) →
    (g ∈ after.targetGroups ↔ g ∈ before.targetGroups)

theorem Store.Damaged.of_touched {before after : Store} {wanted : List (String × Target)}
    (h : GroupsTouched (gathered wanted).entries before.targetGroups after.targetGroups) :
    before.Damaged after wanted := by
  have hhas {e : String × TargetSet} (he : e ∈ (gathered wanted).entries) (t : Target) :
      SortedSet.has e.2 t = true ↔ (e.1, t) ∈ wanted :=
    (get?_gathered (SortedMap.get?_eq_some_iff.mpr he)).2 t
  have hothers (g : TargetGroup) (hname : g.name ∉ wanted.map (·.1)) :
      g ∈ after.targetGroups ↔ g ∈ before.targetGroups :=
    h.others g fun hentry => hname (mem_names_of_gathered hentry)
  refine ⟨fun g hg => ?_, fun g hg => ?_, hothers⟩
  · by_cases hname : g.name ∈ wanted.map (·.1)
    · obtain ⟨⟨name, t⟩, hmem, hsame⟩ := List.mem_map.mp hname
      obtain rfl : name = g.name := hsame
      obtain ⟨T, hT⟩ := exists_gathered_of_mem hmem
      have he := SortedMap.get?_eq_some_iff.mp hT
      obtain ⟨targets, hafter, hmidway⟩ := h.old g hg
      obtain ⟨hkept, hadded⟩ := hmidway _ he rfl
      simp only [hhas he] at hkept hadded
      exact ⟨targets, hafter, hkept, hadded⟩
    · exact ⟨g.targets, (hothers g hname).mpr hg, fun _ ht _ => ht, fun _ ht => .inl ht⟩
  · rcases h.new g hg with hold | ⟨hfree, honly, e, he, hsame, hholds⟩
    · exact .inl hold
    · refine .inr ⟨Store.groupsNamed_eq_nil_iff.mpr hfree,
        Store.groupsNamed_eq_singleton_iff.mpr ⟨hg, honly⟩, ?_, fun t => ?_⟩
      · rw [hsame]
        exact mem_names_of_gathered (List.mem_map_of_mem he)
      · rw [hholds t, hhas he, hsame]

section Sync

variable {services : List Service} {nodes : List Node}

/-- Past the memo, a sync resolves the nodes, converges the groups and remembers the names. -/
theorem syncTargetGroups_of_not_visited (hnodes : nodes ≠ [])
    (hlast : w.visited ≠ some (nodeNames (nodes.filter Node.isEligible))) :
    let body : Program Unit := do
      let desired ← desiredTargets s (nodes.filter Node.isEligible)
      convergeGroups s desired.entries
      .remember (some (nodeNames (nodes.filter Node.isEligible))) (.pure ())
    (syncTargetGroups s services nodes).run w = body.run w ∧
      (syncTargetGroups s services nodes).events w = body.events w := by
  rw [syncTargetGroups, if_neg (by simpa using hnodes)]
  simp only [Program.run, Program.events, if_neg hlast, and_self]

/-- Nothing but reads happens before the nodes are resolved. -/
theorem events_of_unresolved {e : Event} (hnodes : nodes ≠ [])
    (hlast : w.visited ≠ some (nodeNames (nodes.filter Node.isEligible)))
    (hfail : ((desiredTargets s (nodes.filter Node.isEligible)).run w).1.isDone = false)
    (he : e ∈ (syncTargetGroups s services nodes).events w) :
    e.Permitted (·.Calls Method.isRead) := by
  rw [(syncTargetGroups_of_not_visited hnodes hlast).2, events_bind] at he
  rcases List.mem_append.mp he with he | he
  · exact permitted_of_mem_events (within_desiredTargets s _) he
  · split at he
    · rename_i hdone
      rw [hdone] at hfail
      cases hfail
    · cases he

/-- A sync of some nodes that fails has resolved them before it has changed a group. -/
theorem sync_touched (hnodes : nodes ≠ []) (hspare : w.incidents.SpareGroups)
    (hfresh : w.store.FreshGroups) (h : (syncTargetGroups s services nodes).run w = (o, w'))
    (hlast : w.visited ≠ some (nodeNames (nodes.filter Node.isEligible)))
    (ho : o.isDone = false) :
    w.store.Damaged w'.store (w.store.wantedTargets s (nodes.filter Node.isEligible)) := by
  refine .of_touched ?_
  rw [(syncTargetGroups_of_not_visited hnodes hlast).1] at h
  have hk := hspare.targetGroups
  rcases run_bind_cases h with ⟨-, o₁, hd, -⟩ | ⟨desired, w₁, hd, h⟩
  · rw [targetGroups_of_reads (within_desiredTargets s _) hk hd]
    exact .refl _ _
  obtain ⟨-, rfl⟩ := desiredTargets_done hspare.steady hd
  rw [← targetGroups_of_reads (within_desiredTargets s _) hk hd]
  rcases run_bind_cases h with ⟨-, o₂, hc, -⟩ | ⟨_, w₂, -, h⟩
  · exact convergeGroups_touched (keep_run hk hd) (freshGroups_run hk hfresh hd)
      (SortedMap.keys_nodup _) hc
  · cases h
    cases ho

/-- **Bounded damage.** A sync that fails, at whatever call, leaves the remembered names as
    they were. With nodes, no harm is done beyond what `Store.Damaged` allows, and while the
    nodes are not all resolved, be it because the store does not resolve them or because a
    look-up fails, nothing is called but reads. Without nodes, groups of the cluster may be
    gone, and everything else is as it was. -/
theorem syncTargetGroups_damage (hspare : w.incidents.SpareGroups)
    (hfresh : w.store.FreshGroups) (h : (syncTargetGroups s services nodes).run w = (o, w'))
    (ho : o.isDone = false) :
    w'.visited = w.visited ∧
      (nodes ≠ [] →
        (¬ w.store.Resolves s (nodes.filter Node.isEligible) →
          ((desiredTargets s (nodes.filter Node.isEligible)).run w).1.isDone = false) ∧
        (((desiredTargets s (nodes.filter Node.isEligible)).run w).1.isDone = false →
          w'.store.targetGroups = w.store.targetGroups ∧
          ∀ e ∈ (syncTargetGroups s services nodes).events w,
            e.Permitted (·.Calls Method.isRead)) ∧
        w.store.Damaged w'.store (w.store.wantedTargets s (nodes.filter Node.isEligible))) ∧
      (nodes = [] →
        (∀ g : TargetGroup, g ∈ w'.store.targetGroups → g ∈ w.store.targetGroups) ∧
        ∀ g : TargetGroup, g ∈ w.store.targetGroups →
          (¬ ∃ rest, g.name = s.clusterName ++ rest) → g ∈ w'.store.targetGroups) := by
  refine ⟨visited_of_sync_failed ho h, fun hnodes => ?_, fun hnone => ?_⟩
  · have hlast : w.visited ≠ some (nodeNames (nodes.filter Node.isEligible)) := by
      intro hv
      rw [syncTargetGroups_of_visited hnodes hv] at h
      cases h
      cases ho
    refine ⟨fun hunresolved => ?_,
      fun hfail => ⟨?_, fun e => events_of_unresolved hnodes hlast hfail⟩,
      sync_touched hnodes hspare hfresh h hlast ho⟩
    · rcases hd : (desiredTargets s (nodes.filter Node.isEligible)).run w with ⟨_ | _ | _ | _, w₁⟩
      · exact absurd (desiredTargets_done hspare.steady hd).1 hunresolved
      all_goals rfl
    · rw [(syncTargetGroups_of_not_visited hnodes hlast).1] at h
      rcases run_bind_cases h with ⟨-, o₁, hd, -⟩ | ⟨desired, w₁, hd, -⟩
      · exact targetGroups_of_reads (within_desiredTargets s _) hspare.targetGroups hd
      · rw [hd] at hfail
        cases hfail
  · subst hnone
    rw [syncTargetGroups, if_pos (by rfl)] at h
    split at h
    · cases h
      cases ho
    · rcases run_bind_cases h with ⟨-, o₁, hdelete, -⟩ | ⟨_, w₁, -, h⟩
      · obtain ⟨hsubset, hothers⟩ := deleteClusterGroups_dropped hspare.targetGroups hdelete
        refine ⟨hsubset, fun g hg hforeign => hothers g hg ?_⟩
        rwa [← Bool.not_eq_true, belongsTo_iff]
      · cases h
        cases ho

end Sync

end Runs

namespace Sample

/-- The group of the cluster can be added to, but the removal of a target fails. -/
def interrupted : World :=
  { overlooking with incidents := failingOnce .removeTargets (.api 503 "unavailable") }

end Sample

open Sample in
/-- The group keeps the target that stays wanted, and a sync of the same nodes is not skipped
    the next time. -/
theorem syncTargetGroups_damage_interrupted :
    ((syncTargetGroups settings [] nodes).run interrupted).1 =
        .failed (.cloud (.api 503 "unavailable")) ∧
      ((syncTargetGroups settings [] nodes).run interrupted).2.visited = none ∧
      ∃ targets, { staleGroup with targets } ∈
          ((syncTargetGroups settings [] nodes).run interrupted).2.store.targetGroups ∧
        ⟨"e9b", "10.0.0.6"⟩ ∈ targets ∧
        ∀ t ∈ targets, t ∈ staleGroup.targets ∨ t = ⟨"e9b", "10.0.0.5"⟩ := by
  have h : (syncTargetGroups settings [] nodes).run interrupted =
      (.failed (.cloud (.api 503 "unavailable")),
        ((syncTargetGroups settings [] nodes).run interrupted).2) := by
    rfl
  have hwanted : interrupted.store.wantedTargets settings (nodes.filter Node.isEligible) =
      [("k8senpnet", ⟨"e9b", "10.0.0.5"⟩), ("k8senpnet", ⟨"e9b", "10.0.0.6"⟩)] := by
    decide
  have hfresh : interrupted.store.FreshGroups := freshGroups_overlooking
  obtain ⟨hvisited, hdamage, -⟩ := syncTargetGroups_damage
    (spareGroups_of_no_intrusions fun _ => rfl) hfresh h rfl
  obtain ⟨-, -, hdamaged⟩ := hdamage (by decide)
  obtain ⟨targets, hafter, hkept, hadded⟩ :=
    hdamaged.old staleGroup (Inventory.mem_of_eq_put rfl)
  rw [hwanted] at hkept hadded
  refine ⟨by rw [h], hvisited, targets, hafter, hkept _ (by decide) (by decide), fun t ht => ?_⟩
  have := hadded t ht
  simp only [staleGroup] at this ⊢
  grind

end CloudSteward
