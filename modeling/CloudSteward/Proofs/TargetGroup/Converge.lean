import CloudSteward.Proofs.Steps
import CloudSteward.Proofs.TargetGroup.Wanted

/-!
# What a complete sync leaves behind

A sync that does not stop early converges one group after the other. A group
that exists is adjusted, one that is missing is created, and one that was only
overlooked is found again when its creation is refused; in every case exactly one
group of the name is left and it has exactly the desired targets. The groups have
different names, so no step undoes another.

Results:

* `adjustGroup_done`, `createGroup_done`, `convergeGroup_done`: one group.
* `convergeGroups_done`: several groups, by induction.
* `syncTargetGroups_converges`: the store after a complete sync.
-/

namespace CloudSteward

open Program

/-- The target groups of a store. -/
abbrev TargetGroups := Inventory TargetGroup TargetGroup.id

/-- A group that has exactly the targets of a set. -/
def TargetGroup.Holds (g : TargetGroup) (targets : TargetSet) : Prop :=
  ∀ t, t ∈ g.targets ↔ SortedSet.has targets t = true

/-- Groups have been brought to their targets: exactly one group of each name is
    there and holds the targets, groups of other names are as they were, and no
    group is gone. -/
structure GroupsPlaced (l : List (String × TargetSet)) (before after : TargetGroups) : Prop where
  placed : ∀ e ∈ l, ∃ group : TargetGroup, group.Holds e.2 ∧
    ∀ g : TargetGroup, g ∈ after ∧ g.name = e.1 ↔ g = group
  others : ∀ g : TargetGroup, g.name ∉ l.map (·.1) → (g ∈ after ↔ g ∈ before)
  kept : ∀ g : TargetGroup, g ∈ before → ∃ targets, { g with targets } ∈ after

/-- Exactly one group of each wanted name is stored, and its targets are the wanted
    ones. -/
def Store.Meets (st : Store) (wanted : List (String × Target)) : Prop :=
  ∀ name ∈ wanted.map (·.1), ∃ group, st.groupsNamed name = [group] ∧
    ∀ t, t ∈ group.targets ↔ (name, t) ∈ wanted

theorem Store.groupsNamed_eq_nil_iff {st : Store} {name : String} :
    st.groupsNamed name = [] ↔ ∀ g ∈ st.targetGroups, g.name ≠ name := by
  rw [Store.groupsNamed, Inventory.filter_values_eq_nil_iff]
  simp

theorem Store.groupsNamed_eq_singleton_iff {st : Store} {g : TargetGroup} :
    st.groupsNamed g.name = [g] ↔ g ∈ st.targetGroups ∧
      ∀ g' : TargetGroup, g' ∈ st.targetGroups → g'.name = g.name → g' = g := by
  rw [Store.groupsNamed, Inventory.filter_values_eq_singleton_iff]
  simp

theorem Store.Meets.congr {st st' : Store} {wanted wanted' : List (String × Target)}
    (h : st.Meets wanted) (hg : st'.targetGroups.values = st.targetGroups.values)
    (hw : ∀ p, p ∈ wanted' ↔ p ∈ wanted) : st'.Meets wanted' := by
  intro name hname
  obtain ⟨p, hp, rfl⟩ := List.mem_map.mp hname
  obtain ⟨group, hgroup, htargets⟩ := h p.1 (List.mem_map_of_mem ((hw p).mp hp))
  refine ⟨group, ?_, fun t => by rw [htargets, hw]⟩
  rw [Store.groupsNamed, hg]
  exact hgroup

section Put

variable {before : TargetGroups} {group : TargetGroup} (hg : group ∈ before) (new : List Target)

include hg

/-- Giving a group other targets leaves the groups of other names as they were. -/
theorem mem_put_iff_of_name_ne {g : TargetGroup} (hname : g.name ≠ group.name) :
    g ∈ before.put { group with targets := new } ↔ g ∈ before := by
  rw [Inventory.mem_put]
  constructor
  · rintro (rfl | ⟨-, hmem⟩)
    · exact absurd rfl hname
    · exact hmem
  · refine fun hmem => .inr ⟨fun hid => hname ?_, hmem⟩
    rw [Inventory.eq_of_mem_of_key_eq hmem hg hid]

/-- Giving a group other targets changes this group or leaves a group as it was. -/
theorem mem_put_cases {g : TargetGroup} (hmem : g ∈ before) :
    g = group ∧ { g with targets := new } ∈ before.put { group with targets := new } ∨
      g ∈ before.put { group with targets := new } := by
  by_cases hid : g.id = group.id
  · obtain rfl := Inventory.eq_of_mem_of_key_eq hmem hg hid
    exact .inl ⟨rfl, Inventory.mem_put.mpr (.inl rfl)⟩
  · exact .inr (Inventory.mem_put.mpr (.inr ⟨hid, hmem⟩))

end Put

namespace GroupsPlaced

theorem nil (groups : TargetGroups) : GroupsPlaced [] groups groups :=
  ⟨by simp, fun _ _ => Iff.rfl, fun g hg => ⟨g.targets, hg⟩⟩

/-- Groups of other names do not disturb the first one. -/
theorem cons {name : String} {targets : TargetSet} {rest : List (String × TargetSet)}
    {before between after : TargetGroups} (hname : name ∉ rest.map (·.1))
    (h₁ : GroupsPlaced [(name, targets)] before between) (h₂ : GroupsPlaced rest between after) :
    GroupsPlaced ((name, targets) :: rest) before after where
  placed e he := by
    rcases List.mem_cons.mp he with rfl | he
    · obtain ⟨group, hholds, honly⟩ := h₁.placed _ List.mem_cons_self
      refine ⟨group, hholds, fun g => ?_⟩
      rw [← honly g]
      exact and_congr_left fun hg => h₂.others g (by rw [hg]; exact hname)
    · exact h₂.placed e he
  others g hg := by
    rw [List.map_cons, List.mem_cons, not_or] at hg
    rw [h₂.others g hg.2, h₁.others g (by simpa using hg.1)]
  kept g hg := by
    obtain ⟨t₁, hg₁⟩ := h₁.kept g hg
    obtain ⟨t₂, hg₂⟩ := h₂.kept _ hg₁
    exact ⟨t₂, hg₂⟩

/-- The only group of a name has been given other targets. -/
theorem adjusted {before : TargetGroups} {group : TargetGroup} {name : String}
    {new : List Target} {targets : TargetSet} (hname : group.name = name) (hg : group ∈ before)
    (honly : ∀ g : TargetGroup, g ∈ before → g.name = name → g = group)
    (hnew : ∀ t, t ∈ new ↔ SortedSet.has targets t = true) :
    GroupsPlaced [(name, targets)] before (before.put { group with targets := new }) where
  placed e he := by
    obtain rfl := List.mem_singleton.mp he
    refine ⟨{ group with targets := new }, hnew, fun g => ?_⟩
    rw [Inventory.mem_put]
    constructor
    · rintro ⟨rfl | ⟨hid, hmem⟩, hg'⟩
      · rfl
      · exact absurd (congrArg TargetGroup.id (honly g hmem hg')) hid
    · rintro rfl
      exact ⟨.inl rfl, hname⟩
  others g hother := mem_put_iff_of_name_ne hg new (by simpa [hname] using hother)
  kept g hmem := by
    rcases mem_put_cases hg new hmem with ⟨-, hput⟩ | hput
    · exact ⟨new, hput⟩
    · exact ⟨g.targets, hput⟩

/-- A group of a new name and with a new id has been added. -/
theorem created {before : TargetGroups} {group : TargetGroup} {name : String}
    {targets : TargetSet} (hname : group.name = name)
    (hnew : ∀ g : TargetGroup, g ∈ before → g.name ≠ name)
    (hid : before.get? group.id = none) (hholds : group.Holds targets) :
    GroupsPlaced [(name, targets)] before (before.put group) := by
  have hne : ∀ g : TargetGroup, g ∈ before → g.id ≠ group.id := by
    intro g hmem he
    rw [Inventory.mem_iff, he, hid] at hmem
    cases hmem
  refine ⟨fun e he => ?_, fun g hother => ?_, fun g hmem => ?_⟩
  · obtain rfl := List.mem_singleton.mp he
    refine ⟨group, hholds, fun g => ?_⟩
    rw [Inventory.mem_put]
    constructor
    · rintro ⟨rfl | ⟨-, hmem⟩, hg⟩
      · rfl
      · exact absurd hg (hnew g hmem)
    · rintro rfl
      exact ⟨.inl rfl, hname⟩
  · have hother : g.name ≠ name := by simpa using hother
    rw [Inventory.mem_put]
    constructor
    · rintro (rfl | ⟨-, hmem⟩)
      · exact absurd hname hother
      · exact hmem
    · exact fun hmem => .inr ⟨hne g hmem, hmem⟩
  · exact ⟨g.targets, Inventory.mem_put.mpr (.inr ⟨hne g hmem, hmem⟩)⟩

/-- Groups that were brought to the targets of a list meet the list. -/
theorem meets {wanted : List (String × Target)} {before : TargetGroups} {st : Store}
    (h : GroupsPlaced (gathered wanted).entries before st.targetGroups) : st.Meets wanted := by
  intro name hname
  obtain ⟨⟨_, t⟩, hmem, rfl⟩ := List.mem_map.mp hname
  obtain ⟨targets, hget⟩ := exists_gathered_of_mem hmem
  obtain ⟨group, hholds, honly⟩ := h.placed _ (SortedMap.get?_eq_some_iff.mp hget)
  refine ⟨group, ?_, fun t' => (hholds t').trans ((get?_gathered hget).2 t')⟩
  obtain ⟨hmem, hgroup⟩ := (honly group).mpr rfl
  refine Inventory.filter_values_eq_singleton_iff.mpr ⟨hmem, by simpa using hgroup, ?_⟩
  exact fun g hg hg' => (honly g).mp ⟨hg, by simpa using hg'⟩

end GroupsPlaced

/-! ## One call -/

theorem mem_addMissing {targets present : List Target} {t : Target} :
    t ∈ targets.foldl (fun l t => if l.contains t then l else l ++ [t]) present ↔
      t ∈ present ∨ t ∈ targets := by
  induction targets generalizing present with
  | nil => simp
  | cons a rest ih =>
    rw [List.foldl_cons, ih, List.mem_cons]
    split
    · rename_i ha
      have ha : a ∈ present := by simpa using ha
      constructor
      · rintro (h | h)
        · exact .inl h
        · exact .inr (.inr h)
      · rintro (h | rfl | h)
        · exact .inl h
        · exact .inl ha
        · exact .inr h
    · rw [List.mem_append, List.mem_singleton, or_assoc]

section Calls

variable {w w' : World}

/-- A change of the targets of a group that is there. -/
theorem changeTargets_done {group r : TargetGroup} {m : Method}
    {update : List Target → List Target} (hk : w.incidents.Keep Store.targetGroups)
    (hg : group ∈ w.store.targetGroups)
    (h : (w.met m).changeTargets group.id update = (.ok r, w'.store)) :
    w'.store.targetGroups =
      w.store.targetGroups.put { group with targets := update group.targets } := by
  have hf : (w.met m).targetGroups.get? group.id = some group := by
    rw [part_met hk, Inventory.mem_iff.mp hg]
  rw [Store.changeTargets, hf] at h
  obtain ⟨-, hs⟩ := Prod.mk.inj h
  rw [← hs, ← part_met hk m]

theorem addTargets_done {group r : TargetGroup} {l : List Target}
    (hk : w.incidents.Keep Store.targetGroups) (hg : group ∈ w.store.targetGroups)
    (h : (ask (.addTargets group.id l)).run w = (.done r, w')) :
    ∃ added, w'.store.targetGroups = w.store.targetGroups.put { group with targets := added } ∧
      ∀ t, t ∈ added ↔ t ∈ group.targets ∨ t ∈ l := by
  have hcall : (w.met .addTargets).addTargets group.id l = (.ok r, w'.store) :=
    answer_eq_ok (run_ask_eq_done.mp h)
  exact ⟨_, changeTargets_done hk hg hcall, fun _ => mem_addMissing⟩

theorem removeTargets_done {group r : TargetGroup} {l : List Target}
    (hk : w.incidents.Keep Store.targetGroups) (hg : group ∈ w.store.targetGroups)
    (h : (ask (.removeTargets group.id l)).run w = (.done r, w')) :
    ∃ left, w'.store.targetGroups = w.store.targetGroups.put { group with targets := left } ∧
      ∀ t, t ∈ left ↔ t ∈ group.targets ∧ t ∉ l := by
  have hcall : (w.met .removeTargets).removeTargets group.id l = (.ok r, w'.store) :=
    answer_eq_ok (run_ask_eq_done.mp h)
  exact ⟨_, changeTargets_done hk hg hcall, fun _ => by simp⟩

theorem changeTargets_eq_error {st st' : Store} {id : String} {e : CloudError}
    {update : List Target → List Target} (h : st.changeTargets id update = (.error e, st')) :
    st' = st := by
  rw [Store.changeTargets] at h
  split at h <;> cases h
  rfl

theorem addTargets_failed {id : String} {l : List Target} {o : Outcome TargetGroup}
    (hk : w.incidents.Keep Store.targetGroups) (h : (ask (.addTargets id l)).run w = (o, w'))
    (ho : o.isDone = false) : w'.store.targetGroups = w.store.targetGroups := by
  refine part_of_ask_failed hk (fun {st st' e} hrefused => ?_) h ho
  rw [changeTargets_eq_error (show st.addTargets id l = _ from hrefused)]

theorem removeTargets_failed {id : String} {l : List Target} {o : Outcome TargetGroup}
    (hk : w.incidents.Keep Store.targetGroups) (h : (ask (.removeTargets id l)).run w = (o, w'))
    (ho : o.isDone = false) : w'.store.targetGroups = w.store.targetGroups := by
  refine part_of_ask_failed hk (fun {st st' e} hrefused => ?_) h ho
  rw [changeTargets_eq_error (show st.removeTargets id l = _ from hrefused)]

/-- A look-up that ends well changes nothing and has found the only group of the
    name, if it has found one. -/
theorem fetchGroup_done {name : String} {found : Option TargetGroup}
    (hk : w.incidents.Keep Store.targetGroups)
    (h : (fetchGroup name).run w = (.done found, w')) :
    w'.store.targetGroups = w.store.targetGroups ∧
      ∀ group, found = some group → w.store.groupsNamed name = [group] := by
  obtain ⟨reply, w₁, ha, h⟩ := run_bind_eq_done.mp h
  have ha := run_answer_eq_done.mp ha
  have hsame := part_answer hk fun s => (s.answer_parts (.findTargetGroup name)).targetGroups rfl
  rw [ha] at hsame
  cases reply with
  | error e =>
    dsimp only at h
    split at h
    · cases h
      exact ⟨hsame, by simp⟩
    · cases h
  | ok found' =>
    cases h
    refine ⟨hsame, ?_⟩
    rintro group rfl
    have hfind := unique_eq_some_iff.mp (congrArg Prod.fst (answer_eq_ok ha))
    rw [Store.groupsNamed, part_met hk] at hfind
    exact hfind

theorem createTargetGroup_eq_ok {s s' : Store} {r : TargetGroupRequest} {group : TargetGroup}
    (h : s.createTargetGroup r = (.ok group, s')) :
    (∀ g : TargetGroup, g ∈ s.targetGroups → g.name ≠ r.name) ∧
      group = ⟨Store.idOf s.counter, r.folderId, r.name, r.regionId, r.targets, r.labels⟩ ∧
      s'.targetGroups = s.targetGroups.put group := by
  rw [Store.createTargetGroup] at h
  split at h
  · cases h
  · rename_i hnone
    cases h
    refine ⟨fun g hg hname => hnone ?_, rfl, rfl⟩
    exact List.any_eq_true.mpr ⟨g, Inventory.mem_values.mpr hg, by simpa using hname⟩

theorem createTargetGroup_eq_error {s s' : Store} {r : TargetGroupRequest} {e : CloudError}
    (h : s.createTargetGroup r = (.error e, s')) : s' = s := by
  rw [Store.createTargetGroup] at h
  split at h
  · cases h
    rfl
  · cases h

/-- A creation that fails has changed no group. -/
theorem targetGroups_of_create_error {r : TargetGroupRequest} {e : CloudError}
    (hk : w.incidents.Keep Store.targetGroups)
    (h : w.answer (.createTargetGroup r) = (some (.error e), w')) :
    w'.store.targetGroups = w.store.targetGroups := by
  rcases answer_eq_error h with hs | hs
  · rw [hs, part_met hk]
  · rw [createTargetGroup_eq_error hs, part_met hk]

/-! ## One group -/

/-- Either adding what is missing has failed and changed nothing, or the run goes on with
    the targets added. -/
theorem addMissing_cases {group : TargetGroup} {missing : List Target} {rest : Program Unit}
    {o : Outcome Unit} (hk : w.incidents.Keep Store.targetGroups)
    (hg : group ∈ w.store.targetGroups)
    (h : (if missing.isEmpty then rest else do
      let _ ← ask (.addTargets group.id missing)
      rest).run w = (o, w')) :
    (o.isDone = false ∧ w'.store.targetGroups = w.store.targetGroups) ∨
      ∃ w₁ added, w₁.incidents.Keep Store.targetGroups ∧
        w₁.store.targetGroups = w.store.targetGroups.put { group with targets := added } ∧
        (∀ t, t ∈ added ↔ t ∈ group.targets ∨ t ∈ missing) ∧ rest.run w₁ = (o, w') := by
  split at h
  · rename_i hnil
    have hnil : missing = [] := List.isEmpty_iff.mp hnil
    exact .inr ⟨w, group.targets, hk, (Inventory.put_of_mem hg).symm, by simp [hnil], h⟩
  · rcases run_bind_cases h with ⟨ho, o₁, hadd, ho₁⟩ | ⟨r, w₁, hadd, h⟩
    · exact .inl ⟨ho, addTargets_failed hk hadd ho₁⟩
    · obtain ⟨added, hs, hmem⟩ := addTargets_done hk hg hadd
      exact .inr ⟨w₁, added, keep_run hk hadd, hs, hmem, h⟩

/-- Removing what is too much, if anything is. -/
theorem removeSurplus_done {group : TargetGroup} {surplus : List Target}
    (hk : w.incidents.Keep Store.targetGroups) (hg : group ∈ w.store.targetGroups)
    (h : (if surplus.isEmpty then Pure.pure () else do
      let _ ← ask (.removeTargets group.id surplus) : Program Unit).run w = (.done (), w')) :
    ∃ left, w'.store.targetGroups = w.store.targetGroups.put { group with targets := left } ∧
      ∀ t, t ∈ left ↔ t ∈ group.targets ∧ t ∉ surplus := by
  split at h
  · rename_i hnil
    have hnil : surplus = [] := List.isEmpty_iff.mp hnil
    cases h
    exact ⟨group.targets, (Inventory.put_of_mem hg).symm, by simp [hnil]⟩
  · obtain ⟨r, w₁, ha, h⟩ := run_bind_eq_done.mp h
    cases h
    exact removeTargets_done hk hg ha

theorem adjustGroup_done {group : TargetGroup} {name : String} {targets : TargetSet}
    (hk : w.incidents.Keep Store.targetGroups) (hnamed : w.store.groupsNamed name = [group])
    (h : (adjustGroup group targets).run w = (.done (), w')) :
    GroupsPlaced [(name, targets)] w.store.targetGroups w'.store.targetGroups := by
  obtain ⟨hg, hname, honly⟩ := Inventory.filter_values_eq_singleton_iff.mp hnamed
  rw [adjustGroup] at h
  rcases addMissing_cases hk hg h with ⟨⟨⟩, -⟩ | ⟨w₁, added, hk₁, hs₁, hadded, h⟩
  obtain ⟨left, hs, hleft⟩ := removeSurplus_done hk₁ (Inventory.mem_of_eq_put hs₁) h
  have hput : w'.store.targetGroups =
      w.store.targetGroups.put { group with targets := left } := by
    rw [hs, hs₁]
    exact Inventory.put_put rfl
  rw [hput]
  refine GroupsPlaced.adjusted (by simpa using hname) hg
    (fun g hmem hg' => honly g hmem (by simpa using hg')) fun t => ?_
  -- a target is left over if it was there or missing, and not surplus
  rw [hleft, hadded, SortedSet.mem_diff, SortedSet.mem_diff, SortedSet.has_ofMembers]
  by_cases ht : t ∈ group.targets <;> cases SortedSet.has targets t <;> simp [ht]

theorem createGroup_done {s : Settings} {name : String} {targets : TargetSet}
    (hk : w.incidents.Keep Store.targetGroups) (hfresh : w.store.FreshGroups)
    (h : (createGroup s name targets).run w = (.done (), w')) :
    GroupsPlaced [(name, targets)] w.store.targetGroups w'.store.targetGroups := by
  obtain ⟨reply, w₁, ha, h⟩ := run_bind_eq_done.mp h
  have ha := run_answer_eq_done.mp ha
  cases reply with
  | ok group =>
    cases h
    obtain ⟨hnone, rfl, hs⟩ := createTargetGroup_eq_ok (answer_eq_ok ha)
    rw [part_met hk] at hnone hs
    rw [hs]
    refine GroupsPlaced.created rfl hnone ?_ fun t => SortedSet.mem_toList
    exact hfresh _ (Nat.le_of_eq (counter_met w _).symm)
  | error e =>
    have hsame := targetGroups_of_create_error hk ha
    have hk₁ := keep_answer hk (.createTargetGroup (groupRequest s name targets))
    rw [ha] at hk₁
    dsimp only at h
    split at h
    · obtain ⟨found, w₂, hf, h₂⟩ := run_bind_eq_done.mp h
      obtain ⟨group, w₃, hr, h₃⟩ := run_bind_eq_done.mp h₂
      obtain ⟨rfl, rfl⟩ := run_require_eq_done.mp hr
      obtain ⟨hsame₂, hfound⟩ := fetchGroup_done hk₁ hf
      rw [← hsame, ← hsame₂]
      refine adjustGroup_done (keep_run hk₁ hf) ?_ h₃
      rw [Store.groupsNamed, hsame₂]
      exact hfound group rfl
    · cases h

theorem convergeGroup_done {s : Settings} {name : String} {targets : TargetSet}
    (hk : w.incidents.Keep Store.targetGroups) (hfresh : w.store.FreshGroups)
    (h : (convergeGroup s name targets).run w = (.done (), w')) :
    GroupsPlaced [(name, targets)] w.store.targetGroups w'.store.targetGroups := by
  obtain ⟨found, w₁, hf, h⟩ := run_bind_eq_done.mp h
  obtain ⟨hsame, hfound⟩ := fetchGroup_done hk hf
  have hk₁ := keep_run hk hf
  rw [← hsame]
  cases found with
  | none => exact createGroup_done hk₁ (freshGroups_run hk hfresh hf) h
  | some group =>
    refine adjustGroup_done hk₁ ?_ h
    rw [Store.groupsNamed, hsame]
    exact hfound group rfl

/-! ## All groups -/

/-- Groups of different names are brought to their targets one after the other. -/
theorem convergeGroups_done {s : Settings} {l : List (String × TargetSet)}
    (hk : w.incidents.Keep Store.targetGroups) (hfresh : w.store.FreshGroups)
    (hnodup : (l.map (·.1)).Nodup) (h : (convergeGroups s l).run w = (.done (), w')) :
    GroupsPlaced l w.store.targetGroups w'.store.targetGroups := by
  induction l generalizing w with
  | nil =>
    cases h
    exact .nil _
  | cons entry rest ih =>
    obtain ⟨hname, hrest⟩ := List.nodup_cons.mp hnodup
    obtain ⟨_, w₁, h₁, h⟩ := run_bind_eq_done.mp h
    exact (convergeGroup_done hk hfresh h₁).cons hname
      (ih (keep_run hk h₁) (freshGroups_run hk hfresh h₁) hrest h)

/-! ## A complete sync -/

/-- Other writers change neither target groups nor what these are derived from. -/
structure Incidents.SpareGroups (i : Incidents) : Prop where
  instances : i.Keep Store.instances
  subnets : i.Keep Store.subnets
  targetGroups : i.Keep Store.targetGroups

theorem spareGroups_of_no_intrusions {i : Incidents} (h : ∀ m, i.intrusions m = []) :
    i.SpareGroups :=
  ⟨keep_of_no_intrusions h _, keep_of_no_intrusions h _, keep_of_no_intrusions h _⟩

theorem Incidents.SpareGroups.steady (h : w.incidents.SpareGroups) : w.Steady w.store :=
  ⟨rfl, rfl, h.instances, h.subnets⟩

theorem Incidents.SpareGroups.run {α : Type} {p : Program α} {o : Outcome α}
    (hspare : w.incidents.SpareGroups) (h : p.run w = (o, w')) : w'.incidents.SpareGroups :=
  ⟨keep_run hspare.instances h, keep_run hspare.subnets h, keep_run hspare.targetGroups h⟩

/-- A sync of the remembered names does nothing. -/
theorem syncTargetGroups_of_visited {s : Settings} {services : List Service} {nodes : List Node}
    (hnodes : nodes ≠ []) (hv : w.visited = some (nodeNames (nodes.filter Node.isEligible))) :
    (syncTargetGroups s services nodes).run w = (.done (), w) := by
  rw [syncTargetGroups, if_neg (by simpa using hnodes)]
  simp only [Program.run, if_pos hv]

/-- A sync of some nodes that ends well remembers their names. -/
theorem visited_of_sync_done {s : Settings} {services : List Service} {nodes : List Node}
    (hnodes : nodes ≠ []) (h : (syncTargetGroups s services nodes).run w = (.done (), w')) :
    w'.visited = some (nodeNames (nodes.filter Node.isEligible)) := by
  by_cases hlast : w.visited = some (nodeNames (nodes.filter Node.isEligible))
  · rw [syncTargetGroups_of_visited hnodes hlast] at h
    cases h
    exact hlast
  · rw [syncTargetGroups, if_neg (by simpa using hnodes)] at h
    simp only [Program.run, if_neg hlast] at h
    obtain ⟨_, w₁, -, h⟩ := run_bind_eq_done.mp h
    obtain ⟨_, w₂, -, h⟩ := run_bind_eq_done.mp h
    cases h
    rfl

/-- A sync that does not stop early resolves all nodes, brings the wanted groups to
    their targets and remembers the names. -/
theorem syncTargetGroups_done {s : Settings} {services : List Service} {nodes : List Node}
    (hnodes : nodes ≠ []) (hlast : w.visited ≠ some (nodeNames (nodes.filter Node.isEligible)))
    (hspare : w.incidents.SpareGroups) (hfresh : w.store.FreshGroups)
    (h : (syncTargetGroups s services nodes).run w = (.done (), w')) :
    w.store.Resolves s (nodes.filter Node.isEligible) ∧
      GroupsPlaced (gathered (w.store.wantedTargets s (nodes.filter Node.isEligible))).entries
        w.store.targetGroups w'.store.targetGroups ∧
      w'.visited = some (nodeNames (nodes.filter Node.isEligible)) := by
  rw [syncTargetGroups, if_neg (by simpa using hnodes)] at h
  simp only [Program.run, if_neg hlast] at h
  obtain ⟨desired, w₁, hd, h⟩ := run_bind_eq_done.mp h
  obtain ⟨_, w₂, hc, h⟩ := run_bind_eq_done.mp h
  cases h
  obtain ⟨hres, rfl⟩ := desiredTargets_done hspare.steady hd
  have hsame : w₁.store.targetGroups = w.store.targetGroups :=
    targetGroups_of_reads (within_desiredTargets s _) hspare.targetGroups hd
  have hk₁ := keep_run hspare.targetGroups hd
  have hfresh₁ := freshGroups_run hspare.targetGroups hfresh hd
  refine ⟨hres, ?_, rfl⟩
  rw [← hsame]
  exact (convergeGroups_done hk₁ hfresh₁ (SortedMap.keys_nodup _) hc :)

end Calls

namespace Sample

/-- The group of the cluster, with a target that is no longer wanted. -/
def staleGroup : TargetGroup :=
  ⟨Store.idOf 1, "b1g", "k8senpnet", "zone", [⟨"e9b", "10.0.0.6"⟩, ⟨"e9b", "10.0.0.7"⟩], .empty⟩

/-- The first look-up of a group overlooks it. -/
def overlooking : World :=
  { World.ofStore { store with
      targetGroups := Inventory.empty.put staleGroup
      counter := 2 } with
    incidents := failingOnce .findTargetGroup (.notFound "overlooked") }

theorem freshGroups_overlooking : overlooking.store.FreshGroups := by
  intro n hn
  have hid : Store.idOf n ≠ staleGroup.id := by
    intro he
    have := Store.idOf_injective he
    simp only [overlooking, World.ofStore] at hn
    omega
  exact (Inventory.get?_put _ _ _).trans (if_neg hid)

end Sample

end CloudSteward
