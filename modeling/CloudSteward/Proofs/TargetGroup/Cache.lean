import CloudSteward.Proofs.Balancer.Ensure
import CloudSteward.Proofs.TargetGroup.Converge

/-!
# When the memo of node names can be trusted

A sync of the remembered names does nothing, so the memo is worth what the target
groups still hold of the sync that wrote it. This module follows the memo through
any run of syncs, ensured and removed balancers, with any failures. The groups
meet what the names want at the moment when the memo is written, and as long as
no failed reconciliation has changed a group since. A sync or cleanup that fails
half way keeps the memo but not the groups, and then the memo hides work.

Results:

* `turn_effect`: what one reconciliation does to the memo and to the groups.
* `History.sound_after`: what every run keeps.
* `visited_meets_iff`: when exactly the memo can be trusted.
* `visited_stale_of_failed_sync`: a run after which it cannot.
-/

namespace CloudSteward

open Program

/-! ## Runs of reconciliations -/

/-- A reconciliation that may change target groups. -/
inductive GroupCall where
  | sync (nodes : List Node)
  | ensure (service : Service) (nodes : List Node)
  | release (service : Service)

/-- The nodes that a reconciliation is given. -/
def GroupCall.nodes : GroupCall → List Node
  | .sync nodes | .ensure _ nodes => nodes
  | .release _ => []

/-- The program of a reconciliation. -/
def GroupCall.program (s : Settings) (services : List Service) : GroupCall → Program Unit
  | .sync nodes => syncTargetGroups s services nodes
  | .ensure service nodes => do
    let _ ← ensureLoadBalancer s services service nodes
  | .release service => ensureLoadBalancerDeleted s services service

/-- A reconciliation, the services that are listed at its time, and what goes wrong
    in it. -/
structure Turn where
  call : GroupCall
  services : List Service
  incidents : Incidents

/-- Only the program writes target groups, and its nodes are those of a fleet. -/
structure Turn.Fair (t : Turn) (fleet : List Node) : Prop where
  spare : t.incidents.SpareGroups
  nodes : ∀ n ∈ t.call.nodes, n ∈ fleet

/-- The world in which a turn begins. -/
def Turn.enter (t : Turn) (w : World) : World := { w with incidents := t.incidents }

@[simp] theorem store_enter (t : Turn) (w : World) : (t.enter w).store = w.store := rfl

@[simp] theorem visited_enter (t : Turn) (w : World) : (t.enter w).visited = w.visited := rfl

/-- The outcome of a turn and the world after it. -/
def Turn.play (s : Settings) (w : World) (t : Turn) : Outcome Unit × World :=
  (t.call.program s t.services).run (t.enter w)

/-- A world with what has become of its memo. -/
structure History where
  world : World
  /-- The store when the remembered names were last replaced. -/
  agreed : Store
  /-- Whether a failed turn has changed target groups since then. -/
  spoilt : Bool

namespace History

/-- Nothing is remembered yet. -/
def start (st : Store) : History := ⟨.ofStore st, st, false⟩

/-- The history after one more turn. -/
def step (s : Settings) (x : History) (t : Turn) : History :=
  let (outcome, w) := t.play s x.world
  if w.visited = x.world.visited then
    ⟨w, x.agreed, x.spoilt || !outcome.isDone &&
      decide (w.store.targetGroups.values ≠ x.world.store.targetGroups.values)⟩
  else ⟨w, w.store, false⟩

/-- The history after several turns. -/
def after (s : Settings) (st : Store) (turns : List Turn) : History :=
  turns.foldl (step s) (start st)

end History

/-- The eligible nodes of some names. -/
def eligibleNamed (fleet : List Node) (names : NameSet) : List Node :=
  fleet.filter fun n => n.isEligible && SortedSet.has names n.name

/-! ## One turn -/

/-- What a reconciliation does to the memo and to the groups. -/
inductive TurnEffect (s : Settings) (nodes : List Node) (done : Bool) (w w' : World) : Prop where
  /-- It has failed, and the memo is as it was. -/
  | failed (hdone : done = false) (hv : w'.visited = w.visited)
  /-- It has done nothing to either. -/
  | idle (hv : w'.visited = w.visited) (hg : w'.store.targetGroups = w.store.targetGroups)
  /-- It has cleared the memo. -/
  | cleared (hv : w'.visited = none)
  /-- It has brought the groups to the targets of other nodes than the remembered
      ones. -/
  | synced (hv : w'.visited = some (nodeNames (nodes.filter Node.isEligible)))
      (hne : w'.visited ≠ w.visited)
      (hmeets : w'.store.Meets (w.store.wantedTargets s (nodes.filter Node.isEligible)))

namespace TurnEffect

variable {s : Settings} {nodes : List Node} {done : Bool} {w w₁ w' : World}

/-- Nothing that follows touches memo or groups. -/
theorem andThen (h : TurnEffect s nodes true w w₁) (hv : w'.visited = w₁.visited)
    (hg : w'.store.targetGroups = w₁.store.targetGroups) : TurnEffect s nodes done w w' := by
  cases h with
  | failed hdone => cases hdone
  | idle hv₁ hg₁ => exact .idle (hv.trans hv₁) (hg.trans hg₁)
  | cleared hv₁ => exact .cleared (hv.trans hv₁)
  | synced hv₁ hne hmeets =>
    refine .synced (hv.trans hv₁) (by rwa [hv]) (hmeets.congr (by rw [hg]) fun _ => Iff.rfl)

/-- Nothing that came before has touched memo, groups, instances or subnets. -/
theorem precededBy (h : TurnEffect s nodes done w₁ w') (hv : w₁.visited = w.visited)
    (hg : w₁.store.targetGroups = w.store.targetGroups)
    (hi : w₁.store.instances = w.store.instances) (hs : w₁.store.subnets = w.store.subnets) :
    TurnEffect s nodes done w w' := by
  cases h with
  | failed hdone hv₁ => exact .failed hdone (hv₁.trans hv)
  | idle hv₁ hg₁ => exact .idle (hv₁.trans hv) (hg₁.trans hg)
  | cleared hv₁ => exact .cleared hv₁
  | synced hv₁ hne hmeets =>
    rw [wantedTargets_congr hi hs] at hmeets
    exact .synced hv₁ (by rwa [← hv]) hmeets

end TurnEffect

section Turns

variable {s : Settings} {services : List Service} {w w' : World}

/-- A sync that fails leaves the memo as it was. -/
theorem visited_of_sync_failed {nodes : List Node} {o : Outcome Unit} (ho : o.isDone = false)
    (h : (syncTargetGroups s services nodes).run w = (o, w')) : w'.visited = w.visited := by
  rw [syncTargetGroups] at h
  split at h
  · split at h
    · cases h
      cases ho
    · rcases run_bind_cases h with ⟨-, o₁, hdel, -⟩ | ⟨_, w₁, -, h⟩
      · exact visited_run (within_deleteClusterGroups s) hdel
      · cases h
        cases ho
  · rw [Program.run] at h
    split at h
    · cases h
      cases ho
    · rcases run_bind_cases h with ⟨-, o₁, hdes, -⟩ | ⟨desired, w₁, hdes, h⟩
      · exact visited_run (within_desiredTargets s _) hdes
      · have hv₁ := visited_run (within_desiredTargets s _) hdes
        rcases run_bind_cases h with ⟨-, o₂, hconv, -⟩ | ⟨_, w₂, -, h⟩
        · rw [visited_run (within_convergeGroups s _) hconv, hv₁]
        · cases h
          cases ho

theorem sync_effect {nodes : List Node} {o : Outcome Unit} (hspare : w.incidents.SpareGroups)
    (hfresh : w.store.FreshGroups) (h : (syncTargetGroups s services nodes).run w = (o, w')) :
    TurnEffect s nodes o.isDone w w' := by
  cases ho : o.isDone with
  | false => exact .failed rfl (visited_of_sync_failed ho h)
  | true =>
    by_cases hnodes : nodes = []
    · rw [syncTargetGroups, if_pos (by simpa using hnodes)] at h
      split at h
      · cases h
        exact .idle rfl rfl
      · rcases run_bind_cases h with ⟨hfailed, -⟩ | ⟨_, w₁, -, h⟩
        · rw [ho] at hfailed
          cases hfailed
        · cases h
          exact .cleared rfl
    · by_cases hlast : w.visited = some (nodeNames (nodes.filter Node.isEligible))
      · rw [syncTargetGroups, if_neg (by simpa using hnodes)] at h
        simp only [Program.run, if_pos hlast] at h
        cases h
        exact .idle rfl rfl
      · cases o with
        | done _ =>
          obtain ⟨-, hplaced, hv⟩ := syncTargetGroups_done hnodes hlast hspare hfresh h
          exact .synced hv (by rw [hv]; exact Ne.symm hlast) hplaced.meets
        | failed _ | aborted | hung => cases ho

theorem ensureBalancer_effect {service : Service} {nodes : List Node} {o : Outcome Balancer}
    (hspare : w.incidents.SpareGroups) (hfresh : w.store.FreshGroups)
    (h : (ensureBalancer s services service nodes).run w = (o, w')) :
    TurnEffect s nodes o.isDone w w' := by
  rcases run_bind_cases h with ⟨-, o₁, hspec, -⟩ | ⟨spec, w₁, hspec, h⟩
  · rw [describedBalancer] at hspec
    split at hspec <;> cases hspec <;> exact .idle rfl rfl
  · obtain ⟨-, rfl⟩ := describedBalancer_done hspec
    split at h
    · cases h
      exact .idle rfl rfl
    · rcases run_bind_cases h with ⟨ho, o₁, hsync, ho₁⟩ | ⟨_, w₁, hsync, h⟩
      · rw [ho, ← ho₁]
        exact sync_effect hspare hfresh hsync
      · -- what follows the sync is about balancers alone
        have hrest := within_placeAttached s spec
        have heffect := sync_effect hspare hfresh hsync
        exact heffect.andThen (visited_of_places hrest h)
          (targetGroups_of_places hrest (keep_run hspare.targetGroups hsync) h)

theorem release_effect {service : Service} {o : Outcome Unit} (hspare : w.incidents.SpareGroups)
    (hfresh : w.store.FreshGroups)
    (h : (ensureLoadBalancerDeleted s services service).run w = (o, w')) :
    TurnEffect s [] o.isDone w w' := by
  rw [ensureLoadBalancerDeleted_eq] at h
  rcases run_bind_cases h with ⟨-, o₁, hname, -⟩ | ⟨name, w₁, hname, h⟩
  · rw [namedBalancer] at hname
    split at hname <;> cases hname <;> exact .idle rfl rfl
  · obtain ⟨-, rfl⟩ := namedBalancer_done hname
    have hwithin := within_removeNamed name
    rcases run_bind_cases h with ⟨-, o₁, hremove, -⟩ | ⟨_, w₁, hremove, h⟩
    · exact .idle (visited_of_places hwithin hremove)
        (targetGroups_of_places hwithin hspare.targetGroups hremove)
    · exact (sync_effect (hspare.run hremove) (freshGroups_run hspare.targetGroups hfresh hremove)
        h).precededBy (visited_of_places hwithin hremove)
        (targetGroups_of_places hwithin hspare.targetGroups hremove)
        (instances_run hspare.instances hremove) (subnets_run hspare.subnets hremove)

/-- What one reconciliation does to the memo and to the groups. -/
theorem turn_effect {t : Turn} {o : Outcome Unit} (hspare : t.incidents.SpareGroups)
    (hfresh : w.store.FreshGroups) (h : t.play s w = (o, w')) :
    TurnEffect s t.call.nodes o.isDone (t.enter w) w' := by
  rw [Turn.play] at h
  cases hcall : t.call with
  | sync nodes =>
    rw [hcall] at h
    exact sync_effect hspare hfresh h
  | ensure service nodes =>
    rw [hcall] at h
    obtain ⟨o₁, h₁, ho₁⟩ := run_bind_pure h
    obtain ⟨o₂, h₂, ho₂⟩ := run_bind_pure h₁
    rw [← ho₁, ← ho₂]
    exact ensureBalancer_effect hspare hfresh h₂
  | release service =>
    rw [hcall] at h
    exact release_effect hspare hfresh h

end Turns

/-! ## Many turns -/

/-- The eligible nodes of a list are those of the fleet that have their names. -/
theorem mem_eligibleNamed_iff {fleet nodes : List Node} (hfleet : (fleet.map Node.name).Nodup)
    (hnodes : ∀ n ∈ nodes, n ∈ fleet) (n : Node) :
    n ∈ eligibleNamed fleet (nodeNames (nodes.filter Node.isEligible)) ↔
      n ∈ nodes.filter Node.isEligible := by
  simp only [eligibleNamed, nodeNames, List.mem_filter, Bool.and_eq_true, SortedSet.has_ofMembers,
    decide_eq_true_eq, List.mem_map]
  constructor
  · rintro ⟨hn, hel, m, ⟨hm, -⟩, hname⟩
    have : m = n := List.inj_on_of_nodup_map hfleet (hnodes m hm) hn hname
    exact ⟨this ▸ hm, hel⟩
  · rintro ⟨hn, hel⟩
    exact ⟨hnodes n hn, hel, n, ⟨hn, hel⟩, rfl⟩

/-- What the eligible nodes of some names want. -/
def wantedNamed (s : Settings) (st : Store) (fleet : List Node) (names : NameSet) :
    List (String × Target) :=
  st.wantedTargets s (eligibleNamed fleet names)

theorem mem_wantedNamed_iff {s : Settings} {st : Store} {fleet nodes : List Node}
    (hfleet : (fleet.map Node.name).Nodup) (hnodes : ∀ n ∈ nodes, n ∈ fleet)
    (p : String × Target) :
    p ∈ wantedNamed s st fleet (nodeNames (nodes.filter Node.isEligible)) ↔
      p ∈ st.wantedTargets s (nodes.filter Node.isEligible) := by
  simp only [wantedNamed, Store.wantedTargets, List.mem_flatMap,
    mem_eligibleNamed_iff hfleet hnodes]

namespace History

/-- What every run keeps: instances and subnets are those of the start, ids are
    fresh, and if names are remembered, then the groups have met what they want
    when they were written down and are unchanged unless spoilt. -/
structure Sound (s : Settings) (st : Store) (fleet : List Node) (x : History) : Prop where
  instances : x.world.store.instances = st.instances
  subnets : x.world.store.subnets = st.subnets
  fresh : x.world.store.FreshGroups
  agreed : ∀ names, x.world.visited = some names → x.agreed.Meets (wantedNamed s st fleet names)
  unspoilt : ∀ names, x.world.visited = some names → x.spoilt = false →
    x.world.store.targetGroups.values = x.agreed.targetGroups.values

variable {s : Settings} {st : Store} {fleet : List Node} {x : History}

theorem sound_start (hfresh : st.FreshGroups) : (start st).Sound s st fleet where
  instances := rfl
  subnets := rfl
  fresh := hfresh
  agreed _ h := by cases h
  unspoilt _ h := by cases h

theorem Sound.step (hfleet : (fleet.map Node.name).Nodup) (hx : x.Sound s st fleet) {t : Turn}
    (ht : t.Fair fleet) : (x.step s t).Sound s st fleet := by
  obtain ⟨o, w, hplay⟩ : ∃ o w, t.play s x.world = (o, w) := ⟨_, _, rfl⟩
  have heffect := turn_effect ht.spare hx.fresh hplay
  have hi := (instances_run ht.spare.instances hplay).trans hx.instances
  have hs := (subnets_run ht.spare.subnets hplay).trans hx.subnets
  have hbefore : (t.enter x.world).store.FreshGroups := hx.fresh
  have hfresh := freshGroups_run ht.spare.targetGroups hbefore hplay
  rw [History.step, hplay]
  dsimp only
  split
  · rename_i hv
    refine ⟨hi, hs, hfresh, fun names hn => hx.agreed names (hv ▸ hn), fun names hn hspoilt => ?_⟩
    simp only [Bool.or_eq_false_iff, Bool.and_eq_false_iff, Bool.not_eq_false',
      decide_eq_false_iff_not, not_not] at hspoilt
    obtain ⟨hbefore, hturn⟩ := hspoilt
    have hprior := hx.unspoilt names (hv ▸ hn) hbefore
    cases heffect with
    | failed hdone =>
      rcases hturn with hturn | hsame
      · rw [hdone] at hturn
        cases hturn
      · exact hsame.trans hprior
    | idle _ hg => rw [hg, store_enter, hprior]
    | cleared hc =>
      rw [hc] at hn
      cases hn
    | synced _ hne => exact absurd hv hne
  · rename_i hv
    refine ⟨hi, hs, hfresh, fun names hn => ?_, fun _ _ _ => rfl⟩
    cases heffect with
    | failed _ hv' => exact absurd hv' hv
    | idle hv' _ => exact absurd hv' hv
    | cleared hc =>
      rw [hc] at hn
      cases hn
    | synced hv' _ hmeets =>
      rw [hv'] at hn
      cases hn
      refine hmeets.congr rfl fun p => ?_
      rw [mem_wantedNamed_iff hfleet ht.nodes, store_enter,
        wantedTargets_congr hx.instances hx.subnets]

theorem Sound.foldl (hfleet : (fleet.map Node.name).Nodup) (hx : x.Sound s st fleet)
    {turns : List Turn} (hturns : ∀ t ∈ turns, t.Fair fleet) :
    (turns.foldl (History.step s) x).Sound s st fleet := by
  induction turns generalizing x with
  | nil => exact hx
  | cons t rest ih =>
    exact ih (hx.step hfleet (hturns t List.mem_cons_self)) fun t' ht =>
      hturns t' (List.mem_cons_of_mem t ht)

/-- Every run keeps the invariant. -/
theorem sound_after (hfleet : (fleet.map Node.name).Nodup) (hfresh : st.FreshGroups)
    {turns : List Turn} (hturns : ∀ t ∈ turns, t.Fair fleet) :
    (after s st turns).Sound s st fleet :=
  (sound_start hfresh).foldl hfleet hturns

end History

/-- The only groups of a name in two stores have the same targets. -/
def SameTargets (st st' : Store) (name : String) : Prop :=
  ∃ group group', st.groupsNamed name = [group] ∧ st'.groupsNamed name = [group'] ∧
    ∀ t, t ∈ group'.targets ↔ t ∈ group.targets

theorem meets_iff_sameTargets {st st' : Store} {wanted : List (String × Target)}
    (h : st.Meets wanted) :
    st'.Meets wanted ↔ ∀ name ∈ wanted.map (·.1), SameTargets st st' name := by
  constructor
  · intro h' name hname
    obtain ⟨group, hg, ht⟩ := h name hname
    obtain ⟨group', hg', ht'⟩ := h' name hname
    exact ⟨group, group', hg, hg', fun t => (ht' t).trans (ht t).symm⟩
  · intro hsame name hname
    obtain ⟨group, hg, ht⟩ := h name hname
    obtain ⟨group₁, group', hg₁, hg', ht'⟩ := hsame name hname
    rw [hg] at hg₁
    cases hg₁
    exact ⟨group', hg', fun t => (ht' t).trans (ht t)⟩

/-- **When the memo can be trusted.** After any run, with any failures, that
    remembers some names: when they were written down the groups met what the nodes
    of these names want; they still do if no failed reconciliation has changed a
    group since; and in general they do exactly if every wanted group has the same
    targets as then. -/
theorem visited_meets_iff {s : Settings} {st : Store} {fleet : List Node} {turns : List Turn}
    {names : NameSet} (hfleet : (fleet.map Node.name).Nodup) (hfresh : st.FreshGroups)
    (hturns : ∀ t ∈ turns, t.Fair fleet)
    (hvisited : (History.after s st turns).world.visited = some names) :
    let x := History.after s st turns
    let wanted := wantedNamed s st fleet names
    x.agreed.Meets wanted ∧
      (x.spoilt = false → x.world.store.Meets wanted) ∧
      (x.world.store.Meets wanted ↔
        ∀ name ∈ wanted.map (·.1), SameTargets x.agreed x.world.store name) := by
  have hsound := History.sound_after (s := s) hfleet hfresh hturns
  have hagreed := hsound.agreed names hvisited
  refine ⟨hagreed, fun hspoilt => ?_, meets_iff_sameTargets hagreed⟩
  exact hagreed.congr (hsound.unspoilt names hvisited hspoilt) fun _ => Iff.rfl

namespace Sample

/-- A sync of the first node, and then one of the second node with these
    incidents. -/
def otherNode (incidents : Incidents) : List Turn :=
  [⟨.sync [node "worker-0" "fhm1"], [], .none⟩, ⟨.sync [node "worker-1" "fhm2"], [], incidents⟩]

/-- Once more a sync of the first node. -/
def again : Turn := ⟨.sync [node "worker-0" "fhm1"], [], .none⟩

/-- What the memo says after a sync of the first node. -/
def firstName : NameSet := nodeNames [node "worker-0" "fhm1"]

theorem fair_otherNode (m : Method) (e : CloudError) :
    ∀ t ∈ otherNode (failingOnce m e), t.Fair nodes := by
  intro t ht
  rcases List.mem_cons.mp ht with rfl | ht
  · exact ⟨spareGroups_of_no_intrusions fun _ => rfl, by decide⟩
  · obtain rfl := List.mem_singleton.mp ht
    exact ⟨spareGroups_of_no_intrusions fun _ => rfl, fun n hn => List.mem_cons_of_mem _ hn⟩

theorem freshGroups_store : store.FreshGroups := fun _ _ => rfl

end Sample

open Sample in
/-- A sync that fails while it resolves nodes has changed nothing, and the memo of
    the sync before it can be trusted. -/
theorem visited_meets_of_early_failure :
    let x := History.after settings store (otherNode (failingOnce .getSubnet .http))
    x.world.visited = some firstName ∧
      x.world.store.Meets (wantedNamed settings store nodes firstName) := by
  have hv : (History.after settings store
      (otherNode (failingOnce .getSubnet .http))).world.visited = some firstName := by
    decide
  obtain ⟨-, hmeets, -⟩ :=
    visited_meets_iff (by decide) freshGroups_store (fair_otherNode .getSubnet .http) hv
  exact ⟨hv, hmeets (by decide)⟩

open Sample in
/-- A sync of the second node that fails after its additions leaves the second
    node's target in the group and the first node's name in the memo. The next
    sync of the first node finds its name there and removes nothing. -/
theorem visited_stale_of_failed_sync :
    let turns := otherNode (failingOnce .removeTargets (.api 503 "unavailable")) ++ [again]
    (∀ t ∈ turns, t.Fair nodes) ∧
      (History.after settings store turns).world.visited = some firstName ∧
      ¬ (History.after settings store turns).world.store.Meets
        (wantedNamed settings store nodes firstName) := by
  refine ⟨fun t ht => ?_, by decide, fun h => ?_⟩
  · rcases List.mem_append.mp ht with ht | ht
    · exact fair_otherNode _ _ t ht
    · obtain rfl := List.mem_singleton.mp ht
      exact ⟨spareGroups_of_no_intrusions fun _ => rfl, by decide⟩
  · obtain ⟨group, hgroup, htargets⟩ := h "k8senpnet" (by decide)
    have hboth : ∀ g ∈ (History.after settings store (otherNode (failingOnce .removeTargets
        (.api 503 "unavailable")) ++ [again])).world.store.groupsNamed "k8senpnet",
        ⟨"e9b", "10.0.0.6"⟩ ∈ g.targets := by
      decide
    have hwanted := (htargets ⟨"e9b", "10.0.0.6"⟩).mp (hboth group (by rw [hgroup]; simp))
    revert hwanted
    decide

end CloudSteward
