import CloudSteward.Proofs.TargetGroup.NodeChange

/-!
# Which changes of a node go unnoticed

The node set keeps of every node its name, its providerID and whether it takes
traffic. A relisting that leaves this view as it is asks for no sync. Whether a node
is eligible and which instance stands behind it is then as before; but the prefix of
the groups of a node is not part of the view. A sync of the new list would want other
groups exactly if the prefixes are others, as far as they count for a name.

Results:

* `NodeView.exists_counterpart`: in lists that look the same every node of the one has
  its counterpart in the other.
* `gathered_eq_iff`: desired targets are equal if the same ones are wanted.
* `unnoticed_desired_iff`: when exactly an unnoticed change alters the desired targets.
* `unnoticed_change_of_prefix`: one that does.
-/

namespace CloudSteward

/-! ## Lists of nodes that look the same -/

namespace NodeView

theorem exists_of_get?_ofNodes {nodes : List Node} (hnodup : (nodes.map Node.name).Nodup)
    {name : String} {key : NodeKey} (h : (ofNodes nodes).get? name = some key) :
    ∃ n ∈ nodes, n.name = name ∧ n.key = key := by
  have hmem : name ∈ nodes.map Node.name := by
    by_contra hnot
    rw [ofNodes, SortedMap.ofList, List.foldl_map, get?_foldl_of_notMem hnot] at h
    cases h
  obtain ⟨n, hn, rfl⟩ := List.mem_map.mp hmem
  rw [get?_ofNodes hnodup hn] at h
  exact ⟨n, hn, rfl, Option.some.inj h⟩

variable {before after : List Node}

theorem exists_counterpart (hbefore : (before.map Node.name).Nodup)
    (hafter : (after.map Node.name).Nodup) (hsame : ofNodes before = ofNodes after) {n : Node}
    (hn : n ∈ before) : ∃ n' ∈ after, n'.name = n.name ∧ n'.key = n.key := by
  refine exists_of_get?_ofNodes hafter ?_
  rw [← hsame]
  exact get?_ofNodes hbefore hn

/-- Whether a node is eligible can be read off what balancers see of it. -/
theorem isEligible_congr {n n' : Node} (h : n'.key = n.key) : n'.isEligible = n.isEligible := by
  obtain ⟨hprovider, htraffic⟩ := NodeKey.mk.inj h
  rw [Node.isEligible, Node.isEligible, hprovider, htraffic]

theorem exists_eligible_counterpart (hbefore : (before.map Node.name).Nodup)
    (hafter : (after.map Node.name).Nodup) (hsame : ofNodes before = ofNodes after) {n : Node}
    (hn : n ∈ before.filter Node.isEligible) :
    ∃ n' ∈ after.filter Node.isEligible, n'.name = n.name ∧ n'.providerId = n.providerId := by
  obtain ⟨hmem, heligible⟩ := List.mem_filter.mp hn
  obtain ⟨n', hn', hname, hkey⟩ := exists_counterpart hbefore hafter hsame hmem
  refine ⟨n', List.mem_filter.mpr ⟨hn', ?_⟩, hname, (NodeKey.mk.inj hkey).1⟩
  rw [isEligible_congr hkey, heligible]

theorem eligibleNames_eq (hbefore : (before.map Node.name).Nodup)
    (hafter : (after.map Node.name).Nodup) (hsame : ofNodes before = ofNodes after) :
    nodeNames (before.filter Node.isEligible) = nodeNames (after.filter Node.isEligible) := by
  have covers : ∀ {l r : List Node}, (l.map Node.name).Nodup → (r.map Node.name).Nodup →
      ofNodes l = ofNodes r → ∀ name, name ∈ (l.filter Node.isEligible).map Node.name →
        name ∈ (r.filter Node.isEligible).map Node.name := by
    intro l r hl hr hlr name hname
    obtain ⟨n, hn, rfl⟩ := List.mem_map.mp hname
    obtain ⟨n', hn', hsame', -⟩ := exists_eligible_counterpart hl hr hlr hn
    exact List.mem_map.mpr ⟨n', hn', hsame'⟩
  refine SortedSet.ext_has fun name => ?_
  rw [nodeNames, nodeNames, SortedSet.has_ofMembers, SortedSet.has_ofMembers]
  exact decide_eq_decide.mpr
    ⟨covers hbefore hafter hsame name, covers hafter hbefore hsame.symm name⟩

end NodeView

/-! ## What decides over the desired targets -/

theorem gathered_eq_iff {l r : List (String × Target)} :
    gathered l = gathered r ↔ ∀ p, p ∈ l ↔ p ∈ r := by
  constructor
  · rintro h ⟨name, t⟩
    rw [← desires_gathered, h, desires_gathered]
  · intro h
    -- a group that one list fills is filled by the other, and with the same targets
    have covers : ∀ {l r : List (String × Target)}, (∀ p, p ∈ l ↔ p ∈ r) → ∀ {name targets},
        (gathered l).get? name = some targets → (gathered r).get? name = some targets := by
      intro l r h name targets hl
      obtain ⟨⟨t, ht⟩, hmem⟩ := get?_gathered hl
      obtain ⟨targets', hr⟩ := exists_gathered_of_mem ((h _).mp ht)
      obtain ⟨-, hmem'⟩ := get?_gathered hr
      have hsame : targets' = targets := by
        refine SortedSet.ext_has fun t => Bool.eq_iff_iff.mpr ?_
        rw [hmem', hmem, h]
      rw [hr, hsame]
    refine SortedMap.ext_get? fun name => ?_
    cases hl : (gathered l).get? name with
    | some targets => rw [covers h hl]
    | none =>
      cases hr : (gathered r).get? name with
      | none => rfl
      | some targets =>
        rw [covers (fun p => (h p).symm) hr] at hl
        cases hl

section Offers

variable {s : Settings} {st : Store} {before after : List Node}

/-- When every interface has its network, the same targets are wanted exactly if they
    are offered under the same prefixes: a prefix can be read off a name. -/
theorem wantedTargets_same_iff (hbefore : st.Resolves s before) (hafter : st.Resolves s after) :
    (∀ p, p ∈ st.wantedTargets s before ↔ p ∈ st.wantedTargets s after) ↔
      ∀ cutPrefix t, st.OffersUnder before cutPrefix t ↔ st.OffersUnder after cutPrefix t := by
  constructor
  · have covers : ∀ {l r : List Node}, st.Resolves s l →
        (∀ p, p ∈ st.wantedTargets s l ↔ p ∈ st.wantedTargets s r) →
        ∀ cutPrefix t, st.OffersUnder l cutPrefix t → st.OffersUnder r cutPrefix t := by
      intro l r hl hlr cutPrefix t hoffers
      obtain ⟨n, hn, -, i, hi, -, hid⟩ := id hoffers
      obtain ⟨p, hp⟩ := (hl n hn).2 i hi
      obtain ⟨_, subnet, -, hsubnet, -⟩ := wantedOfInterface_eq_some_iff.mp hp
      rw [hid] at hsubnet
      have hwanted := (hlr _).mp
        (mem_wantedTargets_iff_offers.mpr ⟨cutPrefix, subnet, hsubnet, hoffers, rfl⟩)
      obtain ⟨other, subnet', hsubnet', hoffers', hname⟩ :=
        mem_wantedTargets_iff_offers.mp hwanted
      cases hsubnet.symm.trans hsubnet'
      rw [String.append_left_inj, String.append_left_inj] at hname
      rwa [hname]
    exact fun h cutPrefix t =>
      ⟨covers hbefore h cutPrefix t, covers hafter (fun p => (h p).symm) cutPrefix t⟩
  · rintro h ⟨name, t⟩
    simp only [mem_wantedTargets_iff_offers, h]

/-- A node with the same instance behind it offers the same targets. -/
theorem offers_congr {n n' : Node} (h : n'.providerId = n.providerId) (t : Target) :
    st.Offers n' t ↔ st.Offers n t := by
  rw [Store.Offers, Store.Offers, Store.interfacesOf, Store.interfacesOf, h]

/-- Nodes that look the same and have the same prefixes offer the same. -/
theorem offersUnder_of_same_prefixes (hbefore : (before.map Node.name).Nodup)
    (hafter : (after.map Node.name).Nodup)
    (hsame : NodeView.ofNodes before = NodeView.ofNodes after)
    (hcut : ∀ n ∈ before.filter Node.isEligible, ∀ n' ∈ after.filter Node.isEligible,
      n'.name = n.name → n'.cutPrefix = n.cutPrefix) {cutPrefix : String} {t : Target}
    (h : st.OffersUnder (before.filter Node.isEligible) cutPrefix t) :
    st.OffersUnder (after.filter Node.isEligible) cutPrefix t := by
  obtain ⟨n, hn, rfl, hoffers⟩ := h
  obtain ⟨n', hn', hname, hprovider⟩ :=
    NodeView.exists_eligible_counterpart hbefore hafter hsame hn
  exact ⟨n', hn', hcut n hn n' hn' hname, (offers_congr hprovider t).mpr hoffers⟩

end Offers

/-! ## Changes that go unnoticed -/

/-- **Unnoticed changes.** The nodes are relisted and the view of them stays as it is.
    The same names are eligible as before. Where the desired targets of both lists can
    be collected, they are the same exactly if every target is offered under the same
    prefixes, and so in particular if no eligible node has changed its prefix. -/
theorem unnoticed_desired_iff {x : NodeSet} {nodes₁ nodes₂ : List Node}
    (hnodup₁ : (nodes₁.map Node.name).Nodup) (hnodup₂ : (nodes₂.map Node.name).Nodup)
    (hview : x.current = .ofNodes nodes₁) (hquiet : (x.relist nodes₂).1 = false) :
    let before := nodes₁.filter Node.isEligible
    let after := nodes₂.filter Node.isEligible
    nodeNames before = nodeNames after ∧
      ∀ (s : Settings) (st : Store) (w₁ w₂ w₁' w₂' : World) (desired₁ desired₂ : DesiredTargets),
        w₁.Steady st → w₂.Steady st →
        (desiredTargets s before).run w₁ = (.done desired₁, w₁') →
        (desiredTargets s after).run w₂ = (.done desired₂, w₂') →
        (desired₁ = desired₂ ↔
          ∀ cutPrefix t, st.OffersUnder before cutPrefix t ↔ st.OffersUnder after cutPrefix t) ∧
        ((∀ n ∈ before, ∀ n' ∈ after, n'.name = n.name → n'.cutPrefix = n.cutPrefix) →
          desired₁ = desired₂) := by
  intro before after
  have hsame : NodeView.ofNodes nodes₁ = .ofNodes nodes₂ := by
    have hrelist := x.relist_changed_iff nodes₂
    rw [hquiet, hview] at hrelist
    by_contra hne
    exact absurd (hrelist.mpr (Ne.symm hne)) (by decide)
  refine ⟨NodeView.eligibleNames_eq hnodup₁ hnodup₂ hsame, ?_⟩
  intro s st w₁ w₂ w₁' w₂' desired₁ desired₂ hsteady₁ hsteady₂ h₁ h₂
  obtain ⟨hresolves₁, rfl⟩ := desiredTargets_done hsteady₁ h₁
  obtain ⟨hresolves₂, rfl⟩ := desiredTargets_done hsteady₂ h₂
  have hiff := gathered_eq_iff.trans (wantedTargets_same_iff hresolves₁ hresolves₂)
  refine ⟨hiff, fun hcut => hiff.mpr fun cutPrefix t => ⟨?_, ?_⟩⟩
  · exact offersUnder_of_same_prefixes hnodup₁ hnodup₂ hsame hcut
  · exact offersUnder_of_same_prefixes hnodup₂ hnodup₁ hsame.symm
      fun n hn n' hn' hname => (hcut n' hn' n hn hname.symm).symm

namespace Sample

/-- What the eligible ones of some nodes desire in the small cluster. -/
def desiredOf (nodes : List Node) : DesiredTargets :=
  gathered (store.wantedTargets settings (nodes.filter Node.isEligible))

/-- The world after the desired targets of some nodes were collected. -/
def afterCollecting (nodes : List Node) : World :=
  ((desiredTargets settings (nodes.filter Node.isEligible)).run (.ofStore store)).2

end Sample

open Sample in
/-- The nodes are listed in another order and one is given addresses for its pods. -/
theorem unnoticed_desired_of_podCidr :
    let relisted := [node "worker-1" "fhm2",
      { node "worker-0" "fhm1" with podCidr? := some "10.112.0.0/24" }]
    ((NodeSet.start.relist nodes).2.relist relisted).1 = false ∧
      desiredOf nodes = desiredOf relisted := by
  intro relisted
  have hquiet : ((NodeSet.start.relist nodes).2.relist relisted).1 = false := by decide
  have hnodup : (nodes.map Node.name).Nodup ∧ (relisted.map Node.name).Nodup := by decide
  obtain ⟨-, hdesired⟩ := unnoticed_desired_iff hnodup.1 hnodup.2 rfl hquiet
  have hsteady : (World.ofStore store).Steady store :=
    ⟨rfl, rfl, keep_of_no_intrusions (fun _ => rfl) _, keep_of_no_intrusions (fun _ => rfl) _⟩
  have h₁ : (desiredTargets settings (nodes.filter Node.isEligible)).run (.ofStore store) =
      (.done (desiredOf nodes), afterCollecting nodes) := by
    rfl
  have h₂ : (desiredTargets settings (relisted.filter Node.isEligible)).run (.ofStore store) =
      (.done (desiredOf relisted), afterCollecting relisted) := by
    rfl
  obtain ⟨-, hsame⟩ := hdesired settings store _ _ _ _ _ _ hsteady hsteady h₁ h₂
  exact ⟨hquiet, hsame (by decide)⟩

open Sample in
/-- A node is given a prefix for its groups. The view stays as it is, and both lists
    have their desired targets; but the one target is desired in another group. -/
theorem unnoticed_change_of_prefix :
    let relisted := [prefixed (node "worker-0" "fhm1") "web-"]
    (watching.relist relisted).1 = false ∧
      ((desiredTargets settings [node "worker-0" "fhm1"]).run (.ofStore store)).1 =
        .done (SortedMap.empty.insert "k8senpnet" (.ofMembers [⟨"e9b", "10.0.0.5"⟩])) ∧
      ((desiredTargets settings relisted).run (.ofStore store)).1 =
        .done (SortedMap.empty.insert "web-k8senpnet" (.ofMembers [⟨"e9b", "10.0.0.5"⟩])) := by
  exact ⟨by decide, by rfl, by rfl⟩

end CloudSteward
