import CloudSteward.Proofs.TargetGroup.Wanted

/-!
# Networks in one target group

A group is named by a prefix, the cluster and a network, written one after the other with
nothing in between. The name does not tell where the network begins: the end of a prefix and
the cluster may read as the beginning of a longer network, and then the targets of two
networks meet in one group.

Results:

* `groupName_eq_iff`: when two prefixes and networks have one name.
* `exists_targetGroupName_eq_iff`: which networks have one name under some prefixes.
* `keepsApart_iff`: when the desired targets keep networks apart.
* `keepsApart_of_prefix`, `keepsApart_of_length`: nodes of one prefix, and networks whose ids
  have one length, are kept apart.
* `networks_meet_in_group`: two nodes whose networks are not kept apart.
-/

namespace CloudSteward

open Program

/-! ## Names that clash -/

/-- The second network reads as the first one with more in front, which is what the first
    prefix and the cluster have at their end beyond the second prefix and the cluster. -/
def NamesClash (clusterName p₁ n₁ p₂ n₂ : String) : Prop :=
  ∃ extra, extra ≠ "" ∧ n₂ = extra ++ n₁ ∧ p₁ ++ clusterName = p₂ ++ clusterName ++ extra

/-- The second network reads as the first one with more in front, no more than a prefix may
    have, and the cluster ends with itself when this is put behind it. -/
def NetworksOverlap (clusterName n₁ n₂ : String) : Prop :=
  ∃ extra, extra ≠ "" ∧ n₂ = extra ++ n₁ ∧ extra.length ≤ greatestPrefixLength ∧
    ∃ start, clusterName ++ extra = start ++ clusterName

section Names

variable {clusterName p₁ n₁ p₂ n₂ : String}

theorem append_eq_append_iff {a b c d : String} :
    a ++ b = c ++ d ↔ (∃ e, c = a ++ e ∧ b = e ++ d) ∨ ∃ e, a = c ++ e ∧ d = e ++ b := by
  simp only [← String.toList_inj, String.toList_append, List.append_eq_append_iff]
  constructor
  · rintro (⟨e, hc, hb⟩ | ⟨e, ha, hd⟩)
    · exact .inl ⟨String.ofList e, by simpa using hc, by simpa using hb⟩
    · exact .inr ⟨String.ofList e, by simpa using ha, by simpa using hd⟩
  · rintro (⟨e, hc, hb⟩ | ⟨e, ha, hd⟩)
    · exact .inl ⟨e.toList, hc, hb⟩
    · exact .inr ⟨e.toList, ha, hd⟩

/-- Two prefixes and networks have one name if they are the same, and otherwise if the names
    clash one way or the other. -/
theorem groupName_eq_iff :
    p₁ ++ clusterName ++ n₁ = p₂ ++ clusterName ++ n₂ ↔
      (p₁ = p₂ ∧ n₁ = n₂) ∨ NamesClash clusterName p₁ n₁ p₂ n₂ ∨
        NamesClash clusterName p₂ n₂ p₁ n₁ := by
  rw [append_eq_append_iff]
  constructor
  · rintro (⟨extra, hstart, hnetwork⟩ | ⟨extra, hstart, hnetwork⟩)
    · by_cases hextra : extra = ""
      · subst hextra
        rw [String.append_empty, String.append_left_inj] at hstart
        exact .inl ⟨hstart.symm, by simpa using hnetwork⟩
      · exact .inr (.inr ⟨extra, hextra, hnetwork, hstart⟩)
    · by_cases hextra : extra = ""
      · subst hextra
        rw [String.append_empty, String.append_left_inj] at hstart
        exact .inl ⟨hstart, by simpa using hnetwork.symm⟩
      · exact .inr (.inl ⟨extra, hextra, hnetwork, hstart⟩)
  · rintro (⟨rfl, rfl⟩ | ⟨extra, -, hnetwork, hstart⟩ | ⟨extra, -, hnetwork, hstart⟩)
    · exact .inl ⟨"", by simp⟩
    · exact .inr ⟨extra, hstart, hnetwork⟩
    · exact .inl ⟨extra, hstart, hnetwork⟩

theorem length_pos_of_ne_empty {s : String} (h : s ≠ "") : 0 < s.length :=
  Nat.pos_of_ne_zero fun hzero => h (String.length_eq_zero_iff.mp hzero)

theorem NamesClash.length_lt (h : NamesClash clusterName p₁ n₁ p₂ n₂) :
    n₁.length < n₂.length := by
  obtain ⟨extra, hextra, rfl, -⟩ := h
  have hpos := length_pos_of_ne_empty hextra
  rw [String.length_append]
  omega

/-- Beyond the second prefix, the first one has as much as the second network has in front of
    the first. -/
theorem NamesClash.lengths (h : NamesClash clusterName p₁ n₁ p₂ n₂) :
    p₁.length + n₁.length = p₂.length + n₂.length := by
  obtain ⟨extra, -, rfl, hstart⟩ := h
  have hlengths := congrArg String.length hstart
  simp only [String.length_append] at hlengths ⊢
  omega

theorem length_cutChars_le (limit : Nat) (v : String) : (Text.cutChars limit v).length ≤ limit := by
  rw [Text.cutChars, String.length_ofList]
  exact List.length_take_le _ _

/-- Names that clash under two prefixes belong to networks that overlap. -/
theorem NamesClash.overlap (h : NamesClash clusterName p₁ n₁ p₂ n₂)
    (hp : p₁.length ≤ greatestPrefixLength) : NetworksOverlap clusterName n₁ n₂ := by
  have hlengths := h.lengths
  obtain ⟨extra, hextra, rfl, hstart⟩ := h
  have hpos := length_pos_of_ne_empty hextra
  rw [String.length_append] at hlengths
  refine ⟨extra, hextra, rfl, by omega, ?_⟩
  rw [String.append_assoc, append_eq_append_iff] at hstart
  rcases hstart with ⟨e, rfl, -⟩ | ⟨e, -, hcluster⟩
  · -- the second prefix would be the longer one
    rw [String.length_append] at hlengths
    omega
  · exact ⟨e, hcluster⟩

theorem NetworksOverlap.exists_eq (h : NetworksOverlap clusterName n₁ n₂) :
    ∃ v, targetGroupName v clusterName n₁ = targetGroupName "" clusterName n₂ := by
  obtain ⟨extra, -, rfl, hshort, start, hcluster⟩ := h
  have hlength : start.length = extra.length := by
    have hlengths := congrArg String.length hcluster
    simp only [String.length_append] at hlengths
    omega
  refine ⟨start, ?_⟩
  rw [targetGroupName_of_short (by rw [String.length_toList]; omega),
    targetGroupName_of_short (by simp), String.empty_append, ← String.append_assoc, hcluster]

/-- Some prefixes give two networks one name exactly if the networks are the same or
    overlap. -/
theorem exists_targetGroupName_eq_iff :
    (∃ v v', targetGroupName v clusterName n₁ = targetGroupName v' clusterName n₂) ↔
      n₁ = n₂ ∨ NetworksOverlap clusterName n₁ n₂ ∨ NetworksOverlap clusterName n₂ n₁ := by
  constructor
  · rintro ⟨v, v', hname⟩
    rcases groupName_eq_iff.mp hname with ⟨-, hsame⟩ | hclash | hclash
    · exact .inl hsame
    · exact .inr (.inl (hclash.overlap (length_cutChars_le _ v)))
    · exact .inr (.inr (hclash.overlap (length_cutChars_le _ v')))
  · rintro (rfl | hoverlap | hoverlap)
    · exact ⟨"", "", rfl⟩
    · obtain ⟨v, hname⟩ := hoverlap.exists_eq
      exact ⟨v, "", hname⟩
    · obtain ⟨v, hname⟩ := hoverlap.exists_eq
      exact ⟨"", v, hname.symm⟩

end Names

/-! ## Networks of desired targets -/

/-- The network of the subnet that a target lies in. -/
def Store.networkIdOf? (st : Store) (t : Target) : Option String :=
  (st.subnets.get? t.subnetId).map (·.networkId)

/-- Any two targets of a group lie in subnets of one network. -/
def Store.KeepsApart (st : Store) (desired : DesiredTargets) : Prop :=
  ∀ name t t', Desires desired name t → Desires desired name t' →
    ∃ networkId, st.networkIdOf? t = some networkId ∧ st.networkIdOf? t' = some networkId

/-- Some node with a prefix has an interface in a network. -/
def Store.Occupied (st : Store) (nodes : List Node) (cutPrefix networkId : String) : Prop :=
  ∃ t, st.OffersUnder nodes cutPrefix t ∧ st.networkIdOf? t = some networkId

section Networks

variable {s : Settings} {st : Store} {w w' : World} {desired : DesiredTargets}
  {nodes : List Node}

theorem mem_wantedTargets_iff_occupied {name : String} {t : Target} :
    (name, t) ∈ st.wantedTargets s nodes ↔
      ∃ cutPrefix networkId, st.OffersUnder nodes cutPrefix t ∧
        st.networkIdOf? t = some networkId ∧ name = cutPrefix ++ s.clusterName ++ networkId := by
  rw [mem_wantedTargets_iff_offers]
  constructor
  · rintro ⟨cutPrefix, subnet, hsubnet, hoffers, hname⟩
    exact ⟨cutPrefix, subnet.networkId, hoffers, by rw [Store.networkIdOf?, hsubnet]; rfl, hname⟩
  · rintro ⟨cutPrefix, networkId, hoffers, hnetwork, hname⟩
    obtain ⟨subnet, hsubnet, rfl⟩ := Option.map_eq_some_iff.mp hnetwork
    exact ⟨cutPrefix, subnet, hsubnet, hoffers, hname⟩

/-- The wanted targets of every group keep to one network exactly if no two prefixes and
    networks in which the nodes have interfaces have names that clash. -/
theorem keepsApart_gathered_iff :
    st.KeepsApart (gathered (st.wantedTargets s nodes)) ↔
      ∀ p₁ n₁ p₂ n₂, st.Occupied nodes p₁ n₁ → st.Occupied nodes p₂ n₂ →
        ¬ NamesClash s.clusterName p₁ n₁ p₂ n₂ := by
  simp only [Store.KeepsApart, desires_gathered, mem_wantedTargets_iff_occupied]
  constructor
  · rintro hapart p₁ n₁ p₂ n₂ ⟨t₁, hoffers₁, hn₁⟩ ⟨t₂, hoffers₂, hn₂⟩ hclash
    obtain ⟨n, hn, hn'⟩ := hapart (p₁ ++ s.clusterName ++ n₁) t₁ t₂
      ⟨p₁, n₁, hoffers₁, hn₁, rfl⟩
      ⟨p₂, n₂, hoffers₂, hn₂, groupName_eq_iff.mpr (.inr (.inl hclash))⟩
    cases hn₁.symm.trans hn
    cases hn₂.symm.trans hn'
    exact Nat.lt_irrefl _ hclash.length_lt
  · rintro hclear name t t' ⟨p₁, n₁, hoffers₁, hn₁, rfl⟩ ⟨p₂, n₂, hoffers₂, hn₂, hname⟩
    rcases groupName_eq_iff.mp hname with ⟨-, rfl⟩ | hclash | hclash
    · exact ⟨n₁, hn₁, hn₂⟩
    · exact absurd hclash (hclear _ _ _ _ ⟨t, hoffers₁, hn₁⟩ ⟨t', hoffers₂, hn₂⟩)
    · exact absurd hclash (hclear _ _ _ _ ⟨t', hoffers₂, hn₂⟩ ⟨t, hoffers₁, hn₁⟩)

/-- The networks of nodes that have one prefix are kept apart. -/
theorem keepsApart_of_prefix {cutPrefix : String} (hw : w.Steady st)
    (h : (desiredTargets s nodes).run w = (.done desired, w'))
    (hcut : ∀ n ∈ nodes, n.cutPrefix = cutPrefix) : st.KeepsApart desired := by
  obtain ⟨-, rfl⟩ := desiredTargets_done hw h
  rw [keepsApart_gathered_iff]
  rintro p₁ n₁ p₂ n₂ ⟨t₁, ⟨m₁, hm₁, rfl, -⟩, -⟩ ⟨t₂, ⟨m₂, hm₂, rfl, -⟩, -⟩ hclash
  have hlengths := hclash.lengths
  have hlt := hclash.length_lt
  rw [hcut m₁ hm₁, hcut m₂ hm₂] at hlengths
  omega

/-- Networks are kept apart, whatever the prefixes, if their ids have one length. -/
theorem keepsApart_of_length {length : Nat} (hw : w.Steady st)
    (h : (desiredTargets s nodes).run w = (.done desired, w'))
    (hlength : ∀ t networkId, st.networkIdOf? t = some networkId → networkId.length = length) :
    st.KeepsApart desired := by
  obtain ⟨-, rfl⟩ := desiredTargets_done hw h
  rw [keepsApart_gathered_iff]
  rintro p₁ n₁ p₂ n₂ ⟨t₁, -, hn₁⟩ ⟨t₂, -, hn₂⟩ hclash
  have hlt := hclash.length_lt
  rw [hlength t₁ n₁ hn₁, hlength t₂ n₂ hn₂] at hlt
  exact Nat.lt_irrefl _ hlt

/-- **Separation.** Whatever fails on the way, when the desired targets of some nodes have been
    collected, every group keeps to one network exactly if no two prefixes and networks in which
    the nodes have interfaces have names that clash: one network reads as the other with more in
    front, and this is what one prefix and the cluster have at their end beyond the other prefix
    and the cluster. -/
theorem keepsApart_iff (hw : w.Steady st)
    (h : (desiredTargets s nodes).run w = (.done desired, w')) :
    st.KeepsApart desired ↔
      ∀ p₁ n₁ p₂ n₂, st.Occupied nodes p₁ n₁ → st.Occupied nodes p₂ n₂ →
        ¬ NamesClash s.clusterName p₁ n₁ p₂ n₂ := by
  obtain ⟨-, hdesired⟩ := desiredTargets_done hw h
  rw [hdesired]
  exact keepsApart_gathered_iff

end Networks

namespace Sample

/-- Two instances, the second one with its interface in a network of its own. -/
def twoNetworks (networkId : String) : Store :=
  { Store.empty "b1g" with
    instances := Inventory.empty.putAll
      [machine "fhm1" "worker-0" "10.0.0.5",
        { machine "fhm2" "worker-1" "10.1.0.6" with
          interfaces := [⟨"0", "e9c", some ⟨"10.1.0.6", none⟩⟩] }]
    subnets := Inventory.empty.putAll
      [⟨"e9b", "b1g", "a", "enpnet", "zone-a", []⟩, ⟨"e9c", "b1g", "b", networkId, "zone-a", []⟩] }

/-- The nodes of the instances, the first one with a prefix. -/
def onePrefixed (groupPrefix : String) : List Node :=
  [prefixed (node "worker-0" "fhm1") groupPrefix, node "worker-1" "fhm2"]

/-- The targets of the nodes with the names of their groups. -/
def wantedApart : List (String × Target) :=
  [("web-k8senpnet", ⟨"e9b", "10.0.0.5"⟩), ("k8senpother", ⟨"e9c", "10.1.0.6"⟩)]

end Sample

open Sample in
/-- The names of a node with a prefix and of one in another network need not clash. -/
theorem keepsApart_of_other_network :
    let st := twoNetworks "enpother"
    (World.ofStore st).Steady st ∧
      ((desiredTargets settings (onePrefixed "web-")).run (.ofStore st)).1 =
        .done (gathered wantedApart) ∧
      st.KeepsApart (gathered wantedApart) := by
  intro st
  have hsteady : (World.ofStore st).Steady st :=
    ⟨rfl, rfl, keep_of_no_intrusions (fun _ => rfl) _, keep_of_no_intrusions (fun _ => rfl) _⟩
  have hrun : ((desiredTargets settings (onePrefixed "web-")).run (.ofStore st)).1 =
      .done (gathered wantedApart) := rfl
  have hoccupied : ∀ p n, st.Occupied (onePrefixed "web-") p n →
      p = "web-" ∧ n = "enpnet" ∨ p = "" ∧ n = "enpother" := by
    rintro p n ⟨t, ⟨m, hm, rfl, i, hi, -, hsubnet⟩, hnetwork⟩
    rw [Store.networkIdOf?, ← hsubnet] at hnetwork
    simp only [onePrefixed, List.mem_cons, List.not_mem_nil, or_false] at hm
    rcases hm with rfl | rfl
    · obtain rfl : i = _ := List.mem_singleton.mp hi
      exact .inl ⟨by decide, (Option.some.inj hnetwork).symm⟩
    · obtain rfl : i = _ := List.mem_singleton.mp hi
      exact .inr ⟨by decide, (Option.some.inj hnetwork).symm⟩
  refine ⟨hsteady, hrun, (keepsApart_iff hsteady (Prod.ext hrun rfl)).mpr ?_⟩
  intro p₁ n₁ p₂ n₂ h₁ h₂ hclash
  have hlt := hclash.length_lt
  have hlengths := hclash.lengths
  rcases hoccupied p₁ n₁ h₁ with ⟨rfl, rfl⟩ | ⟨rfl, rfl⟩ <;>
    rcases hoccupied p₂ n₂ h₂ with ⟨rfl, rfl⟩ | ⟨rfl, rfl⟩ <;>
    revert hlt hlengths <;> decide

open Sample in
/-- A node with the prefix `k8s` in the network `enpnet` and one without a prefix in the network
    `k8senpnet` have one group in the cluster `k8s`, and it has the targets of both. -/
theorem networks_meet_in_group :
    let st := twoNetworks "k8senpnet"
    let desired := gathered
      [("k8sk8senpnet", ⟨"e9b", "10.0.0.5"⟩), ("k8sk8senpnet", ⟨"e9c", "10.1.0.6"⟩)]
    ((desiredTargets settings (onePrefixed "k8s")).run (.ofStore st)).1 = .done desired ∧
      st.networkIdOf? ⟨"e9b", "10.0.0.5"⟩ = some "enpnet" ∧
      st.networkIdOf? ⟨"e9c", "10.1.0.6"⟩ = some "k8senpnet" ∧
      ¬ st.KeepsApart desired := by
  intro st desired
  refine ⟨rfl, by decide, by decide, fun hapart => ?_⟩
  obtain ⟨networkId, h₁, h₂⟩ := hapart "k8sk8senpnet" ⟨"e9b", "10.0.0.5"⟩ ⟨"e9c", "10.1.0.6"⟩
    (desires_gathered.mpr (by simp)) (desires_gathered.mpr (by simp))
  have hnone : st.networkIdOf? ⟨"e9b", "10.0.0.5"⟩ ≠ st.networkIdOf? ⟨"e9c", "10.1.0.6"⟩ := by
    decide
  exact hnone (h₁.trans h₂.symm)

end CloudSteward
