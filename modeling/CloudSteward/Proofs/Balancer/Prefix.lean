import CloudSteward.Proofs.Failures
import CloudSteward.Proofs.TargetGroup.Cache

/-!
# The prefix that services and nodes share

A service attaches the group that is named after its prefix annotation; a node's
targets go to the group that is named after the node's. Both cut the prefix to the
same length. The service's is trimmed before, the node's is taken as it stands, so
the two meet in one group exactly if trimming leaves the part that counts as it is.
Where they meet, ensuring the balancer finds its group.

Results:

* `take_trimmed_eq_take_iff`: when trimming does not show in the start of a text.
* `attachedGroupName_eq_iff`: when a service and a node with one prefix name one group.
* `ensureBalancer_finds_group`: a group that is wanted is not missed.
* `service_meets_nodes_iff`: both, for every prefix.
* `service_misses_nodes`: a service that does not meet the nodes of its prefix.
-/

namespace CloudSteward

open Program

/-! ## Trimmed and cut texts -/

namespace Text

/-- Whether trimming leaves the first characters of a text as they are: none of the
    blanks around it is among them. -/
def TrimsBeyond (limit : Nat) (cs : List Char) : Prop :=
  (∀ c ∈ cs.head?, isBlank c = false) ∧
    ((∀ c ∈ cs.getLast?, isBlank c = false) ∨ limit ≤ (trimmed cs).length)

instance (limit : Nat) (cs : List Char) : Decidable (TrimsBeyond limit cs) :=
  decidable_of_iff (cs.head?.all (!isBlank ·) ∧
    (cs.getLast?.all (!isBlank ·) ∨ limit ≤ (trimmed cs).length))
    (by simp [TrimsBeyond, Option.all_eq_true])

theorem eq_nil_of_blank_head {lead rest : List Char} (hlead : ∀ c ∈ lead, isBlank c = true)
    (h : ∀ c ∈ (lead ++ rest).head?, isBlank c = false) : lead = [] := by
  cases lead with
  | nil => rfl
  | cons c lead =>
    have hblank := hlead c List.mem_cons_self
    have hplain := h c rfl
    rw [hblank] at hplain
    cases hplain

theorem eq_nil_of_blank_getLast {rest trail : List Char} (htrail : ∀ c ∈ trail, isBlank c = true)
    (h : ∀ c ∈ (rest ++ trail).getLast?, isBlank c = false) : trail = [] := by
  have hhead : ∀ c ∈ (trail.reverse ++ rest.reverse).head?, isBlank c = false := by
    rw [← List.reverse_append, List.head?_reverse]
    exact h
  rw [← List.reverse_eq_nil_iff]
  exact eq_nil_of_blank_head (fun c hc => htrail c (List.mem_reverse.mp hc)) hhead

theorem take_trimmed_eq_take_iff {limit : Nat} (hlimit : 0 < limit) (cs : List Char) :
    (trimmed cs).take limit = cs.take limit ↔ TrimsBeyond limit cs := by
  constructor
  · intro h
    constructor
    · have hhead : (trimmed cs).head? = cs.head? := by
        have := congrArg List.head? h
        rwa [List.head?_take, List.head?_take, if_neg (by omega), if_neg (by omega)] at this
      rw [← hhead]
      exact trimmed_head cs
    · by_cases hlong : limit ≤ (trimmed cs).length
      · exact .inr hlong
      · -- the trimmed text is within the limit, so it is the whole text
        rw [List.take_of_length_le (by omega)] at h
        have hlength := congrArg List.length h
        rw [List.length_take] at hlength
        rw [List.take_of_length_le (by omega)] at h
        have hlast := trimmed_getLast cs
        rw [h] at hlast
        exact .inl hlast
  · rintro ⟨hhead, hlast⟩
    obtain ⟨lead, trail, hcs, hlead, htrail⟩ := exists_blanks_around cs
    have hnone : lead = [] := by
      rw [hcs, List.append_assoc] at hhead
      exact eq_nil_of_blank_head hlead hhead
    rw [hnone, List.nil_append] at hcs
    rcases hlast with hlast | hlong
    · have hnone' : trail = [] := by
        rw [hcs] at hlast
        exact eq_nil_of_blank_getLast htrail hlast
      rw [hnone', List.append_nil] at hcs
      rw [← hcs]
    · have htake : (trimmed cs ++ trail).take limit = (trimmed cs).take limit :=
        List.take_append_of_le_length hlong
      rw [← htake, ← hcs]

theorem cutChars_trim_eq_iff {limit : Nat} (hlimit : 0 < limit) (v : String) :
    cutChars limit (trim v) = cutChars limit v ↔ TrimsBeyond limit v.toList := by
  rw [cutChars, cutChars, String.ofList_inj, trim, String.toList_ofList,
    take_trimmed_eq_take_iff hlimit]

end Text

/-! ## The names on both sides -/

/-- Whether a node carries a prefix for its groups. -/
def Node.Carries (n : Node) (v : String) : Prop :=
  n.metadata.annotations.get? targetGroupPrefixAnnotation = some v

/-- A service that carries a prefix and names a network without blanks around it. -/
structure Service.Selects (service : Service) (v networkId : String) : Prop where
  carries : service.metadata.annotations.get? targetGroupPrefixAnnotation = some v
  names : service.metadata.annotations.get? targetGroupNetworkAnnotation = some networkId
  nonempty : networkId ≠ ""
  plain : Text.trim networkId = networkId

theorem targetGroupName_eq_iff {v v' clusterName networkId : String} :
    targetGroupName v clusterName networkId = targetGroupName v' clusterName networkId ↔
      Text.cutChars greatestPrefixLength v = Text.cutChars greatestPrefixLength v' := by
  rw [targetGroupName, targetGroupName, String.append_left_inj, String.append_left_inj]

section Names

variable {service : Service} {s : Settings} {v networkId : String}

theorem attachedGroupName_of_selects (h : service.Selects v networkId) :
    attachedGroupName service s = targetGroupName (Text.trim v) s.clusterName networkId := by
  rw [attachedGroupName, Service.remark?, Service.remark?, h.carries, h.names, Option.bind_some,
    Option.bind_some, Text.getD_nonBlank?, Text.nonBlank?_of_trimmed h.nonempty h.plain,
    Option.getD_some]

/-- A service and a node with one prefix name one group exactly if trimming does not
    show in the prefix. -/
theorem attachedGroupName_eq_iff (h : service.Selects v networkId) :
    attachedGroupName service s = targetGroupName v s.clusterName networkId ↔
      Text.TrimsBeyond greatestPrefixLength v.toList := by
  rw [attachedGroupName_of_selects h, targetGroupName_eq_iff,
    Text.cutChars_trim_eq_iff (by decide)]

theorem targetGroupName_of_balancerSpec {spec : BalancerSpec}
    (h : balancerSpec service s = .ok spec) :
    spec.targetGroupName = attachedGroupName service s := by
  obtain ⟨_, -, h⟩ := bind_eq_ok_iff.mp h
  obtain ⟨subnet, -, h⟩ := bind_eq_ok_iff.mp h
  obtain ⟨listeners, -, h⟩ := bind_eq_ok_iff.mp h
  split at h
  · cases h
  · obtain ⟨healthCheck, -, h⟩ := bind_eq_ok_iff.mp h
    cases h
    rfl

end Names

/-! ## Where the targets of a prefix go -/

/-- Whether a target is an interface of the instance behind a node, in a network. -/
def Store.OffersIn (st : Store) (n : Node) (networkId : String) (t : Target) : Prop :=
  st.Offers n t ∧
    ∃ subnet, st.subnets.get? t.subnetId = some subnet ∧ subnet.networkId = networkId

section Targets

variable {st : Store} {s : Settings} {nodes : List Node} {v networkId : String} {t : Target}

theorem cutPrefix_of_carries {n : Node} (h : n.Carries v) :
    n.cutPrefix = Text.cutChars greatestPrefixLength v := by
  rw [Node.cutPrefix, Node.groupPrefix, h, Option.getD_some]

theorem wanted_of_offersIn {n : Node} (hn : n ∈ nodes) (hcarries : n.Carries v)
    (h : st.OffersIn n networkId t) :
    (targetGroupName v s.clusterName networkId, t) ∈ st.wantedTargets s nodes := by
  obtain ⟨hoffers, subnet, hsubnet, rfl⟩ := h
  refine mem_wantedTargets_iff_offers.mpr
    ⟨_, subnet, hsubnet, ⟨n, hn, cutPrefix_of_carries hcarries, hoffers⟩, rfl⟩

/-- A target that only nodes of one prefix offer is wanted in one group. -/
theorem wanted_iff_of_carried (hcarried : ∀ n ∈ nodes, st.Offers n t → n.Carries v)
    (hoffered : ∃ n ∈ nodes, st.OffersIn n networkId t) (name : String) :
    (name, t) ∈ st.wantedTargets s nodes ↔ name = targetGroupName v s.clusterName networkId := by
  obtain ⟨n, hn, hin⟩ := hoffered
  constructor
  · intro hwanted
    obtain ⟨_, subnet, hsubnet, ⟨n', hn', rfl, hoffers⟩, rfl⟩ :=
      mem_wantedTargets_iff_offers.mp hwanted
    obtain ⟨-, subnet', hsubnet', rfl⟩ := hin
    cases hsubnet.symm.trans hsubnet'
    rw [cutPrefix_of_carries (hcarried n' hn' hoffers)]
    rfl
  · rintro rfl
    exact wanted_of_offersIn hn (hcarried n hn hin.1) hin

end Targets

/-! ## Finding the group -/

section Runs

variable {s : Settings} {services : List Service} {service : Service} {nodes : List Node}
  {w w' : World} {name : String}

/-- A look-up that finds nothing has met no group of the name. -/
theorem findTargetGroup_none (hk : w.incidents.Keep Store.targetGroups)
    (h : (ask (.findTargetGroup name)).run w = (.done none, w')) :
    w.store.groupsNamed name = [] := by
  have hcall := congrArg Prod.fst (answer_eq_ok (run_ask_eq_done.mp h))
  have hnone := unique_eq_none_iff.mp hcall
  rwa [Store.groupsNamed, part_met hk] at hnone

/-- After a sync that ends well the wanted groups are there, whether it had to do
    anything or not. -/
theorem meets_of_sync_done (hnodes : nodes ≠ []) (hspare : w.incidents.SpareGroups)
    (hfresh : w.store.FreshGroups)
    (hvisited : w.visited = some (nodeNames (nodes.filter Node.isEligible)) →
      w.store.Meets (w.store.wantedTargets s (nodes.filter Node.isEligible)))
    (h : (syncTargetGroups s services nodes).run w = (.done (), w')) :
    w'.store.Meets (w.store.wantedTargets s (nodes.filter Node.isEligible)) := by
  by_cases hlast : w.visited = some (nodeNames (nodes.filter Node.isEligible))
  · rw [syncTargetGroups_of_visited hnodes hlast] at h
    cases h
    exact hvisited hlast
  · obtain ⟨-, hplaced, -⟩ := syncTargetGroups_done hnodes hlast hspare hfresh h
    exact hplaced.meets

/-- A group in which the nodes want a target is not missed. -/
theorem ensureBalancer_finds_group {spec : BalancerSpec} {t : Target}
    (hspec : balancerSpec service s = .ok spec) (hspare : w.incidents.SpareGroups)
    (hfresh : w.store.FreshGroups)
    (hvisited : w.visited = some (nodeNames (nodes.filter Node.isEligible)) →
      w.store.Meets (w.store.wantedTargets s (nodes.filter Node.isEligible)))
    (hwanted : (spec.targetGroupName, t) ∈
      w.store.wantedTargets s (nodes.filter Node.isEligible)) :
    (ensureBalancer s services service nodes).run w ≠
      (.failed (.targetGroupNotFound name), w') := by
  intro h
  obtain ⟨spec', w₁, hspec', hnodes, hsync, hfind, -⟩ := ensureBalancer_groupMissing h
  cases hspec.symm.trans hspec'
  have hmeets := meets_of_sync_done hnodes hspare hfresh hvisited hsync
  obtain ⟨group, hgroup, -⟩ := hmeets spec.targetGroupName (List.mem_map_of_mem hwanted)
  have hnone := findTargetGroup_none (keep_run hspare.targetGroups hsync) hfind
  rw [hgroup] at hnone
  cases hnone

/-- **Services and nodes of one prefix.** A service carries a prefix and names a network,
    and its description is accepted. A target of this network that nodes of the prefix
    offer, and no others, is desired in exactly one group; this is the group that the
    service attaches exactly if trimming does not show in the prefix. Then ensuring the
    balancer never misses its group, as long as one eligible node of the prefix has an
    interface in the network and the groups are in order whenever the sync is skipped. -/
theorem service_meets_nodes_iff {spec : BalancerSpec} {v networkId : String}
    (hspec : balancerSpec service s = .ok spec) (hselects : service.Selects v networkId) :
    (∀ (st : Store) (w w' : World) (nodes : List Node) (desired : DesiredTargets) (t : Target),
      w.Steady st → (desiredTargets s nodes).run w = (.done desired, w') →
      (∀ n ∈ nodes, st.Offers n t → n.Carries v) →
      (∃ n ∈ nodes, st.OffersIn n networkId t) →
      ∃ name, (∀ other, Desires desired other t ↔ other = name) ∧
        (spec.targetGroupName = name ↔ Text.TrimsBeyond greatestPrefixLength v.toList)) ∧
    (Text.TrimsBeyond greatestPrefixLength v.toList →
      ∀ (services : List Service) (nodes : List Node) (w w' : World) (name : String),
        w.incidents.SpareGroups → w.store.FreshGroups →
        (w.visited = some (nodeNames (nodes.filter Node.isEligible)) →
          w.store.Meets (w.store.wantedTargets s (nodes.filter Node.isEligible))) →
        (∃ n ∈ nodes.filter Node.isEligible, n.Carries v ∧
          ∃ t, w.store.OffersIn n networkId t) →
        (ensureLoadBalancer s services service nodes).run w ≠
          (.failed (.targetGroupNotFound name), w')) := by
  have hname := targetGroupName_of_balancerSpec hspec
  have hiff := attachedGroupName_eq_iff (s := s) hselects
  rw [← hname] at hiff
  constructor
  · intro st w w' nodes desired t hsteady hrun hcarried hoffered
    obtain ⟨-, rfl⟩ := desiredTargets_done hsteady hrun
    refine ⟨targetGroupName v s.clusterName networkId, fun other => ?_, hiff⟩
    rw [desires_gathered, wanted_iff_of_carried hcarried hoffered]
  · rintro htrims services nodes w w' name hspare hfresh hvisited ⟨n, hn, hcarries, t, hin⟩ h
    have hwanted := wanted_of_offersIn (s := s) hn hcarries hin
    rw [← hiff.mpr htrims] at hwanted
    rcases run_bind_eq_failed.mp h with h | ⟨b, w₁, -, h⟩
    · exact ensureBalancer_finds_group hspec hspare hfresh hvisited hwanted h
    · cases h

end Runs

namespace Sample

/-- The service with a prefix and a network for its group. -/
def selecting (v : String) : Service :=
  { service with metadata :=
      { service.metadata with
        annotations := (SortedMap.empty.insert targetGroupPrefixAnnotation v).insert
          targetGroupNetworkAnnotation "enpnet" } }

/-- The first node with a prefix. -/
def carrying (v : String) : Node := prefixed (node "worker-0" "fhm1") v

/-- How ensuring the service ends when service and node have the same prefix. -/
def ensured (v : String) : Outcome BalancerStatus × World :=
  (ensureLoadBalancer settings [] (selecting v) [carrying v]).run (.ofStore store)

/-- What the node with a prefix wants. -/
def desiredUnder (v : String) : Outcome DesiredTargets × World :=
  (desiredTargets settings [carrying v]).run (.ofStore store)

end Sample

open Sample in
/-- A prefix with a blank beyond the limit is harmless. -/
theorem service_meets_nodes_of_long_prefix :
    let v := "a-prefix-as-long-as-36-characters-is "
    (∃ spec desired name, balancerSpec (selecting v) settings = .ok spec ∧
      (desiredUnder v).1 = .done desired ∧
      (∀ other, Desires desired other ⟨"e9b", "10.0.0.5"⟩ ↔ other = name) ∧
      spec.targetGroupName = name) ∧
    ∀ name w', ensured v ≠ (.failed (.targetGroupNotFound name), w') := by
  intro v
  obtain ⟨spec, hspec⟩ : ∃ spec, balancerSpec (selecting v) settings = .ok spec := by
    have haccepted : (balancerSpec (selecting v) settings).isOk = true := by decide
    cases hspec : balancerSpec (selecting v) settings with
    | ok spec => exact ⟨spec, rfl⟩
    | error e =>
      rw [hspec] at haccepted
      cases haccepted
  have hselects : (selecting v).Selects v "enpnet" := ⟨by rfl, by rfl, by decide, by decide⟩
  have htrims : Text.TrimsBeyond greatestPrefixLength v.toList := by decide
  obtain ⟨hmeet, hfind⟩ := service_meets_nodes_iff hspec hselects
  have hcarries : (carrying v).Carries v := by rfl
  have hoffered : store.OffersIn (carrying v) "enpnet" ⟨"e9b", "10.0.0.5"⟩ :=
    ⟨⟨⟨"0", "e9b", some ⟨"10.0.0.5", none⟩⟩, by decide, rfl, rfl⟩,
      ⟨"e9b", "b1g", "a", "enpnet", "zone-a", []⟩, by rfl, rfl⟩
  have hmember : carrying v ∈ [carrying v].filter Node.isEligible := by decide
  have hsteady : (World.ofStore store).Steady store :=
    ⟨rfl, rfl, keep_of_no_intrusions (fun _ => rfl) _, keep_of_no_intrusions (fun _ => rfl) _⟩
  obtain ⟨desired, hdesired⟩ : ∃ desired, (desiredUnder v).1 = .done desired :=
    exists_of_isDone (by decide)
  have hrun : desiredUnder v = (.done desired, (desiredUnder v).2) := by rw [← hdesired]
  obtain ⟨name, hname, hsame⟩ := hmeet store _ _ [carrying v] _ ⟨"e9b", "10.0.0.5"⟩ hsteady hrun
    (fun n hn _ => (List.mem_singleton.mp hn).symm ▸ hcarries)
    ⟨carrying v, List.mem_singleton_self _, hoffered⟩
  refine ⟨⟨spec, desired, name, hspec, hdesired, hname, hsame.mpr htrims⟩, fun name w' => ?_⟩
  exact hfind htrims [] [carrying v] _ w' name (spareGroups_of_no_intrusions fun _ => rfl)
    freshGroups_store (fun h => by cases h) ⟨carrying v, hmember, hcarries, _, hoffered⟩

open Sample in
/-- A prefix with a blank in front. The node's target is desired in a group that the
    service does not attach, and ensuring the balancer fails. -/
theorem service_misses_nodes :
    (balancerSpec (selecting " web-") settings).map (·.targetGroupName) = .ok "web-k8senpnet" ∧
      (desiredUnder " web-").1 =
        .done (SortedMap.empty.insert " web-k8senpnet" (.ofMembers [⟨"e9b", "10.0.0.5"⟩])) ∧
      (ensured " web-").1 = .failed (.targetGroupNotFound "web-k8senpnet") := by
  exact ⟨by decide, by rfl, by rfl⟩

end CloudSteward
