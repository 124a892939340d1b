import CloudSteward.Proofs.Balancer.Progress

/-!
# Edits of a service

A balancer that was created for one version of a service is brought to the next one.
Listeners are kept by key and under the name they have, and missing ones are added
under the names of the new version. So an edit may ask for a listener under a name that
a kept listener still has, although no two listeners of either version share a name;
such an edit is refused, and every other one goes through.

Results:

* `not_collides_of_no_new_key`, `not_collides_of_names_kept`: edits that cannot collide.
* `ensureBalancer_makes`: the balancer that the first version leaves behind.
* `edit_applies_iff`: when exactly an edit can be applied.
* `edit_refused_of_moved_name`: a port that takes over the name of another.
-/

namespace CloudSteward

open Program

/-- A listener that the new version adds has the name that a kept listener has in the old
    version. -/
def BalancerSpec.Collides (old new : BalancerSpec) : Prop :=
  ∃ added ∈ new.listeners, added.key ∉ old.listeners.map (·.key) ∧
    ∃ kept ∈ old.listeners, kept.key ∈ new.listeners.map (·.key) ∧ kept.name = added.name

instance (old new : BalancerSpec) : Decidable (old.Collides new) :=
  inferInstanceAs (Decidable (∃ added ∈ new.listeners, added.key ∉ old.listeners.map (·.key) ∧
    ∃ kept ∈ old.listeners, kept.key ∈ new.listeners.map (·.key) ∧ kept.name = added.name))

/-- An edit that renames, reorders or removes ports adds no key, and then nothing
    collides. -/
theorem not_collides_of_no_new_key {old new : BalancerSpec}
    (h : ∀ l ∈ new.listeners, l.key ∈ old.listeners.map (·.key)) : ¬ old.Collides new := by
  rintro ⟨added, hadded, hnew, -⟩
  exact hnew (h added hadded)

/-- An edit that renames no port that it keeps, whatever it adds, reorders or removes,
    does not collide either. -/
theorem not_collides_of_names_kept {old new : BalancerSpec}
    (hnodup : (new.listeners.map (·.name)).Nodup)
    (h : ∀ kept ∈ old.listeners, kept.key ∈ new.listeners.map (·.key) →
      kept.tag ∈ new.listeners.map (·.tag)) : ¬ old.Collides new := by
  rintro ⟨added, hadded, hnew, kept, hkept, hkey, hname⟩
  obtain ⟨same, hsame, htag⟩ := List.mem_map.mp (h kept hkept hkey)
  obtain ⟨hname', hkey'⟩ := Prod.mk.inj htag
  obtain rfl : same = added :=
    List.inj_on_of_nodup_map hnodup hsame hadded (hname'.trans hname)
  exact hnew (List.mem_map.mpr ⟨kept, hkept, hkey'.symm⟩)

namespace Balancer.MadeFrom

variable {b : Balancer} {old new : BalancerSpec} {attachment : Attachment}

theorem names (h : b.MadeFrom old attachment) :
    b.listeners.map (·.name) = old.listeners.map (·.name) := by
  have htags := congrArg (List.map Prod.fst) h.tags
  rwa [List.map_map, List.map_map] at htags

theorem keys (h : b.MadeFrom old attachment) :
    b.listeners.map (·.key) = old.listeners.map (·.key) := by
  have htags := congrArg (List.map Prod.snd) h.tags
  rwa [List.map_map, List.map_map] at htags

theorem distinct (h : b.MadeFrom old attachment)
    (hnodup : (old.listeners.map (·.name)).Nodup) : b.Distinct where
  listeners := h.names ▸ hnodup
  attachments := by simp [h.attachments]

/-- What can be said of a listener by its name and key holds of one of the balancer's
    exactly if it holds of one of the description's. -/
theorem exists_listener_iff (h : b.MadeFrom old attachment) (p : String → ListenerKey → Prop) :
    (∃ l ∈ b.listeners, p l.name l.key) ↔ ∃ l ∈ old.listeners, p l.name l.key := by
  have hmade : (∃ l ∈ b.listeners, p l.name l.key) ↔
      ∃ tag ∈ b.listeners.map (·.tag), p tag.1 tag.2 := by
    simp [Listener.tag]
  have hdescribed : (∃ l ∈ old.listeners, p l.name l.key) ↔
      ∃ tag ∈ old.listeners.map (·.tag), p tag.1 tag.2 := by
    simp [ListenerSpec.tag]
  rw [hmade, hdescribed, h.tags]

/-- Whether a name is in the way can be read off the description that the balancer was
    made from. -/
theorem clashes_iff (h : b.MadeFrom old attachment) :
    b.Clashes new.listeners ↔ old.Collides new := by
  have hmissing : ∀ added, added ∈ missingListeners b new.listeners ↔
      added ∈ new.listeners ∧ added.key ∉ old.listeners.map (·.key) := by
    intro added
    rw [missingListeners, List.mem_filter, h.keys]
    simp
  have hkept : ∀ name, (∃ kept ∈ b.listeners, kept.key ∈ new.listeners.map (·.key) ∧
      kept.name = name) ↔ ∃ kept ∈ old.listeners, kept.key ∈ new.listeners.map (·.key) ∧
        kept.name = name :=
    fun name => h.exists_listener_iff fun n k => k ∈ new.listeners.map (·.key) ∧ n = name
  simp only [Balancer.Clashes, BalancerSpec.Collides, hmissing, hkept, and_assoc]

end Balancer.MadeFrom

section Runs

variable {s : Settings} {w w₁ w₂ : World}

/-- A run that ends well where no balancer has the name has made one from the
    description. -/
theorem ensureBalancer_makes {services : List Service} {service : Service} {nodes : List Node}
    {spec : BalancerSpec} {b : Balancer} (hw : w.Calm)
    (hspec : balancerSpec service s = .ok spec) (hnone : w.store.balancersNamed spec.name = [])
    (h : (ensureBalancer s services service nodes).run w = (.done b, w₁)) :
    ∃ attachment, b.MadeFrom spec attachment ∧ w₁.store.balancersNamed spec.name = [b] := by
  obtain ⟨described, group, w₃, w₄, hsame, hsync, hfind, h⟩ := ensureBalancer_split h
  cases hspec.symm.trans hsame
  have hw₄ := calm_run (calm_run hw hsync) hfind
  have hbalancers := balancers_before_placing (keep_of_calm hw _) hsync hfind
  have hnone₄ : w₄.store.balancersNamed spec.name = [] := by
    rw [Store.balancersNamed, hbalancers]
    exact hnone
  rw [placeBalancer_run_of_absent hw₄ hnone₄] at h
  obtain ⟨made, w', hrun, hmade, hnamed⟩ :=
    createBalancer_run (calm_afterReads hw₄ 1) hnone₄ s (attachmentFor spec group)
  rw [hrun] at h
  cases h
  exact ⟨_, hmade, hnamed⟩

/-- A balancer that was made from one description is brought to another if this has
    another type or does not collide with the first. -/
theorem placeBalancer_run_of_fitting {old new : BalancerSpec} {b : Balancer}
    {attachment : Attachment} (hw : w.Calm) (hmade : b.MadeFrom old attachment)
    (hnamed : w.store.balancersNamed new.name = [b])
    (hnodup : (old.listeners.map (·.name)).Nodup) (hnodup' : (new.listeners.map (·.name)).Nodup)
    (hfits : old.type ≠ new.type ∨ ¬ old.Collides new) (s : Settings) (wanted : Attachment) :
    ∃ r w', (placeBalancer s new wanted).run w = (.done r, w') := by
  by_cases htype : b.type = new.type
  · obtain ⟨hmem, -, -⟩ := Inventory.filter_values_eq_singleton_iff.mp hnamed
    have hclear : ¬ b.Clashes new.listeners := by
      rw [hmade.clashes_iff]
      exact hfits.resolve_left fun h => h (hmade.type.symm.trans htype)
    rw [placeBalancer_run_of_present hw hnamed, if_pos htype]
    exact convergeBalancer_run_of_clear (calm_afterReads hw 1) hmem (hmade.distinct hnodup)
      hnodup' hclear
  · exact placeBalancer_run_of_type_ne hw hnamed htype

/-- Otherwise a name is in the way. -/
theorem placeBalancer_run_of_colliding {old new : BalancerSpec} {b : Balancer}
    {attachment : Attachment} (hw : w.Calm) (hmade : b.MadeFrom old attachment)
    (hnamed : w.store.balancersNamed new.name = [b])
    (hnodup : (old.listeners.map (·.name)).Nodup) (htype : old.type = new.type)
    (hcollides : old.Collides new) (s : Settings) (wanted : Attachment) :
    ∃ e w', (placeBalancer s new wanted).run w = (.failed (.cloud e), w') ∧
      e.isAlreadyExists = true := by
  obtain ⟨hmem, -, -⟩ := Inventory.filter_values_eq_singleton_iff.mp hnamed
  rw [placeBalancer_run_of_present hw hnamed, if_pos (hmade.type.trans htype)]
  exact convergeBalancer_run_of_clash (calm_afterReads hw 1) hmem (hmade.distinct hnodup)
    (hmade.clashes_iff.mpr hcollides)

/-- **Edits.** Nothing goes wrong, and a balancer was made for one version of a service.
    Then the balancer of the next version is ensured exactly if the type changes or no
    listener that is added has the name of one that is kept. Otherwise the run fails
    because there is a listener of the name already. -/
theorem edit_applies_iff {services₁ services₂ : List Service} {service₁ service₂ : Service}
    {nodes₁ nodes₂ : List Node} {spec₁ spec₂ : BalancerSpec} {status : BalancerStatus}
    {group : TargetGroup} (hw : w.Calm) (huid : service₂.metadata.uid = service₁.metadata.uid)
    (hspec₁ : balancerSpec service₁ s = .ok spec₁) (hspec₂ : balancerSpec service₂ s = .ok spec₂)
    (hnodup₁ : (spec₁.listeners.map (·.name)).Nodup)
    (hnodup₂ : (spec₂.listeners.map (·.name)).Nodup)
    (hnone : w.store.balancersNamed spec₁.name = [])
    (h₁ : (ensureLoadBalancer s services₁ service₁ nodes₁).run w = (.done status, w₁))
    (hnodes₂ : nodes₂ ≠ [])
    (hsync : (syncTargetGroups s services₂ nodes₂).run w₁ = (.done (), w₂))
    (hgroup : w₂.store.groupsNamed spec₂.targetGroupName = [group]) :
    let second := ((ensureLoadBalancer s services₂ service₂ nodes₂).run w₁).1
    (second.isDone = true ↔ spec₁.type ≠ spec₂.type ∨ ¬ spec₁.Collides spec₂) ∧
      (second.isDone = false → ∃ e, second = .failed (.cloud e) ∧ e.isAlreadyExists = true) := by
  intro second
  obtain ⟨b, w', hb, h⟩ := run_bind_eq_done.mp h₁
  cases h
  have hw₁ := calm_run hw hb
  have hw₂ := calm_run hw₁ hsync
  obtain ⟨attachment, hmade, hnamed⟩ := ensureBalancer_makes hw hspec₁ hnone hb
  -- both versions are about the balancer of one name
  have hname : spec₂.name = spec₁.name := by
    have h₁ := (balancerSpec_eq_ok hspec₁).1
    have h₂ := (balancerSpec_eq_ok hspec₂).1
    rw [balancerName?, huid] at h₂
    exact Option.some.inj (h₂.symm.trans h₁)
  have hnamed₂ : (w₂.afterReads 1).store.balancersNamed spec₂.name = [b] := by
    show w₂.store.balancersNamed spec₂.name = [b]
    rw [hname, Store.balancersNamed, balancers_syncTargetGroups (keep_of_calm hw₁ _) hsync]
    exact hnamed
  have hensure := ensureBalancer_run hspec₂ hnodes₂ hsync hw₂ hgroup
  by_cases hfits : spec₁.type ≠ spec₂.type ∨ ¬ spec₁.Collides spec₂
  · obtain ⟨r, w', hplace⟩ := placeBalancer_run_of_fitting (calm_afterReads hw₂ 1) hmade hnamed₂
      hnodup₁ hnodup₂ hfits s (attachmentFor spec₂ group)
    have hdone : second = .done (ingressStatus r) :=
      congrArg Prod.fst (run_bind_of_done (hensure.trans hplace))
    rw [hdone]
    exact ⟨iff_of_true rfl hfits, fun h => Bool.noConfusion h⟩
  · obtain ⟨htype, hcollides⟩ := not_or.mp hfits
    rw [not_not] at htype hcollides
    obtain ⟨e, w', hplace, he⟩ := placeBalancer_run_of_colliding (calm_afterReads hw₂ 1) hmade
      hnamed₂ hnodup₁ htype hcollides s (attachmentFor spec₂ group)
    have hfailed : second = .failed (.cloud e) :=
      congrArg Prod.fst (run_bind_of_failed (hensure.trans hplace))
    rw [hfailed]
    exact ⟨iff_of_false Bool.false_ne_true hfits, fun _ => ⟨e, rfl, he⟩⟩

end Runs

namespace Sample

/-- The world after the service was served. -/
def afterService : World :=
  ((ensureLoadBalancer settings [] service nodes).run (.ofStore store)).2

/-- The service with other ports, all of them for TCP. -/
def withPorts (ports : List (String × Int × Int)) : Service :=
  { service with
    ports := ports.map fun ⟨name, port, nodePort⟩ => ⟨some name, none, port, some nodePort⟩ }

/-- The balancer that the service with other ports describes. -/
def specWith (ports : List (String × Int × Int)) : BalancerSpec where
  name := "a0f1e2d"
  type := .external
  listeners := ports.map fun ⟨name, port, nodePort⟩ =>
    ⟨name, port, .tcp, nodePort, some ⟨none, .ipv4⟩, none⟩
  targetGroupName := "k8senpnet"
  healthCheck := ⟨healthCheckName, .ofSeconds 2, .ofSeconds 1, 2, 2, some ⟨10256, healthCheckPath⟩,
    none⟩

/-- A second port joins the one of the service. -/
def extended : List (String × Int × Int) := [("http", 80, 30080), ("https", 443, 30443)]

/-- The port of the service is renamed, and another port takes over its name. -/
def moved : List (String × Int × Int) := [("metrics", 80, 30080), ("http", 9090, 30090)]

end Sample

open Sample in
/-- A second port is added. -/
theorem edit_applies_of_extended :
    ((ensureLoadBalancer settings [] (withPorts extended) nodes).run afterService).1.isDone =
      true := by
  have hspec₁ : balancerSpec service settings = .ok (specWith [("http", 80, 30080)]) := by rfl
  have hspec₂ : balancerSpec (withPorts extended) settings = .ok (specWith extended) := by rfl
  have h₁ : (ensureLoadBalancer settings [] service nodes).run (.ofStore store) =
      (.done ⟨some [⟨some "203.0.113.2", none, none, none⟩]⟩, afterService) := by
    rfl
  have hsync : (syncTargetGroups settings [] nodes).run afterService =
      (.done (), afterService) := by
    rfl
  obtain ⟨group, hgroup⟩ : ∃ group, afterService.store.groupsNamed "k8senpnet" = [group] := ⟨_, rfl⟩
  have hcalm : (World.ofStore store).Calm := rfl
  have huid : (withPorts extended).metadata.uid = service.metadata.uid := rfl
  have hnodup₁ : ((specWith [("http", 80, 30080)]).listeners.map (·.name)).Nodup := by decide
  have hnodup₂ : ((specWith extended).listeners.map (·.name)).Nodup := by decide
  obtain ⟨happlies, -⟩ := edit_applies_iff hcalm huid hspec₁ hspec₂ hnodup₁ hnodup₂ rfl h₁
    (by decide) hsync hgroup
  exact happlies.mpr (.inr (by decide))

open Sample in
/-- No two ports of a version share a name, but the balancer still has a listener of the
    name that the new port takes over. -/
theorem edit_refused_of_moved_name :
    balancerSpec service settings = .ok (specWith [("http", 80, 30080)]) ∧
      balancerSpec (withPorts moved) settings = .ok (specWith moved) ∧
      ((specWith moved).listeners.map (·.name)).Nodup ∧
      ((ensureLoadBalancer settings [] service nodes).run (.ofStore store)).1.isDone = true ∧
      (afterService.store.groupsNamed "k8senpnet").length = 1 ∧
      ((ensureLoadBalancer settings [] (withPorts moved) nodes).run afterService).1 =
        .failed (.cloud (.alreadyExists "Listener http already exists")) :=
  ⟨rfl, rfl, by decide, by decide +kernel, by decide +kernel, rfl⟩

end CloudSteward
