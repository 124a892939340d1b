import CloudSteward.Proofs.Balancer.Ensure

/-!
# Lost races

Between the look-up that finds no balancer and the creation of one another writer may
create it. Then the creation is refused, and the balancer that has appeared is
converged. Its listeners and attachments become those of the description, but its
type is not looked at on this way, and it stays what it was.

Results:

* `race_run`: what does not create a balancer leaves the race ahead and the balancers
  as they are.
* `createBalancer_done_of_race`: the balancer of the other writer is converged.
* `lostRace_type_iff`: what a lost race ends in, and when exactly the type is right.
* `lostRace_wrong_type`: an internal balancer in the place of a public one.
-/

namespace CloudSteward

open Program

/-- Another writer adds a balancer right before the next creation, and none comes in after
    that. Before other calls nobody changes a balancer. -/
structure Incidents.Race (i : Incidents) (rival : Balancer) : Prop where
  added : i.intrusions .createBalancer = [⟨[], [], [], [], [rival]⟩]
  kept : ∀ m, m ≠ .createBalancer → i.KeepFor m Store.balancers

/-- A step that changes no balancer, and in particular creates none. -/
def Action.SparesBalancers : Action → Prop
  | .call c => c.method.changesBalancers = false
  | .write _ | .remember _ => True

theorem Action.Syncs.sparesBalancers {a : Action} (h : a.Syncs) : a.SparesBalancers := by
  cases a with
  | call c => exact changesBalancers_of_aboutGroups h
  | write c => trivial
  | remember names => trivial

theorem spares_ask {c : Call} (h : c.method.changesBalancers = false) :
    (ask c).Within Action.SparesBalancers :=
  within_ask h

section Runs

variable {α : Type} {p : Program α} {o : Outcome α} {w w' : World} {rival : Balancer}

/-! ## Up to the creation -/

theorem frame_race (rival : Balancer) :
    Frame (fun w w' => w.incidents.Race rival →
      w'.incidents.Race rival ∧ w'.store.balancers = w.store.balancers)
      Action.SparesBalancers where
  refl _ h := ⟨h, rfl⟩
  trans h₁ h₂ h :=
    have ⟨hr, e₁⟩ := h₁ h
    have ⟨hr, e₂⟩ := h₂ hr
    ⟨hr, e₂.trans e₁⟩
  call w c hc h := by
    have hne : c.method ≠ .createBalancer := by
      intro hcreate
      rw [Action.SparesBalancers, hcreate] at hc
      cases hc
    refine ⟨⟨?_, fun m hm supply hs => ?_⟩, ?_⟩
    · rw [intrusions_answer_of_ne hne.symm, h.added]
    · exact h.kept m hm supply ((intrusions_answer w c m).subset hs)
    · exact part_answer_of_keepFor (h.kept c.method hne) fun s => (s.answer_parts c).balancers hc
  write w c _ h := by
    rw [incidents_write, store_write]
    exact ⟨h, rfl⟩
  remember _ _ _ h := ⟨h, rfl⟩

/-- What creates no balancer leaves the race ahead and the balancers as they are. -/
theorem race_run (hp : p.Within Action.SparesBalancers) (hrace : w.incidents.Race rival)
    (h : p.run w = (o, w')) :
    w'.incidents.Race rival ∧ w'.store.balancers = w.store.balancers :=
  run_frame (frame_race rival) hp h hrace

/-! ## The creation -/

/-- Once a creation has been answered the race is over. -/
theorem keep_of_race {request : BalancerRequest} {reply : Except CloudError Balancer}
    (hrace : w.incidents.Race rival)
    (h : w.answer (.createBalancer request) = (some reply, w')) :
    w'.incidents.Keep Store.balancers := by
  intro m
  by_cases hm : m = .createBalancer
  · subst hm
    have hnone : w'.incidents.intrusions .createBalancer = [] :=
      (intrusions_of_answered h).trans (congrArg List.tail hrace.added)
    intro supply hs
    rw [hnone] at hs
    cases hs
  · have hrest := intrusions_answer w (.createBalancer request) m
    rw [h] at hrest
    exact fun supply hs => hrace.kept m hm supply (hrest.subset hs)

/-- The creation comes too late: whatever it answers, the store has the balancer of the
    other writer and no other of the name. -/
theorem createBalancer_refused {request : BalancerRequest} {reply : Except CloudError Balancer}
    (hrace : w.incidents.Race rival) (hname : request.name = rival.name)
    (hnone : w.store.balancersNamed rival.name = [])
    (h : w.answer (.createBalancer request) = (some reply, w')) :
    (∃ e, reply = .error e) ∧ w'.store.balancersNamed rival.name = [rival] := by
  have hmet : (w.met .createBalancer).balancers = w.store.balancers.put rival := by
    rw [World.met, hrace.added]
    rfl
  cases reply with
  | ok b =>
    obtain ⟨hnew, -⟩ := createBalancer_eq_ok (answer_eq_ok h)
    exact absurd hname.symm (hnew rival (Inventory.mem_of_eq_put hmet))
  | error e =>
    have hsame : w'.store.balancers = w.store.balancers.put rival := by
      rcases answer_eq_error h with hs | hs
      · rw [hs]
        exact hmet
      · rw [createBalancer_eq_error hs]
        exact hmet
    refine ⟨⟨e, rfl⟩, Store.balancersNamed_put rfl (fun other hother hsame => ?_) hsame⟩
    exact absurd hsame (Store.balancersNamed_eq_nil_iff.mp hnone other hother)

/-- A run that ends well has converged the balancer of the other writer. -/
theorem createBalancer_done_of_race {s : Settings} {spec : BalancerSpec} {attachment : Attachment}
    {r : Balancer} (hrace : w.incidents.Race rival) (hname : spec.name = rival.name)
    (hnone : w.store.balancersNamed rival.name = [])
    (h : (createBalancer s spec attachment).run w = (.done r, w')) :
    rival.ConvergedTo r spec.listeners attachment ∧
      w'.store.balancersNamed rival.name = [r] := by
  obtain ⟨reply, w₁, ha, h⟩ := run_bind_eq_done.mp h
  have ha := run_answer_eq_done.mp ha
  have hk₁ := keep_of_race hrace ha
  obtain ⟨⟨e, rfl⟩, hnamed₁⟩ := createBalancer_refused hrace hname hnone ha
  dsimp only at h
  split at h
  · obtain ⟨found, w₂, hf, h₂⟩ := run_bind_eq_done.mp h
    obtain ⟨b, w₃, hr, h₃⟩ := run_bind_eq_done.mp h₂
    obtain ⟨rfl, rfl⟩ := run_require_eq_done.mp hr
    obtain ⟨hsame, hfound⟩ := findBalancer_done (hk₁ _) hf
    rw [hname, hnamed₁] at hfound
    obtain rfl : b = rival := (List.singleton_inj.mp hfound).symm
    have hnamed₂ : w₂.store.balancersNamed b.name = [b] := by
      rw [Store.balancersNamed, hsame]
      exact hnamed₁
    obtain ⟨hmem, -, -⟩ := Inventory.filter_values_eq_singleton_iff.mp hnamed₂
    obtain ⟨hconverged, hs⟩ := convergeBalancer_done (keep_run hk₁ hf) hmem h₃
    exact ⟨hconverged, hconverged.named hnamed₂ hs⟩
  · cases h

/-- Without a balancer of the name, placing one leads into the race. -/
theorem placeBalancer_done_of_race {s : Settings} {spec : BalancerSpec} {attachment : Attachment}
    {r : Balancer} (hrace : w.incidents.Race rival) (hname : spec.name = rival.name)
    (hnone : w.store.balancersNamed rival.name = [])
    (h : (placeBalancer s spec attachment).run w = (.done r, w')) :
    rival.ConvergedTo r spec.listeners attachment ∧
      w'.store.balancersNamed rival.name = [r] := by
  obtain ⟨found, w₁, hf, h⟩ := run_bind_eq_done.mp h
  obtain ⟨hrace₁, -⟩ := race_run (spares_ask rfl) hrace hf
  obtain ⟨hsame, hfound⟩ := findBalancer_done (hrace.kept _ (by decide)) hf
  rw [hname, hnone] at hfound
  cases found with
  | none =>
    refine createBalancer_done_of_race hrace₁ hname ?_ h
    rw [Store.balancersNamed, hsame]
    exact hnone
  | some existing => cases hfound

/-- **Lost race.** There is no balancer of the service's name, but another writer adds one
    right before the creation. A run that ends well, whatever calls have failed in between,
    makes that balancer the service's: it has the listeners of the ports and one attachment,
    the only group of the described name with the described health check. It is of the
    described type exactly if the other writer happened to choose it. -/
theorem lostRace_type_iff {s : Settings} {services : List Service} {service : Service}
    {nodes : List Node} {status : BalancerStatus} (hgroups : w.incidents.Keep Store.targetGroups)
    (hrace : w.incidents.Race rival) (hname : balancerName? service = some rival.name)
    (hd : rival.Distinct) (hnone : w.store.balancersNamed rival.name = [])
    (h : (ensureLoadBalancer s services service nodes).run w = (.done status, w')) :
    ∃ spec b group, balancerSpec service s = .ok spec ∧
      w'.store.balancersNamed rival.name = [b] ∧ b.id = rival.id ∧
      (b.type = spec.type ↔ rival.type = spec.type) ∧
      (∀ k, k ∈ b.listeners.map (·.key) ↔ ∃ p ∈ service.ports, p.HasKey k) ∧
      w'.store.groupsNamed spec.targetGroupName = [group] ∧
      b.attachments = [⟨group.id, [spec.healthCheck]⟩] := by
  obtain ⟨b, w₁, hb, h⟩ := run_bind_eq_done.mp h
  cases h
  obtain ⟨spec, group, w₂, w₃, hspec, hsync, hfind, hplace⟩ := ensureBalancer_split hb
  obtain ⟨hgiven, hkeys⟩ := balancerSpec_eq_ok hspec
  have hspecname : spec.name = rival.name := Option.some.inj (hgiven.symm.trans hname)
  -- up to the placing no balancer is created, so the race is still ahead
  obtain ⟨hrace₂, hsame₂⟩ := race_run
    ((within_syncTargetGroups s services nodes).mono fun _ => Action.Syncs.sparesBalancers)
    hrace hsync
  obtain ⟨hrace₃, hsame₃⟩ := race_run (spares_ask rfl) hrace₂ hfind
  have hnone₃ : w₃.store.balancersNamed rival.name = [] := by
    rw [Store.balancersNamed, hsame₃, hsame₂]
    exact hnone
  have hgroups₂ := keep_run hgroups hsync
  obtain ⟨hconverged, hnamed⟩ := placeBalancer_done_of_race hrace₃ hspecname hnone₃ hplace
  have hmatches := hconverged.matches hd
  refine ⟨spec, b, group, hspec, hnamed, by rw [hconverged.same], by rw [hconverged.same],
    fun k => ?_, ?_, hmatches.attachments⟩
  · rw [hmatches.keys, hkeys]
  · rw [Store.groupsNamed, targetGroups_of_places (within_placeBalancer s spec _)
      (keep_run hgroups₂ hfind) hplace]
    exact findTargetGroup_done hgroups₂ hfind

end Runs

namespace Sample

/-- The small cluster when another writer has a balancer for the service at hand. -/
def racing (rival : Balancer) : World :=
  { World.ofStore store with
    incidents := { Incidents.none with
      intrusions := fun m => if m = .createBalancer then [⟨[], [], [], [], [rival]⟩] else [] } }

theorem race_racing (rival : Balancer) : (racing rival).incidents.Race rival where
  added := rfl
  kept m hm supply hs := by
    rw [show (racing rival).incidents.intrusions m = [] from if_neg hm] at hs
    cases hs

theorem keep_racing (rival : Balancer) : (racing rival).incidents.Keep Store.targetGroups := by
  intro m supply hs st
  by_cases hm : m = .createBalancer
  · rw [show (racing rival).incidents.intrusions m = [⟨[], [], [], [], [rival]⟩] from if_pos hm]
      at hs
    obtain rfl := List.mem_singleton.mp hs
    rfl
  · rw [show (racing rival).incidents.intrusions m = [] from if_neg hm] at hs
    cases hs

/-- The outdated balancer, but internal. -/
def internalOutdated : Balancer := { outdated with type := .internal }

end Sample

open Sample in
/-- The other writer adds the outdated balancer, which is public as it should be. -/
theorem lostRace_type_of_outdated :
    ∃ spec b, balancerSpec service settings = .ok spec ∧
      ((ensureLoadBalancer settings [] service nodes).run (racing outdated)).2.store.balancersNamed
        "a0f1e2d" = [b] ∧
      b.id = "nlb" ∧ b.type = spec.type ∧
      ∀ k, k ∈ b.listeners.map (·.key) ↔ ∃ p ∈ service.ports, p.HasKey k := by
  have hrun : (ensureLoadBalancer settings [] service nodes).run (racing outdated) =
      (.done ⟨some [⟨some "203.0.113.2", none, none, none⟩]⟩,
        ((ensureLoadBalancer settings [] service nodes).run (racing outdated)).2) := by
    rfl
  obtain ⟨spec, b, group, hspec, hnamed, hid, htype, hkeys, -⟩ :=
    lostRace_type_iff (keep_racing outdated) (race_racing outdated) rfl ⟨by decide, by decide⟩ rfl
      hrun
  have hdescribed : spec.type = .external := by
    cases hspec
    rfl
  exact ⟨spec, b, hspec, hnamed, hid, htype.mpr hdescribed.symm, hkeys⟩

open Sample in
/-- The other writer adds an internal balancer, and the public service keeps it. -/
theorem lostRace_wrong_type :
    ((ensureLoadBalancer settings [] service nodes).run (racing internalOutdated)).1.isDone = true ∧
      (racing internalOutdated).store.balancersNamed "a0f1e2d" = [] ∧
      internalOutdated.Distinct ∧ (racing internalOutdated).incidents.Race internalOutdated ∧
      ∃ spec b, balancerSpec service settings = .ok spec ∧ spec.type = .external ∧
        ((ensureLoadBalancer settings [] service nodes).run
          (racing internalOutdated)).2.store.balancersNamed "a0f1e2d" = [b] ∧
        b.type = .internal :=
  ⟨by decide +kernel, rfl, ⟨by decide, by decide⟩, race_racing _, _, _, rfl, rfl, rfl, rfl⟩

end CloudSteward
