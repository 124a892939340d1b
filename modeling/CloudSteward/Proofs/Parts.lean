import CloudSteward.Proofs.Answer

/-!
# The parts of the store that calls change

No call changes an instance or a subnet. Target groups are changed by the calls
about target groups alone, balancers by those about balancers, and the counter
never goes back. A program whose calls are all of other kinds therefore leaves a
part as it is, as long as other writers do.

Results:

* `answer_parts`: what is left of the store after a call, part by part.
* `idOf_injective`: no two numbers give one id.
* `part_run`, `visited_run`: what a program leaves as it is, if its steps do.
* `answer_origin`: where the balancers after a call come from.
* `keep_run`, `freshGroups_run`, `uniqueNames_run`: runs keep the hypotheses about
  other writers, about ids that are still to be given and about names in use.
-/

namespace CloudSteward

/-! ## Kinds of calls -/

/-- Whether calls of a kind may change target groups. -/
def Method.changesGroups : Method → Bool
  | .createTargetGroup | .addTargets | .removeTargets | .deleteTargetGroup => true
  | _ => false

/-- Whether calls of a kind may change balancers. -/
def Method.changesBalancers : Method → Bool
  | .createBalancer | .deleteBalancer | .addListener | .removeListener | .attachTargetGroup
  | .detachTargetGroup => true
  | _ => false

/-! ## One operation of the store -/

namespace Store

theorem setRoutes_parts (s : Store) (id : String) (routes : List StaticRoute) :
    ∃ tables, (s.setRoutes id routes).2 = { s with routeTables := tables } := by
  rw [setRoutes]
  split
  · exact ⟨_, rfl⟩
  · exact ⟨_, rfl⟩

theorem createTargetGroup_parts (s : Store) (r : TargetGroupRequest) :
    ∃ groups n, s.counter ≤ n ∧
      (s.createTargetGroup r).2 = { s with targetGroups := groups, counter := n } := by
  rw [createTargetGroup]
  split
  · exact ⟨_, _, Nat.le_refl _, rfl⟩
  · exact ⟨_, _, Nat.le_succ _, rfl⟩

theorem changeTargets_parts (s : Store) (id : String) (update : List Target → List Target) :
    ∃ groups, (s.changeTargets id update).2 = { s with targetGroups := groups } := by
  rw [changeTargets]
  split
  · exact ⟨_, rfl⟩
  · exact ⟨_, rfl⟩

theorem le_listenersFrom (n : Nat) (l : List ListenerSpec) : n ≤ (listenersFrom n l).2 := by
  induction l generalizing n with
  | nil => exact Nat.le_refl n
  | cons spec rest ih =>
    rw [listenersFrom]
    refine Nat.le_trans ?_ (ih _)
    split <;> omega

theorem createBalancer_parts (s : Store) (r : BalancerRequest) :
    ∃ balancers n, s.counter ≤ n ∧
      (s.createBalancer r).2 = { s with balancers := balancers, counter := n } := by
  rw [createBalancer]
  split
  · exact ⟨_, _, Nat.le_refl _, rfl⟩
  · exact ⟨_, _, Nat.le_succ_of_le (le_listenersFrom s.counter r.listeners), rfl⟩

theorem changeBalancer_parts (s : Store) (id : String)
    (update : Balancer → Except CloudError Balancer) :
    ∃ balancers, (s.changeBalancer id update).2 = { s with balancers := balancers } := by
  rw [changeBalancer]
  split
  · exact ⟨_, rfl⟩
  · split
    · exact ⟨_, rfl⟩
    · exact ⟨_, rfl⟩

theorem addListener_parts (s : Store) (id : String) (l : ListenerSpec) :
    ∃ balancers n, s.counter ≤ n ∧
      (s.addListener id l).2 = { s with balancers := balancers, counter := n } := by
  rw [addListener]
  dsimp only
  split
  · obtain ⟨balancers, h⟩ := changeBalancer_parts { s with counter := s.counter + 1 } id _
    exact ⟨balancers, s.counter + 1, Nat.le_succ _, h⟩
  · obtain ⟨balancers, h⟩ := changeBalancer_parts s id _
    exact ⟨balancers, s.counter, Nat.le_refl _, h⟩

/-! ## Any call -/

/-- What a call leaves of a store. -/
structure Parts (c : Call) (s s' : Store) : Prop where
  folderId : s'.folderId = s.folderId
  instances : s'.instances = s.instances
  subnets : s'.subnets = s.subnets
  targetGroups : c.method.changesGroups = false → s'.targetGroups = s.targetGroups
  balancers : c.method.changesBalancers = false → s'.balancers = s.balancers
  counter : s.counter ≤ s'.counter

theorem Parts.refl (c : Call) (s : Store) : Parts c s s :=
  ⟨rfl, rfl, rfl, fun _ => rfl, fun _ => rfl, Nat.le_refl _⟩

theorem Parts.of_groups {c : Call} {s s' : Store} (hc : c.method.changesGroups = true)
    (h : ∃ groups n, s.counter ≤ n ∧ s' = { s with targetGroups := groups, counter := n }) :
    Parts c s s' := by
  obtain ⟨groups, n, hn, rfl⟩ := h
  exact ⟨rfl, rfl, rfl, fun hf => (by rw [hc] at hf; cases hf), fun _ => rfl, hn⟩

theorem Parts.of_balancers {c : Call} {s s' : Store} (hc : c.method.changesBalancers = true)
    (h : ∃ balancers n, s.counter ≤ n ∧ s' = { s with balancers := balancers, counter := n }) :
    Parts c s s' := by
  obtain ⟨balancers, n, hn, rfl⟩ := h
  exact ⟨rfl, rfl, rfl, fun _ => rfl, fun hf => (by rw [hc] at hf; cases hf), hn⟩

theorem answer_parts (s : Store) (c : Call) : Parts c s (s.answer c).2 := by
  have same : ∀ {s' : Store} {groups}, s' = { s with targetGroups := groups } →
      ∃ groups n, s.counter ≤ n ∧ s' = { s with targetGroups := groups, counter := n } :=
    fun h => ⟨_, s.counter, Nat.le_refl _, h⟩
  have same' : ∀ {s' : Store} {balancers}, s' = { s with balancers := balancers } →
      ∃ balancers n, s.counter ≤ n ∧ s' = { s with balancers := balancers, counter := n } :=
    fun h => ⟨_, s.counter, Nat.le_refl _, h⟩
  cases c with
  | setRoutes id routes =>
    obtain ⟨tables, h⟩ := s.setRoutes_parts id routes
    show Parts _ s (s.setRoutes id routes).2
    rw [h]
    exact ⟨rfl, rfl, rfl, fun _ => rfl, fun _ => rfl, Nat.le_refl _⟩
  | createTargetGroup r => exact .of_groups rfl (s.createTargetGroup_parts r)
  | addTargets id targets => exact .of_groups rfl (same (s.changeTargets_parts id _).choose_spec)
  | removeTargets id targets =>
    exact .of_groups rfl (same (s.changeTargets_parts id _).choose_spec)
  | deleteTargetGroup id => exact .of_groups rfl (same rfl)
  | createBalancer r => exact .of_balancers rfl (s.createBalancer_parts r)
  | deleteBalancer id => exact .of_balancers rfl (same' rfl)
  | addListener id l => exact .of_balancers rfl (s.addListener_parts id l)
  | removeListener id name =>
    exact .of_balancers rfl (same' (s.changeBalancer_parts id _).choose_spec)
  | attachTargetGroup id a =>
    exact .of_balancers rfl (same' (s.changeBalancer_parts id _).choose_spec)
  | detachTargetGroup id group =>
    exact .of_balancers rfl (same' (s.changeBalancer_parts id _).choose_spec)
  | getInstance | findInstance | getSubnet | getRouteTable | listTargetGroups | findTargetGroup
  | findBalancer => exact .refl _ s

/-! ## Ids still to be given -/

theorem ofDigitChars_fourDigits (n : Nat) :
    Nat.ofDigitChars 10 (fourDigits n).toList 0 = n := by
  simp [fourDigits, Nat.ofDigitChars_append]

theorem idOf_injective {m n : Nat} (h : idOf m = idOf n) : m = n := by
  have hfour : fourDigits m = fourDigits n := by
    simpa [idOf, String.append_right_inj] using h
  rw [← ofDigitChars_fourDigits m, hfour, ofDigitChars_fourDigits]

/-- No target group has an id that is still to be given. -/
def FreshGroups (s : Store) : Prop :=
  ∀ n, s.counter ≤ n → s.targetGroups.get? (idOf n) = none

theorem FreshGroups.congr {s s' : Store} (h : s.FreshGroups)
    (hg : s'.targetGroups = s.targetGroups) (hc : s.counter ≤ s'.counter) : s'.FreshGroups := by
  intro n hn
  rw [hg]
  exact h n (Nat.le_trans hc hn)

theorem FreshGroups.createTargetGroup {s : Store} (h : s.FreshGroups) (r : TargetGroupRequest) :
    (s.createTargetGroup r).2.FreshGroups := by
  rw [Store.createTargetGroup]
  split
  · exact h
  · intro n hn
    have hne : idOf n ≠ idOf s.counter := by
      intro e
      have := idOf_injective e
      dsimp only at hn
      omega
    exact (Inventory.get?_put _ _ _).trans ((if_neg hne).trans (h n (by dsimp only at hn; omega)))

theorem FreshGroups.changeTargets {s : Store} (h : s.FreshGroups) (id : String)
    (update : List Target → List Target) : (s.changeTargets id update).2.FreshGroups := by
  rw [Store.changeTargets]
  cases hg : s.targetGroups.get? id with
  | none => exact h
  | some group =>
    intro n hn
    have hid : group.id = id := Inventory.key_eq_of_get? hg
    have hne : idOf n ≠ group.id := by
      intro e
      have := h n hn
      rw [e, hid, hg] at this
      cases this
    exact (Inventory.get?_put _ _ _).trans ((if_neg hne).trans (h n hn))

theorem FreshGroups.answer {s : Store} (h : s.FreshGroups) (c : Call) :
    (s.answer c).2.FreshGroups := by
  have hp := s.answer_parts c
  cases c with
  | createTargetGroup r => exact h.createTargetGroup r
  | addTargets id targets => exact h.changeTargets id _
  | removeTargets id targets => exact h.changeTargets id _
  | deleteTargetGroup id =>
    intro n hn
    exact (Inventory.get?_erase _ _ _).trans (by rw [h n hn, ite_self])
  | _ => exact h.congr (hp.targetGroups rfl) hp.counter

/-! ## Balancers after a call -/

/-- Where a balancer in the store after a call comes from: it was there before under
    its id and name, perhaps without what the call attaches, or the call has created
    it. -/
inductive Origin (balancers : Inventory Balancer Balancer.id) (c : Call) (b : Balancer) : Prop
  | kept (old : Balancer) (here : old ∈ balancers) (id : b.id = old.id)
      (name : b.name = old.name)
      (attached : ∀ a ∈ b.attachments,
        a ∈ old.attachments ∨ ∃ id, c = .attachTargetGroup id a)
  | made (r : BalancerRequest) (call : c = .createBalancer r) (name : b.name = r.name)
      (attached : b.attachments = r.attachments)

theorem Origin.of_mem {balancers : Inventory Balancer Balancer.id} {c : Call} {b : Balancer}
    (h : b ∈ balancers) : Origin balancers c b :=
  .kept b h rfl rfl fun _ ha => .inl ha

theorem origin_createBalancer {s : Store} {r : BalancerRequest} {b : Balancer}
    (h : b ∈ (s.createBalancer r).2.balancers) : Origin s.balancers (.createBalancer r) b := by
  rw [createBalancer] at h
  split at h
  · exact .of_mem h
  · rcases Inventory.mem_put.mp h with rfl | ⟨-, h⟩
    · exact .made r rfl rfl rfl
    · exact .of_mem h

theorem origin_changeBalancer {s : Store} {c : Call} {id : String}
    {update : Balancer → Except CloudError Balancer}
    (hupdate : ∀ b b', update b = .ok b' → b'.id = b.id ∧ b'.name = b.name ∧
      ∀ a ∈ b'.attachments, a ∈ b.attachments ∨ ∃ id, c = .attachTargetGroup id a)
    {b : Balancer} (h : b ∈ (s.changeBalancer id update).2.balancers) :
    Origin s.balancers c b := by
  rw [changeBalancer] at h
  cases hold : s.balancers.get? id with
  | none =>
    rw [hold] at h
    exact .of_mem h
  | some old =>
    simp only [hold, existing] at h
    split at h
    · exact .of_mem h
    · rename_i new hnew
      rcases Inventory.mem_put.mp h with rfl | ⟨-, h⟩
      · obtain ⟨hid, hname, hattached⟩ := hupdate old _ hnew
        exact .kept old (Inventory.mem_of_get? hold) hid hname hattached
      · exact .of_mem h

theorem origin_addListener {s : Store} {c : Call} {id : String} {l : ListenerSpec} {b : Balancer}
    (h : b ∈ (s.addListener id l).2.balancers) : Origin s.balancers c b := by
  rw [addListener] at h
  dsimp only at h
  have hsame : (if (listenerFrom s.counter l).2 then { s with counter := s.counter + 1 }
      else s).balancers = s.balancers := by
    split <;> rfl
  rw [← hsame]
  refine origin_changeBalancer (fun b b' hb => ?_) h
  split at hb <;> cases hb
  exact ⟨rfl, rfl, fun _ ha => .inl ha⟩

theorem answer_origin {s : Store} {c : Call} {b : Balancer}
    (h : b ∈ (s.answer c).2.balancers) : Origin s.balancers c b := by
  have hp := s.answer_parts c
  cases c with
  | createBalancer r => exact origin_createBalancer h
  | deleteBalancer id => exact .of_mem (Inventory.mem_erase.mp h).2
  | addListener id l => exact origin_addListener h
  | removeListener id name =>
    refine origin_changeBalancer (fun b b' hb => ?_) h
    cases hb
    exact ⟨rfl, rfl, fun _ ha => .inl ha⟩
  | attachTargetGroup id a =>
    refine origin_changeBalancer (fun b b' hb => ?_) h
    split at hb <;> cases hb
    refine ⟨rfl, rfl, fun other ha => ?_⟩
    rcases List.mem_append.mp ha with ha | ha
    · exact .inl ha
    · exact .inr ⟨id, by rw [List.mem_singleton.mp ha]⟩
  | detachTargetGroup id group =>
    refine origin_changeBalancer (fun b b' hb => ?_) h
    cases hb
    exact ⟨rfl, rfl, fun _ ha => .inl ((List.mem_filter.mp ha).1)⟩
  | _ =>
    rw [hp.balancers rfl] at h
    exact .of_mem h

/-! ## Names of balancers -/

/-- No two balancers have one name. -/
def UniqueNames (s : Store) : Prop :=
  ∀ b ∈ s.balancers, ∀ b' ∈ s.balancers, b.name = b'.name → b = b'

theorem UniqueNames.congr {s s' : Store} (h : s.UniqueNames) (hb : s'.balancers = s.balancers) :
    s'.UniqueNames := by
  rwa [UniqueNames, hb]

theorem UniqueNames.createBalancer {s : Store} (h : s.UniqueNames) (r : BalancerRequest) :
    (s.createBalancer r).2.UniqueNames := by
  rw [Store.createBalancer]
  split
  · exact h
  · rename_i hnew
    have hother : ∀ b ∈ s.balancers, b.name ≠ r.name := by
      intro b hb hname
      exact hnew (List.any_eq_true.mpr ⟨b, Inventory.mem_values.mpr hb, beq_iff_eq.mpr hname⟩)
    intro b hb b' hb' hname
    rcases Inventory.mem_put.mp hb with rfl | ⟨-, hb⟩
    · rcases Inventory.mem_put.mp hb' with rfl | ⟨-, hb'⟩
      · rfl
      · exact absurd hname.symm (hother b' hb')
    · rcases Inventory.mem_put.mp hb' with rfl | ⟨-, hb'⟩
      · exact absurd hname (hother b hb)
      · exact h b hb b' hb' hname

theorem UniqueNames.answer {s : Store} (h : s.UniqueNames) (c : Call) :
    (s.answer c).2.UniqueNames := by
  cases c with
  | createBalancer r => exact h.createBalancer r
  | _ =>
    -- both balancers were there before, and their names and ids are the old ones
    intro b hb b' hb' hname
    obtain ⟨old, here, hid, hold, -⟩ | ⟨r, hr, -, -⟩ := answer_origin hb
    · obtain ⟨old', here', hid', hold', -⟩ | ⟨r, hr, -, -⟩ := answer_origin hb'
      · have hsame : old = old' := h old here old' here' (by rw [← hold, ← hold', hname])
        exact Inventory.eq_of_mem_of_key_eq hb hb' (by rw [hid, hid', hsame])
      · cases hr
    · cases hr

end Store

/-! ## Runs -/

section Runs

variable {α κ : Type} {p : Program α} {w w' : World} {o : Outcome α}

@[simp] theorem store_write (w : World) (c : ClusterWrite) : (w.write c).2.store = w.store := by
  rw [World.write]
  split <;> rfl

@[simp] theorem incidents_write (w : World) (c : ClusterWrite) :
    (w.write c).2.incidents = w.incidents := by
  rw [World.write]
  split <;> rfl

@[simp] theorem visited_write (w : World) (c : ClusterWrite) :
    (w.write c).2.visited = w.visited := by
  rw [World.write]
  split <;> rfl

/-- A step that leaves a part of the store as it is. -/
def Action.Keeps (part : Store → κ) : Action → Prop
  | .call c => ∀ s : Store, part (s.answer c).2 = part s
  | .write _ | .remember _ => True

/-- A call of one of these kinds; no other step. -/
def Action.Calls (kinds : Method → Bool) : Action → Prop
  | .call c => kinds c.method = true
  | .write _ | .remember _ => False

theorem frame_keep (part : Store → κ) :
    Frame (fun w w' => w.incidents.Keep part → w'.incidents.Keep part) fun _ => True where
  refl _ := id
  trans h₁ h₂ h := h₂ (h₁ h)
  call _ c _ h := keep_answer h c
  write w c _ h := by rwa [incidents_write]
  remember _ _ _ h := h

/-- Other writers go on leaving a part alone. -/
theorem keep_run {part : Store → κ} (hk : w.incidents.Keep part) (h : p.run w = (o, w')) :
    w'.incidents.Keep part :=
  run_frame (frame_keep part) (within_of_forall (fun _ => trivial) p) h hk

theorem frame_part (part : Store → κ) :
    Frame (fun w w' => w.incidents.Keep part →
      w'.incidents.Keep part ∧ part w'.store = part w.store) (·.Keeps part) where
  refl _ h := ⟨h, rfl⟩
  trans h₁ h₂ h :=
    have ⟨hk, e₁⟩ := h₁ h
    have ⟨hk, e₂⟩ := h₂ hk
    ⟨hk, e₂.trans e₁⟩
  call _ c hc h := ⟨keep_answer h c, part_answer h hc⟩
  write w c _ h := by
    rw [incidents_write, store_write]
    exact ⟨h, rfl⟩
  remember _ _ _ h := ⟨h, rfl⟩

/-- A part that neither the program nor other writers change is as it was. -/
theorem part_run {part : Store → κ} (hp : p.Within (·.Keeps part)) (hk : w.incidents.Keep part)
    (h : p.run w = (o, w')) : part w'.store = part w.store :=
  (run_frame (frame_part part) hp h hk).2

theorem instances_run (hk : w.incidents.Keep Store.instances) (h : p.run w = (o, w')) :
    w'.store.instances = w.store.instances := by
  refine part_run (within_of_forall (fun a => ?_) p) hk h
  cases a with
  | call c => exact fun s => (s.answer_parts c).instances
  | write c => trivial
  | remember names => trivial

theorem subnets_run (hk : w.incidents.Keep Store.subnets) (h : p.run w = (o, w')) :
    w'.store.subnets = w.store.subnets := by
  refine part_run (within_of_forall (fun a => ?_) p) hk h
  cases a with
  | call c => exact fun s => (s.answer_parts c).subnets
  | write c => trivial
  | remember names => trivial

/-- A step that keeps a property of the store. -/
def Action.Preserves (P : Store → Prop) : Action → Prop
  | .call c => ∀ s : Store, P s → P (s.answer c).2
  | .write _ | .remember _ => True

/-- A property of a part of the store that other writers leave alone. -/
theorem frame_preserves (part : Store → κ) {P : Store → Prop}
    (hcongr : ∀ {s s' : Store}, P s → part s' = part s → s.counter ≤ s'.counter → P s') :
    Frame (fun w w' => w.incidents.Keep part ∧ P w.store → w'.incidents.Keep part ∧ P w'.store)
      (·.Preserves P) where
  refl _ := id
  trans h₁ h₂ h := h₂ (h₁ h)
  call w c hc h := by
    have hmet : P (w.met c.method) :=
      hcongr h.2 (part_met h.1 _) (Nat.le_of_eq (counter_met w _).symm)
    refine ⟨keep_answer h.1 c, ?_⟩
    rcases answer_cases w c with ⟨-, hs⟩ | ⟨e, -, hs⟩ | ⟨-, hs⟩
    · rw [hs]
      exact h.2
    · rw [hs]
      exact hmet
    · rw [hs]
      exact hc _ hmet
  write w c _ h := by rwa [incidents_write, store_write]
  remember _ _ _ h := h

theorem freshGroups_run (hk : w.incidents.Keep Store.targetGroups) (hf : w.store.FreshGroups)
    (h : p.run w = (o, w')) : w'.store.FreshGroups := by
  refine (run_frame (frame_preserves Store.targetGroups Store.FreshGroups.congr)
    (within_of_forall (fun a => ?_) p) h ⟨hk, hf⟩).2
  cases a with
  | call c => exact fun _ h => h.answer c
  | write c => trivial
  | remember names => trivial

theorem uniqueNames_run (hk : w.incidents.Keep Store.balancers) (hu : w.store.UniqueNames)
    (h : p.run w = (o, w')) : w'.store.UniqueNames := by
  refine (run_frame (frame_preserves Store.balancers fun hu hb _ => hu.congr hb)
    (within_of_forall (fun a => ?_) p) h ⟨hk, hu⟩).2
  cases a with
  | call c => exact fun _ h => h.answer c
  | write c => trivial
  | remember names => trivial

/-- A step other than a call. -/
def Action.CallsNothing : Action → Prop
  | .call _ => False
  | .write _ | .remember _ => True

theorem frame_store : Frame (fun w w' => w'.store = w.store) Action.CallsNothing where
  refl _ := rfl
  trans h₁ h₂ := h₂.trans h₁
  call _ _ h := h.elim
  write w c _ := store_write w c
  remember _ _ _ := rfl

/-- A program that calls nothing leaves the store as it is. -/
theorem store_run (hp : p.Within Action.CallsNothing) (h : p.run w = (o, w')) :
    w'.store = w.store :=
  run_frame frame_store hp h

theorem frame_visited (kinds : Method → Bool) :
    Frame (fun w w' => w'.visited = w.visited) (·.Calls kinds) where
  refl _ := rfl
  trans h₁ h₂ := h₂.trans h₁
  call w c _ := visited_answer w c
  write w c _ := visited_write w c
  remember _ _ h := h.elim

/-- A program that only calls leaves the remembered names as they are. -/
theorem visited_run {kinds : Method → Bool} (hp : p.Within (·.Calls kinds))
    (h : p.run w = (o, w')) : w'.visited = w.visited :=
  run_frame (frame_visited kinds) hp h

theorem keeps_targetGroups_of_calls {a : Action} (h : a.Calls (!·.changesGroups)) :
    a.Keeps Store.targetGroups := by
  cases a with
  | call c => exact fun s => (s.answer_parts c).targetGroups (by simpa [Action.Calls] using h)
  | write c => trivial
  | remember names => trivial

theorem keeps_balancers_of_calls {a : Action} (h : a.Calls (!·.changesBalancers)) :
    a.Keeps Store.balancers := by
  cases a with
  | call c => exact fun s => (s.answer_parts c).balancers (by simpa [Action.Calls] using h)
  | write c => trivial
  | remember names => trivial

end Runs

end CloudSteward
