import CloudSteward.Proofs.Balancer.Converge
import CloudSteward.Proofs.TargetGroup.Cleanup

/-!
# What a program may change

Resources are changed under their ids, and an id says nothing about whose resource it
is. A reconciler may change balancers and target groups of some names only. It looks one
up by its name and then holds on to its id; as long as everything under that id has
such a name, a change under it is a change of its own. New resources get ids that are
not in use.

Results:

* `Inventory.SameOthers.put`, `Inventory.SameOthers.erase`: changes under an id.
* `Store.OthersKept.answer`: one call that stays in scope leaves all others alone.
* `staysIn_of_within`, `staysIn_bind`: programs whose calls stay in scope.
* `staysIn_findBalancer`, `staysIn_fetchGroup`: what a look-up gives a hold of.
-/

namespace CloudSteward

open Program

/-! ## Changes of an inventory -/

namespace Inventory

variable {α : Type} {key : α → String} {mine : α → Prop} {m m' m'' : Inventory α key}
  {a : α} {id : String}

/-- Only what is mine may differ. -/
def SameOthers (mine : α → Prop) (m m' : Inventory α key) : Prop :=
  ∀ a, ¬ mine a → (a ∈ m' ↔ a ∈ m)

/-- What is filed under an id is mine, if anything is. -/
def MineAt (mine : α → Prop) (m : Inventory α key) (id : String) : Prop :=
  ∀ a ∈ m, key a = id → mine a

theorem SameOthers.refl (mine : α → Prop) (m : Inventory α key) : SameOthers mine m m :=
  fun _ _ => Iff.rfl

theorem SameOthers.trans (h : SameOthers mine m m') (h' : SameOthers mine m' m'') :
    SameOthers mine m m'' :=
  fun a ha => (h' a ha).trans (h a ha)

theorem SameOthers.put (ha : mine a) (hat : MineAt mine m (key a)) :
    SameOthers mine m (m.put a) := by
  intro b hb
  rw [mem_put]
  constructor
  · rintro (rfl | ⟨-, hmem⟩)
    · exact absurd ha hb
    · exact hmem
  · exact fun hmem => .inr ⟨fun hid => hb (hat b hmem hid), hmem⟩

theorem SameOthers.erase (hat : MineAt mine m id) : SameOthers mine m (m.erase id) := by
  intro b hb
  rw [mem_erase]
  exact ⟨And.right, fun hmem => ⟨fun hid => hb (hat b hmem hid), hmem⟩⟩

/-- An id stays mine while others are left alone: nothing of theirs is filed under it. -/
theorem MineAt.of_sameOthers (hat : MineAt mine m id) (h : SameOthers mine m m') :
    MineAt mine m' id := by
  intro b hb hid
  by_cases hmine : mine b
  · exact hmine
  · exact hat b ((h b hmine).mp hb) hid

theorem mineAt_of_mem (h : a ∈ m) (ha : mine a) : MineAt mine m (key a) := by
  intro b hb hid
  rwa [eq_of_mem_of_key_eq hb h hid]

theorem mineAt_of_get?_eq_none (h : m.get? id = none) : MineAt mine m id := by
  intro b hb hid
  have hsome : m.get? (key b) = some b := hb
  rw [hid, h] at hsome
  cases hsome

end Inventory

/-! ## Balancer ids still to be given -/

namespace Store

variable {st st' : Store}

/-- No balancer has an id that is still to be given. -/
def FreshBalancers (st : Store) : Prop :=
  ∀ n, st.counter ≤ n → st.balancers.get? (idOf n) = none

theorem FreshBalancers.createBalancer (h : st.FreshBalancers) (r : BalancerRequest) :
    (st.createBalancer r).2.FreshBalancers := by
  rw [Store.createBalancer]
  split
  · exact h
  · have hlast : st.counter ≤ (listenersFrom st.counter r.listeners).2 :=
      le_listenersFrom st.counter r.listeners
    intro n hn
    dsimp only at hn ⊢
    rw [Inventory.get?_put, if_neg]
    · exact h n (by omega)
    · intro hid
      have hn' := idOf_injective hid
      omega

/-- Only a new balancer has an id that was not given before. -/
theorem FreshBalancers.answer (h : st.FreshBalancers) (c : Call) :
    (st.answer c).2.FreshBalancers := by
  by_cases hnew : ∃ r, c = .createBalancer r
  · obtain ⟨r, rfl⟩ := hnew
    exact h.createBalancer r
  · intro n hn
    cases hb : (st.answer c).2.balancers.get? (idOf n) with
    | none => rfl
    | some b =>
      obtain ⟨old, here, hid, -, -⟩ | ⟨r, hr, -, -⟩ := answer_origin (Inventory.mem_of_get? hb)
      · have hold : st.balancers.get? old.id = some old := here
        have hnone := h n (Nat.le_trans (st.answer_parts c).counter hn)
        rw [← Inventory.key_eq_of_get? hb, hid, hold] at hnone
        cases hnone
      · exact absurd ⟨r, hr⟩ hnew

/-! ## One call -/

theorem routeTables_changeTargets (st : Store) (id : String)
    (update : List Target → List Target) :
    (st.changeTargets id update).2.routeTables = st.routeTables := by
  obtain ⟨groups, h⟩ := st.changeTargets_parts id update
  rw [h]

theorem routeTables_changeBalancer (st : Store) (id : String)
    (update : Balancer → Except CloudError Balancer) :
    (st.changeBalancer id update).2.routeTables = st.routeTables := by
  obtain ⟨balancers, h⟩ := st.changeBalancer_parts id update
  rw [h]

/-- Routes are written by one kind of call alone. -/
theorem routeTables_answer (st : Store) {c : Call} (hc : c.method ≠ .setRoutes) :
    (st.answer c).2.routeTables = st.routeTables := by
  cases c with
  | setRoutes id routes => exact absurd rfl hc
  | createTargetGroup r =>
    obtain ⟨_, _, -, h⟩ := st.createTargetGroup_parts r
    show (st.createTargetGroup r).2.routeTables = _
    rw [h]
  | addTargets id targets => exact routeTables_changeTargets st id _
  | removeTargets id targets => exact routeTables_changeTargets st id _
  | createBalancer r =>
    obtain ⟨_, _, -, h⟩ := st.createBalancer_parts r
    show (st.createBalancer r).2.routeTables = _
    rw [h]
  | addListener id l =>
    obtain ⟨_, _, -, h⟩ := st.addListener_parts id l
    show (st.addListener id l).2.routeTables = _
    rw [h]
  | removeListener id name => exact routeTables_changeBalancer st id _
  | attachTargetGroup id a => exact routeTables_changeBalancer st id _
  | detachTargetGroup id group => exact routeTables_changeBalancer st id _
  | _ => rfl

/-- A group keeps its id and name when its targets change. -/
theorem sameOthers_changeTargets {mine : String → Prop} {id : String}
    (hat : st.targetGroups.MineAt (fun g => mine g.name) id)
    (update : List Target → List Target) :
    st.targetGroups.SameOthers (fun g => mine g.name)
      (st.changeTargets id update).2.targetGroups := by
  rw [changeTargets]
  cases hg : st.targetGroups.get? id with
  | none => exact .refl _ _
  | some group =>
    have hid : group.id = id := Inventory.key_eq_of_get? hg
    have hmine : mine group.name := hat group (Inventory.mem_of_get? hg) hid
    refine .put hmine ?_
    show st.targetGroups.MineAt _ group.id
    rwa [hid]

theorem sameOthers_changeBalancer {mine : String → Prop} {id : String}
    (hat : st.balancers.MineAt (fun b => mine b.name) id)
    {update : Balancer → Except CloudError Balancer}
    (hupdate : ∀ b b', update b = .ok b' → b'.id = b.id ∧ b'.name = b.name) :
    st.balancers.SameOthers (fun b => mine b.name) (st.changeBalancer id update).2.balancers := by
  rw [changeBalancer]
  cases hold : st.balancers.get? id with
  | none => exact .refl _ _
  | some old =>
    dsimp only [existing]
    split
    · exact .refl _ _
    · rename_i b hb
      obtain ⟨hid, hname⟩ := hupdate old b hb
      have hold_id : old.id = id := Inventory.key_eq_of_get? hold
      have hmine : mine old.name := hat old (Inventory.mem_of_get? hold) hold_id
      refine .put (by rwa [hname]) ?_
      rwa [hid, hold_id]

theorem sameOthers_addListener {mine : String → Prop} {id : String}
    (hat : st.balancers.MineAt (fun b => mine b.name) id) (l : ListenerSpec) :
    st.balancers.SameOthers (fun b => mine b.name) (st.addListener id l).2.balancers := by
  rw [addListener]
  dsimp only
  generalize hst : (if (listenerFrom st.counter l).2 then { st with counter := st.counter + 1 }
    else st) = st₁
  have hsame : st₁.balancers = st.balancers := by
    rw [← hst]
    split <;> rfl
  rw [← hsame] at hat ⊢
  refine sameOthers_changeBalancer hat fun b b' hb => ?_
  split at hb <;> cases hb
  exact ⟨rfl, rfl⟩

end Store

/-! ## What may change -/

/-- The names of the balancers and of the target groups that may change. -/
structure Scope where
  balancer : String → Prop
  group : String → Prop

/-- A store in which nothing has changed but balancers and target groups in scope. -/
structure Store.OthersKept (scope : Scope) (before after : Store) : Prop where
  instances : after.instances = before.instances
  subnets : after.subnets = before.subnets
  routeTables : after.routeTables = before.routeTables
  balancers : ∀ b : Balancer, ¬ scope.balancer b.name → (b ∈ after.balancers ↔ b ∈ before.balancers)
  targetGroups : ∀ g : TargetGroup, ¬ scope.group g.name →
    (g ∈ after.targetGroups ↔ g ∈ before.targetGroups)

/-- What a program has looked up, and may change by its id. -/
inductive Held where
  | nothing
  | balancer (id : String)
  | groups (ids : List String)

/-- What is held is in scope. -/
def Held.In (scope : Scope) : Held → Store → Prop
  | .nothing, _ => True
  | .balancer id, st => st.balancers.MineAt (fun b => scope.balancer b.name) id
  | .groups ids, st => ∀ id ∈ ids, st.targetGroups.MineAt (fun g => scope.group g.name) id

/-- A step that creates nothing out of scope, changes nothing that is not held, and
    writes no routes. -/
def Action.StaysIn (scope : Scope) (held : Held) : Action → Prop
  | .call (.setRoutes _ _) => False
  | .call (.createTargetGroup r) => scope.group r.name
  | .call (.addTargets id _) | .call (.removeTargets id _) | .call (.deleteTargetGroup id) =>
    ∃ ids, held = .groups ids ∧ id ∈ ids
  | .call (.createBalancer r) => scope.balancer r.name
  | .call (.deleteBalancer id) | .call (.addListener id _) | .call (.removeListener id _)
  | .call (.attachTargetGroup id _) | .call (.detachTargetGroup id _) => held = .balancer id
  | .call _ | .write _ | .remember _ => True

section Scopes

variable {scope : Scope} {held : Held} {st st' st'' : Store} {c : Call}

theorem Store.OthersKept.refl (scope : Scope) (st : Store) : st.OthersKept scope st :=
  ⟨rfl, rfl, rfl, fun _ _ => Iff.rfl, fun _ _ => Iff.rfl⟩

theorem Store.OthersKept.trans (h : st.OthersKept scope st') (h' : st'.OthersKept scope st'') :
    st.OthersKept scope st'' where
  instances := h'.instances.trans h.instances
  subnets := h'.subnets.trans h.subnets
  routeTables := h'.routeTables.trans h.routeTables
  balancers := Inventory.SameOthers.trans h.balancers h'.balancers
  targetGroups := Inventory.SameOthers.trans h.targetGroups h'.targetGroups

theorem Held.In.of_othersKept (h : held.In scope st) (hkept : st.OthersKept scope st') :
    held.In scope st' := by
  cases held with
  | nothing => trivial
  | balancer id => exact Inventory.MineAt.of_sameOthers h hkept.balancers
  | groups ids => exact fun id hid => (h id hid).of_sameOthers hkept.targetGroups

theorem Action.StaysIn.of_isRead (h : c.method.isRead = true) :
    (Action.call c).StaysIn scope held := by
  cases c <;> trivial

theorem Action.StaysIn.method_ne_setRoutes (h : (Action.call c).StaysIn scope held) :
    c.method ≠ .setRoutes := by
  cases c with
  | setRoutes id routes => exact h.elim
  | _ => exact nofun

theorem Store.sameOthers_groups (hc : (Action.call c).StaysIn scope held)
    (hheld : held.In scope st) (hfresh : st.FreshGroups) :
    st.targetGroups.SameOthers (fun g => scope.group g.name) (st.answer c).2.targetGroups := by
  have hat : ∀ {id}, (∃ ids, held = .groups ids ∧ id ∈ ids) →
      st.targetGroups.MineAt (fun g => scope.group g.name) id := by
    rintro id ⟨ids, rfl, hid⟩
    exact hheld id hid
  have hp := st.answer_parts c
  cases c with
  | createTargetGroup r =>
    show st.targetGroups.SameOthers _ (st.createTargetGroup r).2.targetGroups
    rw [createTargetGroup]
    split
    · exact .refl _ _
    · have hnew := hfresh st.counter (Nat.le_refl _)
      exact .put hc (Inventory.mineAt_of_get?_eq_none hnew)
  | addTargets id targets => exact sameOthers_changeTargets (hat hc) _
  | removeTargets id targets => exact sameOthers_changeTargets (hat hc) _
  | deleteTargetGroup id => exact .erase (hat hc)
  | _ =>
    rw [hp.targetGroups rfl]
    exact .refl _ _

theorem Store.sameOthers_balancers (hc : (Action.call c).StaysIn scope held)
    (hheld : held.In scope st) (hfresh : st.FreshBalancers) :
    st.balancers.SameOthers (fun b => scope.balancer b.name) (st.answer c).2.balancers := by
  have hat : ∀ {id}, held = .balancer id →
      st.balancers.MineAt (fun b => scope.balancer b.name) id := by
    rintro id rfl
    exact hheld
  have hp := st.answer_parts c
  cases c with
  | createBalancer r =>
    show st.balancers.SameOthers _ (st.createBalancer r).2.balancers
    rw [createBalancer]
    split
    · exact .refl _ _
    · have hnew := hfresh _ (le_listenersFrom st.counter r.listeners)
      exact .put hc (Inventory.mineAt_of_get?_eq_none hnew)
  | deleteBalancer id => exact .erase (hat hc)
  | addListener id l => exact sameOthers_addListener (hat hc) l
  | removeListener id name =>
    exact sameOthers_changeBalancer (hat hc) fun b b' hb => by cases hb; exact ⟨rfl, rfl⟩
  | attachTargetGroup id a =>
    refine sameOthers_changeBalancer (hat hc) fun b b' hb => ?_
    split at hb <;> cases hb
    exact ⟨rfl, rfl⟩
  | detachTargetGroup id group =>
    exact sameOthers_changeBalancer (hat hc) fun b b' hb => by cases hb; exact ⟨rfl, rfl⟩
  | _ =>
    rw [hp.balancers rfl]
    exact .refl _ _

/-- A call that stays in scope leaves everything else alone. -/
theorem Store.OthersKept.answer (hc : (Action.call c).StaysIn scope held)
    (hheld : held.In scope st) (hgroups : st.FreshGroups) (hbalancers : st.FreshBalancers) :
    st.OthersKept scope (st.answer c).2 where
  instances := (st.answer_parts c).instances
  subnets := (st.answer_parts c).subnets
  routeTables := routeTables_answer st hc.method_ne_setRoutes
  balancers := sameOthers_balancers hc hheld hbalancers
  targetGroups := sameOthers_groups hc hheld hgroups

end Scopes

/-! ## Runs -/

/-- No other writer comes in between, and the ids to be given are not in use. -/
structure World.Alone (w : World) : Prop where
  keep : w.incidents.Keep id
  groups : w.store.FreshGroups
  balancers : w.store.FreshBalancers

/-- A program after whose runs, however they end, everything else is as it was, if what
    it holds is in scope. -/
def Program.StaysIn {α : Type} (scope : Scope) (held : Held) (p : Program α) : Prop :=
  ∀ w o w', w.Alone → held.In scope w.store → p.run w = (o, w') →
    w.store.OthersKept scope w'.store

section Runs

variable {α β : Type} {scope : Scope} {held : Held} {p : Program α} {f : α → Program β}
  {w w' : World} {o : Outcome α}

theorem Incidents.Keep.part {κ : Type} {i : Incidents} (h : i.Keep id) (part : Store → κ) :
    i.Keep part :=
  fun m supply hs s => congrArg part (h m supply hs s)

/-- What holds of the store all through a run that stays in scope. -/
structure Store.Tended (scope : Scope) (held : Held) (before st : Store) : Prop where
  kept : before.OthersKept scope st
  held : held.In scope st
  groups : st.FreshGroups
  balancers : st.FreshBalancers

theorem Action.StaysIn.preserves {a : Action} (h : a.StaysIn scope held) (before : Store) :
    a.Preserves (before.Tended scope held) := by
  cases a with
  | call c =>
    intro st hst
    have hstep := Store.OthersKept.answer h hst.held hst.groups hst.balancers
    exact ⟨hst.kept.trans hstep, hst.held.of_othersKept hstep, hst.groups.answer c,
      hst.balancers.answer c⟩
  | write c => trivial
  | remember names => trivial

theorem staysIn_of_within (hp : p.Within (·.StaysIn scope held)) : p.StaysIn scope held := by
  intro w o w' hw hheld h
  have hframe := frame_preserves id (P := w.store.Tended scope held) fun hst hsame _ => by
    rw [id, id] at hsame
    rwa [hsame]
  exact (run_frame hframe (hp.mono fun _ ha => ha.preserves w.store) h
    ⟨hw.keep, .refl scope w.store, hheld, hw.groups, hw.balancers⟩).2.kept

theorem staysIn_of_reads (hp : p.Within (·.Calls Method.isRead)) : p.StaysIn scope held := by
  refine staysIn_of_within (hp.mono fun a ha => ?_)
  cases a with
  | call c => exact .of_isRead ha
  | write c => trivial
  | remember names => trivial

theorem World.Alone.run (hw : w.Alone) (h : p.run w = (o, w')) : w'.Alone where
  keep := keep_run hw.keep h
  groups := freshGroups_run (hw.keep.part _) hw.groups h
  balancers := by
    refine (run_frame (frame_preserves Store.balancers (P := Store.FreshBalancers) ?_)
      (within_of_forall (fun a => ?_) p) h ⟨hw.keep.part _, hw.balancers⟩).2
    · intro s s' hfresh hb hc n hn
      rw [hb]
      exact hfresh n (Nat.le_trans hc hn)
    · cases a with
      | call c => exact fun _ h => h.answer c
      | write c => trivial
      | remember names => trivial

/-- The second part lets go of what the first part held. -/
theorem staysIn_bind (hp : p.StaysIn scope held) (hf : ∀ a, (f a).StaysIn scope .nothing) :
    (p >>= f).StaysIn scope held := by
  intro w o w' hw hheld h
  rcases run_bind_cases h with ⟨-, o₁, h₁, -⟩ | ⟨a, w₁, h₁, h⟩
  · exact hp w o₁ w' hw hheld h₁
  · exact (hp w _ w₁ hw hheld h₁).trans (hf a w₁ o w' (hw.run h₁) trivial h)

/-- A look-up gives a hold of what it has found. -/
theorem staysIn_lookUp (hp : p.Within (·.Calls Method.isRead)) {hold : α → Held}
    (hfound : ∀ {w w' a}, w.Alone → p.run w = (.done a, w') → (hold a).In scope w'.store)
    (hf : ∀ a, (f a).StaysIn scope (hold a)) : (p >>= f).StaysIn scope .nothing := by
  intro w o w' hw hheld h
  rcases run_bind_cases h with ⟨-, o₁, h₁, -⟩ | ⟨a, w₁, h₁, h⟩
  · exact staysIn_of_reads hp w o₁ w' hw hheld h₁
  · exact (staysIn_of_reads hp w _ w₁ hw hheld h₁).trans
      (hf a w₁ o w' (hw.run h₁) (hfound hw h₁) h)

/-- What a look-up by name gives a hold of. -/
def Held.ofBalancer : Option Balancer → Held
  | some b => .balancer b.id
  | none => .nothing

/-- What a look-up by name gives a hold of. -/
def Held.ofGroup : Option TargetGroup → Held
  | some g => .groups [g.id]
  | none => .nothing

theorem staysIn_findBalancer {name : String} {f : Option Balancer → Program β}
    (hname : scope.balancer name) (hf : ∀ found, (f found).StaysIn scope (.ofBalancer found)) :
    (ask (.findBalancer name) >>= f).StaysIn scope .nothing := by
  refine staysIn_lookUp (within_ask (by rfl)) (fun {w w' found} hw h => ?_) hf
  obtain ⟨hsame, hfound⟩ := findBalancer_done (hw.keep.part _ _) h
  cases found with
  | none => trivial
  | some b =>
    have honly : w.store.balancersNamed name = [b] := hfound
    obtain ⟨hmem, hb, -⟩ := Inventory.filter_values_eq_singleton_iff.mp honly
    show w'.store.balancers.MineAt _ b.id
    rw [hsame]
    refine Inventory.mineAt_of_mem hmem ?_
    rwa [show b.name = name from beq_iff_eq.mp hb]

theorem staysIn_fetchGroup {name : String} {f : Option TargetGroup → Program β}
    (hname : scope.group name) (hf : ∀ found, (f found).StaysIn scope (.ofGroup found)) :
    (fetchGroup name >>= f).StaysIn scope .nothing := by
  refine staysIn_lookUp (within_fetchGroup name) (fun {w w' found} hw h => ?_) hf
  obtain ⟨hsame, hfound⟩ := fetchGroup_done (hw.keep.part _) h
  cases found with
  | none => trivial
  | some g =>
    obtain ⟨hmem, hg, -⟩ := Inventory.filter_values_eq_singleton_iff.mp (hfound g rfl)
    intro id hid
    rw [List.mem_singleton.mp hid, hsame]
    refine Inventory.mineAt_of_mem hmem ?_
    rwa [show g.name = name from beq_iff_eq.mp hg]

/-- Those of the listed groups that are in scope may be changed. -/
theorem staysIn_listTargetGroups {f : List TargetGroup → Program β} {pick : TargetGroup → Bool}
    (hpick : ∀ g, pick g = true → scope.group g.name)
    (hf : ∀ groups, (f groups).StaysIn scope (.groups ((groups.filter pick).map (·.id)))) :
    (ask .listTargetGroups >>= f).StaysIn scope .nothing := by
  refine staysIn_lookUp (within_ask (by rfl)) (fun {w w' groups} hw h => ?_) hf
  obtain ⟨hsame, hlisted⟩ := listTargetGroups_done (hw.keep.part _) h
  intro id hid
  obtain ⟨g, hg, rfl⟩ := List.mem_map.mp hid
  obtain ⟨hmem, hg⟩ := List.mem_filter.mp hg
  rw [hsame]
  exact Inventory.mineAt_of_mem ((hlisted g).mp hmem) (hpick g hg)

end Runs

end CloudSteward
