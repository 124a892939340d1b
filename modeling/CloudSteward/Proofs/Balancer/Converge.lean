import CloudSteward.Proofs.Steps
import Mathlib.Data.List.Forall2
import Mathlib.Data.List.Nodup

/-!
# What converging a balancer leaves behind

The changes of a balancer are planned from what it was and carried out one by
one. Each change that succeeds replaces the balancer under its id and gives it
back as it is then, so a run that ends well has carried out the whole plan. The
plan removes listeners by name and groups by id; it does what it is meant for if
no two listeners of the balancer share a name and no two attachments a group.

Results:

* `removeListeners_done`, `addListeners_done`, `detachGroups_done`: one kind of
  change, by induction on the plan.
* `convergeBalancer_done`, `createBalancer_done`: what converging makes of a balancer
  and what is created, listener by listener.
* `placeBalancer_cases`: a placed balancer was converged or created.
* `placeBalancer_done`: a placed balancer matches its description.
-/

namespace CloudSteward

open Program

/-- The balancers of a store. -/
abbrev Balancers := Inventory Balancer Balancer.id

/-- No two listeners share a name, and no two attachments a group. -/
structure Balancer.Distinct (b : Balancer) : Prop where
  listeners : (b.listeners.map (·.name)).Nodup
  attachments : (b.attachments.map (·.targetGroupId)).Nodup

/-- A listener that a description has become; what the description leaves open, the cloud
    has picked. -/
def Listener.MadeOf (listener : Listener) (l : ListenerSpec) : Prop :=
  ∃ n, listener = (Store.listenerFrom n l).1

/-- The listeners that are left when those of the unwanted names are gone. -/
def keptListeners (b : Balancer) (wanted : List ListenerSpec) : List Listener :=
  b.listeners.filter fun l => l.name ∉ staleListeners b wanted

/-- What converging makes of a balancer: the unwanted listeners are gone and the missing
    ones added, the strange groups are detached and the wanted one attached, and nothing
    else has changed. -/
structure Balancer.ConvergedTo (b r : Balancer) (listeners : List ListenerSpec)
    (attachment : Attachment) : Prop where
  same : r = { b with listeners := r.listeners, attachments := r.attachments }
  listeners : ∃ new, List.Forall₂ Listener.MadeOf new (missingListeners b listeners) ∧
    r.listeners = keptListeners b listeners ++ new
  attachments : r.attachments =
    (b.attachments.filter fun a => a.targetGroupId ∉ strangeGroups b attachment) ++
      if attachment ∈ b.attachments then [] else [attachment]

/-- What is created from a description. -/
structure Balancer.CreatedFrom (r : Balancer) (spec : BalancerSpec) (attachment : Attachment) :
    Prop where
  name : r.name = spec.name
  type : r.type = spec.type
  listeners : List.Forall₂ Listener.MadeOf r.listeners spec.listeners
  attachments : r.attachments = [attachment]

/-- The listeners of a balancer are those of a list, as far as their keys tell,
    and it has exactly one attachment. -/
structure Balancer.Matches (b : Balancer) (listeners : List ListenerSpec)
    (attachment : Attachment) : Prop where
  keys : ∀ k, k ∈ b.listeners.map (·.key) ↔ k ∈ listeners.map (·.key)
  attachments : b.attachments = [attachment]

/-- Exactly one balancer has the name of a description, and it is as described. -/
structure BalancerPlaced (spec : BalancerSpec) (attachment : Attachment) (r : Balancer)
    (st : Store) : Prop where
  named : st.balancersNamed spec.name = [r]
  type : r.type = spec.type
  matching : r.Matches spec.listeners attachment

section Runs

variable {w w' : World}

/-! ## One change -/

theorem changeBalancer_eq_ok {s s' : Store} {balancers : Balancers} {b r : Balancer}
    {update : Balancer → Except CloudError Balancer} (hs : s.balancers = balancers)
    (hb : b ∈ balancers) (h : s.changeBalancer b.id update = (.ok r, s')) :
    update b = .ok r ∧ s'.balancers = balancers.put r := by
  subst hs
  rw [Store.changeBalancer, Inventory.mem_iff.mp hb] at h
  simp only [Store.existing] at h
  split at h
  · cases h
  · rename_i b' hu
    cases h
    exact ⟨hu, rfl⟩

theorem removeListener_done {b r : Balancer} {name : String}
    (hk : w.incidents.Keep Store.balancers) (hb : b ∈ w.store.balancers)
    (h : (ask (.removeListener b.id name)).run w = (.done r, w')) :
    r = { b with listeners := b.listeners.filter (·.name != name) } ∧
      w'.store.balancers = w.store.balancers.put r := by
  have hcall : (w.met .removeListener).removeListener b.id name = (.ok r, w'.store) :=
    answer_eq_ok (run_ask_eq_done.mp h)
  obtain ⟨hr, hs⟩ := changeBalancer_eq_ok (part_met hk _) hb hcall
  cases hr
  exact ⟨rfl, hs⟩

theorem addListener_done {b r : Balancer} {l : ListenerSpec}
    (hk : w.incidents.Keep Store.balancers) (hb : b ∈ w.store.balancers)
    (h : (ask (.addListener b.id l)).run w = (.done r, w')) :
    ∃ listener : Listener, listener.MadeOf l ∧
      r = { b with listeners := b.listeners ++ [listener] } ∧
      w'.store.balancers = w.store.balancers.put r := by
  have hcall : (w.met .addListener).addListener b.id l = (.ok r, w'.store) :=
    answer_eq_ok (run_ask_eq_done.mp h)
  rw [Store.addListener] at hcall
  generalize hl : Store.listenerFrom (w.met .addListener).counter l = made at hcall
  -- the counter may have gone up, but that changes no balancer
  obtain ⟨hr, hs⟩ := changeBalancer_eq_ok (by split <;> exact part_met hk _) hb hcall
  split at hr <;> cases hr
  exact ⟨made.1, ⟨_, by rw [hl]⟩, rfl, hs⟩

theorem detachTargetGroup_done {b r : Balancer} {group : String}
    (hk : w.incidents.Keep Store.balancers) (hb : b ∈ w.store.balancers)
    (h : (ask (.detachTargetGroup b.id group)).run w = (.done r, w')) :
    r = { b with attachments := b.attachments.filter (·.targetGroupId != group) } ∧
      w'.store.balancers = w.store.balancers.put r := by
  have hcall : (w.met .detachTargetGroup).detachTargetGroup b.id group = (.ok r, w'.store) :=
    answer_eq_ok (run_ask_eq_done.mp h)
  obtain ⟨hr, hs⟩ := changeBalancer_eq_ok (part_met hk _) hb hcall
  cases hr
  exact ⟨rfl, hs⟩

theorem attachTargetGroup_done {b r : Balancer} {a : Attachment}
    (hk : w.incidents.Keep Store.balancers) (hb : b ∈ w.store.balancers)
    (h : (ask (.attachTargetGroup b.id a)).run w = (.done r, w')) :
    r = { b with attachments := b.attachments ++ [a] } ∧
      w'.store.balancers = w.store.balancers.put r := by
  have hcall : (w.met .attachTargetGroup).attachTargetGroup b.id a = (.ok r, w'.store) :=
    answer_eq_ok (run_ask_eq_done.mp h)
  obtain ⟨hr, hs⟩ := changeBalancer_eq_ok (part_met hk _) hb hcall
  split at hr <;> cases hr
  exact ⟨rfl, hs⟩

/-! ## A list of changes -/

theorem filter_notMem_cons {α : Type} (f : α → String) (name : String) (rest : List String)
    (l : List α) : (l.filter fun a => f a != name).filter (fun a => f a ∉ rest) =
      l.filter fun a => f a ∉ name :: rest := by
  rw [List.filter_filter]
  refine List.filter_congr fun a _ => ?_
  by_cases hn : f a = name <;> by_cases hr : f a ∈ rest <;> simp [hn, hr]

theorem removeListeners_done {names : List String} {b r : Balancer}
    (hk : w.incidents.Keep Store.balancers) (hb : b ∈ w.store.balancers)
    (h : (removeListeners b.id names b).run w = (.done r, w')) :
    r = { b with listeners := b.listeners.filter fun l => l.name ∉ names } ∧
      w'.store.balancers = w.store.balancers.put r := by
  induction names generalizing w b with
  | nil =>
    cases h
    simp [Inventory.put_of_mem hb]
  | cons name rest ih =>
    obtain ⟨b₁, w₁, h₁, h₂⟩ := run_bind_eq_done.mp h
    obtain ⟨rfl, hs₁⟩ := removeListener_done hk hb h₁
    obtain ⟨hr, hs⟩ := ih (keep_run hk h₁) (Inventory.mem_of_eq_put hs₁) h₂
    constructor
    · rw [hr, filter_notMem_cons]
    · rw [hs, hs₁]
      exact Inventory.put_put (by rw [hr])

theorem addListeners_done {l : List ListenerSpec} {b r : Balancer}
    (hk : w.incidents.Keep Store.balancers) (hb : b ∈ w.store.balancers)
    (h : (addListeners b.id l b).run w = (.done r, w')) :
    ∃ new : List Listener, List.Forall₂ Listener.MadeOf new l ∧
      r = { b with listeners := b.listeners ++ new } ∧
      w'.store.balancers = w.store.balancers.put r := by
  induction l generalizing w b with
  | nil =>
    cases h
    exact ⟨[], .nil, by simp, (Inventory.put_of_mem hb).symm⟩
  | cons spec rest ih =>
    obtain ⟨b₁, w₁, h₁, h₂⟩ := run_bind_eq_done.mp h
    obtain ⟨listener, hmade, rfl, hs₁⟩ := addListener_done hk hb h₁
    obtain ⟨new, hnew, hr, hs⟩ := ih (keep_run hk h₁) (Inventory.mem_of_eq_put hs₁) h₂
    refine ⟨listener :: new, .cons hmade hnew, by simp [hr], ?_⟩
    rw [hs, hs₁]
    exact Inventory.put_put (by rw [hr])

theorem detachGroups_done {groups : List String} {b r : Balancer}
    (hk : w.incidents.Keep Store.balancers) (hb : b ∈ w.store.balancers)
    (h : (detachGroups b.id groups b).run w = (.done r, w')) :
    r = { b with attachments := b.attachments.filter fun a => a.targetGroupId ∉ groups } ∧
      w'.store.balancers = w.store.balancers.put r := by
  induction groups generalizing w b with
  | nil =>
    cases h
    simp [Inventory.put_of_mem hb]
  | cons group rest ih =>
    obtain ⟨b₁, w₁, h₁, h₂⟩ := run_bind_eq_done.mp h
    obtain ⟨rfl, hs₁⟩ := detachTargetGroup_done hk hb h₁
    obtain ⟨hr, hs⟩ := ih (keep_run hk h₁) (Inventory.mem_of_eq_put hs₁) h₂
    constructor
    · rw [hr, filter_notMem_cons]
    · rw [hs, hs₁]
      exact Inventory.put_put (by rw [hr])

/-! ## Made listeners -/

theorem listenerFrom_key (n : Nat) (l : ListenerSpec) : (Store.listenerFrom n l).1.key = l.key := by
  rw [Store.listenerFrom]
  split <;> rfl

theorem listenersFrom_made (n : Nat) (l : List ListenerSpec) :
    List.Forall₂ Listener.MadeOf (Store.listenersFrom n l).1 l := by
  induction l generalizing n with
  | nil => exact .nil
  | cons spec rest ih => exact .cons ⟨n, rfl⟩ (ih _)

theorem keys_of_made {new : List Listener} {l : List ListenerSpec}
    (h : List.Forall₂ Listener.MadeOf new l) : new.map (·.key) = l.map (·.key) := by
  induction h with
  | nil => rfl
  | cons hmade _ ih =>
    obtain ⟨n, rfl⟩ := hmade
    simp only [List.map_cons, listenerFrom_key, ih]

/-! ## The plan -/

/-- Listeners are removed by name, and the name tells them apart. -/
theorem notMem_staleListeners {b : Balancer} (hd : b.Distinct) {wanted : List ListenerSpec}
    {l : Listener} (hl : l ∈ b.listeners) :
    l.name ∉ staleListeners b wanted ↔ l.key ∈ wanted.map (·.key) := by
  rw [not_iff_comm, staleListeners]
  simp only [List.mem_map, List.mem_filter, Bool.not_eq_true', List.contains_eq_mem,
    decide_eq_false_iff_not]
  constructor
  · exact fun hkey => ⟨l, ⟨hl, hkey⟩, rfl⟩
  · rintro ⟨l', ⟨hl', hkey⟩, hname⟩
    have : l' = l := List.inj_on_of_nodup_map hd.listeners hl' hl hname
    rwa [this] at hkey

/-- What is kept and what is added are together the wanted listeners. -/
theorem mem_keys_converged {b : Balancer} (hd : b.Distinct) {wanted : List ListenerSpec}
    {new : List Listener} (hnew : new.map (·.key) = (missingListeners b wanted).map (·.key))
    (k : ListenerKey) :
    k ∈ (keptListeners b wanted ++ new).map (·.key) ↔ k ∈ wanted.map (·.key) := by
  have hkept : k ∈ (keptListeners b wanted).map (·.key) ↔
      k ∈ b.listeners.map (·.key) ∧ k ∈ wanted.map (·.key) := by
    constructor
    · intro h
      obtain ⟨l, hl, rfl⟩ := List.mem_map.mp h
      obtain ⟨hl, hname⟩ := List.mem_filter.mp hl
      exact ⟨List.mem_map_of_mem hl, (notMem_staleListeners hd hl).mp (by simpa using hname)⟩
    · rintro ⟨h, hw⟩
      obtain ⟨l, hl, rfl⟩ := List.mem_map.mp h
      refine List.mem_map_of_mem (List.mem_filter.mpr ⟨hl, ?_⟩)
      simpa using (notMem_staleListeners hd hl).mpr hw
  have hadded : k ∈ (missingListeners b wanted).map (·.key) ↔
      k ∈ wanted.map (·.key) ∧ k ∉ b.listeners.map (·.key) := by
    simp only [missingListeners, List.mem_map, List.mem_filter]
    constructor
    · rintro ⟨l, ⟨hl, hkey⟩, rfl⟩
      exact ⟨⟨l, hl, rfl⟩, by simpa using hkey⟩
    · rintro ⟨⟨l, hl, rfl⟩, hkey⟩
      exact ⟨l, ⟨hl, by simpa using hkey⟩, rfl⟩
  rw [List.map_append, List.mem_append, hnew, hkept, hadded]
  tauto

/-- Groups are detached by id, which leaves at most the wanted attachment. -/
theorem filter_notMem_strangeGroups {b : Balancer} (hd : b.Distinct) (wanted : Attachment) :
    (b.attachments.filter fun a => a.targetGroupId ∉ strangeGroups b wanted) =
      if wanted ∈ b.attachments then [wanted] else [] := by
  have hnodup : b.attachments.Nodup := hd.attachments.of_map
  have hmem : ∀ a ∈ b.attachments, a.targetGroupId ∉ strangeGroups b wanted ↔ a = wanted := by
    intro a ha
    rw [not_iff_comm, strangeGroups]
    simp only [List.mem_map, List.mem_filter, decide_eq_true_eq]
    constructor
    · exact fun hne => ⟨a, ⟨ha, hne⟩, rfl⟩
    · rintro ⟨a', ⟨ha', hne⟩, hid⟩
      have : a' = a := List.inj_on_of_nodup_map hd.attachments ha' ha hid
      rwa [this] at hne
  rw [List.filter_congr fun a ha => by rw [decide_eq_decide.mpr (hmem a ha)], List.filter_eq]
  split
  · rename_i hw
    rw [List.count_eq_one_of_mem hnodup hw, List.replicate_one]
  · rename_i hw
    rw [List.count_eq_zero_of_not_mem hw, List.replicate_zero]

/-- A balancer that matches its description needs no change. -/
theorem Balancer.Matches.plan_nil {b : Balancer} {listeners : List ListenerSpec}
    {attachment : Attachment} (h : b.Matches listeners attachment) :
    staleListeners b listeners = [] ∧ missingListeners b listeners = [] ∧
      strangeGroups b attachment = [] := by
  refine ⟨?_, ?_, ?_⟩
  · rw [staleListeners, List.map_eq_nil_iff, List.filter_eq_nil_iff]
    intro l hl
    simpa using (h.keys l.key).mp (List.mem_map_of_mem hl)
  · rw [missingListeners, List.filter_eq_nil_iff]
    intro l hl
    simpa using (h.keys l.key).mpr (List.mem_map_of_mem hl)
  · simp [strangeGroups, h.attachments]

/-- Converging a balancer that matches its description calls for nothing. -/
theorem convergeBalancer_of_matches {b : Balancer} {spec : BalancerSpec} {attachment : Attachment}
    (h : b.Matches spec.listeners attachment) :
    convergeBalancer b spec attachment = Pure.pure b := by
  obtain ⟨hstale, hmissing, hstrange⟩ := h.plan_nil
  have hattached : b.attachments.contains attachment = true := by simp [h.attachments]
  rw [convergeBalancer, hstale, hmissing, hstrange]
  simp only [removeListeners, addListeners, detachGroups, hattached, if_true]
  rfl

/-! ## Converging -/

/-- A converged balancer matches its description. -/
theorem Balancer.ConvergedTo.matches {b r : Balancer} {listeners : List ListenerSpec}
    {attachment : Attachment} (h : b.ConvergedTo r listeners attachment) (hd : b.Distinct) :
    r.Matches listeners attachment where
  keys k := by
    obtain ⟨new, hnew, hr⟩ := h.listeners
    rw [hr]
    exact mem_keys_converged hd (keys_of_made hnew) k
  attachments := by
    rw [h.attachments, filter_notMem_strangeGroups hd attachment]
    split <;> rfl

/-- A run that ends well has carried out the whole plan. -/
theorem convergeBalancer_done {b r : Balancer} {spec : BalancerSpec} {attachment : Attachment}
    (hk : w.incidents.Keep Store.balancers) (hb : b ∈ w.store.balancers)
    (h : (convergeBalancer b spec attachment).run w = (.done r, w')) :
    b.ConvergedTo r spec.listeners attachment ∧
      w'.store.balancers = w.store.balancers.put r := by
  obtain ⟨b₁, w₁, h₁, h⟩ := run_bind_eq_done.mp h
  obtain ⟨b₂, w₂, h₂, h⟩ := run_bind_eq_done.mp h
  obtain ⟨b₃, w₃, h₃, h⟩ := run_bind_eq_done.mp h
  have hk₁ := keep_run hk h₁
  have hk₂ := keep_run hk₁ h₂
  obtain ⟨rfl, hs₁⟩ := removeListeners_done hk hb h₁
  obtain ⟨new, hnew, rfl, hs₂⟩ := addListeners_done hk₁ (Inventory.mem_of_eq_put hs₁) h₂
  obtain ⟨rfl, hs₃⟩ := detachGroups_done hk₂ (Inventory.mem_of_eq_put hs₂) h₃
  have hput : ∀ r : Balancer, r.id = b.id →
      w₃.store.balancers.put r = w.store.balancers.put r := by
    intro r hr
    rw [hs₃, hs₂, hs₁, Inventory.put_put, Inventory.put_put, Inventory.put_put] <;> exact hr
  dsimp only at h
  split at h
  · rename_i hattached
    cases h
    refine ⟨⟨rfl, ⟨new, hnew, rfl⟩, ?_⟩, ?_⟩
    · rw [if_pos (by simpa using hattached), List.append_nil]
    · exact (Inventory.put_of_mem (Inventory.mem_of_eq_put hs₃)).symm.trans (hput _ rfl)
  · rename_i hother
    obtain ⟨rfl, hs⟩ :=
      attachTargetGroup_done (keep_run hk₂ h₃) (Inventory.mem_of_eq_put hs₃) h
    refine ⟨⟨rfl, ⟨new, hnew, rfl⟩, ?_⟩, hs.trans (hput _ rfl)⟩
    rw [if_neg (by simpa using hother)]

/-! ## Creating -/

/-- What is created matches its description. -/
theorem Balancer.CreatedFrom.matches {r : Balancer} {spec : BalancerSpec} {attachment : Attachment}
    (h : r.CreatedFrom spec attachment) : r.Matches spec.listeners attachment where
  keys k := by rw [keys_of_made h.listeners]
  attachments := h.attachments

theorem createBalancer_eq_ok {s s' : Store} {request : BalancerRequest} {b : Balancer}
    (h : s.createBalancer request = (.ok b, s')) :
    (∀ other : Balancer, other ∈ s.balancers → other.name ≠ request.name) ∧
      (b.name = request.name ∧ b.type = request.type ∧
        List.Forall₂ Listener.MadeOf b.listeners request.listeners ∧
        b.attachments = request.attachments) ∧
      s'.balancers = s.balancers.put b := by
  rw [Store.createBalancer] at h
  split at h
  · cases h
  · rename_i hnone
    cases h
    refine ⟨fun other hother hname => hnone ?_, ⟨rfl, rfl, listenersFrom_made _ _, rfl⟩, rfl⟩
    exact List.any_eq_true.mpr ⟨other, Inventory.mem_values.mpr hother, by simpa using hname⟩

theorem createBalancer_eq_error {s s' : Store} {request : BalancerRequest} {e : CloudError}
    (h : s.createBalancer request = (.error e, s')) : s' = s := by
  rw [Store.createBalancer] at h
  split at h
  · cases h
    rfl
  · cases h

/-- A look-up that ends well has found the only balancer of the name, if any. -/
theorem findBalancer_done {name : String} {found : Option Balancer}
    (hk : w.incidents.KeepFor .findBalancer Store.balancers)
    (h : (ask (.findBalancer name)).run w = (.done found, w')) :
    w'.store.balancers = w.store.balancers ∧ w.store.balancersNamed name = found.toList := by
  have hcall := answer_eq_ok (run_ask_eq_done.mp h)
  have hsame := part_answer_of_keepFor hk fun s =>
    (s.answer_parts (.findBalancer name)).balancers rfl
  rw [run_ask_eq_done.mp h] at hsame
  refine ⟨hsame, ?_⟩
  have hfind : (w.met .findBalancer).findBalancer name = .ok found := congrArg Prod.fst hcall
  have hnamed : (w.met .findBalancer).balancersNamed name = w.store.balancersNamed name := by
    rw [Store.balancersNamed, part_met_of_keepFor hk, Store.balancersNamed]
  rw [Store.findBalancer, hnamed] at hfind
  cases found with
  | none => exact unique_eq_none_iff.mp hfind
  | some b => exact unique_eq_some_iff.mp hfind

/-- A deletion that succeeds takes away the balancer of the id and no other. -/
theorem deleteBalancer_done {id : String} (hk : w.incidents.Keep Store.balancers)
    (h : w.answer (.deleteBalancer id) = (some (.ok ()), w')) :
    w'.store.balancers = w.store.balancers.erase id := by
  have hcall : (w.met .deleteBalancer).deleteBalancer id = w'.store :=
    congrArg Prod.snd (answer_eq_ok h)
  rw [← hcall, Store.deleteBalancer, part_met hk]

theorem Store.balancersNamed_eq_nil_iff {st : Store} {name : String} :
    st.balancersNamed name = [] ↔ ∀ b ∈ st.balancers, b.name ≠ name := by
  rw [Store.balancersNamed, Inventory.filter_values_eq_nil_iff]
  simp

/-- A balancer that is put in place of all others of its name is the only one. -/
theorem Store.balancersNamed_put {st st' : Store} {name : String} {r : Balancer}
    (hname : r.name = name) (hothers : ∀ b ∈ st.balancers, b.name = name → b.id = r.id)
    (hs : st'.balancers = st.balancers.put r) : st'.balancersNamed name = [r] := by
  rw [Store.balancersNamed, hs]
  refine Inventory.filter_values_eq_singleton_iff.mpr
    ⟨Inventory.mem_of_eq_put rfl, beq_iff_eq.mpr hname, fun other hother hsame => ?_⟩
  rcases Inventory.mem_put.mp hother with rfl | ⟨hid, hother⟩
  · rfl
  · exact absurd (hothers other hother (beq_iff_eq.mp hsame)) hid

/-- Without its only balancer a name is unused. -/
theorem Store.balancersNamed_erase {st st' : Store} {name : String} {b : Balancer}
    (h : st.balancersNamed name = [b]) (hs : st'.balancers = st.balancers.erase b.id) :
    st'.balancersNamed name = [] := by
  obtain ⟨-, -, honly⟩ := Inventory.filter_values_eq_singleton_iff.mp h
  rw [Store.balancersNamed_eq_nil_iff, hs]
  intro other hother hname
  obtain ⟨hid, hother⟩ := Inventory.mem_erase.mp hother
  exact hid (by rw [honly other hother (beq_iff_eq.mpr hname)])

/-- A balancer that is converged stays the only one of its name. -/
theorem Balancer.ConvergedTo.named {st st' : Store} {name : String} {b r : Balancer}
    {listeners : List ListenerSpec} {attachment : Attachment}
    (h : b.ConvergedTo r listeners attachment) (hb : st.balancersNamed name = [b])
    (hs : st'.balancers = st.balancers.put r) : st'.balancersNamed name = [r] := by
  obtain ⟨-, hname, honly⟩ := Inventory.filter_values_eq_singleton_iff.mp hb
  refine Store.balancersNamed_put ?_ (fun other hother hsame => ?_) hs
  · rw [h.same]
    exact beq_iff_eq.mp hname
  · rw [honly other hother (beq_iff_eq.mpr hsame), h.same]

/-- If nobody has a balancer of the name, a run that ends well has created it: the
    way around a refused creation finds nothing. -/
theorem createBalancer_done {s : Settings} {spec : BalancerSpec} {attachment : Attachment}
    {r : Balancer} (hk : w.incidents.Keep Store.balancers)
    (hnone : w.store.balancersNamed spec.name = [])
    (h : (createBalancer s spec attachment).run w = (.done r, w')) :
    r.CreatedFrom spec attachment ∧ w'.store.balancersNamed spec.name = [r] := by
  obtain ⟨reply, w₁, ha, h⟩ := run_bind_eq_done.mp h
  have ha := run_answer_eq_done.mp ha
  cases reply with
  | ok b =>
    cases h
    obtain ⟨hnew, ⟨hname, htype, hmade, hatt⟩, hs⟩ := createBalancer_eq_ok (answer_eq_ok ha)
    rw [part_met hk] at hnew hs
    refine ⟨⟨hname, htype, hmade, hatt⟩, ?_⟩
    exact Store.balancersNamed_put hname
      (fun other hother hsame => absurd hsame (hnew other hother)) hs
  | error e =>
    have hsame : w₁.store.balancers = w.store.balancers := by
      rcases answer_eq_error ha with hs | hs
      · rw [hs, part_met hk]
      · rw [createBalancer_eq_error hs, part_met hk]
    have hk₁ := keep_answer hk (.createBalancer (balancerRequest s spec attachment))
    rw [ha] at hk₁
    dsimp only at h
    split at h
    · obtain ⟨found, w₂, hf, h₂⟩ := run_bind_eq_done.mp h
      obtain ⟨b, w₃, hr, -⟩ := run_bind_eq_done.mp h₂
      obtain ⟨rfl, -⟩ := run_require_eq_done.mp hr
      have hfound := (findBalancer_done (hk₁ _) hf).2
      rw [Store.balancersNamed, hsame] at hfound
      rw [Store.balancersNamed, hfound] at hnone
      cases hnone
    · cases h

/-! ## Placing -/

/-- Where a placed balancer comes from: the one of the name had the right type and was
    converged, or there was none of the right type and one was created. -/
inductive PlacedFrom (st : Store) (spec : BalancerSpec) (attachment : Attachment) (r : Balancer) :
    Prop
  | converged (b : Balancer) (here : st.balancersNamed spec.name = [b]) (type : b.type = spec.type)
      (h : b.ConvergedTo r spec.listeners attachment)
  | created (gone : ∀ b ∈ st.balancersNamed spec.name, b.type ≠ spec.type)
      (h : r.CreatedFrom spec attachment)

/-- The balancer of a name after a run that ends well, and where it comes from. -/
theorem placeBalancer_cases {s : Settings} {spec : BalancerSpec} {attachment : Attachment}
    {r : Balancer} (hk : w.incidents.Keep Store.balancers)
    (h : (placeBalancer s spec attachment).run w = (.done r, w')) :
    PlacedFrom w.store spec attachment r ∧ w'.store.balancersNamed spec.name = [r] := by
  obtain ⟨found, w₁, hf, h⟩ := run_bind_eq_done.mp h
  obtain ⟨hsame, hnamed⟩ := findBalancer_done (hk _) hf
  have hk₁ := keep_run hk hf
  have hnamed₁ : w₁.store.balancersNamed spec.name = found.toList := by
    rwa [Store.balancersNamed, hsame]
  cases found with
  | none =>
    obtain ⟨hcreated, hr⟩ := createBalancer_done hk₁ hnamed₁ h
    exact ⟨.created (by simp [hnamed]) hcreated, hr⟩
  | some existing =>
    obtain ⟨hmem, -, -⟩ := Inventory.filter_values_eq_singleton_iff.mp hnamed₁
    dsimp only at h
    split at h
    · rename_i htype
      obtain ⟨hconverged, hs⟩ := convergeBalancer_done hk₁ hmem h
      exact ⟨.converged existing hnamed htype hconverged, hconverged.named hnamed₁ hs⟩
    · rename_i htype
      obtain ⟨_, w₂, hdel, h⟩ := run_bind_eq_done.mp h
      have hgone := deleteBalancer_done hk₁ (run_ask_eq_done.mp hdel)
      obtain ⟨hcreated, hr⟩ := createBalancer_done (keep_run hk₁ hdel)
        (Store.balancersNamed_erase hnamed₁ hgone) h
      exact ⟨.created (by simpa [hnamed] using htype) hcreated, hr⟩

theorem PlacedFrom.type {st : Store} {spec : BalancerSpec} {attachment : Attachment} {r : Balancer}
    (h : PlacedFrom st spec attachment r) : r.type = spec.type := by
  cases h with
  | converged b here type h => rw [h.same, ← type]
  | created gone h => exact h.type

/-- The balancer of a name after a run that ends well is as described. -/
theorem placeBalancer_done {s : Settings} {spec : BalancerSpec} {attachment : Attachment}
    {r : Balancer} (hk : w.incidents.Keep Store.balancers)
    (hd : ∀ b ∈ w.store.balancersNamed spec.name, b.Distinct)
    (h : (placeBalancer s spec attachment).run w = (.done r, w')) :
    BalancerPlaced spec attachment r w'.store := by
  obtain ⟨hfrom, hr⟩ := placeBalancer_cases hk h
  refine ⟨hr, hfrom.type, ?_⟩
  cases hfrom with
  | converged b here type h => exact h.matches (hd b (by simp [here]))
  | created gone h => exact h.matches

end Runs

end CloudSteward
