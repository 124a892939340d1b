import CloudSteward.Proofs.Balancer.Edit
import CloudSteward.Proofs.Events
import Mathlib.Data.List.Perm.Subperm

/-!
# The plan behind a convergence

Converging a balancer carries out a plan that is made beforehand: first the removals, then
the additions, then what changes attachments. Wherever a run stops, it has carried out the
changes before the one it has stopped at. So what holds after every initial part of the plan
holds at every moment of every run.

Results:

* `convergeBalancer_eq_carryOut`: converging is carrying out the plan.
* `carryOut_run`, `carryOut_event`: how far a run has come when it ends, and at each of its
  calls.
* `Ends.isDone_iff`: a run ends well exactly if all its calls are answered.
* `uninterrupted_of_carried`: what holds after every initial part of the plan.
* `changePlan_eq_nil_iff`: exactly a balancer that matches needs no change.
* `convergeBalancer_minimal`: the calls of a run and the states between them.
-/

namespace CloudSteward

open Program

/-! ## Changes -/

/-- One change of a balancer. -/
inductive BalancerChange where
  | remove (name : String)
  | add (listener : ListenerSpec)
  | detach (group : String)
  | attach (attachment : Attachment)

namespace BalancerChange

/-- The call for a change. -/
def call (id : String) : BalancerChange → Call
  | .remove name => .removeListener id name
  | .add listener => .addListener id listener
  | .detach group => .detachTargetGroup id group
  | .attach attachment => .attachTargetGroup id attachment

/-- The call for a change, which has to succeed; gives the balancer as it is afterwards. -/
def request (id : String) : BalancerChange → Program Balancer
  | .remove name => ask (.removeListener id name)
  | .add listener => ask (.addListener id listener)
  | .detach group => ask (.detachTargetGroup id group)
  | .attach attachment => ask (.attachTargetGroup id attachment)

/-- What a change makes of a balancer. -/
inductive Makes : BalancerChange → Balancer → Balancer → Prop
  | remove (b : Balancer) (name : String) :
    Makes (.remove name) b { b with listeners := b.listeners.filter (·.name != name) }
  | add (b : Balancer) {l : ListenerSpec} {listener : Listener} (h : listener.MadeOf l) :
    Makes (.add l) b { b with listeners := b.listeners ++ [listener] }
  | detach (b : Balancer) (group : String) :
    Makes (.detach group) b
      { b with attachments := b.attachments.filter (·.targetGroupId != group) }
  | attach (b : Balancer) (a : Attachment) :
    Makes (.attach a) b { b with attachments := b.attachments ++ [a] }

theorem Makes.id_eq {c : BalancerChange} {b r : Balancer} (h : c.Makes b r) : r.id = b.id := by
  cases h <;> rfl

section Request

variable {w w' : World} {c : BalancerChange} {b r : Balancer}

theorem events_request (c : BalancerChange) (id : String) (w : World) :
    (c.request id).events w = [.called w (c.call id)] := by
  cases c <;> exact events_ask _ w

theorem answered_of_request {id : String} (h : (c.request id).run w = (.done r, w')) :
    (Event.called w (c.call id)).Answered := by
  cases c <;> exact ⟨_, congrArg Prod.fst (run_ask_eq_done.mp h)⟩

theorem stopsAt_of_request {id : String} {o : Outcome Balancer}
    (h : (c.request id).run w = (o, w')) (ho : o.isDone = false) :
    o.StopsAt w (c.call id) w' := by
  cases c <;> exact stopsAt_of_ask h ho

theorem request_done (hk : w.incidents.Keep Store.balancers) (hb : b ∈ w.store.balancers)
    (h : (c.request b.id).run w = (.done r, w')) :
    c.Makes b r ∧ w'.store.balancers = w.store.balancers.put r := by
  cases c with
  | remove name =>
    obtain ⟨rfl, hs⟩ := removeListener_done hk hb h
    exact ⟨.remove b name, hs⟩
  | add listener =>
    obtain ⟨made, hmade, rfl, hs⟩ := addListener_done hk hb h
    exact ⟨.add b hmade, hs⟩
  | detach group =>
    obtain ⟨rfl, hs⟩ := detachTargetGroup_done hk hb h
    exact ⟨.detach b group, hs⟩
  | attach attachment =>
    obtain ⟨rfl, hs⟩ := attachTargetGroup_done hk hb h
    exact ⟨.attach b attachment, hs⟩

/-- A change of a balancer that is refused changes none. -/
theorem changeBalancer_eq_error {s s' : Store} {id : String} {e : CloudError}
    {update : Balancer → Except CloudError Balancer}
    (h : s.changeBalancer id update = (.error e, s')) : s' = s := by
  rw [Store.changeBalancer] at h
  split at h
  · cases h
    rfl
  · split at h <;> cases h
    rfl

theorem balancers_of_refused (c : BalancerChange) (id : String) {s s' : Store} {e : CloudError}
    (h : s.answer (c.call id) = (.error e, s')) :
    s'.balancers = s.balancers := by
  cases c with
  | add listener =>
    have hsame := changeBalancer_eq_error (show s.addListener id listener = _ from h)
    rw [hsame]
    dsimp only
    split <;> rfl
  | remove name => rw [changeBalancer_eq_error (show s.removeListener id name = _ from h)]
  | detach group => rw [changeBalancer_eq_error (show s.detachTargetGroup id group = _ from h)]
  | attach a => rw [changeBalancer_eq_error (show s.attachTargetGroup id a = _ from h)]

/-- A change that does not go through leaves all balancers as they were. -/
theorem request_failed {id : String} {o : Outcome Balancer}
    (hk : w.incidents.Keep Store.balancers) (h : (c.request id).run w = (o, w'))
    (ho : o.isDone = false) : w'.store.balancers = w.store.balancers := by
  cases c with
  | remove name => exact part_of_ask_failed hk (balancers_of_refused (.remove name) id) h ho
  | add listener => exact part_of_ask_failed hk (balancers_of_refused (.add listener) id) h ho
  | detach group => exact part_of_ask_failed hk (balancers_of_refused (.detach group) id) h ho
  | attach a => exact part_of_ask_failed hk (balancers_of_refused (.attach a) id) h ho

end Request

end BalancerChange

/-! ## Plans -/

/-- Carries out changes one by one; gives the balancer as it is afterwards. -/
def carryOut (id : String) : List BalancerChange → Balancer → Program Balancer
  | [], current => .pure current
  | c :: rest, _ => do carryOut id rest (← c.request id)

/-- What carrying out changes makes of a balancer. -/
inductive Carried : List BalancerChange → Balancer → Balancer → Prop
  | nil (b : Balancer) : Carried [] b b
  | cons {c : BalancerChange} {rest : List BalancerChange} {b b₁ r : Balancer}
    (h : c.Makes b b₁) (hrest : Carried rest b₁ r) : Carried (c :: rest) b r

theorem Carried.id_eq {plan : List BalancerChange} {b r : Balancer} (h : Carried plan b r) :
    r.id = b.id := by
  induction h with
  | nil b => rfl
  | cons hmakes _ ih => rw [ih, hmakes.id_eq]

theorem Carried.split {p q : List BalancerChange} {b r : Balancer} (h : Carried (p ++ q) b r) :
    ∃ m, Carried p b m ∧ Carried q m r := by
  induction p generalizing b with
  | nil => exact ⟨b, .nil b, h⟩
  | cons c rest ih =>
    obtain ⟨_, _⟩ | ⟨hmakes, hrest⟩ := h
    obtain ⟨m, hm, hq⟩ := ih hrest
    exact ⟨m, .cons hmakes hm, hq⟩

/-- The changes that bring a balancer to a description. -/
def changePlan (b : Balancer) (wanted : List ListenerSpec) (attachment : Attachment) :
    List BalancerChange :=
  (staleListeners b wanted).map .remove ++ ((missingListeners b wanted).map .add ++
    ((strangeGroups b attachment).map .detach ++
      if b.attachments.contains attachment then [] else [.attach attachment]))

/-- The calls of the plan, as the balancer and the description give them. -/
theorem calls_changePlan (b : Balancer) (wanted : List ListenerSpec) (attachment : Attachment) :
    (changePlan b wanted attachment).map (·.call b.id) =
      (b.listeners.filter fun l => l.key ∉ wanted.map (·.key)).map
          (fun l => .removeListener b.id l.name) ++
        (wanted.filter fun l => l.key ∉ b.listeners.map (·.key)).map (.addListener b.id) ++
        (b.attachments.filter fun a => a ≠ attachment).map
          (fun a => .detachTargetGroup b.id a.targetGroupId) ++
        if attachment ∈ b.attachments then [] else [.attachTargetGroup b.id attachment] := by
  simp only [changePlan, staleListeners, missingListeners, strangeGroups, List.map_append,
    List.map_map, List.append_assoc, List.contains_eq_mem, decide_eq_true_eq,
    decide_not]
  split <;> rfl

section Programs

variable (id : String)

theorem carryOut_append (p q : List BalancerChange) (b : Balancer) :
    carryOut id (p ++ q) b = carryOut id p b >>= carryOut id q := by
  induction p generalizing b with
  | nil => rfl
  | cons c rest ih =>
    rw [List.cons_append, carryOut, carryOut, LawfulMonad.bind_assoc]
    exact bind_congr ih

theorem carryOut_removals (names : List String) (b : Balancer) :
    carryOut id (names.map .remove) b = removeListeners id names b := by
  induction names generalizing b with
  | nil => rfl
  | cons name rest ih => exact bind_congr ih

theorem carryOut_additions (l : List ListenerSpec) (b : Balancer) :
    carryOut id (l.map .add) b = addListeners id l b := by
  induction l generalizing b with
  | nil => rfl
  | cons listener rest ih => exact bind_congr ih

theorem carryOut_detachments (groups : List String) (b : Balancer) :
    carryOut id (groups.map .detach) b = detachGroups id groups b := by
  induction groups generalizing b with
  | nil => rfl
  | cons group rest ih => exact bind_congr ih

end Programs

/-- Converging a balancer is carrying out its plan. -/
theorem convergeBalancer_eq_carryOut (b : Balancer) (spec : BalancerSpec)
    (attachment : Attachment) :
    convergeBalancer b spec attachment =
      carryOut b.id (changePlan b spec.listeners attachment) b := by
  rw [convergeBalancer, changePlan, carryOut_append, carryOut_removals]
  refine bind_congr fun b₁ => ?_
  rw [carryOut_append, carryOut_additions]
  refine bind_congr fun b₂ => ?_
  rw [carryOut_append, carryOut_detachments]
  refine bind_congr fun b₃ => ?_
  split
  · rfl
  · exact (bind_pure _).symm

/-! ## Runs of a plan -/

/-- The call behind an event, if it is one. -/
def Event.call? : Event → Option Call
  | .called _ c => some c
  | .deleted _ _ | .wrote _ _ => none

/-- Events that carry out changes of a balancer: each change is called for in its turn, and
    each call is answered with a result. -/
structure CarriedOut (id : String) (changes : List BalancerChange) (b : Balancer)
    (events : List Event) (r : Balancer) : Prop where
  carried : Carried changes b r
  calls : events.map Event.call? = changes.map fun c => some (c.call id)
  answered : ∀ e ∈ events, e.Answered

/-- How a run of a plan ends, with its events and with what has become of the balancer: all
    of the plan is carried out, or a first part of it is, and the call for the change after
    that part has stopped the run. -/
inductive Ends (id : String) (b : Balancer) :
    List BalancerChange → List Event → Balancer → Outcome Balancer → World → Prop
  | whole {plan : List BalancerChange} {events : List Event} {r : Balancer} {w' : World}
    (carriedOut : CarriedOut id plan b events r) : Ends id b plan events r (.done r) w'
  | part {before after : List BalancerChange} {c : BalancerChange} {events : List Event}
    {r : Balancer} {o : Outcome Balancer} {w₁ w' : World}
    (carriedOut : CarriedOut id before b events r) (stops : o.StopsAt w₁ (c.call id) w') :
    Ends id b (before ++ c :: after) (events ++ [.called w₁ (c.call id)]) r o w'

section Runs

variable {w w' : World} {id : String} {b b₁ r : Balancer} {c : BalancerChange}
  {plan rest : List BalancerChange} {events : List Event} {o : Outcome Balancer}

theorem CarriedOut.nil (id : String) (b : Balancer) : CarriedOut id [] b [] b :=
  ⟨.nil b, rfl, fun _ he => nomatch he⟩

theorem CarriedOut.cons (hmakes : c.Makes b b₁)
    (hanswered : (Event.called w (c.call id)).Answered) (h : CarriedOut id rest b₁ events r) :
    CarriedOut id (c :: rest) b (.called w (c.call id) :: events) r where
  carried := .cons hmakes h.carried
  calls := congrArg (some (c.call id) :: ·) h.calls
  answered := List.forall_mem_cons.mpr ⟨hanswered, h.answered⟩

/-- Wherever a run ends, it has carried out a first part of the plan. -/
theorem Ends.exists_carried (h : Ends id b plan events r o w') :
    ∃ before, before <+: plan ∧ Carried before b r := by
  cases h with
  | whole carriedOut => exact ⟨plan, List.prefix_refl _, carriedOut.carried⟩
  | part carriedOut _ => exact ⟨_, List.prefix_append _ _, carriedOut.carried⟩

theorem Ends.id_eq (h : Ends id b plan events r o w') : r.id = b.id := by
  obtain ⟨_, -, hcarried⟩ := h.exists_carried
  exact hcarried.id_eq

/-- One more change before a run. -/
theorem Ends.cons (hmakes : c.Makes b b₁)
    (hanswered : (Event.called w (c.call id)).Answered) (h : Ends id b₁ rest events r o w') :
    Ends id b (c :: rest) (.called w (c.call id) :: events) r o w' := by
  cases h with
  | whole carriedOut => exact .whole (.cons hmakes hanswered carriedOut)
  | part carriedOut stops => exact .part (.cons hmakes hanswered carriedOut) stops

/-- A run ends well exactly if each of its calls is answered with a result. -/
theorem Ends.isDone_iff (h : Ends id b plan events r o w') :
    o.isDone = true ↔ ∀ e ∈ events, e.Answered := by
  cases h with
  | whole carriedOut => exact iff_of_true rfl carriedOut.answered
  | part carriedOut stops =>
    refine iff_of_false (by simp [stops.isDone]) fun hall => stops.not_answered ?_
    exact hall _ (List.mem_append_right _ (List.mem_singleton_self _))

/-- A run that does not end well stops at its last call; all calls before it are answered. -/
theorem Ends.stopsAt (h : Ends id b plan events r o w') (ho : o.isDone = false) :
    ∃ before w₁ c, events = before ++ [.called w₁ c] ∧ (∀ e ∈ before, e.Answered) ∧
      o.StopsAt w₁ c w' := by
  cases h with
  | whole carriedOut => cases ho
  | part carriedOut stops => exact ⟨_, _, _, rfl, carriedOut.answered, stops⟩

theorem events_carryOut_cons :
    (carryOut id (c :: rest) b).events w = .called w (c.call id) ::
      match (c.request id).run w with
      | (.done b₁, w₁) => (carryOut id rest b₁).events w₁
      | _ => [] := by
  rw [carryOut, events_bind, BalancerChange.events_request]
  rcases (c.request id).run w with ⟨_ | _ | _ | _, w₁⟩ <;> rfl

/-- Every run of a plan ends in one of these ways, by induction on the plan; the store has
    what has become of the balancer, and the others are as they were. -/
theorem carryOut_run (hk : w.incidents.Keep Store.balancers) (hb : b ∈ w.store.balancers)
    (hid : b.id = id) (h : (carryOut id plan b).run w = (o, w')) :
    ∃ r, Ends id b plan ((carryOut id plan b).events w) r o w' ∧
      w'.store.balancers = w.store.balancers.put r := by
  induction plan generalizing w b with
  | nil =>
    cases h
    exact ⟨b, .whole (.nil id b), (Inventory.put_of_mem hb).symm⟩
  | cons c rest ih =>
    subst hid
    rw [events_carryOut_cons]
    rcases run_bind_cases h with ⟨-, o₁, hfail, ho₁⟩ | ⟨b₁, w₁, hdone, hrest⟩
    · have hstops := (BalancerChange.stopsAt_of_request hfail ho₁).bind hfail h
      refine ⟨b, ?_, ?_⟩
      · rw [hfail]
        cases o₁ with
        | done b₁ => cases ho₁
        | failed e | aborted | hung => exact .part (.nil b.id b) hstops
      · rw [BalancerChange.request_failed hk hfail ho₁, Inventory.put_of_mem hb]
    · obtain ⟨hmakes, hs₁⟩ := BalancerChange.request_done hk hb hdone
      obtain ⟨r, hends, hs⟩ := ih (keep_run hk hdone) (Inventory.mem_of_eq_put hs₁)
        hmakes.id_eq hrest
      refine ⟨r, ?_, ?_⟩
      · rw [hdone]
        exact .cons hmakes (BalancerChange.answered_of_request hdone) hends
      · rw [hs, hs₁, Inventory.put_put]
        exact hends.id_eq

/-- When a run makes a call, it has carried out what comes before the call in the plan. -/
theorem carryOut_event {e : Event} (hk : w.incidents.Keep Store.balancers)
    (hb : b ∈ w.store.balancers) (hid : b.id = id) (he : e ∈ (carryOut id plan b).events w) :
    ∃ carried c rest r w₁, plan = carried ++ c :: rest ∧ e = .called w₁ (c.call id) ∧
      Carried carried b r ∧ w₁.store.balancers = w.store.balancers.put r := by
  induction plan generalizing w b with
  | nil => cases he
  | cons c rest ih =>
    subst hid
    rw [events_carryOut_cons] at he
    rcases List.mem_cons.mp he with rfl | he
    · exact ⟨[], c, rest, b, w, rfl, rfl, .nil b, (Inventory.put_of_mem hb).symm⟩
    · split at he
      · rename_i b₁ w₁ hdone
        obtain ⟨hmakes, hs₁⟩ := BalancerChange.request_done hk hb hdone
        obtain ⟨carried, c', rest', r, w₂, rfl, rfl, hcarried, hs⟩ :=
          ih (keep_run hk hdone) (Inventory.mem_of_eq_put hs₁) hmakes.id_eq he
        refine ⟨c :: carried, c', rest', r, w₂, rfl, rfl, .cons hmakes hcarried, ?_⟩
        rw [hs, hs₁, Inventory.put_put]
        exact hcarried.id_eq
      · cases he

end Runs

/-! ## What a first part of the plan makes of a balancer -/

/-- The listeners of a balancer on its way to a description: the wanted ones are as they were,
    no unwanted one is new, and there are no more than there were or are wanted. -/
structure Balancer.Uninterrupted (b r : Balancer) (wanted : List ListenerSpec) : Prop where
  kept : ∀ l ∈ b.listeners, l.key ∈ wanted.map (·.key) → l ∈ r.listeners
  added : ∀ l ∈ r.listeners, l ∈ b.listeners ∨ l.key ∈ wanted.map (·.key)
  count : r.listeners.length ≤ max b.listeners.length wanted.length

/-- Whether a change adds a listener. -/
def BalancerChange.isAddition : BalancerChange → Bool
  | .add _ => true
  | .remove _ | .detach _ | .attach _ => false

section Listeners

variable {b r r' : Balancer} {wanted : List ListenerSpec} {attachment : Attachment}
  {c : BalancerChange}

theorem remove_mem_changePlan {name : String}
    (h : .remove name ∈ changePlan b wanted attachment) : name ∈ staleListeners b wanted := by
  rcases List.mem_append.mp h with h | h
  · obtain ⟨name', hstale, ⟨⟩⟩ := List.mem_map.mp h
    exact hstale
  · split at h <;> simp at h

theorem add_mem_changePlan {l : ListenerSpec} (h : .add l ∈ changePlan b wanted attachment) :
    l ∈ wanted := by
  rcases List.mem_append.mp h with h | h
  · simp at h
  rcases List.mem_append.mp h with h | h
  · obtain ⟨l', hmissing, ⟨⟩⟩ := List.mem_map.mp h
    exact (List.mem_filter.mp hmissing).1
  · split at h <;> simp at h

/-- No change of the plan takes away a listener whose key is wanted: what is removed is known
    by name, and the name tells listeners apart. -/
theorem kept_of_makes (hd : b.Distinct) (hc : c ∈ changePlan b wanted attachment)
    (h : c.Makes r r') {l : Listener} (hl : l ∈ b.listeners)
    (hkey : l.key ∈ wanted.map (·.key)) (hr : l ∈ r.listeners) : l ∈ r'.listeners := by
  cases h with
  | remove name =>
    refine List.mem_filter.mpr ⟨hr, bne_iff_ne.mpr ?_⟩
    rintro rfl
    exact (notMem_staleListeners hd hl).mpr hkey (remove_mem_changePlan hc)
  | add => exact List.mem_append_left _ hr
  | detach | attach => exact hr

/-- A change of the plan adds none but wanted listeners. -/
theorem added_of_makes (hc : c ∈ changePlan b wanted attachment) (h : c.Makes r r')
    {l : Listener} (hl : l ∈ r'.listeners) : l ∈ r.listeners ∨ l.key ∈ wanted.map (·.key) := by
  cases h with
  | remove name => exact .inl (List.mem_filter.mp hl).1
  | add _ made =>
    rcases List.mem_append.mp hl with hl | hl
    · exact .inl hl
    · obtain rfl := List.mem_singleton.mp hl
      obtain ⟨n, rfl⟩ := made
      exact .inr (List.mem_map.mpr ⟨_, add_mem_changePlan hc, (listenerFrom_key n _).symm⟩)
  | detach | attach => exact .inl hl

theorem length_of_makes (h : c.Makes r r') :
    r'.listeners.length ≤ r.listeners.length + [c].countP BalancerChange.isAddition := by
  cases h with
  | remove name => exact List.length_filter_le _ _
  | add => simp [BalancerChange.isAddition]
  | detach | attach => exact Nat.le_add_right _ _

/-- There are at most as many listeners as there were and have been added. -/
theorem length_of_carried {p : List BalancerChange} (h : Carried p b r) :
    r.listeners.length ≤ b.listeners.length + p.countP BalancerChange.isAddition := by
  induction h with
  | nil b => exact Nat.le_add_right _ _
  | cons hmakes _ ih =>
    have hstep := length_of_makes hmakes
    rw [← List.singleton_append, List.countP_append]
    omega

/-- When all removals are carried out, what is not stale is left. -/
theorem listeners_of_removed {names : List String} (h : Carried (names.map .remove) b r) :
    r.listeners = b.listeners.filter fun l => l.name ∉ names := by
  induction names generalizing b with
  | nil =>
    cases h
    simp
  | cons name rest ih =>
    obtain ⟨_, _⟩ | ⟨hmakes, hrest⟩ := h
    cases hmakes
    rw [ih hrest, filter_notMem_cons]

/-- What is kept and what is missing is together no more than is wanted, as no two kept
    listeners have one key. -/
theorem length_kept_add_missing (hd : b.Distinct) (hkeys : (b.listeners.map (·.key)).Nodup)
    (wanted : List ListenerSpec) :
    (keptListeners b wanted).length + (missingListeners b wanted).length ≤ wanted.length := by
  have hsubset : (keptListeners b wanted).map (·.key) ⊆
      (wanted.filter fun l => (b.listeners.map (·.key)).contains l.key).map (·.key) := by
    intro k hk
    obtain ⟨l, hl, rfl⟩ := List.mem_map.mp hk
    obtain ⟨hl, hname⟩ := List.mem_filter.mp hl
    obtain ⟨d, hd', hkey⟩ :=
      List.mem_map.mp ((notMem_staleListeners hd hl).mp (by simpa using hname))
    refine List.mem_map.mpr ⟨d, List.mem_filter.mpr ⟨hd', ?_⟩, hkey⟩
    rw [hkey]
    simpa using ⟨l, hl, rfl⟩
  have hnodup : ((keptListeners b wanted).map (·.key)).Nodup :=
    hkeys.sublist (List.filter_sublist.map _)
  have hkept := (hnodup.subperm hsubset).length_le
  rw [List.length_map, List.length_map] at hkept
  have hsplit := List.length_eq_length_filter_add (l := wanted)
    fun l => (b.listeners.map (·.key)).contains l.key
  rw [missingListeners]
  omega

theorem kept_of_carried {p : List BalancerChange} (hd : b.Distinct)
    (hp : ∀ c ∈ p, c ∈ changePlan b wanted attachment) {first : Balancer}
    (h : Carried p first r) {l : Listener} (hl : l ∈ b.listeners)
    (hkey : l.key ∈ wanted.map (·.key)) (hfirst : l ∈ first.listeners) : l ∈ r.listeners := by
  induction h with
  | nil => exact hfirst
  | cons hmakes _ ih =>
    rw [List.forall_mem_cons] at hp
    exact ih hp.2 (kept_of_makes hd hp.1 hmakes hl hkey hfirst)

theorem added_of_carried {p : List BalancerChange}
    (hp : ∀ c ∈ p, c ∈ changePlan b wanted attachment) {first : Balancer}
    (h : Carried p first r) {l : Listener} (hl : l ∈ r.listeners) :
    l ∈ first.listeners ∨ l.key ∈ wanted.map (·.key) := by
  induction h with
  | nil => exact .inl hl
  | cons hmakes _ ih =>
    rw [List.forall_mem_cons] at hp
    rcases ih hp.2 hl with hl | hkey
    · exact added_of_makes hp.1 hmakes hl
    · exact .inr hkey

/-- The additions of the plan are the missing listeners. -/
theorem countP_additions (b : Balancer) (wanted : List ListenerSpec) (attachment : Attachment) :
    ((missingListeners b wanted).map BalancerChange.add ++
      ((strangeGroups b attachment).map BalancerChange.detach ++
        if b.attachments.contains attachment then []
        else [BalancerChange.attach attachment])).countP
      BalancerChange.isAddition = (missingListeners b wanted).length := by
  split <;> simp [List.countP_map, Function.comp_def, BalancerChange.isAddition]

/-- The removals come first, so the additions only fill up what is kept. -/
theorem count_of_carried (hd : b.Distinct) (hkeys : (b.listeners.map (·.key)).Nodup)
    {p : List BalancerChange} (hp : p <+: changePlan b wanted attachment) (h : Carried p b r) :
    r.listeners.length ≤ max b.listeners.length wanted.length := by
  rw [changePlan] at hp
  rcases List.prefix_or_prefix_of_prefix hp (List.prefix_append _ _) with hremovals | ⟨q, rfl⟩
  · have hnone : p.countP BalancerChange.isAddition = 0 := by
      refine List.countP_eq_zero.mpr fun c hc => ?_
      obtain ⟨name, -, rfl⟩ := List.mem_map.mp (hremovals.subset hc)
      exact Bool.false_ne_true
    have hlength := length_of_carried h
    omega
  · obtain ⟨m, hremoved, hq⟩ := h.split
    have hkept : m.listeners = keptListeners b wanted := listeners_of_removed hremoved
    have hadditions := ((List.prefix_append_right_inj _).mp hp).sublist.countP_le
      (p := BalancerChange.isAddition)
    rw [countP_additions] at hadditions
    have hlength := length_of_carried hq
    have hfit := length_kept_add_missing hd hkeys wanted
    rw [hkept] at hlength
    omega

/-- What holds after every first part of the plan. -/
theorem uninterrupted_of_carried (hd : b.Distinct) (hkeys : (b.listeners.map (·.key)).Nodup)
    {p : List BalancerChange} (hp : p <+: changePlan b wanted attachment) (h : Carried p b r) :
    b.Uninterrupted r wanted where
  kept _ hl hkey := kept_of_carried hd (fun _ hc => hp.subset hc) h hl hkey hl
  added _ hl := added_of_carried (fun _ hc => hp.subset hc) h hl
  count := count_of_carried hd hkeys hp h

/-- Exactly a balancer that matches the description needs no change. -/
theorem changePlan_eq_nil_iff (hd : b.Distinct) :
    changePlan b wanted attachment = [] ↔ b.Matches wanted attachment := by
  constructor
  · intro h
    simp only [changePlan, List.append_eq_nil_iff, List.map_eq_nil_iff] at h
    obtain ⟨hstale, hmissing, hstrange, hattached⟩ := h
    refine ⟨fun k => ⟨fun hk => ?_, fun hk => ?_⟩, ?_⟩
    · obtain ⟨l, hl, rfl⟩ := List.mem_map.mp hk
      exact (notMem_staleListeners hd hl).mp (by simp [hstale])
    · obtain ⟨l, hl, rfl⟩ := List.mem_map.mp hk
      rw [missingListeners, List.filter_eq_nil_iff] at hmissing
      simpa using hmissing l hl
    · have hmem : attachment ∈ b.attachments := by
        by_contra hnot
        simp [hnot] at hattached
      have honly := filter_notMem_strangeGroups hd attachment
      rw [if_pos hmem, hstrange] at honly
      simpa using honly
  · intro h
    obtain ⟨hstale, hmissing, hstrange⟩ := h.plan_nil
    simp [changePlan, hstale, hmissing, hstrange, h.attachments]

end Listeners

/-! ## Minimal convergence -/

/-- **Minimal convergence.** Converge a balancer whose listeners differ in name and in key and
    whose attachments differ in group. Whenever a call is made, and wherever the run ends, no
    other balancer has changed, and the listeners are uninterrupted. There is a plan: removals
    of the unwanted listeners, additions of the missing ones, detachments of the groups that
    are not wanted as they are, and the attachment if it is missing; it is empty exactly if
    the balancer matches. The run carries out the whole plan and ends well, or it stops at
    the first call of the plan that fails or never returns: what comes before that call is
    carried out, and nothing follows it. So it ends well exactly if every call is answered. -/
theorem convergeBalancer_minimal {w w' : World} {b : Balancer} {spec : BalancerSpec}
    {attachment : Attachment} {o : Outcome Balancer} (hk : w.incidents.Keep Store.balancers)
    (hb : b ∈ w.store.balancers) (hd : b.Distinct) (hkeys : (b.listeners.map (·.key)).Nodup)
    (h : (convergeBalancer b spec attachment).run w = (o, w')) :
    (∀ st, (st = w'.store ∨
        ∃ w₁ c, .called w₁ c ∈ (convergeBalancer b spec attachment).events w ∧ st = w₁.store) →
      ∃ r, st.balancers = w.store.balancers.put r ∧ r.id = b.id ∧
        b.Uninterrupted r spec.listeners) ∧
      ∃ plan r,
        plan.map (·.call b.id) =
          (b.listeners.filter fun l => l.key ∉ spec.listeners.map (·.key)).map
              (fun l => Call.removeListener b.id l.name) ++
            (spec.listeners.filter fun l => l.key ∉ b.listeners.map (·.key)).map
              (.addListener b.id) ++
            (b.attachments.filter fun a => a ≠ attachment).map
              (fun a => .detachTargetGroup b.id a.targetGroupId) ++
            (if attachment ∈ b.attachments then [] else [.attachTargetGroup b.id attachment]) ∧
        (plan = [] ↔ b.Matches spec.listeners attachment) ∧
        Ends b.id b plan ((convergeBalancer b spec attachment).events w) r o w' ∧
        w'.store.balancers = w.store.balancers.put r ∧
        (o.isDone = true ↔ ∀ e ∈ (convergeBalancer b spec attachment).events w, e.Answered) := by
  rw [convergeBalancer_eq_carryOut] at h ⊢
  obtain ⟨r, hends, hs⟩ := carryOut_run hk hb rfl h
  refine ⟨?_, _, r, calls_changePlan b spec.listeners attachment, changePlan_eq_nil_iff hd,
    hends, hs, hends.isDone_iff⟩
  rintro st (rfl | ⟨w₁, c, he, rfl⟩)
  · obtain ⟨carried, hprefix, hcarried⟩ := hends.exists_carried
    exact ⟨r, hs, hends.id_eq, uninterrupted_of_carried hd hkeys hprefix hcarried⟩
  · obtain ⟨carried, c', rest, r', w₂, hplan, he', hcarried, hs'⟩ := carryOut_event hk hb rfl he
    cases he'
    exact ⟨r', hs', hcarried.id_eq,
      uninterrupted_of_carried hd hkeys (hplan ▸ List.prefix_append _ _) hcarried⟩

namespace Sample

/-- A listener that the service with a second port wants. -/
def wantedListener : Listener := ⟨"web", "203.0.113.8", 80, .tcp, 30080, "", .ipv4⟩

/-- The outdated balancer with a listener that is wanted beside the other. -/
def halfOutdated : Balancer := { outdated with listeners := wantedListener :: outdated.listeners }

/-- The listener for the second port. -/
def newListener : ListenerSpec := ⟨"https", 443, .tcp, 30443, some ⟨none, .ipv4⟩, none⟩

/-- The small cluster with that balancer. The first addition of a listener fails. -/
def halfOutdatedWorld : World :=
  { World.ofStore { store with balancers := Inventory.empty.put halfOutdated } with
    incidents := failingOnce .addListener .http }

end Sample

open Sample in
/-- A convergence that stops at the addition has called for the removal before it and then
    for the addition, which has failed, and the wanted listener is still there. -/
theorem convergeBalancer_minimal_halfOutdated :
    ((convergeBalancer halfOutdated (specWith extended) ⟨"group", []⟩).run
        halfOutdatedWorld).1 = .failed (.cloud .http) ∧
      (∃ w₁ w₂, (convergeBalancer halfOutdated (specWith extended) ⟨"group", []⟩).events
          halfOutdatedWorld =
            [.called w₁ (.removeListener "nlb" "old"),
              .called w₂ (.addListener "nlb" newListener)] ∧
        (Event.called w₁ (.removeListener "nlb" "old")).Answered ∧
        (w₂.answer (.addListener "nlb" newListener)).1 = some (.error .http)) ∧
      ∃ r : Balancer,
        ((convergeBalancer halfOutdated (specWith extended) ⟨"group", []⟩).run
          halfOutdatedWorld).2.store.balancers = halfOutdatedWorld.store.balancers.put r ∧
        wantedListener ∈ r.listeners ∧ r.listeners.length ≤ 2 := by
  have h : (convergeBalancer halfOutdated (specWith extended) ⟨"group", []⟩).run
      halfOutdatedWorld = (.failed (.cloud .http),
        ((convergeBalancer halfOutdated (specWith extended) ⟨"group", []⟩).run
          halfOutdatedWorld).2) := by
    rfl
  have hb : halfOutdated ∈ halfOutdatedWorld.store.balancers := Inventory.mem_of_eq_put rfl
  obtain ⟨hstates, plan, r', -, -, hends, -, -⟩ :=
    convergeBalancer_minimal (keep_of_no_intrusions (fun _ => rfl) _) hb
      ⟨by decide, by decide⟩ (by decide) h
  obtain ⟨r, hs, -, hlisteners⟩ := hstates _ (.inl rfl)
  refine ⟨by rw [h], ?_, r, hs, hlisteners.kept _ (by decide) (by decide), hlisteners.count⟩
  obtain ⟨before, w₂, c, hevents, hanswered, hstops⟩ := hends.stopsAt rfl
  have hcalls : ∃ w₁ w₂, (convergeBalancer halfOutdated (specWith extended) ⟨"group", []⟩).events
      halfOutdatedWorld =
        [.called w₁ (.removeListener "nlb" "old"), .called w₂ (.addListener "nlb" newListener)] :=
    ⟨_, _, rfl⟩
  obtain ⟨w₁, _, hcalls⟩ := hcalls
  have hsplit : [_] ++ [_] = before ++ [Event.called w₂ c] := hcalls.symm.trans hevents
  obtain ⟨rfl, hlast⟩ := List.append_inj' hsplit rfl
  cases hlast
  cases hstops with
  | failed answer =>
    exact ⟨w₁, w₂, hcalls, hanswered _ (List.mem_singleton_self _), congrArg Prod.fst answer⟩

end CloudSteward
