import CloudSteward.Proofs.Run

/-!
# What happens in a run

The events of a run are its requests in their order, each with the world it was
made in; how a request was answered can be read off that world.

Results:

* `events_bind`, `events_attempt`: the events of a composed program and of an attempt.
* `permitted_of_mem_events`: only permitted steps happen.
* `mem_writes_iff`, `writes_bind_of_done`: the writes of a run, with their answers.
* `strict_bind`: programs that end well only if all their calls are answered.
* `stopsAt_of_ask`, `StopsAt.bind`: the call at which a run stops.
-/

namespace CloudSteward

open Program

variable {α β : Type}

/-- A request of a run, in the world it was made in. -/
inductive Event where
  | called (w : World) (c : Call)
  | deleted (w : World) (ids : List String)
  | wrote (w : World) (c : ClusterWrite)

/-- The events of a run. -/
def Program.events : Program α → World → List Event
  | .pure _, _ | .fail _, _ | .abort, _ => []
  | .call c next, w =>
    .called w c ::
      match w.answer c with
      | (none, _) => []
      | (some reply, w) => (next reply).events w
  | .deleteGroups ids next, w =>
    .deleted w ids ::
      match w.deleteGroups World.deleteSlots ids with
      | (none, _) => []
      | (some reply, w) => (next reply).events w
  | .write c next, w => .wrote w c :: (next (w.write c).1).events (w.write c).2
  | .visited next, w => (next w.visited).events w
  | .remember names next, w => next.events { w with visited := names }

@[simp] theorem events_pure (a : α) (w : World) : (Pure.pure a : Program α).events w = [] := rfl

theorem events_answer (c : Call) (w : World) : (Program.answer c).events w = [.called w c] := by
  rw [Program.answer, Program.events]
  rcases w.answer c with ⟨_ | r, w₁⟩ <;> rfl

theorem mem_events_answer (c : Call) (w : World) : .called w c ∈ (Program.answer c).events w := by
  rw [events_answer]
  exact List.mem_singleton_self _

theorem events_bind (p : Program α) (f : α → Program β) (w : World) :
    (p >>= f).events w = p.events w ++
      match p.run w with
      | (.done a, w₁) => (f a).events w₁
      | _ => [] := by
  show (p.bind f).events w = _
  induction p generalizing w with
  | pure a => rfl
  | fail e => rfl
  | abort => rfl
  | call c next ih =>
    simp only [Program.bind, Program.events, Program.run]
    rcases w.answer c with ⟨_ | reply, w₁⟩
    · rfl
    · simp only [ih, List.cons_append]
  | deleteGroups ids next ih =>
    simp only [Program.bind, Program.events, Program.run]
    rcases w.deleteGroups World.deleteSlots ids with ⟨_ | reply, w₁⟩
    · rfl
    · simp only [ih, List.cons_append]
  | write c next ih => simp only [Program.bind, Program.events, Program.run, ih, List.cons_append]
  | visited next ih => exact ih _ _
  | remember names next ih => exact ih _

theorem events_bind_pure {p : Program α} {g : α → β} (w : World) :
    (p >>= fun a => Pure.pure (g a)).events w = p.events w := by
  rw [events_bind]
  split <;> simp

theorem events_ask (c : Call) (w : World) : (ask c).events w = [.called w c] := by
  rw [ask, Program.events]
  rcases w.answer c with ⟨_ | e | r, w₁⟩ <;> rfl

/-- An attempt makes the requests of what is attempted. -/
theorem events_attempt (p : Program α) (w : World) : p.attempt.events w = p.events w := by
  induction p generalizing w with
  | pure a => rfl
  | fail e => rfl
  | abort => rfl
  | call c next ih =>
    simp only [attempt, Program.events]
    rcases w.answer c with ⟨_ | reply, w₁⟩
    · rfl
    · simp only [ih]
  | deleteGroups ids next ih =>
    simp only [attempt, Program.events]
    rcases w.deleteGroups World.deleteSlots ids with ⟨_ | reply, w₁⟩
    · rfl
    · simp only [ih]
  | write c next ih => simp only [attempt, Program.events, ih]
  | visited next ih => exact ih _ _
  | remember names next ih => exact ih _

theorem mem_events_bind_left {p : Program α} {w : World} {e : Event} (he : e ∈ p.events w)
    (f : α → Program β) : e ∈ (p >>= f).events w := by
  rw [events_bind]
  exact List.mem_append_left _ he

theorem mem_events_bind_right {p : Program α} {f : α → Program β} {w w₁ : World} {a : α}
    {e : Event} (hp : p.run w = (.done a, w₁)) (he : e ∈ (f a).events w₁) :
    e ∈ (p >>= f).events w := by
  rw [events_bind, hp]
  exact List.mem_append_right _ he

/-! ## Permitted events -/

/-- Whether the steps behind an event are permitted. -/
def Event.Permitted (ok : Action → Prop) : Event → Prop
  | .called _ c => ok (.call c)
  | .deleted _ ids => ∀ id ∈ ids, ok (.call (.deleteTargetGroup id))
  | .wrote _ c => ok (.write c)

theorem permitted_of_mem_events {ok : Action → Prop} {p : Program α} (hp : p.Within ok)
    {w : World} {e : Event} (he : e ∈ p.events w) : e.Permitted ok := by
  induction p generalizing w with
  | pure a => cases he
  | fail e => cases he
  | abort => cases he
  | call c next ih =>
    rw [Program.events] at he
    rcases List.mem_cons.mp he with rfl | he
    · exact hp.1
    · split at he
      · cases he
      · exact ih _ (hp.2 _) he
  | deleteGroups ids next ih =>
    rw [Program.events] at he
    rcases List.mem_cons.mp he with rfl | he
    · exact hp.1
    · split at he
      · cases he
      · exact ih _ (hp.2 _) he
  | write c next ih =>
    rcases List.mem_cons.mp he with rfl | he
    · exact hp.1
    · exact ih _ (hp.2 _) he
  | visited next ih => exact ih _ (hp _) he
  | remember names next ih => exact ih hp.2 he

/-! ## Writes -/

/-- A write to the cluster with its answer. -/
abbrev AnsweredWrite := ClusterWrite × Except WriteError Unit

/-- The write behind an event, if it is one. -/
def Event.write? : Event → Option AnsweredWrite
  | .wrote w c => some (c, (w.write c).1)
  | .called _ _ | .deleted _ _ => none

/-- The writes of a run in their order. -/
def Program.writes (p : Program α) (w : World) : List AnsweredWrite :=
  (p.events w).filterMap Event.write?

theorem mem_writes_iff {p : Program α} {w : World} {x : AnsweredWrite} :
    x ∈ p.writes w ↔ ∃ w₁ c, .wrote w₁ c ∈ p.events w ∧ x = (c, (w₁.write c).1) := by
  rw [Program.writes, List.mem_filterMap]
  constructor
  · rintro ⟨e, he, hx⟩
    cases e with
    | wrote w₁ c => exact ⟨w₁, c, he, (Option.some.inj hx).symm⟩
    | called w₁ c => cases hx
    | deleted w₁ ids => cases hx
  · rintro ⟨w₁, c, he, rfl⟩
    exact ⟨_, he, rfl⟩

/-- A program that writes nothing has no writes. -/
theorem writes_eq_nil {ok : Action → Prop} {p : Program α} (hp : p.Within ok)
    (hok : ∀ c, ¬ ok (.write c)) (w : World) : p.writes w = [] := by
  rw [List.eq_nil_iff_forall_not_mem]
  intro x hx
  obtain ⟨w₁, c, he, -⟩ := mem_writes_iff.mp hx
  exact hok c (permitted_of_mem_events hp he)

@[simp] theorem writes_pure (a : α) (w : World) : (Pure.pure a : Program α).writes w = [] := rfl

theorem mem_writes_bind_left {p : Program α} {w : World} {x : AnsweredWrite}
    (hx : x ∈ p.writes w) (f : α → Program β) : x ∈ (p >>= f).writes w := by
  rw [Program.writes, events_bind, List.filterMap_append]
  exact List.mem_append_left _ hx

theorem writes_bind_of_done {p : Program α} {w w₁ : World} {a : α} (hp : p.run w = (.done a, w₁))
    (f : α → Program β) : (p >>= f).writes w = p.writes w ++ (f a).writes w₁ := by
  rw [Program.writes, events_bind, hp, List.filterMap_append]
  rfl

theorem writes_bind_of_not_done {p : Program α} {w w₁ : World} {o : Outcome α}
    (hp : p.run w = (o, w₁)) (ho : o.isDone = false) (f : α → Program β) :
    (p >>= f).writes w = p.writes w := by
  rw [Program.writes, events_bind, hp, Program.writes]
  cases o with
  | done a => cases ho
  | failed e => simp
  | aborted => simp
  | hung => simp

theorem writes_change (c : ClusterWrite) (w : World) :
    (change c).writes w = [(c, (w.write c).1)] := by
  have hwrote : Event.write? (.wrote w c) = some (c, (w.write c).1) := rfl
  rw [Program.writes, change, Program.events, List.filterMap_cons_some hwrote]
  cases (w.write c).1 <;> rfl

/-! ## Answered calls -/

/-- The call behind an event, if it is one, is answered with a result. -/
def Event.Answered : Event → Prop
  | .called w c => ∃ r, (w.answer c).1 = some (.ok r)
  | .deleted _ _ | .wrote _ _ => True

/-- A program that ends well only if each of its calls is answered with a result. -/
def Program.Strict (p : Program α) : Prop :=
  ∀ w a w', p.run w = (.done a, w') → ∀ e ∈ p.events w, e.Answered

theorem strict_pure (a : α) : (Pure.pure a : Program α).Strict := by
  intro w _ w' _ e he
  cases he

theorem strict_fail (e : SyncError) : (Program.fail e : Program α).Strict := by
  intro w a w' h
  cases h

theorem strict_require (o : Option α) (e : SyncError) : (require o e).Strict := by
  cases o with
  | none => exact strict_fail e
  | some a => exact strict_pure a

theorem strict_ask (c : Call) : (ask c).Strict := by
  intro w r w' h e he
  rw [events_ask, List.mem_singleton] at he
  subst he
  exact ⟨r, congrArg Prod.fst (run_ask_eq_done.mp h)⟩

theorem strict_bind {p : Program α} {f : α → Program β} (hp : p.Strict)
    (hf : ∀ a, (f a).Strict) : (p >>= f).Strict := by
  intro w b w' h e he
  obtain ⟨a, w₁, hp₁, hf₁⟩ := run_bind_eq_done.mp h
  rw [events_bind, hp₁] at he
  rcases List.mem_append.mp he with he | he
  · exact hp w a w₁ hp₁ e he
  · exact hf a w₁ b w' hf₁ e he

/-! ## The call at which a run stops -/

/-- What a call without a result makes of a run: it fails with the error of the call, or it
    waits for a call that never returns. -/
inductive Outcome.StopsAt : Outcome α → World → Call → World → Prop
  | failed {w w' : World} {c : Call} {e : CloudError}
    (answer : w.answer c = (some (.error e), w')) : StopsAt (.failed (.cloud e)) w c w'
  | hung {w w' : World} {c : Call} (answer : w.answer c = (none, w')) : StopsAt .hung w c w'

section StopsAt

variable {w w₁ w' : World} {c : Call}

theorem stopsAt_of_ask {o : Outcome c.Reply} (h : (ask c).run w = (o, w'))
    (ho : o.isDone = false) : o.StopsAt w c w' := by
  rw [ask, Program.run] at h
  rcases hanswer : w.answer c with ⟨_ | e | r, w₂⟩
  all_goals
    rw [hanswer] at h
    cases h
  · exact .hung hanswer
  · exact .failed hanswer
  · cases ho

namespace Outcome.StopsAt

theorem isDone {o : Outcome α} (h : o.StopsAt w c w') : o.isDone = false := by
  cases h <;> rfl

theorem not_answered {o : Outcome α} (h : o.StopsAt w c w') : ¬ (Event.called w c).Answered := by
  rintro ⟨r, hr⟩
  cases h with
  | failed answer | hung answer =>
    rw [answer] at hr
    cases hr

/-- Where the first part stops, the whole stops. -/
theorem bind {p : Program α} {f : α → Program β} {o : Outcome α} {o' : Outcome β} {w₂ : World}
    (h : o.StopsAt w₁ c w₂) (hp : p.run w = (o, w₂)) (hrun : (p >>= f).run w = (o', w')) :
    o'.StopsAt w₁ c w' := by
  change (p.bind f).run w = _ at hrun
  rw [run_bind, hp] at hrun
  cases h with
  | failed answer =>
    cases hrun
    exact .failed answer
  | hung answer =>
    cases hrun
    exact .hung answer

end Outcome.StopsAt

end StopsAt

end CloudSteward
