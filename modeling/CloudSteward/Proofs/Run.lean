import CloudSteward.Memory.World

/-!
# Runs of programs

How a run of a composed program splits into runs of its parts, and what all runs
of a program keep because every step that the program may take keeps it.

Results:

* `run_bind_eq_done`, `run_ask_eq_done`, `run_require_eq_done`: a run that ends well
  has gone well in each of its parts.
* `run_bind_cases`, `run_attempt`: any run of a composed program, and of an attempt.
* `run_frame`: what every permitted step keeps, every run keeps.
-/

namespace CloudSteward

open Program

variable {α β : Type}

/-! ## Runs that end well -/

@[simp] theorem run_pure (a : α) (w : World) :
    (Pure.pure a : Program α).run w = (.done a, w) := rfl

@[simp] theorem run_fail (e : SyncError) (w : World) :
    (Program.fail e : Program α).run w = (.failed e, w) := rfl

theorem run_bind_eq_done {p : Program α} {f : α → Program β} {w w' : World} {b : β} :
    (p >>= f).run w = (.done b, w') ↔
      ∃ a w₁, p.run w = (.done a, w₁) ∧ (f a).run w₁ = (.done b, w') := by
  show (p.bind f).run w = _ ↔ _
  rw [run_bind]
  rcases p.run w with ⟨a | e | _ | _, w₁⟩
  case done =>
    constructor
    · exact fun h => ⟨a, w₁, rfl, h⟩
    · rintro ⟨_, _, ⟨⟩, h⟩
      exact h
  all_goals simp

theorem run_answer_eq_done {c : Call} {w w' : World} {r : Except CloudError c.Reply} :
    (Program.answer c).run w = (.done r, w') ↔ w.answer c = (some r, w') := by
  rw [Program.answer, Program.run]
  rcases w.answer c with ⟨_ | r', w₁⟩
  · simp
  · simp [Program.run]

theorem run_ask_eq_done {c : Call} {w w' : World} {r : c.Reply} :
    (ask c).run w = (.done r, w') ↔ w.answer c = (some (.ok r), w') := by
  rw [ask, Program.run]
  rcases w.answer c with ⟨_ | e | r', w₁⟩
  · simp
  · simp
  · simp [Program.run]

theorem run_ask_done_iff {c : Call} {w : World} {r : c.Reply} :
    (∃ w', (ask c).run w = (.done r, w')) ↔ (w.answer c).1 = some (.ok r) := by
  simp only [run_ask_eq_done]
  constructor
  · rintro ⟨w', h⟩
    rw [h]
  · intro h
    exact ⟨_, Prod.ext h rfl⟩

theorem run_require_eq_done {o : Option α} {e : SyncError} {w w' : World} {a : α} :
    (require o e).run w = (.done a, w') ↔ o = some a ∧ w = w' := by
  cases o with
  | none => simp [require]
  | some b => simp [require, Program.run]

theorem run_change_eq_done {c : ClusterWrite} {w w' : World} :
    (change c).run w = (.done (), w') ↔ w.write c = (.ok (), w') := by
  rw [change, Program.run]
  rcases w.write c with ⟨e | _, w₁⟩
  · simp
  · simp [Program.run]

/-! ## Runs of any outcome -/

/-- Whether a run ended well. -/
def Outcome.isDone : Outcome α → Bool
  | .done _ => true
  | _ => false

theorem exists_of_isDone {o : Outcome α} (h : o.isDone = true) : ∃ a, o = .done a := by
  cases o with
  | done a => exact ⟨a, rfl⟩
  | failed e | aborted | hung => cases h

/-- Either the first part does not end well, and then nothing follows it, or the
    second part goes on from where the first has ended. -/
theorem run_bind_cases {p : Program α} {f : α → Program β} {w w' : World} {o : Outcome β}
    (h : (p >>= f).run w = (o, w')) :
    (o.isDone = false ∧ ∃ o₁, p.run w = (o₁, w') ∧ o₁.isDone = false) ∨
      ∃ a w₁, p.run w = (.done a, w₁) ∧ (f a).run w₁ = (o, w') := by
  change (p.bind f).run w = _ at h
  rw [run_bind] at h
  rcases hp : p.run w with ⟨a | e | _ | _, w₁⟩
  case done =>
    rw [hp] at h
    exact .inr ⟨a, w₁, rfl, h⟩
  all_goals
    rw [hp] at h
    cases h
    exact .inl ⟨rfl, _, rfl, rfl⟩

/-- A composed program fails with an error of its first part or of its second. -/
theorem run_bind_eq_failed {p : Program α} {f : α → Program β} {w w' : World} {e : SyncError} :
    (p >>= f).run w = (.failed e, w') ↔
      p.run w = (.failed e, w') ∨
        ∃ a w₁, p.run w = (.done a, w₁) ∧ (f a).run w₁ = (.failed e, w') := by
  show (p.bind f).run w = _ ↔ _
  rw [run_bind]
  rcases p.run w with ⟨a | e₁ | _ | _, w₁⟩
  case done =>
    constructor
    · exact fun h => .inr ⟨a, w₁, rfl, h⟩
    · rintro (⟨⟨⟩⟩ | ⟨_, _, ⟨⟩, h⟩)
      exact h
  all_goals simp

/-- An attempt ends well with the result or the error of what is attempted. -/
theorem run_attempt (p : Program α) (w : World) :
    p.attempt.run w =
      match p.run w with
      | (.done a, w) => (.done (.ok a), w)
      | (.failed e, w) => (.done (.error e), w)
      | (.aborted, w) => (.aborted, w)
      | (.hung, w) => (.hung, w) := by
  induction p generalizing w with
  | pure a => rfl
  | fail e => rfl
  | abort => rfl
  | call c next ih =>
    simp only [attempt, Program.run]
    rcases w.answer c with ⟨_ | reply, w₁⟩
    · rfl
    · exact ih reply w₁
  | deleteGroups ids next ih =>
    simp only [attempt, Program.run]
    rcases w.deleteGroups World.deleteSlots ids with ⟨_ | reply, w₁⟩
    · rfl
    · exact ih reply w₁
  | write c next ih => exact ih _ _
  | visited next ih => exact ih _ _
  | remember names next ih => exact ih _

/-- Changing the result of a program changes neither how it ends nor the world. -/
theorem run_bind_pure {p : Program α} {g : α → β} {w w' : World} {o : Outcome β}
    (h : (p >>= fun a => Pure.pure (g a)).run w = (o, w')) :
    ∃ o₁, p.run w = (o₁, w') ∧ o₁.isDone = o.isDone := by
  rcases run_bind_cases h with ⟨ho, o₁, hp, ho₁⟩ | ⟨a, w₁, hp, h⟩
  · exact ⟨o₁, hp, by rw [ho₁, ho]⟩
  · cases h
    exact ⟨_, hp, rfl⟩

/-! ## Permitted steps -/

/-- A step of a program that may change the world. -/
inductive Action where
  | call (c : Call)
  | write (c : ClusterWrite)
  | remember (names : Option NameSet)

/-- Every step that a program may take, whatever it is answered, is permitted. -/
def Program.Within (ok : Action → Prop) : Program α → Prop
  | .pure _ | .fail _ | .abort => True
  | .call c next => ok (.call c) ∧ ∀ r, (next r).Within ok
  | .deleteGroups ids next =>
    (∀ id ∈ ids, ok (.call (.deleteTargetGroup id))) ∧ ∀ r, (next r).Within ok
  | .write c next => ok (.write c) ∧ ∀ r, (next r).Within ok
  | .visited next => ∀ names, (next names).Within ok
  | .remember names next => ok (.remember names) ∧ next.Within ok

section Within

variable {ok : Action → Prop}

@[simp] theorem within_pure (a : α) : (Pure.pure a : Program α).Within ok := trivial

@[simp] theorem within_fail (e : SyncError) : (Program.fail e : Program α).Within ok := trivial

theorem within_of_forall (h : ∀ a, ok a) (p : Program α) : p.Within ok := by
  induction p with
  | pure a => trivial
  | fail e => trivial
  | abort => trivial
  | call c next ih => exact ⟨h _, ih⟩
  | deleteGroups ids next ih => exact ⟨fun _ _ => h _, ih⟩
  | write c next ih => exact ⟨h _, ih⟩
  | visited next ih => exact ih
  | remember names next ih => exact ⟨h _, ih⟩

theorem Program.Within.mono {ok' : Action → Prop} {p : Program α} (hp : p.Within ok)
    (h : ∀ a, ok a → ok' a) : p.Within ok' := by
  induction p with
  | pure a => trivial
  | fail e => trivial
  | abort => trivial
  | call c next ih => exact ⟨h _ hp.1, fun r => ih r (hp.2 r)⟩
  | deleteGroups ids next ih => exact ⟨fun id hm => h _ (hp.1 id hm), fun r => ih r (hp.2 r)⟩
  | write c next ih => exact ⟨h _ hp.1, fun r => ih r (hp.2 r)⟩
  | visited next ih => exact fun names => ih names (hp names)
  | remember names next ih => exact ⟨h _ hp.1, ih hp.2⟩

theorem within_bind {p : Program α} {f : α → Program β} (hp : p.Within ok)
    (hf : ∀ a, (f a).Within ok) : (p >>= f).Within ok := by
  show (p.bind f).Within ok
  induction p with
  | pure a => exact hf a
  | fail e => trivial
  | abort => trivial
  | call c next ih => exact ⟨hp.1, fun r => ih r (hp.2 r)⟩
  | deleteGroups ids next ih => exact ⟨hp.1, fun r => ih r (hp.2 r)⟩
  | write c next ih => exact ⟨hp.1, fun r => ih r (hp.2 r)⟩
  | visited next ih => exact fun names => ih names (hp names)
  | remember names next ih => exact ⟨hp.1, ih hp.2⟩

theorem within_answer {c : Call} (h : ok (.call c)) : (Program.answer c).Within ok :=
  ⟨h, fun _ => trivial⟩

theorem within_ask {c : Call} (h : ok (.call c)) : (ask c).Within ok := by
  refine ⟨h, fun r => ?_⟩
  cases r <;> trivial

theorem within_require (o : Option α) (e : SyncError) : (require o e).Within ok := by
  cases o <;> trivial

theorem within_change {c : ClusterWrite} (h : ok (.write c)) : (change c).Within ok := by
  refine ⟨h, fun r => ?_⟩
  cases r <;> trivial

end Within

/-- A relation between worlds that every permitted step keeps. -/
structure Frame (R : World → World → Prop) (ok : Action → Prop) : Prop where
  refl : ∀ w, R w w
  trans : ∀ {w₁ w₂ w₃}, R w₁ w₂ → R w₂ w₃ → R w₁ w₃
  call : ∀ w c, ok (.call c) → R w (w.answer c).2
  write : ∀ w c, ok (.write c) → R w (w.write c).2
  remember : ∀ w names, ok (.remember names) → R w { w with visited := names }

theorem Frame.deleteGroups {R : World → World → Prop} {ok : Action → Prop} (h : Frame R ok)
    {ids : List String} (hok : ∀ id ∈ ids, ok (.call (.deleteTargetGroup id))) (w : World)
    (free : Nat) : R w (w.deleteGroups free ids).2 := by
  induction ids generalizing w free with
  | nil => exact h.refl w
  | cons id rest ih =>
    have hrest := fun other hm => hok other (List.mem_cons_of_mem id hm)
    have step := h.call w (.deleteTargetGroup id) (hok id List.mem_cons_self)
    rw [World.deleteGroups]
    split
    · exact h.refl w
    · split
      · rename_i e
        rw [e] at step
        exact h.trans step (ih hrest _ _)
      · rename_i e
        rw [e] at step
        exact h.trans step (ih hrest _ _)
      · rename_i e
        rw [e] at step
        split
        · exact h.trans step (ih hrest _ _)
        · exact step

/-- **Frame rule.** What every permitted step of a program keeps is kept by its
    runs, however they end. -/
theorem run_frame {R : World → World → Prop} {ok : Action → Prop} (h : Frame R ok)
    {p : Program α} (hp : p.Within ok) {w w' : World} {o : Outcome α}
    (hrun : p.run w = (o, w')) : R w w' := by
  suffices hall : R w (p.run w).2 by rwa [hrun] at hall
  clear hrun
  induction p generalizing w with
  | pure a => exact h.refl w
  | fail e => exact h.refl w
  | abort => exact h.refl w
  | call c next ih =>
    have step := h.call w c hp.1
    rw [Program.run]
    split
    · rename_i e
      rw [e] at step
      exact step
    · rename_i e
      rw [e] at step
      exact h.trans step (ih _ (hp.2 _))
  | deleteGroups ids next ih =>
    have step := h.deleteGroups hp.1 w World.deleteSlots
    rw [Program.run]
    split
    · rename_i e
      rw [e] at step
      exact step
    · rename_i e
      rw [e] at step
      exact h.trans step (ih _ (hp.2 _))
  | write c next ih => exact h.trans (h.write w c hp.1) (ih _ (hp.2 _))
  | visited next ih => exact ih _ (hp _)
  | remember names next ih => exact h.trans (h.remember w names hp.1) (ih hp.2)

end CloudSteward
