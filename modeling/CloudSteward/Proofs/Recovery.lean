import CloudSteward.Balancer.Ensure
import CloudSteward.Proofs.Calm
import CloudSteward.Proofs.Rest.Removal
import CloudSteward.Proofs.TargetGroup.Wanted

/-!
# Recovering from errors

An error of a call can be an answer in its own right: what is to be deleted is gone, what is to
be created exists, what is looked up is missing. On each of these paths the error is recovered
from or passed on, and which of the two happens depends on what the error says of the resource
and on nothing else of it.

Results:

* `RunsAlike.bind`, `treatsAlike_of_answer`: programs that go on from an error.
* `remove_of_refused`, `deleteGroups_cons_of_error`: deletions that are answered with an error.
* `treatedAlike_iff`: which errors no path tells apart.
-/

namespace CloudSteward

open Program

variable {α β : Type} {e₁ e₂ : CloudError}

/-! ## Runs that go back to two errors -/

/-- Two runs are the same, unless each of them ends with its own of two errors. -/
inductive RunsAlike (e₁ e₂ : CloudError) : Outcome α × World → Outcome α × World → Prop
  | same (r : Outcome α × World) : RunsAlike e₁ e₂ r r
  | own (w : World) : RunsAlike e₁ e₂ (.failed (.cloud e₁), w) (.failed (.cloud e₂), w)

theorem RunsAlike.world_eq {r₁ r₂ : Outcome α × World} (h : RunsAlike e₁ e₂ r₁ r₂) :
    r₁.2 = r₂.2 := by
  cases h <;> rfl

/-- Programs that begin with the same part. -/
theorem RunsAlike.bind {p : Program α} {f₁ f₂ : α → Program β}
    (h : ∀ a w, RunsAlike e₁ e₂ ((f₁ a).run w) ((f₂ a).run w)) (w : World) :
    RunsAlike e₁ e₂ ((p >>= f₁).run w) ((p >>= f₂).run w) := by
  show RunsAlike e₁ e₂ ((p.bind f₁).run w) ((p.bind f₂).run w)
  rw [run_bind, run_bind]
  rcases p.run w with ⟨a | e | _ | _, w₁⟩
  · exact h a w₁
  all_goals exact .same _

/-- Each of two errors is put in the place of a value that is missing. -/
theorem RunsAlike.require (found : Option α) (w : World) :
    RunsAlike e₁ e₂ ((require found (.cloud e₁)).run w) ((require found (.cloud e₂)).run w) := by
  cases found with
  | none => exact .own w
  | some a => exact .same _

theorem RunsAlike.bind_left {p₁ p₂ : Program α} {w : World}
    (h : RunsAlike e₁ e₂ (p₁.run w) (p₂.run w)) (f : α → Program β) :
    RunsAlike e₁ e₂ ((p₁ >>= f).run w) ((p₂ >>= f).run w) := by
  show RunsAlike e₁ e₂ ((p₁.bind f).run w) ((p₂.bind f).run w)
  rw [run_bind, run_bind]
  generalize p₁.run w = r₁ at h
  generalize p₂.run w = r₂ at h
  cases h with
  | same r => exact .same _
  | own w₁ => exact .own w₁

/-- Each of two errors is recovered from if it says so, and both say the same. -/
theorem RunsAlike.recover {b₁ b₂ : Bool} {p₁ p₂ : Program α} (hb : b₁ = b₂) (w : World)
    (h : RunsAlike e₁ e₂ (p₁.run w) (p₂.run w)) :
    RunsAlike e₁ e₂ ((if b₁ then p₁ else .fail (.cloud e₁)).run w)
      ((if b₂ then p₂ else .fail (.cloud e₂)).run w) := by
  subst hb
  cases b₁ with
  | true => exact h
  | false => exact .own w

/-- It makes no difference to a program, but for the error that it may end with, which of two
    errors a call of it is answered with. -/
def Program.TreatsAlike (p : Program α) (c : Call) (e₁ e₂ : CloudError) : Prop :=
  ∀ w₁ w₂ w, w₁.answer c = (some (.error e₁), w) → w₂.answer c = (some (.error e₂), w) →
    RunsAlike e₁ e₂ (p.run w₁) (p.run w₂)

theorem run_answer_bind_of_error {c : Call} {f : Except CloudError c.Reply → Program α}
    {w w₁ : World} {e : CloudError} (h : w.answer c = (some (.error e), w₁)) :
    (Program.answer c >>= f).run w = (f (.error e)).run w₁ :=
  run_bind_of_done (run_answer_eq_done.mpr h)

theorem treatsAlike_of_answer {c : Call} {f : Except CloudError c.Reply → Program α}
    (h : ∀ w, RunsAlike e₁ e₂ ((f (.error e₁)).run w) ((f (.error e₂)).run w)) :
    (Program.answer c >>= f).TreatsAlike c e₁ e₂ := by
  intro w₁ w₂ w h₁ h₂
  rw [run_answer_bind_of_error h₁, run_answer_bind_of_error h₂]
  exact h w

/-! ## Deletions -/

/-- A deletion that is refused succeeds if the resource is missing. -/
theorem remove_of_refused {c : Client} {url : String} {s s' : Session} {e : CloudError}
    (h : c.fetch Operation.ofJson? .delete url none s = (.error e, s')) :
    c.remove url s = (if e.isNotFound then .ok () else .error e, s') := by
  show Talk.bind (Talk.attempt _) _ s = _
  rw [Talk.bind, Talk.attempt, h]
  show Talk.ofExcept (Client.missingAsDone (.error e)) s' = _
  rw [Client.missingAsDone, ofExcept_apply]
  cases e.isNotFound <;> rfl

/-- A group that is missing is passed over; any other error ends the whole. -/
theorem deleteGroups_cons_of_error {w w' : World} {free : Nat} {id : String}
    {rest : List String} {e : CloudError}
    (h : w.answer (.deleteTargetGroup id) = (some (.error e), w')) :
    w.deleteGroups (free + 1) (id :: rest) =
      if e.isNotFound then w'.deleteGroups (free + 1) rest else (some (.error e), w') := by
  rw [World.deleteGroups, if_neg (Nat.succ_ne_zero free), h]

/-! ## The paths -/

/-- No path on which errors are recovered from tells two errors apart: they answer a deletion
    over the wire, the deletion of a group or of a balancer, the creation of one of these, or
    the look-up of an instance, and both are recovered from in the same way or both are passed
    on. -/
structure CloudError.TreatedAlike (e₁ e₂ : CloudError) : Prop where
  removal : ∀ (c : Client) (url : String) (s₁ s₂ s : Session),
    c.fetch Operation.ofJson? .delete url none s₁ = (.error e₁, s) →
    c.fetch Operation.ofJson? .delete url none s₂ = (.error e₂, s) →
      c.remove url s₁ = c.remove url s₂ ∨
        c.remove url s₁ = (.error e₁, s) ∧ c.remove url s₂ = (.error e₂, s)
  groups : ∀ (w₁ w₂ w : World) (free : Nat) (id : String) (rest : List String),
    w₁.answer (.deleteTargetGroup id) = (some (.error e₁), w) →
    w₂.answer (.deleteTargetGroup id) = (some (.error e₂), w) →
      w₁.deleteGroups (free + 1) (id :: rest) = w₂.deleteGroups (free + 1) (id :: rest) ∨
        w₁.deleteGroups (free + 1) (id :: rest) = (some (.error e₁), w) ∧
          w₂.deleteGroups (free + 1) (id :: rest) = (some (.error e₂), w)
  balancer : ∀ id, (removeBalancer id).TreatsAlike (.deleteBalancer id) e₁ e₂
  groupCreation : ∀ s name targets, (createGroup s name targets).TreatsAlike
    (.createTargetGroup (groupRequest s name targets)) e₁ e₂
  balancerCreation : ∀ s spec attachment, (createBalancer s spec attachment).TreatsAlike
    (.createBalancer (balancerRequest s spec attachment)) e₁ e₂
  lookUp : ∀ id, (instanceById id).TreatsAlike (.getInstance id) e₁ e₂

theorem treatsAlike_instanceById (hmissing : e₁.isNotFound = e₂.isNotFound) (id : String) :
    (instanceById id).TreatsAlike (.getInstance id) e₁ e₂ := by
  apply treatsAlike_of_answer
  intro w
  exact .recover hmissing w (.same _)

theorem treatsAlike_removeBalancer (hmissing : e₁.isNotFound = e₂.isNotFound) (id : String) :
    (removeBalancer id).TreatsAlike (.deleteBalancer id) e₁ e₂ := by
  apply treatsAlike_of_answer
  intro w
  exact .recover hmissing w (.same _)

/-- What has appeared in the meantime is looked up, and if it has gone again, the error of the
    creation is passed on. -/
theorem treatsAlike_createGroup (hexists : e₁.isAlreadyExists = e₂.isAlreadyExists)
    (s : Settings) (name : String) (targets : TargetSet) :
    (createGroup s name targets).TreatsAlike
      (.createTargetGroup (groupRequest s name targets)) e₁ e₂ := by
  apply treatsAlike_of_answer
  intro w
  apply RunsAlike.recover hexists
  apply RunsAlike.bind
  intro found w₁
  exact (RunsAlike.require found w₁).bind_left _

theorem treatsAlike_createBalancer (hexists : e₁.isAlreadyExists = e₂.isAlreadyExists)
    (s : Settings) (spec : BalancerSpec) (attachment : Attachment) :
    (createBalancer s spec attachment).TreatsAlike
      (.createBalancer (balancerRequest s spec attachment)) e₁ e₂ := by
  apply treatsAlike_of_answer
  intro w
  apply RunsAlike.recover hexists
  apply RunsAlike.bind
  intro found w₁
  exact (RunsAlike.require found w₁).bind_left _

/-! ## Telling errors apart -/

/-- A world with nothing in it, in which the next call of a kind is answered with an error. -/
def World.refusing (m : Method) (e : CloudError) : World :=
  { World.ofStore (.empty "") with
    incidents := { Incidents.none with failures := fun k => if k = m then [some e] else [] } }

theorem answer_refusing (c : Call) (e : CloudError) :
    (World.refusing c.method e).answer c = (some (.error e), .ofStore (.empty "")) := by
  have hfailed : ((World.refusing c.method e).incidents.failures c.method).head?.join = some e := by
    simp [World.refusing]
  have hspent : World.dropHead c.method (World.refusing c.method e).incidents.failures =
      fun _ => [] := by
    funext k
    by_cases hk : k = c.method <;> simp [World.dropHead, World.refusing, hk]
  have hreached : (World.refusing c.method e).reached c.method = .ofStore (.empty "") := by
    simp only [World.reached, World.takeFailure, World.intrude, World.takeHang, hspent]
    simp only [World.refusing, Incidents.none, dropHead_nil]
    rfl
  rw [answer_eq, hfailed, hreached]
  rfl

/-- A program that treats two errors alike ends alike after each of them. -/
theorem Program.TreatsAlike.run_refusing {p : Program α} {c : Call}
    (h : p.TreatsAlike c e₁ e₂) :
    RunsAlike e₁ e₂ (p.run (.refusing c.method e₁)) (p.run (.refusing c.method e₂)) :=
  h _ _ _ (answer_refusing c e₁) (answer_refusing c e₂)

/-- A look-up that is refused comes back with nothing if the instance is missing. -/
theorem run_instanceById_of_error {id : String} {w w' : World} {e : CloudError}
    (h : w.answer (.getInstance id) = (some (.error e), w')) :
    (instanceById id).run w =
      if e.isNotFound then (.done none, w') else (.failed (.cloud e), w') := by
  rw [instanceById, run_answer_bind_of_error h]
  dsimp only
  split <;> rfl

theorem isNotFound_eq_of_lookUp (h : (instanceById "").TreatsAlike (.getInstance "") e₁ e₂) :
    e₁.isNotFound = e₂.isNotFound := by
  have halike := h.run_refusing
  rw [run_instanceById_of_error (answer_refusing (.getInstance "") e₁),
    run_instanceById_of_error (answer_refusing (.getInstance "") e₂)] at halike
  by_cases h₁ : e₁.isNotFound = true <;> by_cases h₂ : e₂.isNotFound = true
  · rw [h₁, h₂]
  · rw [if_pos h₁, if_neg h₂] at halike
    cases halike
  · rw [if_neg h₁, if_pos h₂] at halike
    cases halike
  · rw [Bool.eq_false_iff.mpr h₁, Bool.eq_false_iff.mpr h₂]

/-- A creation that is refused goes on with the group that has appeared. -/
theorem run_createGroup_of_error {s : Settings} {name : String} {targets : TargetSet}
    {w w' : World} {e : CloudError}
    (h : w.answer (.createTargetGroup (groupRequest s name targets)) = (some (.error e), w')) :
    (createGroup s name targets).run w =
      if e.isAlreadyExists then
        (do adjustGroup (← require (← fetchGroup name) (.cloud e)) targets : Program Unit).run w'
      else (.failed (.cloud e), w') := by
  rw [createGroup, run_answer_bind_of_error h]
  dsimp only
  split <;> rfl

theorem isAlreadyExists_eq_of_creation {s : Settings}
    (h : (createGroup s "" .empty).TreatsAlike
      (.createTargetGroup (groupRequest s "" .empty)) e₁ e₂) :
    e₁.isAlreadyExists = e₂.isAlreadyExists := by
  -- the group is looked for after an error that says that it exists, and only then
  let creation : Call := .createTargetGroup (groupRequest s "" .empty)
  have hrun (e : CloudError) : ((createGroup s "" .empty).run
      (.refusing creation.method e)).2.journal.reads = if e.isAlreadyExists then 1 else 0 := by
    rw [run_createGroup_of_error (answer_refusing creation e)]
    split <;> rfl
  have hreads := congrArg (·.journal.reads) h.run_refusing.world_eq
  simp only [creation, hrun] at hreads
  by_cases h₁ : e₁.isAlreadyExists = true <;> by_cases h₂ : e₂.isAlreadyExists = true
  · rw [h₁, h₂]
  · simp [h₁, h₂] at hreads
  · simp [h₁, h₂] at hreads
  · rw [Bool.eq_false_iff.mpr h₁, Bool.eq_false_iff.mpr h₂]

/-- **Recovery.** Two errors are treated alike on every path exactly if they say the same of the
    resource: whether it is missing and whether it exists. -/
theorem treatedAlike_iff :
    e₁.TreatedAlike e₂ ↔
      e₁.isNotFound = e₂.isNotFound ∧ e₁.isAlreadyExists = e₂.isAlreadyExists := by
  constructor
  · intro h
    exact ⟨isNotFound_eq_of_lookUp (h.lookUp ""),
      isAlreadyExists_eq_of_creation (h.groupCreation Sample.settings "" .empty)⟩
  · rintro ⟨hmissing, hexists⟩
    constructor
    case removal =>
      intro c url s₁ s₂ s h₁ h₂
      rw [remove_of_refused h₁, remove_of_refused h₂, hmissing]
      by_cases h : e₂.isNotFound = true
      · exact .inl (by rw [if_pos h, if_pos h])
      · exact .inr ⟨by rw [if_neg h], by rw [if_neg h]⟩
    case groups =>
      intro w₁ w₂ w free id rest h₁ h₂
      rw [deleteGroups_cons_of_error h₁, deleteGroups_cons_of_error h₂, hmissing]
      by_cases h : e₂.isNotFound = true
      · exact .inl (by rw [if_pos h, if_pos h])
      · exact .inr ⟨by rw [if_neg h], by rw [if_neg h]⟩
    case balancer => exact treatsAlike_removeBalancer hmissing
    case groupCreation => exact treatsAlike_createGroup hexists
    case balancerCreation => exact treatsAlike_createBalancer hexists
    case lookUp => exact treatsAlike_instanceById hmissing

end CloudSteward
