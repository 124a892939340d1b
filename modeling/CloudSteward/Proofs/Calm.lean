import CloudSteward.Proofs.Parts

/-!
# Runs in which nothing goes wrong

In a calm world every call returns, and it is served by the store as it stands. What
a program does there can be computed forwards: a call that the store can serve goes
well, and a call that only reads leaves nothing behind but its number in the journal.

Results:

* `run_ask_of_calm`, `run_ask_error_of_calm`: a call in a calm world.
* `run_read_of_calm`: a call that only reads.
* `calm_run`: a calm world stays calm.
* `run_bind_of_done`, `run_bind_of_failed`: the first part decides how a run goes on.
-/

namespace CloudSteward

open Program

variable {α β : Type}

/-- Every call returns, none fails, and no other writer comes in between. -/
def World.Calm (w : World) : Prop := w.incidents = .none

/-- A world after some more calls that only read. -/
def World.afterReads (w : World) (n : Nat) : World :=
  { w with journal := { w.journal with reads := w.journal.reads + n } }

/-! ## Forwards through a program -/

theorem run_bind_of_done {p : Program α} {f : α → Program β} {w w₁ : World} {a : α}
    (h : p.run w = (.done a, w₁)) : (p >>= f).run w = (f a).run w₁ := by
  show (p.bind f).run w = _
  rw [run_bind, h]

theorem run_bind_of_failed {p : Program α} {f : α → Program β} {w w₁ : World} {e : SyncError}
    (h : p.run w = (.failed e, w₁)) : (p >>= f).run w = (.failed e, w₁) := by
  show (p.bind f).run w = _
  rw [run_bind, h]

/-! ## Calls -/

section Calls

variable {w w' : World} {c : Call}

theorem dropHead_nil {κ : Type} (m : Method) :
    World.dropHead m (fun _ => ([] : List κ)) = fun _ => [] := by
  funext k
  rw [World.dropHead, List.tail_nil, ite_self]

theorem reached_of_calm (h : w.Calm) (m : Method) : w.reached m = w := by
  obtain ⟨store, incidents, refusals, journal, visited⟩ := w
  obtain rfl : incidents = .none := h
  simp only [World.reached, World.takeFailure, World.intrude, World.takeHang, Incidents.none,
    dropHead_nil]
  rfl

theorem answer_of_calm (h : w.Calm) (c : Call) :
    w.answer c = (some (w.serve c).1, (w.serve c).2) := by
  have hi : w.incidents = .none := h
  rw [answer_eq, reached_of_calm h, hi]
  rfl

theorem run_ask_of_calm (h : w.Calm) {r : c.Reply} (hr : (w.store.answer c).1 = .ok r) :
    (ask c).run w = (.done r, (w.serve c).2) := by
  have hserve : (w.serve c).1 = .ok r := hr
  rw [run_ask_eq_done, answer_of_calm h, hserve]

theorem run_ask_error_of_calm (h : w.Calm) {e : CloudError}
    (he : (w.store.answer c).1 = .error e) :
    (ask c).run w = (.failed (.cloud e), (w.serve c).2) := by
  have hserve : (w.serve c).1 = .error e := he
  simp only [ask, Program.run, answer_of_calm h, hserve]

theorem run_answer_of_calm (h : w.Calm) :
    (Program.answer c).run w = (.done (w.store.answer c).1, (w.serve c).2) := by
  rw [run_answer_eq_done, answer_of_calm h]
  rfl

theorem keep_of_calm {κ : Type} (h : w.Calm) (part : Store → κ) : w.incidents.Keep part := by
  rw [show w.incidents = .none from h]
  exact keep_of_no_intrusions (fun _ => rfl) part

theorem calm_afterReads (h : w.Calm) (n : Nat) : (w.afterReads n).Calm := h

theorem calm_serve (h : w.Calm) (c : Call) : (w.serve c).2.Calm := h

/-- A calm world stays calm. -/
theorem calm_run {p : Program α} {o : Outcome α} (hw : w.Calm) (h : p.run w = (o, w')) :
    w'.Calm := by
  have hframe : Frame (fun w w' => w.Calm → w'.Calm) fun _ => True :=
    { refl := fun _ => id
      trans := fun h₁ h₂ hw => h₂ (h₁ hw)
      call := fun w c _ hw => by rw [answer_of_calm hw]; exact calm_serve hw c
      write := fun w c _ hw => by rw [World.Calm, incidents_write]; exact hw
      remember := fun _ _ _ hw => hw }
  exact run_frame hframe (within_of_forall (fun _ => trivial) p) h hw

/-! ## Calls that only read -/

theorem store_answer_of_isRead (h : c.method.isRead = true) (s : Store) :
    (s.answer c).2 = s := by
  cases c <;> first | rfl | cases h

theorem serve_of_isRead (h : c.method.isRead = true) (w : World) :
    (w.serve c).2 = w.afterReads 1 := by
  have hrecord : w.record c = w.afterReads 1 := by
    rw [World.record, if_pos h]
    rfl
  have hserve : (w.serve c).2 = { w.record c with store := (w.store.answer c).2 } := rfl
  rw [hserve, store_answer_of_isRead h, hrecord]
  rfl

theorem run_read_of_calm (hw : w.Calm) (hc : c.method.isRead = true) {r : c.Reply}
    (hr : (w.store.answer c).1 = .ok r) : (ask c).run w = (.done r, w.afterReads 1) := by
  rw [run_ask_of_calm hw hr, serve_of_isRead hc]

theorem afterReads_afterReads (w : World) (m n : Nat) :
    (w.afterReads m).afterReads n = w.afterReads (m + n) := by
  simp only [World.afterReads, Nat.add_assoc]

end Calls

end CloudSteward
