import CloudSteward.Proofs.Run

/-!
# What a call does

A call that returns meets the store as other writers have left it, and then it
either fails before it has had any effect or is served by the store. Which parts
of the store other writers leave alone is said part by part; what is not theirs
to change can then only be changed by calls of the right kind.

Results:

* `answer_cases`: the three ways a call can go.
* `answer_eq_ok_iff`: a call is answered with a result if it is served and the store has one.
* `keep_answer`, `part_met`: a part that other writers leave alone is met as it
  was, and they go on leaving it alone.
* `part_answer`: a part that the call does not change either is as it was.
-/

namespace CloudSteward

/-! ## Look-ups -/

theorem unique_eq_some_iff {α : Type} {st : Store} {kinds name : String} {l : List α} {a : α} :
    st.unique kinds name l = .ok (some a) ↔ l = [a] := by
  rcases l with _ | ⟨b, _ | ⟨c, rest⟩⟩ <;> simp [Store.unique]

theorem unique_eq_none_iff {α : Type} {st : Store} {kinds name : String} {l : List α} :
    st.unique kinds name l = .ok none ↔ l = [] := by
  rcases l with _ | ⟨b, _ | ⟨c, rest⟩⟩ <;> simp [Store.unique]

theorem existing_eq_ok_iff {α : Type} {kind id : String} {o : Option α} {a : α} :
    Store.existing kind id o = .ok a ↔ o = some a := by
  cases o <;> simp [Store.existing]

/-! ## Other writers -/

/-- No writer that comes in between changes this part of the store. -/
def Incidents.Keep {κ : Type} (i : Incidents) (part : Store → κ) : Prop :=
  ∀ m, ∀ supply ∈ i.intrusions m, ∀ s : Store, part (s.put supply) = part s

theorem keep_of_no_intrusions {κ : Type} {i : Incidents} (h : ∀ m, i.intrusions m = [])
    (part : Store → κ) : i.Keep part := by
  intro m supply hs
  rw [h m] at hs
  cases hs

/-- The store that a call of a kind meets. -/
def World.met (w : World) (m : Method) : Store :=
  (w.incidents.intrusions m).head?.elim w.store w.store.put

theorem counter_met (w : World) (m : Method) : (w.met m).counter = w.store.counter := by
  rw [World.met]
  cases (w.incidents.intrusions m).head? <;> rfl

/-- No writer that comes in before a call of this kind changes this part of the store. -/
def Incidents.KeepFor {κ : Type} (i : Incidents) (m : Method) (part : Store → κ) : Prop :=
  ∀ supply ∈ i.intrusions m, ∀ s : Store, part (s.put supply) = part s

theorem part_met_of_keepFor {κ : Type} {part : Store → κ} {w : World} {m : Method}
    (h : w.incidents.KeepFor m part) : part (w.met m) = part w.store := by
  rw [World.met]
  cases hs : (w.incidents.intrusions m).head? with
  | none => rfl
  | some supply => exact h supply (List.mem_of_head? hs) w.store

theorem part_met {κ : Type} {part : Store → κ} {w : World} (h : w.incidents.Keep part)
    (m : Method) : part (w.met m) = part w.store :=
  part_met_of_keepFor (h m)

/-! ## The ways a call can go -/

/-- The world in which a call that returns has its effect: its incidents are over. -/
def World.reached (w : World) (m : Method) : World :=
  (((w.takeHang m).2.intrude m).takeFailure m).2

@[simp] theorem store_reached (w : World) (m : Method) : (w.reached m).store = w.met m := rfl

@[simp] theorem visited_reached (w : World) (m : Method) :
    (w.reached m).visited = w.visited := rfl

theorem answer_eq (w : World) (c : Call) :
    w.answer c =
      if (w.incidents.hangs c.method).headD false then (none, (w.takeHang c.method).2)
      else
        match (w.incidents.failures c.method).head?.join with
        | some e => (some (.error e), w.reached c.method)
        | none => (some ((w.reached c.method).serve c).1, ((w.reached c.method).serve c).2) := by
  rw [World.answer]
  have hhang : w.takeHang c.method =
      ((w.incidents.hangs c.method).headD false, (w.takeHang c.method).2) := rfl
  have hfail : ((w.takeHang c.method).2.intrude c.method).takeFailure c.method =
      ((w.incidents.failures c.method).head?.join, w.reached c.method) := rfl
  rw [hhang]
  cases (w.incidents.hangs c.method).headD false with
  | true => rfl
  | false =>
    simp only [hfail]
    cases (w.incidents.failures c.method).head?.join <;> rfl

/-- A call never returns, fails, or is served. -/
theorem answer_ways (w : World) (c : Call) :
    w.answer c = (none, (w.takeHang c.method).2) ∨
      (∃ e, w.answer c = (some (.error e), w.reached c.method)) ∨
      w.answer c = (some ((w.reached c.method).serve c).1, ((w.reached c.method).serve c).2) := by
  rw [answer_eq]
  split
  · exact .inl rfl
  · split
    · exact .inr (.inl ⟨_, rfl⟩)
    · exact .inr (.inr rfl)

theorem answer_cases (w : World) (c : Call) :
    ((w.answer c).1 = none ∧ (w.answer c).2.store = w.store) ∨
      (∃ e, (w.answer c).1 = some (.error e) ∧ (w.answer c).2.store = w.met c.method) ∨
      (w.answer c).1 = some ((w.met c.method).answer c).1 ∧
        (w.answer c).2.store = ((w.met c.method).answer c).2 := by
  rcases answer_ways w c with h | ⟨e, h⟩ | h
  · rw [h]
    exact .inl ⟨rfl, rfl⟩
  · rw [h]
    exact .inr (.inl ⟨e, rfl, rfl⟩)
  · rw [h]
    exact .inr (.inr ⟨rfl, rfl⟩)

/-- The next call of a kind returns and does not fail before the store is asked. -/
structure World.Serves (w : World) (m : Method) : Prop where
  returns : (w.incidents.hangs m).headD false = false
  spared : (w.incidents.failures m).head?.join = none

/-- A call is answered with a result exactly if it is served and the store that it meets gives
    that result. -/
theorem answer_eq_ok_iff {w : World} {c : Call} {r : c.Reply} :
    (w.answer c).1 = some (.ok r) ↔
      w.Serves c.method ∧ ((w.met c.method).answer c).1 = .ok r := by
  rw [answer_eq]
  constructor
  · intro h
    split at h
    · cases h
    · rename_i hreturns
      split at h
      · cases h
      · rename_i hspared
        exact ⟨⟨Bool.eq_false_iff.mpr hreturns, hspared⟩, Option.some.inj h⟩
  · rintro ⟨⟨hreturns, hspared⟩, hreply⟩
    have hserve : ((w.reached c.method).serve c).1 = ((w.met c.method).answer c).1 := rfl
    simp only [hreturns, hspared, hserve, hreply, Bool.false_eq_true, if_false]

theorem answer_eq_ok {w w' : World} {c : Call} {r : c.Reply}
    (h : w.answer c = (some (.ok r), w')) :
    (w.met c.method).answer c = (.ok r, w'.store) := by
  have hc := answer_cases w c
  rw [h] at hc
  rcases hc with ⟨hn, -⟩ | ⟨e, he, -⟩ | ⟨hr, hs⟩
  · cases hn
  · cases he
  · exact Prod.ext (Option.some.inj hr).symm hs.symm

theorem answer_eq_error {w w' : World} {c : Call} {e : CloudError}
    (h : w.answer c = (some (.error e), w')) :
    w'.store = w.met c.method ∨ (w.met c.method).answer c = (.error e, w'.store) := by
  have hc := answer_cases w c
  rw [h] at hc
  rcases hc with ⟨hn, -⟩ | ⟨e', -, hs⟩ | ⟨hr, hs⟩
  · cases hn
  · exact .inl hs
  · exact .inr (Prod.ext (Option.some.inj hr).symm hs.symm)

/-- A call leaves what is kept between reconciliations to the program. -/
theorem visited_answer (w : World) (c : Call) : (w.answer c).2.visited = w.visited := by
  rcases answer_ways w c with h | ⟨e, h⟩ | h <;> rw [h] <;> rfl

theorem intrusions_answer (w : World) (c : Call) (m : Method) :
    (w.answer c).2.incidents.intrusions m <:+ w.incidents.intrusions m := by
  have hdrop : World.dropHead c.method w.incidents.intrusions m <:+ w.incidents.intrusions m := by
    rw [World.dropHead]
    split
    · exact List.tail_suffix _
    · exact List.suffix_refl _
  rcases answer_ways w c with h | ⟨e, h⟩ | h
  · rw [h]
    exact List.suffix_refl _
  · rw [h]
    exact hdrop
  · rw [h]
    exact hdrop

theorem failures_answer (w : World) (c : Call) (m : Method) :
    (w.answer c).2.incidents.failures m <:+ w.incidents.failures m := by
  have hdrop : World.dropHead c.method w.incidents.failures m <:+ w.incidents.failures m := by
    rw [World.dropHead]
    split
    · exact List.tail_suffix _
    · exact List.suffix_refl _
  rcases answer_ways w c with h | ⟨e, h⟩ | h
  · rw [h]
    exact List.suffix_refl _
  · rw [h]
    exact hdrop
  · rw [h]
    exact hdrop

/-- Other writers before calls of another kind stay ahead. -/
theorem intrusions_answer_of_ne {w : World} {c : Call} {m : Method} (h : m ≠ c.method) :
    (w.answer c).2.incidents.intrusions m = w.incidents.intrusions m := by
  rcases answer_ways w c with ha | ⟨e, ha⟩ | ha <;> rw [ha]
  · rfl
  · exact if_neg h
  · exact if_neg h

/-- A call that returns has met the next other writer. -/
theorem intrusions_of_answered {w w' : World} {c : Call} {reply : Except CloudError c.Reply}
    (h : w.answer c = (some reply, w')) :
    w'.incidents.intrusions c.method = (w.incidents.intrusions c.method).tail := by
  rcases answer_ways w c with ha | ⟨e, ha⟩ | ha
  · rw [ha] at h
    cases h
  · cases ha.symm.trans h
    exact if_pos rfl
  · cases ha.symm.trans h
    exact if_pos rfl

theorem keep_answer {κ : Type} {part : Store → κ} {w : World} (h : w.incidents.Keep part)
    (c : Call) : (w.answer c).2.incidents.Keep part :=
  fun m supply hs => h m supply ((intrusions_answer w c m).subset hs)

/-- A part that other writers leave alone before the call, and that the store does not
    change when it serves it, is as it was. -/
theorem part_answer_of_keepFor {κ : Type} {part : Store → κ} {w : World} {c : Call}
    (h : w.incidents.KeepFor c.method part) (hc : ∀ s : Store, part (s.answer c).2 = part s) :
    part (w.answer c).2.store = part w.store := by
  rcases answer_cases w c with ⟨-, hs⟩ | ⟨e, -, hs⟩ | ⟨-, hs⟩
  · rw [hs]
  · rw [hs, part_met_of_keepFor h]
  · rw [hs, hc, part_met_of_keepFor h]

theorem part_answer {κ : Type} {part : Store → κ} {w : World} {c : Call}
    (h : w.incidents.Keep part) (hc : ∀ s : Store, part (s.answer c).2 = part s) :
    part (w.answer c).2.store = part w.store :=
  part_answer_of_keepFor (h c.method) hc

/-- A call that has to succeed and does not leaves a part as it was, if the store leaves it
    so when it refuses the call. -/
theorem part_of_ask_failed {κ : Type} {part : Store → κ} {w w' : World} {c : Call}
    {o : Outcome c.Reply} (hk : w.incidents.Keep part)
    (hrefused : ∀ {s s' : Store} {e : CloudError}, s.answer c = (.error e, s') → part s' = part s)
    (h : (Program.ask c).run w = (o, w')) (ho : o.isDone = false) :
    part w'.store = part w.store := by
  have hways := answer_cases w c
  rw [Program.ask, Program.run] at h
  rcases ha : w.answer c with ⟨_ | e | r, w₁⟩
  · rw [ha] at h hways
    cases h
    rcases hways with ⟨-, hs⟩ | ⟨e, he, -⟩ | ⟨hr, -⟩
    · rw [hs]
    · cases he
    · cases hr
  · rw [ha] at h
    cases h
    rcases answer_eq_error ha with hs | hs
    · rw [hs, part_met hk]
    · rw [hrefused hs, part_met hk]
  · rw [ha] at h
    cases h
    cases ho

/-- An answer that is not given leaves the store as it was. -/
theorem store_of_answer_failed {w w' : World} {c : Call}
    {o : Outcome (Except CloudError c.Reply)} (h : (Program.answer c).run w = (o, w'))
    (ho : o.isDone = false) : w'.store = w.store := by
  rw [Program.answer, Program.run] at h
  rcases answer_ways w c with ha | ⟨e, ha⟩ | ha <;> rw [ha] at h <;> cases h
  · rfl
  · cases ho
  · cases ho

end CloudSteward
