import CloudSteward.NodeSet
import CloudSteward.Proofs.TargetGroup.Wanted
import Mathlib.Data.Finset.Card

/-!
# The view of the nodes after any events

What the node set holds can be read off the events that came in, newest first. The
last event about a node since the last complete list decides; where there is none,
the node is in the view as that list told of it. A list is what was listed since the
watch started over for the last time, or since the list before was complete: a list
that is broken off leaves no trace, and live events do not touch the list in progress.

Results:

* `viewed`, `listed`: the view and the list in progress, read off the history.
* `Follows.observe`: one event keeps the node set in step with the history.
* `after_follows`: so does any sequence of events.
* `after_exact`: the view, its size and the signals after any sequence of events.
-/

namespace CloudSteward

/-! ## What a history tells of a node -/

namespace NodeEvent

/-- Whether an event says that the list is complete. -/
def completes : NodeEvent → Bool
  | .initDone => true
  | _ => false

/-- Whether a list in progress does not reach back beyond an event. -/
def startsList : NodeEvent → Bool
  | .init | .initDone => true
  | _ => false

/-- What a live event tells of the node `name`: its key, or that it is gone. -/
def tells (name : String) : NodeEvent → Option (Option NodeKey)
  | .apply node => if name = node.name then some (some node.key) else none
  | .delete node => if name = node.name then some none else none
  | _ => none

/-- The key under which an event lists the node `name`. -/
def lists (name : String) : NodeEvent → Option NodeKey
  | .initApply node => if name = node.name then some node.key else none
  | _ => none

end NodeEvent

/-- The node `name` in the list in progress, the newest event first. -/
def listed (name : String) (history : List NodeEvent) : Option NodeKey :=
  (history.takeWhile fun e => !e.startsList).findSome? (·.lists name)

/-- The node `name` in the view, the newest event first: what was last told of it since
    a list was complete, else what that list says. Nothing is known before any event. -/
def viewed (name : String) (history : List NodeEvent) : Option NodeKey :=
  match (history.takeWhile fun e => !e.completes).findSome? (·.tells name) with
  | some told => told
  | none =>
    match history.dropWhile fun e => !e.completes with
    | [] => none
    | _ :: before => listed name before

section Histories

variable (name : String) (history : List NodeEvent)

theorem listed_cons {e : NodeEvent} (h : e.startsList = false) :
    listed name (e :: history) = (e.lists name).or (listed name history) := by
  cases hl : e.lists name <;> simp [listed, h, hl]

theorem listed_starts {e : NodeEvent} (h : e.startsList = true) :
    listed name (e :: history) = none := by
  simp [listed, h]

theorem viewed_cons {e : NodeEvent} (h : e.completes = false) :
    viewed name (e :: history) = (e.tells name).getD (viewed name history) := by
  cases ht : e.tells name <;> simp [viewed, h, ht]

theorem viewed_initDone : viewed name (.initDone :: history) = listed name history := rfl

end Histories

/-! ## The node set and the history -/

namespace NodeSet

/-- The node set is in step with a history: the view and the list in progress are the
    ones the history tells. -/
structure Follows (s : NodeSet) (history : List NodeEvent) : Prop where
  current : ∀ name, s.current.get? name = viewed name history
  relisted : ∀ name, (s.relisted.getD .empty).get? name = listed name history

theorem follows_start : start.Follows [] :=
  ⟨fun _ => rfl, fun _ => rfl⟩

variable {s : NodeSet} {history : List NodeEvent}

/-- One event more keeps the node set in step. -/
theorem Follows.observe (h : s.Follows history) (e : NodeEvent) :
    (s.observe e).2.Follows (e :: history) := by
  cases e with
  | apply node =>
    refine ⟨fun name => ?_, fun name => ?_⟩
    · show (s.current.insert node.name node.key).get? name = _
      rw [SortedMap.get?_insert, viewed_cons name history rfl, h.current]
      by_cases hname : name = node.name <;> simp [NodeEvent.tells, hname]
    · rw [listed_cons name history rfl]
      exact h.relisted name
  | delete node =>
    refine ⟨fun name => ?_, fun name => ?_⟩
    · show (s.current.erase node.name).get? name = _
      rw [SortedMap.get?_erase, viewed_cons name history rfl, h.current]
      by_cases hname : name = node.name <;> simp [NodeEvent.tells, hname]
    · rw [listed_cons name history rfl]
      exact h.relisted name
  | init =>
    refine ⟨fun name => ?_, fun name => ?_⟩
    · rw [viewed_cons name history rfl]
      exact h.current name
    · rw [listed_starts name history rfl]
      rfl
  | initApply node =>
    refine ⟨fun name => ?_, fun name => ?_⟩
    · rw [viewed_cons name history rfl]
      exact h.current name
    · show ((s.relisted.getD .empty).insert node.name node.key).get? name = _
      rw [SortedMap.get?_insert, listed_cons name history rfl, h.relisted]
      by_cases hname : name = node.name <;> simp [NodeEvent.lists, hname]
  | initDone =>
    refine ⟨fun name => ?_, fun name => ?_⟩
    · rw [viewed_initDone]
      exact h.relisted name
    · rw [listed_starts name history rfl]
      rfl

/-- The signal of an event, by the history alone. -/
theorem Follows.signal_iff (h : s.Follows history) (e : NodeEvent) :
    (s.observe e).1 = true ↔ ∃ name, viewed name (e :: history) ≠ viewed name history := by
  rw [observe_changed_iff, Ne, ← not_iff_not, not_not, not_exists]
  constructor
  · intro hsame name
    rw [not_not, ← h.current, ← (h.observe e).current, hsame]
  · intro hsame
    refine SortedMap.ext_get? fun name => ?_
    rw [h.current, (h.observe e).current]
    exact not_not.mp (hsame name)

/-- The size of the view: it counts each node in it once. -/
theorem Follows.nodeCount (h : s.Follows history) :
    ∃ names : Finset String,
      (∀ name, name ∈ names ↔ (viewed name history).isSome) ∧ s.nodeCount = names.card := by
  refine ⟨⟨s.current.keys, Multiset.coe_nodup.mpr s.current.keys_nodup⟩, fun name => ?_, ?_⟩
  · show name ∈ s.current.keys ↔ _
    rw [← h.current, Option.isSome_iff_exists]
    simp [SortedMap.keys, SortedMap.get?_eq_some_iff]
  · show s.current.size = s.current.keys.length
    unfold SortedMap.size SortedMap.keys
    exact (List.length_map _).symm

/-! ## Any sequence of events -/

/-- The node set after some events, the oldest first. -/
def after (events : List NodeEvent) : NodeSet :=
  events.foldl (fun s e => (s.observe e).2) start

theorem after_append (events more : List NodeEvent) :
    after (events ++ more) = more.foldl (fun s e => (s.observe e).2) (after events) :=
  List.foldl_append

theorem after_snoc (events : List NodeEvent) (e : NodeEvent) :
    after (events ++ [e]) = ((after events).observe e).2 :=
  after_append events [e]

/-- The node set is in step with every history. -/
theorem after_follows (events : List NodeEvent) : (after events).Follows events.reverse := by
  induction events using List.reverseRecOn with
  | nil => exact follows_start
  | append_singleton events e ih =>
    rw [after_snoc, List.reverse_append]
    exact ih.observe e

/-- A view that is another one later was signalled in between. -/
theorem signal_between {name : String} (events more : List NodeEvent)
    (h : viewed name (events ++ more).reverse ≠ viewed name events.reverse) :
    ∃ before e rest, more = before ++ e :: rest ∧
      ((after (events ++ before)).observe e).1 = true := by
  induction more generalizing events with
  | nil => exact absurd (by rw [List.append_nil]) h
  | cons e rest ih =>
    by_cases he : ((after events).observe e).1 = true
    · exact ⟨[], e, rest, rfl, by rwa [List.append_nil]⟩
    · -- without a signal the view is as before, and the change is later
      have hquiet : viewed name (events ++ [e]).reverse = viewed name events.reverse := by
        rw [(after_follows events).signal_iff] at he
        rw [List.reverse_append]
        exact not_not.mp (not_exists.mp he name)
      have hlater : viewed name ((events ++ [e]) ++ rest).reverse ≠
          viewed name (events ++ [e]).reverse := by
        rwa [hquiet, List.append_assoc]
      obtain ⟨before, e', rest', hrest, hsignal⟩ := ih (events ++ [e]) hlater
      refine ⟨e :: before, e', rest', by rw [hrest, List.cons_append], ?_⟩
      rwa [List.append_assoc] at hsignal

/-- After any events the view is the one they tell of, the node count is its size, the
    next event is signalled exactly when it changes the view, and between two moments
    with different views some event was signalled. -/
theorem after_exact (events : List NodeEvent) :
    (∀ name, (after events).current.get? name = viewed name events.reverse) ∧
      (∃ names : Finset String,
        (∀ name, name ∈ names ↔ (viewed name events.reverse).isSome) ∧
          (after events).nodeCount = names.card) ∧
      (∀ e, ((after events).observe e).1 = true ↔
        ∃ name, viewed name (events ++ [e]).reverse ≠ viewed name events.reverse) ∧
      ∀ more name, viewed name (events ++ more).reverse ≠ viewed name events.reverse →
        ∃ before e rest, more = before ++ e :: rest ∧
          ((after (events ++ before)).observe e).1 = true := by
  have h := after_follows events
  refine ⟨h.current, h.nodeCount, fun e => ?_, fun more name => signal_between events more⟩
  rw [List.reverse_append]
  exact h.signal_iff e

end NodeSet

namespace Sample

/-- A node is known; a list that has it is broken off, and the next list has another
    node in its place. -/
def brokenOff : List NodeEvent :=
  [.apply (node "worker-0" "fhm1"), .init, .initApply (node "worker-0" "fhm1"), .init,
    .initApply (node "worker-1" "fhm2")]

end Sample

open Sample in
/-- The list that was broken off does not keep its node in the view. -/
theorem after_brokenOff :
    (NodeSet.after (brokenOff ++ [NodeEvent.initDone])).current.get? "worker-0" = none ∧
      ((NodeSet.after brokenOff).observe .initDone).1 = true ∧
      ∃ before e rest, [.initDone] = before ++ e :: rest ∧
        ((NodeSet.after (brokenOff ++ before)).observe e).1 = true := by
  obtain ⟨-, -, hsignal, hbetween⟩ := NodeSet.after_exact brokenOff
  obtain ⟨hview, -⟩ := NodeSet.after_exact (brokenOff ++ [NodeEvent.initDone])
  have hgone : viewed "worker-0" (brokenOff ++ [NodeEvent.initDone]).reverse = none := by decide
  have hother : viewed "worker-0" (brokenOff ++ [NodeEvent.initDone]).reverse ≠
      viewed "worker-0" brokenOff.reverse := by decide
  exact ⟨(hview _).trans hgone, (hsignal _).mpr ⟨_, hother⟩, hbetween _ _ hother⟩

end CloudSteward
