import CloudSteward.Span

/-!
# Growing delays between attempts

The delay before another attempt starts at a base and doubles with every
failure since the last success, up to a cap.

Results:

* `delay_le_cap`: no delay exceeds the cap.
* `failures_fail`, `failures_forget`: what a failure and a success do to the
  count of a key.
-/

namespace CloudSteward

/-- First delay and cap of the delays. -/
structure BackoffPolicy where
  base : Span
  cap : Span
deriving DecidableEq, Repr

namespace BackoffPolicy

/-- Five milliseconds, doubled up to a minute. -/
def default : BackoffPolicy where
  base := ⟨5 * 1000000, by decide⟩
  cap := ⟨60 * 1000000000, by decide⟩

/-- Doublings beyond this leave the delay as it is. -/
def greatestDoubling : Nat := 31

/-- The delay after `count` earlier failures. A product too long for a span
    counts as the cap. -/
def delay (p : BackoffPolicy) (count : Nat) : Span :=
  match p.base.times? (Nat.pow 2 (Nat.min count greatestDoubling)) with
  | some t => t.min p.cap
  | none => p.cap

theorem delay_le_cap (p : BackoffPolicy) (count : Nat) :
    (p.delay count).nanos ≤ p.cap.nanos := by
  unfold delay
  split
  · exact Span.min_le_right _ _
  · exact Nat.le_refl _

end BackoffPolicy

/-- Greatest number of failures that is counted. -/
def greatestFailureCount : Nat := 4294967295

/-- The failures of each key since its last success. -/
structure Backoff (κ : Type) where
  policy : BackoffPolicy
  failures : κ → Nat

namespace Backoff

variable {κ : Type} [DecidableEq κ]

/-- No failures yet. -/
def start (policy : BackoffPolicy) : Backoff κ :=
  ⟨policy, fun _ => 0⟩

/-- Counts one more failure of `key` and gives the delay that it costs. -/
def fail (b : Backoff κ) (key : κ) : Span × Backoff κ :=
  (b.policy.delay (b.failures key),
    { b with
      failures := fun k =>
        if k = key then Nat.min (b.failures key + 1) greatestFailureCount else b.failures k })

/-- Starts `key` over. -/
def forget (b : Backoff κ) (key : κ) : Backoff κ :=
  { b with failures := fun k => if k = key then 0 else b.failures k }

theorem failures_fail (b : Backoff κ) (key k : κ) :
    (b.fail key).2.failures k =
      if k = key then Nat.min (b.failures key + 1) greatestFailureCount else b.failures k := rfl

theorem failures_forget (b : Backoff κ) (key k : κ) :
    (b.forget key).failures k = if k = key then 0 else b.failures k := rfl

end Backoff

end CloudSteward
