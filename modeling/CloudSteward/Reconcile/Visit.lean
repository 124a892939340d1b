import CloudSteward.Backoff
import CloudSteward.Cluster.Object
import CloudSteward.Error

/-!
# When an object is visited again

A reconciliation is followed by another one when the object changes, or after a
delay. A failure that may pass is tried again after the delay that the failures
of the object cost; any other failure waits for a change, and like a success it
starts the object's count over.
-/

namespace CloudSteward

/-- When an object is visited again. -/
inductive NextVisit where
  | onChange
  | after (delay : Span)
deriving DecidableEq, Repr

/-- What tells one object of a kind from another. -/
structure ObjectKey where
  namespaceName : Option String
  name : String
deriving DecidableEq, Repr

/-- The key of an object; there is none as long as its name is still to be
    generated. -/
def ObjectMeta.key? (m : ObjectMeta) : Option ObjectKey :=
  m.name.map fun name => ⟨m.namespaceName, name⟩

/-- The next visit after a reconciliation, and the failures counted by then. -/
def settle (b : Backoff ObjectKey) (key : ObjectKey) (result : Except SyncError NextVisit) :
    NextVisit × Backoff ObjectKey :=
  match result with
  | .ok visit => (visit, b.forget key)
  | .error e =>
    if e.isRetryable then (.after (b.fail key).1, (b.fail key).2)
    else (.onChange, b.forget key)

end CloudSteward
