import CloudSteward.Span

/-!
# Errors

Two layers fail in ways of their own. A call to the cloud ends in a
`CloudError`; a reconciliation ends in a `SyncError`, which may carry a cloud
error. Both say in one place what they mean for the operator (`message?`) and
whether the same attempt may succeed later (`isRetryable`).

Results:

* `bind_eq_ok_iff`, `bind_eq_error_iff`: how two steps succeed, and how they fail.
-/

namespace CloudSteward

/-! ## Calls to the cloud -/

/-- Status code of a call for a missing resource. -/
def codeNotFound : Int := 5

/-- Status code of a call that would create a resource twice. -/
def codeAlreadyExists : Int := 6

/-- Why a call to the cloud failed. -/
inductive CloudError where
  /-- The exchange broke before a reply was complete. -/
  | http
  /-- A reply with a status that has no meaning of its own. -/
  | api (status : Nat) (message : String)
  /-- A payload that is not what it should be. -/
  | serialization
  /-- A missing, invalid or expired token. -/
  | authentication (message : String)
  /-- The addressed resource does not exist. -/
  | notFound (message : String)
  /-- The resource to create exists. -/
  | alreadyExists (message : String)
  /-- A look-up by unique name matched several resources. -/
  | ambiguous (message : String)
  /-- A change ended with an error of its own. -/
  | operation (id : String) (code : Int) (message : String)
  /-- A request that cannot be served as it is. -/
  | invalidRequest (message : String)
deriving DecidableEq, Repr

namespace CloudError

/-- Whether the addressed resource does not exist. -/
def isNotFound : CloudError → Bool
  | .notFound _ => true
  | .operation _ code _ => code == codeNotFound
  | _ => false

/-- Whether the resource to create exists already. -/
def isAlreadyExists : CloudError → Bool
  | .alreadyExists _ => true
  | .operation _ code _ => code == codeAlreadyExists
  | _ => false

/-- Whether the same call may succeed later. Ambiguity and malformed requests
    need an operator. -/
def isRetryable : CloudError → Bool
  | .ambiguous _ | .invalidRequest _ | .serialization => false
  | _ => true

/-- The text for the operator; a broken exchange or payload has none of its
    own. -/
def message? : CloudError → Option String
  | .http | .serialization => none
  | .api status message => some s!"Yandex Cloud API error ({status}): {message}"
  | .authentication message => some s!"Authentication failed: {message}"
  | .notFound message => some s!"Not found: {message}"
  | .alreadyExists message => some s!"Already exists: {message}"
  | .ambiguous message => some s!"Ambiguous lookup: {message}"
  | .operation id code message => some s!"Operation {id} failed with code {code}: {message}"
  | .invalidRequest message => some s!"Invalid request: {message}"

end CloudError

/-! ## Writes to the cluster -/

/-- Why a write to the cluster failed. -/
inductive WriteError where
  /-- The object has no name that a request path can hold; nothing was sent. -/
  | unaddressable
  /-- The cluster refused with an HTTP status. -/
  | refused (status : Nat)
  /-- The cluster answered for an object of another kind. -/
  | misdirected
deriving DecidableEq, Repr

/-! ## Reconciliations -/

/-- Why a reconciliation failed. -/
inductive SyncError where
  | kube (cause : WriteError)
  | cloud (cause : CloudError)
  | invalidConfig (message : String)
  /-- Refused before any call was made. -/
  | validation (message : String)
  | invalidProviderId (message : String)
  /-- A node without an instance behind it. -/
  | instanceNotFound (subject : String)
  /-- An instance that cannot be worked with. -/
  | invalidInstance (name : String) (message : String)
  | targetGroupNotFound (name : String)
  /-- A node that is unknown or lacks the address a route needs. -/
  | node (name : String) (message : String)
  | timeout (after : Span)
  | watch (message : String)
deriving DecidableEq, Repr

namespace SyncError

/-- Whether another attempt may succeed. Invalid input and ambiguous state need
    an operator. -/
def isRetryable : SyncError → Bool
  | .cloud cause => cause.isRetryable
  | .validation _ | .invalidProviderId _ | .invalidConfig _ => false
  | _ => true

/-- The text for the operator, unless it is up to the cluster or the exchange. -/
def message? : SyncError → Option String
  | .kube _ => none
  | .cloud cause => cause.message?.map ("Yandex Cloud error: " ++ ·)
  | .invalidConfig message => some s!"Invalid configuration: {message}"
  | .validation message => some s!"Validation failed: {message}"
  | .invalidProviderId message => some s!"Invalid providerID: {message}"
  | .instanceNotFound subject => some s!"Instance not found: {subject}"
  | .invalidInstance name message => some s!"Invalid instance {name}: {message}"
  | .targetGroupNotFound name => some s!"Target group not found: {name}"
  | .node name message => some s!"Node {name}: {message}"
  | .timeout after => some s!"Reconciliation timed out after {after.describe}"
  | .watch message => some s!"Resource watch failed: {message}"

end SyncError

/-! ## One step after the other -/

section Steps

variable {ε α β : Type} {x : Except ε α} {f : α → Except ε β}

theorem bind_eq_ok_iff {x : Except ε α} {f : α → Except ε β} {b : β} :
    (x >>= f) = .ok b ↔ ∃ a, x = .ok a ∧ f a = .ok b := by
  cases x with
  | error e => simp [Bind.bind, Except.bind]
  | ok a => simp [Bind.bind, Except.bind]

theorem bind_eq_error_iff {x : Except ε α} {f : α → Except ε β} {e : ε} :
    (x >>= f) = .error e ↔ x = .error e ∨ ∃ a, x = .ok a ∧ f a = .error e := by
  cases x with
  | error e' => simp [Bind.bind, Except.bind]
  | ok a => simp [Bind.bind, Except.bind]

theorem exists_bind_ok_iff {x : Except ε α} {f : α → Except ε β} :
    (∃ b, (x >>= f) = .ok b) ↔ ∃ a, x = .ok a ∧ ∃ b, f a = .ok b := by
  simp only [bind_eq_ok_iff]
  exact ⟨fun ⟨b, a, ha, hb⟩ => ⟨a, ha, b, hb⟩, fun ⟨a, ha, b, hb⟩ => ⟨b, a, ha, hb⟩⟩

end Steps

end CloudSteward
