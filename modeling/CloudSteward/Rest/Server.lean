import CloudSteward.Error
import CloudSteward.Json.Value

/-!
# Talking to a server

A server answers requests from a script, one delivery for each, and notes what
it receives. When the script has run out it answers with an internal error. A
server out of reach receives nothing, and its script stays as it is.

What a client does is a `Talk`: it sends requests and ends with a value, with an
error, or stopped by a fault that no error describes.

Results:

* `script_send_le`: a request takes at most one delivery off the script.
-/

namespace CloudSteward

/-! ## Requests and deliveries -/

/-- What a request asks for. -/
inductive Verb where
  | get
  | post
  | patch
  | delete
deriving DecidableEq, Repr

/-- The name of a verb. -/
def Verb.word : Verb → String
  | .get => "GET"
  | .post => "POST"
  | .patch => "PATCH"
  | .delete => "DELETE"

/-- The service that a request is for. -/
inductive Audience where
  /-- The API of the cloud, with the token that the request carries. -/
  | api (token : String)
  /-- The metadata service of the instance. -/
  | metadata
deriving DecidableEq, Repr

/-- A request to a server. -/
structure Request where
  verb : Verb
  url : String
  audience : Audience
  body : Option Json

/-- What becomes of a request. -/
inductive Delivery where
  /-- The connection closes unanswered. -/
  | lost
  /-- The connection breaks inside the body. -/
  | cut (status : Nat)
  | reply (status : Nat) (body : String)
deriving DecidableEq, Repr

/-- A delivery and the nanoseconds until it is complete. -/
structure Cue where
  delivery : Delivery
  delay : Nat
deriving DecidableEq, Repr

/-! ## Servers -/

/-- A scripted server. -/
structure Server where
  reachable : Bool
  script : List Cue
  /-- The requests so far, in order. -/
  received : List Request

/-- A token and the moment from which it is invalid. -/
structure CachedToken where
  value : String
  expiry : Int
deriving DecidableEq, Repr

/-- A client's view of the world: the server, the time, and the token that is
    kept for the next request. Moments are nanoseconds since the epoch. -/
structure Session where
  server : Server
  now : Int
  cached : Option CachedToken

/-- The answer of a server whose script has run out. -/
def exhausted : Delivery := .reply 500 "script exhausted"

/-- Sends a request. -/
def Session.send (s : Session) (r : Request) : Delivery × Session :=
  if s.server.reachable then
    let noted : Server := { s.server with received := s.server.received ++ [r] }
    match s.server.script with
    | [] => (exhausted, { s with server := noted })
    | cue :: rest =>
      (cue.delivery, { s with server := { noted with script := rest }, now := s.now + cue.delay })
  else (.lost, s)

/-! ## Talks -/

/-- How a talk ended. -/
inductive Verdict (α : Type) where
  | ok (a : α)
  | error (e : CloudError)
  /-- Stopped by a fault that no error describes. -/
  | aborted

/-- What a client does in a session. -/
def Talk (α : Type) : Type := Session → Verdict α × Session

namespace Talk

variable {α β : Type}

/-- Goes on from the value of a talk. -/
def bind (t : Talk α) (f : α → Talk β) : Talk β := fun s =>
  match t s with
  | (.ok a, s) => f a s
  | (.error e, s) => (.error e, s)
  | (.aborted, s) => (.aborted, s)

instance : Monad Talk where
  pure a := fun s => (.ok a, s)
  bind := bind

/-- Ends with an error. -/
def fail (e : CloudError) : Talk α := fun s => (.error e, s)

/-- The value, or the error. -/
def ofExcept : Except CloudError α → Talk α
  | .ok a => pure a
  | .error e => fail e

/-- A talk that hands on its error instead of ending with it. -/
def attempt (t : Talk α) : Talk (Except CloudError α) := fun s =>
  match t s with
  | (.ok a, s) => (.ok (.ok a), s)
  | (.error e, s) => (.ok (.error e), s)
  | (.aborted, s) => (.aborted, s)

/-- Sends a request. -/
def send (r : Request) : Talk Delivery := fun s =>
  let (delivery, s) := s.send r
  (.ok delivery, s)

/-! ## Laws -/

end Talk

theorem script_send_le (s : Session) (r : Request) :
    (s.send r).2.server.script.length ≤ s.server.script.length := by
  rw [Session.send]
  split
  · split
    · rename_i h
      simp [h]
    · rename_i h
      simp [h]
  · exact Nat.le_refl _

/-- A talk that never lengthens the script of its server. -/
def Talk.Consumes {α : Type} (t : Talk α) : Prop :=
  ∀ s, (t s).2.server.script.length ≤ s.server.script.length

namespace Talk.Consumes

variable {α β : Type}

theorem pure (a : α) : (Pure.pure a : Talk α).Consumes := fun _ => Nat.le_refl _

theorem fail (e : CloudError) : (Talk.fail e : Talk α).Consumes := fun _ => Nat.le_refl _

theorem ofExcept (r : Except CloudError α) : (Talk.ofExcept r).Consumes := by
  cases r with
  | ok a => exact pure a
  | error e => exact fail e

theorem send (r : Request) : (Talk.send r).Consumes := fun s => script_send_le s r

theorem bind {t : Talk α} {f : α → Talk β} (ht : t.Consumes) (hf : ∀ a, (f a).Consumes) :
    (t >>= f).Consumes := by
  intro s
  have hs := ht s
  change ((Talk.bind t f) s).2.server.script.length ≤ _
  rw [Talk.bind]
  rcases h : t s with ⟨a | e | _, s'⟩
  · rw [h] at hs
    exact Nat.le_trans (hf a s') hs
  · rw [h] at hs
    exact hs
  · rw [h] at hs
    exact hs

end Talk.Consumes

end CloudSteward
