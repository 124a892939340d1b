import CloudSteward.Rest.Metadata

/-!
# Tokens for the API

A token given in advance is used as it is. Otherwise the token of the instance's
account is obtained from the metadata service and kept until shortly before it
expires. A failed request for a token leaves the kept one as it was.

Results:

* `consumes_token`: obtaining a token never lengthens the script of a server.
-/

namespace CloudSteward

/-- Where tokens come from. -/
inductive Credentials where
  | fixed (token : String)
  /-- The metadata service with the given address. -/
  | instanceAccount (address : String)
deriving DecidableEq, Repr

/-- The credentials that settings give. -/
def Settings.credentials (s : Settings) : Credentials :=
  match s.iamToken with
  | some token => .fixed token
  | none => .instanceAccount metadataAddress

/-- Nanoseconds of a second. -/
def nanosPerSecond : Int := 1000000000

/-- The time before its expiry from which a token is not used any more. -/
def refreshMargin : Int := 300 * nanosPerSecond

/-- The first and the last moment of the calendar: the years from -262143 to
    262142. -/
def calendar : Int × Int :=
  (-8334601315200 * nanosPerSecond, 8210266876799 * nanosPerSecond + (nanosPerSecond - 1))

/-- A moment so much later, if the calendar has it. -/
def later? (moment delay : Int) : Option Int :=
  let t := moment + delay
  if calendar.1 ≤ t ∧ t ≤ calendar.2 then some t else none

/-- Stops with a fault if there is no value. -/
def Talk.orAbort {α : Type} (o : Option α) : Talk α := fun s =>
  match o with
  | some a => (.ok a, s)
  | none => (.aborted, s)

/-- The kept token, if it stays valid long enough. -/
def keptToken : Talk (Option String) := fun s =>
  match s.cached with
  | none => (.ok none, s)
  | some t =>
    match later? t.expiry (-refreshMargin) with
    | none => (.aborted, s)
    | some latest => (.ok (if s.now < latest then some t.value else none), s)

/-- The moment of a session. -/
def currentMoment : Talk Int := fun s => (.ok s.now, s)

/-- Keeps a token. -/
def keepToken (t : CachedToken) : Talk Unit := fun s => (.ok (), { s with cached := some t })

/-- Obtains a new token and keeps it. -/
def renewToken (address : String) : Talk String := do
  let asked ← currentMoment
  let issued ← Metadata.token address
  if issued.value.isEmpty then
    Talk.fail (.authentication "metadata service returned an empty token")
  else do
    let expiry ← Talk.orAbort (later? asked (issued.lifetime * nanosPerSecond))
    keepToken ⟨issued.value, expiry⟩
    return issued.value

/-- A token that is valid for a while. -/
def Credentials.token : Credentials → Talk String
  | .fixed token => pure token
  | .instanceAccount address => do
    match ← keptToken with
    | some token => return token
    | none => renewToken address

/-! ## Laws -/

theorem consumes_text (address path : String) : (Metadata.text address path).Consumes :=
  .bind (.send _) fun _ => .ofExcept _

theorem consumes_renewToken (address : String) : (renewToken address).Consumes := by
  refine .bind (fun _ => Nat.le_refl _) fun asked => ?_
  refine .bind (.bind (consumes_text address _) fun _ => .ofExcept _) fun issued => ?_
  split
  · exact .fail _
  · refine .bind (fun s => ?_) fun expiry => .bind (fun _ => Nat.le_refl _) fun _ => .pure _
    cases later? asked (issued.lifetime * nanosPerSecond) <;> exact Nat.le_refl _

theorem consumes_keptToken : keptToken.Consumes := by
  intro s
  rw [keptToken]
  split
  · exact Nat.le_refl _
  · split <;> exact Nat.le_refl _

theorem consumes_token (c : Credentials) : c.token.Consumes := by
  cases c with
  | fixed token => exact .pure token
  | instanceAccount address =>
    refine .bind consumes_keptToken fun kept => ?_
    cases kept with
    | some token => exact .pure token
    | none => exact consumes_renewToken address

end CloudSteward
