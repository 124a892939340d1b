import CloudSteward.Placement
import CloudSteward.Rest.Reply
import CloudSteward.Settings
import CloudSteward.Text.Blank

/-!
# The metadata service

An instance can ask where it runs and obtain a token for its own account from a
service at a fixed address. The service is plain: it is asked without a token,
and its answers are a path and a small document.

Results:

* `readText_reply`: the text of a successful reply is its body.
* `ofEnvironment_of_error`: an environment that cannot be read is refused before
  anything is asked.
-/

namespace CloudSteward

open Json

/-- The address of the metadata service. -/
def metadataAddress : String := "http://169.254.169.254"

/-- A text without the slashes at its end. -/
def withoutTrailingSlashes (s : String) : String :=
  String.ofList (s.toList.reverse.dropWhile (· == '/')).reverse

/-- A token as it is issued. -/
structure IssuedToken where
  value : String
  /-- Seconds from the request for it until it expires. -/
  lifetime : Int
  type : String
deriving DecidableEq, Repr

/-- Reads an issued token. -/
def IssuedToken.ofJson? (j : Json) : Option IssuedToken := do
  let fs ← record? ["access_token", "expires_in", "token_type"] j
  return {
    value := ← fs.required "access_token" text?
    lifetime := ← fs.required "expires_in" int64?
    type := ← fs.withDefault "token_type" "" text? }

namespace Metadata

/-- The path of the instance's location. -/
def locationPath : String := "/computeMetadata/v1/instance/zone"

/-- The path of the token of the instance's account. -/
def tokenPath : String := "/computeMetadata/v1/instance/service-accounts/default/token"

/-- The text of a reply with a status. -/
def textOf (path : String) (status : Nat) (body : String) : Except CloudError String :=
  if isSuccess status then .ok body
  else .error (.api status s!"metadata GET {path} failed: {body}")

/-- The text of a delivery; a body that breaks off is empty. -/
def readText (path : String) : Delivery → Except CloudError String
  | .lost => .error .http
  | .cut status => textOf path status ""
  | .reply status body => textOf path status body

/-- Asks for a text at the service with the given address. -/
def text (address path : String) : Talk String := do
  let url := withoutTrailingSlashes address ++ path
  let delivery ← Talk.send ⟨.get, url, .metadata, none⟩
  Talk.ofExcept (readText path delivery)

/-- Reads the path of a location. -/
def readLocation (raw : String) : Except CloudError Location :=
  match Location.parsePath? raw with
  | some l => .ok l
  | none =>
    .error (.invalidRequest s!"unexpected zone path from metadata service: {Text.quoted raw}")

/-- Asks where the instance runs. -/
def location (address : String) : Talk Location := do
  Talk.ofExcept (readLocation (Text.trim (← text address locationPath)))

/-- Reads a token. -/
def readToken (raw : String) : Except CloudError IssuedToken :=
  match (Json.read? raw).bind IssuedToken.ofJson? with
  | some t => .ok t
  | none => .error .serialization

/-- Asks for a token of the instance's account. -/
def token (address : String) : Talk IssuedToken := do
  Talk.ofExcept (readToken (← text address tokenPath))

theorem readText_reply {path body : String} {status : Nat} (h : isSuccess status = true) :
    readText path (.reply status body) = .ok body := by
  simp [readText, textOf, h]

end Metadata

/-! ## Settings -/

/-- The settings with folder and zone; the metadata service is asked for them if
    one of them is open. -/
def Settings.located (s : Settings) : Talk (Except SyncError Settings) :=
  if s.needsLocation then do
    match ← (Metadata.location metadataAddress).attempt with
    | .ok l => return .ok (s.locate l)
    | .error e => return .error (.cloud e)
  else pure (.ok s)

/-- The complete settings in an environment. -/
def Settings.ofEnvironment (lookup : String → Option String) :
    Talk (Except SyncError Settings) :=
  match Settings.ofLookup lookup with
  | .error e => pure (.error e)
  | .ok s => s.located

/-- An environment that cannot be read is refused before anything is asked. -/
theorem ofEnvironment_of_error {lookup : String → Option String} {e : SyncError}
    (h : Settings.ofLookup lookup = .error e) (s : Session) :
    Settings.ofEnvironment lookup s = (.ok (.error e), s) := by
  rw [Settings.ofEnvironment, h]
  rfl

end CloudSteward
