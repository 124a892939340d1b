import CloudSteward.Json.Reader
import CloudSteward.Resource.Decode
import CloudSteward.Rest.Server
import CloudSteward.Text.Cut

/-!
# Reading replies

A reply counts by its status: a success carries a document, anything else
an error. An error reply may carry a status of its own, whose code says whether
a resource is missing or exists already. A status of 404 means a missing
resource, whatever that code is; otherwise the code counts before the status of
the reply.
-/

namespace CloudSteward

open Json

/-- Whether a status means success. -/
def isSuccess (status : Nat) : Bool := 200 ≤ status && status < 300

/-- The status of a missing resource. -/
def statusNotFound : Nat := 404

/-- A status in words, where it says that access is refused. -/
def refusedAccess? : Nat → Option String
  | 401 => some "401 Unauthorized"
  | 403 => some "403 Forbidden"
  | _ => none

/-- The status that a body reports. -/
def reportedStatus? (body : String) : Option RpcStatus :=
  (Json.read? body).bind (RpcStatus.ofJson? 0)

/-- The error of a reply whose body reports a code, or none, and a message. -/
def refusalOf (verb : Verb) (url : String) (status : Nat) (code : Option Int)
    (message : String) : CloudError :=
  if code = some codeNotFound ∨ status = statusNotFound then
    .notFound s!"{verb.word} {url}: {message}"
  else if code = some codeAlreadyExists then .alreadyExists s!"{verb.word} {url}: {message}"
  else
    match refusedAccess? status with
    | some words => .authentication s!"{verb.word} {url} failed: {words} - {message}"
    | none => .api status s!"{verb.word} {url} failed: {message}"

/-- The error of a reply without success. -/
def refusal (verb : Verb) (url : String) (status : Nat) (body : String) : CloudError :=
  match reportedStatus? body with
  | some reported => refusalOf verb url status (some reported.code) reported.message
  | none => refusalOf verb url status none body

/-- The body of a successful reply. A body that breaks off is empty if the reply
    is an error anyhow. -/
def bodyOf (verb : Verb) (url : String) : Delivery → Except CloudError String
  | .lost => .error .http
  | .cut status => .error (if isSuccess status then .http else refusal verb url status "")
  | .reply status body =>
    if isSuccess status then .ok body else .error (refusal verb url status body)

/-- Number of characters of a body that a message shows. -/
def shownChars : Nat := 500

/-- The error of a body that is not what it should be. The words before the body
    stand for what the parser says of it, which depends on the parser. -/
def undecodable (url body : String) : CloudError :=
  .api 200 (s!"error decoding response body from {url}: unexpected document" ++
    s!" - Response (first {shownChars} chars): {Text.cutChars shownChars body}")

/-- Reads the body of a reply. -/
def decodeBody {α : Type} (decode : Json → Option α) (url body : String) : Except CloudError α :=
  match (Json.read? body).bind decode with
  | some a => .ok a
  | none => .error (undecodable url body)

/-- Reads a reply. -/
def readDelivery {α : Type} (decode : Json → Option α) (verb : Verb) (url : String)
    (d : Delivery) : Except CloudError α := do
  decodeBody decode url (← bodyOf verb url d)

end CloudSteward
