import CloudSteward.Text.Cut
import CloudSteward.Text.Segments

/-!
# Targets of requests

A request to the cluster names its object in a path, and the name of the object
stands there as it is. A number sign therefore ends the target, a question mark
starts its query, and a few characters are refused in either part. Every
request is given an empty query of its own. What is left of the path tells the
cluster what kind of object a request is about.

Results:

* `ofPath?_plain`: a path without these marks is a target of its own.
-/

namespace CloudSteward

/-- The kinds of objects that are written. -/
inductive ObjectKind where
  | node
  | service
deriving DecidableEq, Repr

/-- The part of the cluster that a request is about. -/
structure RequestTarget where
  path : String
  /-- What follows the question mark behind the path. -/
  query : String
deriving DecidableEq, Repr

namespace RequestTarget

/-- Greatest number of bytes of a target as it is written. -/
def maxLength : Nat := 65534

/-- Whether a character may stand in a path: no space or control character of
    ASCII, and none of `<`, `>` and the grave accent. -/
def isPathChar (c : Char) : Bool :=
  0x20 < c.toNat && !([0x3C, 0x3E, 0x60, 0x7F].contains c.toNat)

/-- Whether a character may stand in a query: no space or control character of
    ASCII, and none of `"`, `<` and `>`. -/
def isQueryChar (c : Char) : Bool :=
  0x20 < c.toNat && !([0x22, 0x3C, 0x3E, 0x7F].contains c.toNat)

/-- The target that is written as a path with an empty query behind it, if there
    is one. -/
def ofPath? (path : String) : Option RequestTarget :=
  let written := path.toList ++ ['?']
  let kept := written.takeWhile (· != '#')
  let front := kept.takeWhile (· != '?')
  let query := kept.drop (front.length + 1)
  if Text.byteLength written ≤ maxLength && front.all isPathChar && query.all isQueryChar then
    some ⟨.ofList front, .ofList query⟩
  else none

/-- The kind of object that a target is about: a service if the path leads
    through a collection of services, otherwise a node. -/
def kind (t : RequestTarget) : ObjectKind :=
  if (Text.parts '/' t.path).tail.dropLast.contains "services" then .service else .node

theorem ofPath?_plain {path : String} (hlen : Text.byteLength (path.toList ++ ['?']) ≤ maxLength)
    (h : ∀ c ∈ path.toList, c ≠ '#' ∧ c ≠ '?' ∧ isPathChar c = true) :
    ofPath? path = some ⟨path, ""⟩ := by
  have kept : (path.toList ++ ['?']).takeWhile (· != '#') = path.toList ++ ['?'] := by
    rw [List.takeWhile_append_of_pos fun c hc => by simpa using (h c hc).1]
    rfl
  have front : (path.toList ++ ['?']).takeWhile (· != '?') = path.toList := by
    rw [List.takeWhile_append_of_pos fun c hc => by simpa using (h c hc).2.1]
    simp
  have query : (path.toList ++ ['?']).drop (path.toList.length + 1) = [] := by
    simp
  have allowed : path.toList.all isPathChar = true :=
    List.all_eq_true.mpr fun c hc => (h c hc).2.2
  simp only [ofPath?, kept, front, query, hlen, allowed, decide_true, List.all_nil, Bool.and_self,
    if_true, String.ofList_toList]

end RequestTarget

end CloudSteward
