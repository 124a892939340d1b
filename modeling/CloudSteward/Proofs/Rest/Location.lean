import CloudSteward.Proofs.Rest.Sending
import CloudSteward.Proofs.Segments
import CloudSteward.ProviderId

/-!
# Where an instance runs

The metadata service tells the location of an instance by its path. Blanks around the path
are no matter, but nothing else may stand in the reply, and folder and zone must be there.
Whatever else becomes of the request tells no location.

Results:

* `Location.parsePath?_eq_some_iff`: the texts that are paths of locations.
* `Metadata.location_apply`: a location is asked for by one request.
* `Metadata.tells_iff`: the deliveries that a location is read in.
-/

namespace CloudSteward

/-! ## Paths of locations -/

namespace Location

theorem renderPath_eq (l : Location) :
    l.renderPath = "projects/" ++ l.folderId ++ "/zones/" ++ l.zoneId := by
  rw [← String.toList_inj]
  simp [renderPath, Text.joinText, Text.join]

/-- A text reads as a location exactly if it is its path and the segments can be told apart. -/
theorem parsePath?_eq_some_iff {path : String} {l : Location} :
    parsePath? path = some l ↔
      path = l.renderPath ∧ IsSegment l.folderId ∧ IsSegment l.zoneId := by
  constructor
  · intro h
    have hjoin := Text.joinText_parts '/' path
    have hslash : ∀ part ∈ Text.parts '/' path, '/' ∉ part.toList :=
      fun part => Text.sep_notMem_of_mem_parts
    rw [parsePath?] at h
    split at h
    · rename_i projects folderId zones zoneId hparts
      rw [hparts] at hjoin hslash
      split at h
      · rename_i hwords
        obtain ⟨rfl, rfl, hfolder, hzone⟩ := hwords
        cases h
        exact ⟨hjoin.symm, ⟨hfolder, hslash folderId (by simp)⟩, ⟨hzone, hslash zoneId (by simp)⟩⟩
      · cases h
    · cases h
  · rintro ⟨rfl, hfolder, hzone⟩
    exact parsePath?_render hfolder.1 hzone.1 hfolder.2 hzone.2

end Location

/-! ## The location in a reply -/

/-- A delivery tells a location: it is a successful reply that is the path of the location with
    blanks around it, and folder and zone are not empty and have no slash. -/
inductive Delivery.Tells : Delivery → Location → Prop
  | reply {status : Nat} {body : String} {l : Location} (success : isSuccess status = true)
      (path : Text.trim body = "projects/" ++ l.folderId ++ "/zones/" ++ l.zoneId)
      (folder : IsSegment l.folderId) (zone : IsSegment l.zoneId) :
      (Delivery.reply status body).Tells l

namespace Metadata

/-- The request for the location of the instance. -/
def locationRequest : Request :=
  ⟨.get, metadataAddress ++ locationPath, .metadata, none⟩

/-- The location in a delivery. -/
def locationOf (d : Delivery) : Except CloudError Location :=
  readText locationPath d >>= fun raw => readLocation (Text.trim raw)

theorem location_apply (s : Session) :
    location metadataAddress s =
      (.ofExcept (locationOf (s.send locationRequest).1), (s.send locationRequest).2) := by
  have haddress : withoutTrailingSlashes metadataAddress = metadataAddress := by decide
  rw [location, bind_ofExcept _ fun raw => readLocation (Text.trim raw), text_apply, haddress]
  exact congrArg (·, _) (andThen_ofExcept _ _)

theorem readLocation_eq_ok_iff {raw : String} {l : Location} :
    readLocation raw = .ok l ↔ Location.parsePath? raw = some l := by
  rw [readLocation]
  cases Location.parsePath? raw <;> simp

theorem textOf_eq_ok_iff {path body raw : String} {status : Nat} :
    textOf path status body = .ok raw ↔ isSuccess status = true ∧ body = raw := by
  rw [textOf]
  split
  · rename_i hsuccess
    simp [hsuccess]
  · rename_i hrefused
    simp [hrefused]

theorem locationOf_eq_ok_iff {d : Delivery} {l : Location} :
    locationOf d = .ok l ↔
      ∃ raw, readText locationPath d = .ok raw ∧ Location.parsePath? (Text.trim raw) = some l := by
  rw [locationOf, bind_eq_ok_iff]
  simp only [readLocation_eq_ok_iff]

/-- A location is what a delivery tells. -/
theorem tells_iff {d : Delivery} {l : Location} : d.Tells l ↔ locationOf d = .ok l := by
  rw [locationOf_eq_ok_iff]
  constructor
  · rintro ⟨hsuccess, hpath, hfolder, hzone⟩
    exact ⟨_, readText_reply hsuccess, Location.parsePath?_eq_some_iff.mpr
      ⟨hpath.trans l.renderPath_eq.symm, hfolder, hzone⟩⟩
  · rintro ⟨raw, hraw, hread⟩
    cases d with
    | lost => cases hraw
    | cut status =>
      -- what is left of a body that breaks off is no path
      obtain ⟨-, rfl⟩ := textOf_eq_ok_iff.mp hraw
      have hnone : Location.parsePath? (Text.trim "") = none := rfl
      rw [hnone] at hread
      cases hread
    | reply status body =>
      obtain ⟨hsuccess, rfl⟩ := textOf_eq_ok_iff.mp hraw
      obtain ⟨hpath, hfolder, hzone⟩ := Location.parsePath?_eq_some_iff.mp hread
      exact .reply hsuccess (hpath.trans l.renderPath_eq) hfolder hzone

end Metadata

theorem Delivery.Tells.unique {d : Delivery} {l l' : Location} (h : d.Tells l)
    (h' : d.Tells l') : l = l' :=
  Except.ok.inj ((Metadata.tells_iff.mp h).symm.trans (Metadata.tells_iff.mp h'))

theorem Delivery.Tells.ne_empty {d : Delivery} {l : Location} (h : d.Tells l) :
    l.folderId ≠ "" ∧ l.zoneId ≠ "" := by
  obtain ⟨-, -, hfolder, hzone⟩ := h
  exact ⟨hfolder.1, hzone.1⟩

/-- Who tells a location has received the request. -/
theorem Delivery.Tells.received {s : Session} {r : Request} {l : Location}
    (h : (s.send r).1.Tells l) :
    (s.send r).2.server.received = s.server.received ++ [r] := by
  cases hreach : s.server.reachable with
  | false =>
    rw [Session.send, hreach] at h
    cases h
  | true => exact ((Server.Serves.one s r).recorded hreach).1

end CloudSteward
