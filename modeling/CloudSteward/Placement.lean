import CloudSteward.Text.Blank
import CloudSteward.Text.Quoted
import CloudSteward.Text.Segments

/-!
# Zones, regions and locations

A zone is named after its region, with a hyphen and a letter behind it. The
location of a machine, its folder and zone, is written as the path
`projects/FOLDER/zones/ZONE`.

Results:

* `Location.parsePath?_render`: the path of a location without slashes reads back.
-/

namespace CloudSteward

/-- The failure domain of a node. -/
structure Zone where
  failureDomain : String
  region : String
deriving DecidableEq, Repr

/-- The region of a zone: what stands before its last hyphen. -/
def regionOf (zoneId : String) : String :=
  Text.beforeLast '-' zoneId

/-- The failure domain of a zone. -/
def Zone.ofId (zoneId : String) : Zone :=
  ⟨zoneId, regionOf zoneId⟩

/-- Where a machine runs. -/
structure Location where
  folderId : String
  zoneId : String
deriving DecidableEq, Repr

namespace Location

/-- The path of a location. -/
def renderPath (l : Location) : String :=
  Text.joinText '/' ["projects", l.folderId, "zones", l.zoneId]

/-- Reads the path of a location; folder and zone must not be empty. -/
def parsePath? (path : String) : Option Location :=
  match Text.parts '/' path with
  | [projects, folderId, zones, zoneId] =>
    if projects = "projects" ∧ zones = "zones" ∧ folderId ≠ "" ∧ zoneId ≠ "" then
      some ⟨folderId, zoneId⟩
    else none
  | _ => none

theorem parsePath?_render {l : Location} (hf : l.folderId ≠ "") (hz : l.zoneId ≠ "")
    (hfs : '/' ∉ l.folderId.toList) (hzs : '/' ∉ l.zoneId.toList) :
    parsePath? l.renderPath = some l := by
  have parts_eq : Text.parts '/' l.renderPath = ["projects", l.folderId, "zones", l.zoneId] := by
    refine Text.parts_joinText (List.cons_ne_nil _ _) ?_
    simp only [List.forall_mem_cons, List.not_mem_nil, false_implies, implies_true, and_true]
    exact ⟨by decide, hfs, by decide, hzs⟩
  rw [parsePath?, parts_eq]
  simp [hf, hz]

end Location

end CloudSteward
