import CloudSteward.Error
import CloudSteward.Placement
import CloudSteward.Sorted
import CloudSteward.Text.Integer

/-!
# Settings

The settings of a cluster come from named variables of the environment. Values
are trimmed, and a blank value counts as none. Folder and zone may stay open
here; the metadata service then tells where the controller runs.

Results:

* `zoneId_locate`, `regionId_locate`: a location fills an open zone and its
  region, and changes neither otherwise.
-/

namespace CloudSteward

/-! ## Variables -/

/-- Names of the variables. -/
def envClusterName : String := "YANDEX_CLUSTER_NAME"

/-- Folder of all resources. -/
def envFolderId : String := "YANDEX_CLOUD_FOLDER_ID"

/-- Zone of the controller's own instance. -/
def envZone : String := "YANDEX_CLOUD_ZONE"

/-- Token of the cloud API. -/
def envIamToken : String := "YANDEX_CLOUD_IAM_TOKEN"

/-- Subnet that listeners take their addresses from. -/
def envListenerSubnetId : String := "YANDEX_CLOUD_DEFAULT_LB_LISTENER_SUBNET_ID"

/-- Network whose target group balancers attach. -/
def envTargetGroupNetworkId : String := "YANDEX_CLOUD_DEFAULT_LB_TARGET_GROUP_NETWORK_ID"

/-- Networks of internal addresses. -/
def envInternalNetworkIds : String := "YANDEX_CLOUD_INTERNAL_NETWORK_IDS"

/-- Networks of external addresses. -/
def envExternalNetworkIds : String := "YANDEX_CLOUD_EXTERNAL_NETWORK_IDS"

/-- Route table for pod routes. -/
def envRouteTableId : String := "YANDEX_CLOUD_ROUTE_TABLE_ID"

/-- Number of services reconciled at once. -/
def envWorkers : String := "YANDEX_CCM_WORKERS"

/-- Number of services reconciled at once unless set. -/
def defaultWorkers : Nat := 2

/-! ## Settings of a cluster -/

/-- The settings of a cluster. -/
structure Settings where
  /-- Starts the name of every target group without prefix. -/
  clusterName : String
  folderId : String
  /-- Zone of the controller's own instance. -/
  zoneId : String
  regionId : String
  /-- Token of the cloud API; without it the instance's own account is used. -/
  iamToken : Option String
  /-- Listener subnet of services that name none; makes their balancers internal. -/
  listenerSubnetId : Option String
  /-- Network of services that name none. -/
  targetGroupNetworkId : String
  internalNetworkIds : NameSet
  externalNetworkIds : NameSet
  /-- Enables pod routes. -/
  routeTableId : Option String
  workers : Nat
deriving DecidableEq

namespace Settings

/-- The value of a variable, trimmed, unless it is blank. -/
def value? (lookup : String → Option String) (name : String) : Option String :=
  (lookup name).bind Text.nonBlank?

/-- The ids of a comma-separated list, without blank ones. -/
def idList (raw : Option String) : NameSet :=
  SortedSet.ofMembers (((raw.map (Text.parts ',')).getD []).filterMap Text.nonBlank?)

/-- A variable that has to be set. -/
def requiredVariable (lookup : String → Option String) (name : String) :
    Except SyncError String :=
  match value? lookup name with
  | some value => .ok value
  | none => .error (.invalidConfig s!"{name} environment variable is required")

/-- The number of workers. -/
def workersOf (raw : Option String) : Except SyncError Nat :=
  match raw with
  | none => .ok defaultWorkers
  | some raw =>
    match (Text.count? raw).filter (0 < ·) with
    | some n => .ok n
    | none =>
      .error (.invalidConfig s!"{envWorkers} must be a positive integer, got {Text.quoted raw}")

/-- The settings in an environment. -/
def ofLookup (lookup : String → Option String) : Except SyncError Settings := do
  let get := value? lookup
  let clusterName ← requiredVariable lookup envClusterName
  let targetGroupNetworkId ← requiredVariable lookup envTargetGroupNetworkId
  let workers ← workersOf (get envWorkers)
  let zoneId := (get envZone).getD ""
  return {
    clusterName
    folderId := (get envFolderId).getD ""
    zoneId
    regionId := regionOf zoneId
    iamToken := get envIamToken
    listenerSubnetId := get envListenerSubnetId
    targetGroupNetworkId
    internalNetworkIds := idList (get envInternalNetworkIds)
    externalNetworkIds := idList (get envExternalNetworkIds)
    routeTableId := get envRouteTableId
    workers }

/-- Whether folder or zone are still open. -/
def needsLocation (s : Settings) : Bool :=
  s.folderId.isEmpty || s.zoneId.isEmpty

/-- The settings with folder and zone filled in where they are open. -/
def locate (s : Settings) (l : Location) : Settings :=
  { s with
    folderId := if s.folderId.isEmpty then l.folderId else s.folderId
    zoneId := if s.zoneId.isEmpty then l.zoneId else s.zoneId
    regionId := if s.zoneId.isEmpty then regionOf l.zoneId else s.regionId }

/-- The failure domain of the controller's own instance. -/
def ownZone (s : Settings) : Zone := ⟨s.zoneId, s.regionId⟩

/-! ## Laws -/

theorem zoneId_locate (s : Settings) (l : Location) :
    (s.locate l).zoneId = if s.zoneId.isEmpty then l.zoneId else s.zoneId := rfl

theorem regionId_locate (s : Settings) (l : Location) :
    (s.locate l).regionId = if s.zoneId.isEmpty then regionOf l.zoneId else s.regionId := rfl

end Settings

end CloudSteward
