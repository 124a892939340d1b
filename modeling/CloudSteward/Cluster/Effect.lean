import CloudSteward.Cluster.Write

/-!
# What a write makes of an object

The cluster merges a patch into the object: maps are merged key by key, and
lists are replaced as a whole. An object that is deleted is gone.
-/

namespace CloudSteward

/-! ## Nodes -/

/-- A map with the entries of another one put in. -/
def mergedLabels (labels : SortedMap String String) (more : List (String × String)) :
    SortedMap String String :=
  more.foldl (fun m e => m.insert e.1 e.2) labels

/-- A node with a patch merged in. -/
def NodePatch.apply (p : NodePatch) (n : Node) : Node :=
  { n with
    metadata := { n.metadata with labels := mergedLabels n.metadata.labels p.labels.entries }
    providerId? := p.providerId.or n.providerId?
    taints := p.taints.getD n.taints }

/-- A node after a write about it. -/
def ClusterWrite.onNode (w : ClusterWrite) (n : Node) : Option Node :=
  match w with
  | .patchNode _ p => some (p.apply n)
  | .setAddresses _ addresses => some { n with addresses }
  | .deleteNode _ => none
  | .setFinalizers _ _ | .setIngress _ _ => some n

/-! ## Services -/

/-- A service after a write about it. -/
def ClusterWrite.onService (w : ClusterWrite) (s : Service) : Service :=
  match w with
  | .setFinalizers _ finalizers => { s with metadata := { s.metadata with finalizers } }
  | .setIngress _ ingress => { s with balancerStatus := some ⟨ingress⟩ }
  | .patchNode _ _ | .setAddresses _ _ | .deleteNode _ => s

end CloudSteward
