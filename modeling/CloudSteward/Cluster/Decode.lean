import CloudSteward.Cluster.Object
import CloudSteward.Json.Record

/-!
# Nodes and services from JSON

The cluster leaves out what an object does not have, or writes null for it; both
are read alike, and what is required of an object's parts is empty when absent.
-/

namespace CloudSteward

open Json

namespace Json

/-- The member of a key, unless it is absent or null. -/
def member? (j : Json) (key : String) : Option Json :=
  match j with
  | .obj members =>
    match members.reverse.find? (·.1 == key) with
    | some (_, .null) => none
    | some (_, value) => some value
    | none => none
  | _ => none

/-- An optional part of an object. -/
def part? {α : Type} (j : Json) (key : String) (decode : Json → Option α) : Option (Option α) :=
  match j.member? key with
  | some v => (decode v).map some
  | none => some none

/-- A part of an object that is `default` when it is absent. -/
def partOr? {α : Type} (j : Json) (key : String) (default : α) (decode : Json → Option α) :
    Option α :=
  (j.part? key decode).map (·.getD default)

/-- A moment. -/
def moment? (j : Json) : Option Moment :=
  (text? j).bind Moment.decode?

end Json

/-- Reads the metadata of an object. -/
def ObjectMeta.ofJson? (j : Json) : Option ObjectMeta := do
  return {
    name := ← j.part? "name" text?
    generateName := ← j.part? "generateName" text?
    namespaceName := ← j.part? "namespace" text?
    uid := ← j.part? "uid" text?
    labels := ← j.partOr? "labels" .empty labels?
    annotations := ← j.partOr? "annotations" .empty labels?
    finalizers := ← j.partOr? "finalizers" [] (list? text?)
    deletionTimestamp := ← j.part? "deletionTimestamp" moment?
    resourceVersion := ← j.part? "resourceVersion" text? }

/-- Metadata with nothing in it. -/
def ObjectMeta.blank : ObjectMeta :=
  ⟨none, none, none, none, .empty, .empty, [], none, none⟩

/-- Reads a taint. -/
def Taint.ofJson? (j : Json) : Option Taint := do
  return {
    key := ← j.partOr? "key" "" text?
    effect := ← j.partOr? "effect" "" text?
    value := ← j.part? "value" text?
    timeAdded := ← j.part? "timeAdded" moment? }

/-- Reads an address of a node. -/
def NodeAddress.ofJson? (j : Json) : Option NodeAddress := do
  return {
    type := ← j.partOr? "type" "" text?
    address := ← j.partOr? "address" "" text? }

/-- Reads a condition of a node. -/
def NodeCondition.ofJson? (j : Json) : Option NodeCondition := do
  return {
    type := ← j.partOr? "type" "" text?
    status := ← j.partOr? "status" "" text? }

/-- Reads a node. -/
def Node.ofJson? (j : Json) : Option Node := do
  let spec := (j.member? "spec").getD .null
  let status := (j.member? "status").getD .null
  return {
    metadata := ← j.partOr? "metadata" .blank ObjectMeta.ofJson?
    providerId? := ← spec.part? "providerID" text?
    podCidr? := ← spec.part? "podCIDR" text?
    taints := ← spec.partOr? "taints" [] (list? Taint.ofJson?)
    addresses := ← status.partOr? "addresses" [] (list? NodeAddress.ofJson?)
    conditions := ← status.partOr? "conditions" [] (list? NodeCondition.ofJson?) }

/-- Reads a port of a service. -/
def ServicePort.ofJson? (j : Json) : Option ServicePort := do
  return {
    name := ← j.part? "name" text?
    protocol := ← j.part? "protocol" text?
    port := ← j.partOr? "port" 0 int32?
    nodePort := ← j.part? "nodePort" int32? }

/-- Reads the state of a port. -/
def PortStatus.ofJson? (j : Json) : Option PortStatus := do
  return {
    port := ← j.partOr? "port" 0 int32?
    protocol := ← j.partOr? "protocol" "" text?
    error := ← j.part? "error" text? }

/-- Reads an address of a service. -/
def Ingress.ofJson? (j : Json) : Option Ingress := do
  return {
    ip := ← j.part? "ip" text?
    hostname := ← j.part? "hostname" text?
    ipMode := ← j.part? "ipMode" text?
    ports := ← j.part? "ports" (list? PortStatus.ofJson?) }

/-- Reads what a service reports of its balancer. -/
def BalancerStatus.ofJson? (j : Json) : Option BalancerStatus := do
  return { ingress := ← j.part? "ingress" (list? Ingress.ofJson?) }

/-- Reads a service. -/
def Service.ofJson? (j : Json) : Option Service := do
  let spec := (j.member? "spec").getD .null
  let status := (j.member? "status").getD .null
  return {
    metadata := ← j.partOr? "metadata" .blank ObjectMeta.ofJson?
    type? := ← spec.part? "type" text?
    ports := ← spec.partOr? "ports" [] (list? ServicePort.ofJson?)
    externalTrafficPolicy := ← spec.part? "externalTrafficPolicy" text?
    healthCheckNodePort := ← spec.part? "healthCheckNodePort" int32?
    balancerStatus := ← status.part? "loadBalancer" BalancerStatus.ofJson? }

end CloudSteward
