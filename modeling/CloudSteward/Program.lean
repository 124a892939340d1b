import CloudSteward.Cluster.Write
import CloudSteward.Error
import CloudSteward.Resource.Basic
import CloudSteward.Sorted

/-!
# Programs over the cloud

A reconciler decides from each answer what to do next. It is written as a
`Program`: a tree of requests in which every possible answer has its branch.
A program can be run against the cloud in memory or be inspected as it stands,
and nothing in it depends on how the cloud answers.

Besides calls to the cloud a program can write to the cluster, and it can look
at and replace the one thing that is kept between reconciliations: the names of
the nodes of the last complete target group sync.

Results:

* `bind_assoc`, `bind_pure`: programs compose as a monad.
-/

namespace CloudSteward

/-! ## Calls -/

/-- A call to the cloud. Changes are complete when the call returns. -/
inductive Call where
  | getInstance (id : String)
  | findInstance (name : String)
  | getSubnet (id : String)
  | getRouteTable (id : String)
  | setRoutes (id : String) (routes : List StaticRoute)
  | listTargetGroups
  | findTargetGroup (name : String)
  | createTargetGroup (request : TargetGroupRequest)
  | addTargets (id : String) (targets : List Target)
  | removeTargets (id : String) (targets : List Target)
  | deleteTargetGroup (id : String)
  | findBalancer (name : String)
  | createBalancer (request : BalancerRequest)
  | deleteBalancer (id : String)
  | addListener (id : String) (listener : ListenerSpec)
  | removeListener (id : String) (name : String)
  | attachTargetGroup (id : String) (attachment : Attachment)
  | detachTargetGroup (id : String) (targetGroupId : String)
deriving DecidableEq

/-- What a call answers when it succeeds. A look-up by unique name answers
    nothing if there is no such resource. -/
@[reducible]
def Call.Reply : Call → Type
  | .getInstance _ => Instance
  | .findInstance _ => Option Instance
  | .getSubnet _ => Subnet
  | .getRouteTable _ | .setRoutes _ _ => RouteTable
  | .listTargetGroups => List TargetGroup
  | .findTargetGroup _ => Option TargetGroup
  | .createTargetGroup _ | .addTargets _ _ | .removeTargets _ _ => TargetGroup
  | .deleteTargetGroup _ | .deleteBalancer _ => Unit
  | .findBalancer _ => Option Balancer
  | .createBalancer _ | .addListener _ _ | .removeListener _ _ | .attachTargetGroup _ _
  | .detachTargetGroup _ _ => Balancer

/-- The kind of a call, without its arguments. -/
inductive Method where
  | getInstance
  | findInstance
  | getSubnet
  | getRouteTable
  | setRoutes
  | listTargetGroups
  | findTargetGroup
  | createTargetGroup
  | addTargets
  | removeTargets
  | deleteTargetGroup
  | findBalancer
  | createBalancer
  | deleteBalancer
  | addListener
  | removeListener
  | attachTargetGroup
  | detachTargetGroup
deriving DecidableEq, Repr

/-- The kind of a call. -/
def Call.method : Call → Method
  | .getInstance _ => .getInstance
  | .findInstance _ => .findInstance
  | .getSubnet _ => .getSubnet
  | .getRouteTable _ => .getRouteTable
  | .setRoutes _ _ => .setRoutes
  | .listTargetGroups => .listTargetGroups
  | .findTargetGroup _ => .findTargetGroup
  | .createTargetGroup _ => .createTargetGroup
  | .addTargets _ _ => .addTargets
  | .removeTargets _ _ => .removeTargets
  | .deleteTargetGroup _ => .deleteTargetGroup
  | .findBalancer _ => .findBalancer
  | .createBalancer _ => .createBalancer
  | .deleteBalancer _ => .deleteBalancer
  | .addListener _ _ => .addListener
  | .removeListener _ _ => .removeListener
  | .attachTargetGroup _ _ => .attachTargetGroup
  | .detachTargetGroup _ _ => .detachTargetGroup

/-- Whether calls of a kind only read. -/
def Method.isRead : Method → Bool
  | .getInstance | .findInstance | .getSubnet | .getRouteTable | .listTargetGroups
  | .findTargetGroup | .findBalancer => true
  | _ => false

/-! ## Programs -/

/-- What a reconciler does. -/
inductive Program (α : Type) where
  /-- Done, with a result. -/
  | pure (a : α)
  /-- Done, with an error. -/
  | fail (e : SyncError)
  /-- Stopped by a fault that no error describes. -/
  | abort
  /-- Calls the cloud and goes on from its answer. -/
  | call (c : Call) (next : Except CloudError c.Reply → Program α)
  /-- Deletes target groups, a few at a time, until one cannot be deleted; groups
      that are gone already do not count as such. -/
  | deleteGroups (ids : List String) (next : Except CloudError Unit → Program α)
  /-- Writes to the cluster. -/
  | write (w : ClusterWrite) (next : Except WriteError Unit → Program α)
  /-- Looks at the node names of the last complete sync. -/
  | visited (next : Option NameSet → Program α)
  /-- Replaces the node names of the last complete sync. -/
  | remember (names : Option NameSet) (next : Program α)

namespace Program

variable {α β γ : Type}

/-- Goes on with the result of a program. -/
def bind : Program α → (α → Program β) → Program β
  | .pure a, f => f a
  | .fail e, _ => .fail e
  | .abort, _ => .abort
  | .call c next, f => .call c fun r => (next r).bind f
  | .deleteGroups ids next, f => .deleteGroups ids fun r => (next r).bind f
  | .write w next, f => .write w fun r => (next r).bind f
  | .visited next, f => .visited fun names => (next names).bind f
  | .remember names next, f => .remember names (next.bind f)

instance : Monad Program where
  pure := .pure
  bind := bind

/-- A program that hands on its error instead of ending with it. -/
def attempt : Program α → Program (Except SyncError α)
  | .pure a => .pure (.ok a)
  | .fail e => .pure (.error e)
  | .abort => .abort
  | .call c next => .call c fun r => (next r).attempt
  | .deleteGroups ids next => .deleteGroups ids fun r => (next r).attempt
  | .write w next => .write w fun r => (next r).attempt
  | .visited next => .visited fun names => (next names).attempt
  | .remember names next => .remember names next.attempt

/-- A call with its answer, whether it failed or not. -/
def answer (c : Call) : Program (Except CloudError c.Reply) :=
  .call c .pure

/-- A call that has to succeed. -/
def ask (c : Call) : Program c.Reply :=
  .call c fun
    | .ok r => .pure r
    | .error e => .fail (.cloud e)

/-- A write to the cluster that has to succeed. -/
def change (w : ClusterWrite) : Program Unit :=
  .write w fun
    | .ok _ => .pure ()
    | .error e => .fail (.kube e)

/-- The value, or the error. -/
def ofExcept : Except SyncError α → Program α
  | .ok a => .pure a
  | .error e => .fail e

/-- The value, or an error in its place. -/
def require (o : Option α) (e : SyncError) : Program α :=
  match o with
  | some a => .pure a
  | none => .fail e

/-! ## Laws -/

@[simp] theorem bind_pure_left (a : α) (f : α → Program β) : (Program.pure a).bind f = f a := rfl

theorem bind_pure (p : Program α) : p.bind .pure = p := by
  induction p with
  | pure a => rfl
  | fail e => rfl
  | abort => rfl
  | call c next ih => simp only [bind, ih]
  | deleteGroups ids next ih => simp only [bind, ih]
  | write w next ih => simp only [bind, ih]
  | visited next ih => simp only [bind, ih]
  | remember names next ih => simp only [bind, ih]

theorem bind_assoc (p : Program α) (f : α → Program β) (g : β → Program γ) :
    (p.bind f).bind g = p.bind fun a => (f a).bind g := by
  induction p with
  | pure a => rfl
  | fail e => rfl
  | abort => rfl
  | call c next ih => simp only [bind, ih]
  | deleteGroups ids next ih => simp only [bind, ih]
  | write w next ih => simp only [bind, ih]
  | visited next ih => simp only [bind, ih]
  | remember names next ih => simp only [bind, ih]

instance : LawfulMonad Program :=
  LawfulMonad.mk' Program
    (fun p => bind_pure p)
    (fun _ _ => rfl)
    (fun p f g => bind_assoc p f g)

end Program

end CloudSteward
