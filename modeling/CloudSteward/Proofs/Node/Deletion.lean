import CloudSteward.Proofs.Events
import CloudSteward.Proofs.Steps
import CloudSteward.Reconcile.Node

/-!
# Deleting a node

The reconciliation of a node reads from the cloud and writes to its node alone. It
deletes the node in one case only: the node is initialized, not ready and of this
provider, and the look-up of its instance has come back with nothing. Nothing else is
written then. A look-up that fails in any other way deletes nothing.

Results:

* `within_initializeNode`, `within_refreshNode`: the steps that describe a node.
* `instanceByProviderId_done_none_iff`: when the look-up comes back with nothing.
* `deletes_iff_abandoned`: when a node is deleted.
-/

namespace CloudSteward

open Program

/-! ## Steps -/

/-- A step that describes a node: it reads from the cloud, or writes to the node without
    deleting it. -/
def Action.Describes (n : Node) : Action → Prop
  | .call c => c.method.isRead = true
  | .write (.patchNode node _) | .write (.setAddresses node _) => node = n
  | .write _ | .remember _ => False

theorem Action.Calls.describes {a : Action} (h : a.Calls Method.isRead) (n : Node) :
    a.Describes n := by
  cases a with
  | call c => exact h
  | write c => exact h.elim
  | remember names => exact h

theorem within_namedInstance (name : String) :
    (namedInstance name).Within (·.Calls Method.isRead) :=
  within_bind (within_ask rfl) fun _ => within_require _ _

theorem within_providedInstance (raw : String) :
    (providedInstance raw).Within (·.Calls Method.isRead) :=
  within_bind (within_instanceByProviderId raw) fun _ => within_require _ _

theorem within_interfacesAddresses (s : Settings) (instanceName : String) (index : Nat)
    (memo : SubnetMemo) (interfaces : List Interface) :
    (interfacesAddresses s instanceName index memo interfaces).Within
      (·.Calls Method.isRead) := by
  induction interfaces generalizing index memo with
  | nil => trivial
  | cons i rest ih =>
    refine within_bind (within_require _ _) fun address => ?_
    split
    · refine within_bind (within_networkOf memo i.subnetId) fun _ => ?_
      exact within_bind (ih _ _) fun _ => trivial
    · exact within_bind (ih _ _) fun _ => trivial

theorem within_addressesOfInstance (s : Settings) (i : Instance) :
    (addressesOfInstance s i).Within (·.Calls Method.isRead) := by
  rw [addressesOfInstance]
  split
  · trivial
  · exact within_interfacesAddresses s i.name 0 .empty i.interfaces

theorem within_addressesByProviderId (s : Settings) (raw : String) :
    (addressesByProviderId s raw).Within (·.Calls Method.isRead) :=
  within_bind (within_providedInstance raw) fun i => within_addressesOfInstance s i

/-- What is known of a new node is only read. -/
theorem within_describeNode (s : Settings) (n : Node) :
    (describeNode s n).Within (·.Calls Method.isRead) := by
  have hname := within_namedInstance n.name
  have hprovided := within_providedInstance n.providerId
  rw [describeNode]
  split
  · refine within_bind (within_bind hname fun _ => trivial) fun path => ?_
    refine within_bind (within_bind hname fun i => within_addressesOfInstance s i) fun _ => ?_
    refine within_bind (within_bind hname fun _ => trivial) fun type => ?_
    exact within_bind (within_bind hname fun _ => trivial) fun zone => trivial
  · split
    · refine within_bind (within_addressesByProviderId s _) fun addresses => ?_
      refine within_bind (within_bind hprovided fun _ => trivial) fun type => ?_
      exact within_bind (within_bind hprovided fun _ => trivial) fun zone => trivial
    · trivial

theorem within_initializeNode (s : Settings) (n : Node) :
    (initializeNode s n).Within (·.Describes n) := by
  refine within_bind ((within_describeNode s n).mono fun _ h => h.describes n) fun d => ?_
  exact within_bind (within_change rfl) fun _ => within_change rfl

theorem within_isOrphaned (n : Node) : (isOrphaned n).Within (·.Calls Method.isRead) := by
  rw [isOrphaned]
  split
  · trivial
  · refine within_bind ?_ fun _ => trivial
    exact within_bind (within_instanceByProviderId _) fun _ => trivial

theorem within_isStopped (n : Node) : (isStopped n).Within (·.Calls Method.isRead) := by
  rw [isStopped]
  split
  · trivial
  · exact within_bind (within_providedInstance _) fun _ => trivial

theorem within_refreshNode (s : Settings) (n : Node) :
    (refreshNode s n).Within (·.Describes n) := by
  have haddresses : (do
      let addresses := withHostname (← addressesByProviderId s n.providerId) n.name
      unless addresses = n.addresses do
        change (.setAddresses n addresses) : Program Unit).Within (·.Describes n) := by
    refine within_bind ((within_addressesByProviderId s _).mono fun _ h => h.describes n)
      fun addresses => ?_
    dsimp only
    split
    · trivial
    · exact within_change rfl
  refine within_bind ((within_isStopped n).mono fun _ h => h.describes n) fun stopped => ?_
  dsimp only
  split
  · exact haddresses
  · exact within_bind (within_change rfl) fun _ => haddresses

/-! ## Looking the instance up -/

/-- The look-up of a providerID, made in this world, comes back with nothing: the call for
    an id is answered by an error that says so, and the call for a name returns, does not
    fail and meets no instance of the name. -/
inductive World.Misses (w : World) : ProviderId → Prop
  | byId {id : String} {e : CloudError}
      (answered : (w.answer (.getInstance id)).1 = some (.error e))
      (missing : e.isNotFound = true) : w.Misses (.instance id)
  | byName {folderId zoneId name : String}
      (returns : (w.incidents.hangs .findInstance).headD false = false)
      (served : (w.incidents.failures .findInstance).head?.join = none)
      (absent : ∀ i ∈ (w.met .findInstance).instances, i.name ≠ name) :
      w.Misses (.legacy folderId zoneId name)

variable {n : Node} {w : World}

/-- A look-up by name that is answered with nothing has met no instance of the name. -/
theorem findInstance_none_iff {folderId zoneId name : String} :
    (w.answer (.findInstance name)).1 = some (.ok none) ↔
      w.Misses (.legacy folderId zoneId name) := by
  have habsent : (w.met .findInstance).findInstance name = .ok none ↔
      ∀ i ∈ (w.met .findInstance).instances, i.name ≠ name := by
    rw [Store.findInstance, unique_eq_none_iff, Store.instancesNamed,
      Inventory.filter_values_eq_nil_iff]
    simp
  rw [answer_eq_ok_iff]
  constructor
  · rintro ⟨⟨hreturns, hserved⟩, hreply⟩
    exact .byName hreturns hserved (habsent.mp hreply)
  · intro h
    cases h with
    | byName hreturns hserved hnone => exact ⟨⟨hreturns, hserved⟩, habsent.mpr hnone⟩

/-- The look-up comes back with nothing exactly if the text is a providerID and what it
    names is missed. -/
theorem instanceByProviderId_done_none_iff {raw : String} :
    (∃ w', (instanceByProviderId raw).run w = (.done none, w')) ↔
      ∃ p, ProviderId.parse raw = .ok p ∧ w.Misses p := by
  rw [instanceByProviderId]
  rcases ProviderId.parse raw with e | ⟨folderId, zoneId, name⟩ | id
  · simp
  · simp only [Except.ok.injEq, exists_eq_left', ← findInstance_none_iff]
    exact run_ask_done_iff
  · simp only [Except.ok.injEq, exists_eq_left']
    constructor
    · rintro ⟨w', h⟩
      obtain ⟨reply, w₁, ha, h⟩ := run_bind_eq_done.mp h
      have ha := run_answer_eq_done.mp ha
      cases reply with
      | ok found => cases h
      | error e =>
        dsimp only at h
        split at h
        · rename_i hmissing
          exact .byId (congrArg Prod.fst ha) hmissing
        · cases h
    · intro h
      cases h with
      | @byId _ e hanswered hmissing =>
        refine ⟨(w.answer (.getInstance id)).2, run_bind_eq_done.mpr
          ⟨.error e, _, run_answer_eq_done.mpr (Prod.ext hanswered rfl), ?_⟩⟩
        simp only [hmissing, if_true]
        rfl

/-! ## Deletion -/

/-- A node of this provider that is initialized, whose first condition on readiness, if it
    has one, does not say so, and whose instance is missed in a world. -/
structure Node.Abandoned (n : Node) (w : World) : Prop where
  initialized : ∀ t ∈ n.taints, t.key ≠ uninitializedTaint
  notReady : ∀ c, n.conditions.find? (·.type == "Ready") = some c → c.status ≠ "True"
  missed : ∃ p, ProviderId.parse n.providerId = .ok p ∧ w.Misses p

theorem hasTaint_eq_false_iff {key : String} :
    n.hasTaint key = false ↔ ∀ t ∈ n.taints, t.key ≠ key := by
  simp [Node.hasTaint]

theorem isReady_eq_false_iff :
    n.isReady = false ↔
      ∀ c, n.conditions.find? (·.type == "Ready") = some c → c.status ≠ "True" := by
  rw [Node.isReady]
  cases n.conditions.find? (·.type == "Ready") <;> simp

/-- What is read as a providerID has the scheme of this provider. -/
theorem belongs_of_parse {raw : String} {p : ProviderId} (h : ProviderId.parse raw = .ok p) :
    ProviderId.belongs raw = true := by
  rw [ProviderId.parse] at h
  rw [ProviderId.belongs]
  cases hrest : afterPrefix? providerScheme.toList raw.toList with
  | none =>
    rw [hrest] at h
    cases h
  | some rest => rfl

/-- A node counts as orphaned exactly if it is not ready and its instance is missed. -/
theorem isOrphaned_done_true_iff :
    (∃ w', (isOrphaned n).run w = (.done true, w')) ↔
      n.isReady = false ∧ ∃ p, ProviderId.parse n.providerId = .ok p ∧ w.Misses p := by
  rw [isOrphaned, ← instanceByProviderId_done_none_iff]
  cases n.isReady with
  | true =>
    refine ⟨fun ⟨w', h⟩ => ?_, fun h => absurd h.1 (by decide)⟩
    cases h
  | false =>
    simp only [Bool.false_eq_true, if_false, true_and]
    constructor
    · rintro ⟨w', h⟩
      obtain ⟨found, w₁, he, h⟩ := run_bind_eq_done.mp h
      obtain ⟨found?, w₂, hl, hf⟩ := run_bind_eq_done.mp he
      cases found? with
      | none => exact ⟨w₂, hl⟩
      | some i =>
        cases hf
        cases h
    · rintro ⟨w', h⟩
      exact ⟨w', run_bind_eq_done.mpr ⟨false, w', run_bind_eq_done.mpr ⟨none, w', h, rfl⟩, rfl⟩⟩

theorem not_isDelete_of_describes {α : Type} {p : Program α} (hp : p.Within (·.Describes n))
    {x : AnsweredWrite} (hx : x ∈ p.writes w) : x.1.isDelete = false := by
  obtain ⟨w₁, c, he, rfl⟩ := mem_writes_iff.mp hx
  have hc : (Action.write c).Describes n := permitted_of_mem_events hp he
  cases c with
  | deleteNode node => exact hc.elim
  | _ => rfl

theorem writes_removeNode (n : Node) (w : World) :
    (removeNode n).writes w = [(.deleteNode n, (w.write (.deleteNode n)).1)] := by
  have hwrote : Event.write? (.wrote w (.deleteNode n)) =
      some (.deleteNode n, (w.write (.deleteNode n)).1) := rfl
  rw [Program.writes, removeNode, Program.events, List.filterMap_cons_some hwrote]
  split <;> rfl

/-- A new node is described. -/
theorem writes_of_tainted {s : Settings} (ht : n.hasTaint uninitializedTaint = true) :
    (reconcileNode s n).writes w = (initializeNode s n).writes w := by
  rw [reconcileNode, if_pos ht, Program.writes, events_bind_pure, Program.writes]

/-- An initialized node of another provider is left alone. -/
theorem writes_of_foreign {s : Settings} (ht : n.hasTaint uninitializedTaint = false)
    (hb : ProviderId.belongs n.providerId = false) : (reconcileNode s n).writes w = [] := by
  rw [reconcileNode]
  simp only [ht, hb, Bool.false_eq_true, if_false, writes_pure]

/-- An initialized node of this provider is compared with its instance. -/
theorem reconcileNode_of_monitored {s : Settings} (ht : n.hasTaint uninitializedTaint = false)
    (hb : ProviderId.belongs n.providerId = true) :
    reconcileNode s n = monitorNode s n >>= fun _ => Pure.pure (.after monitorPeriod) := by
  rw [reconcileNode]
  simp only [ht, hb, Bool.false_eq_true, if_false, if_true]

theorem writes_of_monitored {s : Settings} (ht : n.hasTaint uninitializedTaint = false)
    (hb : ProviderId.belongs n.providerId = true) :
    (reconcileNode s n).writes w = (monitorNode s n).writes w := by
  rw [reconcileNode_of_monitored ht hb, Program.writes, events_bind_pure, Program.writes]

/-- The comparison deletes a node that is found orphaned, and no other. -/
theorem monitorNode_writes (s : Settings) (n : Node) (w : World) :
    ((∃ w₁, (isOrphaned n).run w = (.done true, w₁)) →
        ∃ reply, (monitorNode s n).writes w = [(.deleteNode n, reply)]) ∧
      ((¬ ∃ w₁, (isOrphaned n).run w = (.done true, w₁)) →
        ∀ x ∈ (monitorNode s n).writes w, x.1.isDelete = false) := by
  have hread : (isOrphaned n).writes w = [] := writes_eq_nil (within_isOrphaned n) (fun _ => id) w
  rw [monitorNode]
  constructor
  · rintro ⟨w₁, h⟩
    refine ⟨(w₁.write (.deleteNode n)).1, ?_⟩
    rw [writes_bind_of_done h, hread, List.nil_append]
    exact writes_removeNode n w₁
  · intro h x hx
    rcases hrun : (isOrphaned n).run w with ⟨o, w₁⟩
    cases o with
    | done orphaned =>
      cases orphaned with
      | true => exact absurd ⟨w₁, hrun⟩ h
      | false =>
        rw [writes_bind_of_done hrun, hread, List.nil_append] at hx
        exact not_isDelete_of_describes (within_refreshNode s n) hx
    | _ =>
      rw [writes_bind_of_not_done hrun rfl, hread] at hx
      cases hx

/-- **Deletion.** A reconciliation deletes a node exactly if the node is abandoned in the
    world in which it begins, whatever fails, hangs or is stored by others. It deletes no
    node but its own, and then it writes nothing else. -/
theorem deletes_iff_abandoned (s : Settings) (n : Node) (w : World) :
    ((∃ x ∈ (reconcileNode s n).writes w, x.1.isDelete = true) ↔ n.Abandoned w) ∧
      (n.Abandoned w → ∃ reply, (reconcileNode s n).writes w = [(.deleteNode n, reply)]) := by
  -- it is enough to know the writes with and without the condition
  suffices h : (n.Abandoned w → ∃ reply, (reconcileNode s n).writes w = [(.deleteNode n, reply)]) ∧
      (¬ n.Abandoned w → ∀ x ∈ (reconcileNode s n).writes w, x.1.isDelete = false) by
    refine ⟨⟨fun ⟨x, hx, hdelete⟩ => ?_, fun ha => ?_⟩, h.1⟩
    · refine Classical.byContradiction fun ha => ?_
      rw [h.2 ha x hx] at hdelete
      cases hdelete
    · obtain ⟨reply, hwrites⟩ := h.1 ha
      rw [hwrites]
      exact ⟨_, List.mem_singleton_self _, rfl⟩
  cases ht : n.hasTaint uninitializedTaint with
  | true =>
    refine ⟨fun ha => ?_, fun _ x hx => ?_⟩
    · rw [hasTaint_eq_false_iff.mpr ha.initialized] at ht
      cases ht
    · rw [writes_of_tainted ht] at hx
      exact not_isDelete_of_describes (within_initializeNode s n) hx
  | false =>
    cases hb : ProviderId.belongs n.providerId with
    | false =>
      refine ⟨fun ha => ?_, fun _ x hx => ?_⟩
      · obtain ⟨p, hp, -⟩ := ha.missed
        rw [belongs_of_parse hp] at hb
        cases hb
      · rw [writes_of_foreign ht hb] at hx
        cases hx
    | true =>
      have horphaned : n.Abandoned w ↔ ∃ w₁, (isOrphaned n).run w = (.done true, w₁) := by
        rw [isOrphaned_done_true_iff]
        exact ⟨fun ha => ⟨isReady_eq_false_iff.mpr ha.notReady, ha.missed⟩,
          fun h => ⟨hasTaint_eq_false_iff.mp ht, isReady_eq_false_iff.mp h.1, h.2⟩⟩
      rw [writes_of_monitored ht hb, horphaned]
      exact monitorNode_writes s n w

end CloudSteward
