import CloudSteward.Cluster.Effect
import CloudSteward.Proofs.Node.Reachability
import CloudSteward.Proofs.Node.Reading

/-!
# A monitored node is left alone once it agrees with its instance

The taint of a stopped instance and the addresses of a node are compared with the instance one
after the other, both against the node as it was read, and each is written if it differs. The
node that comes out of these writes agrees with its instance in both, so the next comparison
finds nothing to write. Nothing else of the node is touched.

Results:

* `writes_refreshNode_of_done`: the writes of a comparison are those that are due.
* `written_due`, `agrees_refreshed`: after these writes the node agrees with its instance.
* `due_eq_nil_iff`: nothing is due of a node exactly if it agrees.
* `refreshNode_done_iff`: when a comparison ends well.
* `refreshNode_of_agrees`: a node that agrees is not written.
* `monitoring_settles`: the node after a reconciliation, and the next reconciliation.
-/

namespace CloudSteward

open Program

variable {s : Settings} {n : Node} {i : Instance} {st : Store} {w w' : World}
  {addresses : List NodeAddress}

/-! ## What is due -/

/-- Whether a node is not ready while its instance is stopped. -/
def Node.stoppedOn (n : Node) (i : Instance) : Bool := !n.isReady && i.status == .stopped

/-- The writes that bring a node in line with its instance and with the addresses that the
    instance gives. -/
def Node.due (n : Node) (i : Instance) (addresses : List NodeAddress) : List ClusterWrite :=
  (if n.stoppedOn i = n.hasTaint shutdownTaint then []
    else [.patchNode n ⟨none, .empty, some (n.shutdownTaints (n.stoppedOn i))⟩]) ++
  if withHostname addresses n.name = n.addresses then []
    else [.setAddresses n (withHostname addresses n.name)]

/-- A node is in line with its instance and with the addresses that the instance gives. -/
structure Node.Agrees (n : Node) (i : Instance) (addresses : List NodeAddress) : Prop where
  tainted : n.stoppedOn i = n.hasTaint shutdownTaint
  addressed : withHostname addresses n.name = n.addresses

theorem due_eq_nil_iff : n.due i addresses = [] ↔ n.Agrees i addresses := by
  unfold Node.due
  rw [List.append_eq_nil_iff]
  constructor
  · intro ⟨htaint, haddresses⟩
    exact ⟨by simpa using htaint, by simpa using haddresses⟩
  · intro h
    exact ⟨if_pos h.tainted, if_pos h.addressed⟩

/-! ## The node after the writes -/

/-- A node after writes to it, every one of them taken; none once it is deleted. -/
def Node.written (n : Node) (l : List AnsweredWrite) : Option Node :=
  l.foldlM (fun m x => x.1.onNode m) n

/-- The taints of a node that is, or is not, on a stopped instance, left as they are if they
    say so already. -/
def Node.alignedTaints (n : Node) (stopped : Bool) : List Taint :=
  if stopped = n.hasTaint shutdownTaint then n.taints else n.shutdownTaints stopped

/-- A node brought in line with its instance. -/
def Node.refreshed (n : Node) (i : Instance) (addresses : List NodeAddress) : Node :=
  { n with
    taints := n.alignedTaints (n.stoppedOn i)
    addresses := withHostname addresses n.name }

theorem written_due :
    n.written ((n.due i addresses).map fun c => (c, .ok ())) = some (n.refreshed i addresses) := by
  unfold Node.due Node.refreshed Node.alignedTaints
  by_cases htaint : n.stoppedOn i = n.hasTaint shutdownTaint <;>
    by_cases haddresses : withHostname addresses n.name = n.addresses
  · simp only [if_pos htaint, haddresses, if_true]
    rfl
  · simp only [if_pos htaint, if_neg haddresses]
    rfl
  · simp only [if_neg htaint, haddresses, if_true]
    rfl
  · simp only [if_neg htaint, if_neg haddresses]
    rfl

/-- The other taints stay, in their order. -/
theorem filter_alignedTaints (n : Node) (stopped : Bool) :
    (n.alignedTaints stopped).filter (·.key != shutdownTaint) = n.taintsWithout shutdownTaint := by
  unfold Node.alignedTaints
  split
  · rfl
  · unfold Node.shutdownTaints Node.taintsWithout
    rw [List.filter_append, List.filter_filter]
    cases stopped <;> simp

/-- The taint is there exactly if the instance is stopped. -/
theorem any_alignedTaints (n : Node) (stopped : Bool) :
    (n.alignedTaints stopped).any (·.key == shutdownTaint) = stopped := by
  unfold Node.alignedTaints
  split
  · rename_i hsame
    exact hsame.symm
  · unfold Node.shutdownTaints Node.taintsWithout
    rw [List.any_append, List.any_filter]
    cases stopped <;> simp

/-- A taint of another key is among the other taints. -/
theorem hasTaint_eq_any_taintsWithout {key other : String} (hother : other ≠ key) :
    n.hasTaint other = (n.taintsWithout key).any (·.key == other) := by
  unfold Node.hasTaint Node.taintsWithout
  rw [List.any_filter]
  congr 1
  funext t
  by_cases ht : t.key = other
  · simp [ht, hother]
  · simp [ht]

theorem taintsWithout_refreshed :
    (n.refreshed i addresses).taintsWithout shutdownTaint = n.taintsWithout shutdownTaint :=
  filter_alignedTaints n _

theorem hasTaint_refreshed : (n.refreshed i addresses).hasTaint shutdownTaint = n.stoppedOn i :=
  any_alignedTaints n _

theorem hasTaint_refreshed_of_ne {key : String} (hkey : key ≠ shutdownTaint) :
    (n.refreshed i addresses).hasTaint key = n.hasTaint key := by
  rw [hasTaint_eq_any_taintsWithout hkey, hasTaint_eq_any_taintsWithout hkey,
    taintsWithout_refreshed]

/-- After the writes that are due, a node agrees with its instance. -/
theorem agrees_refreshed : (n.refreshed i addresses).Agrees i addresses where
  tainted := by
    show n.stoppedOn i = _
    exact hasTaint_refreshed.symm
  addressed := rfl

/-! ## Programs that end well if they may write -/

section Completing

variable {α β : Type}

/-- Wherever the instances and subnets of a store are mirrored, the program ends well if the
    cluster takes its writes. -/
def Program.Completes (p : Program α) (st : Store) : Prop :=
  ∀ w, w.Mirrors st → (∀ x ∈ p.writes w, x.2 = .ok ()) → ∃ a w', p.run w = (.done a, w')

theorem completes_change (c : ClusterWrite) : (change c).Completes st := by
  intro w _ htaken
  rw [writes_change] at htaken
  have hwritten : (w.write c).1 = .ok () := htaken _ (List.mem_singleton_self _)
  exact ⟨(), _, run_change_eq_done.mpr (Prod.ext hwritten rfl)⟩

theorem completes_bind {p : Program α} {f : α → Program β} (hp : p.Completes st)
    (hf : ∀ a, (f a).Completes st) : (p >>= f).Completes st := by
  intro w hw htaken
  obtain ⟨a, w₁, hp₁⟩ := hp w hw fun x hx => htaken x (mem_writes_bind_left hx f)
  rw [writes_bind_of_done hp₁] at htaken
  obtain ⟨b, w₂, hf₂⟩ := hf a w₁ (hw.run hp₁) fun x hx => htaken x (List.mem_append_right _ hx)
  exact ⟨b, w₂, run_bind_eq_done.mpr ⟨a, w₁, hp₁, hf₂⟩⟩

/-- What follows a program with one result has to end well with this result only. -/
theorem completes_bind_of_yields {p : Program α} {f : α → Program β} {a : α}
    (hp : p.Yields st a) (hf : (f a).Completes st) : (p >>= f).Completes st := by
  intro w hw htaken
  obtain ⟨w₁, hp₁⟩ := hp w hw
  rw [writes_bind_of_done hp₁] at htaken
  obtain ⟨b, w₂, hf₂⟩ := hf w₁ (hw.run hp₁) fun x hx => htaken x (List.mem_append_right _ hx)
  exact ⟨b, w₂, run_bind_eq_done.mpr ⟨a, w₁, hp₁, hf₂⟩⟩

end Completing

/-! ## Comparing a node with its instance -/

/-- A write that is left out if it would change nothing. -/
def changeUnless (settled : Prop) [Decidable settled] (c : ClusterWrite) : Program Unit :=
  if settled then Pure.pure () else change c

/-- A comparison is two writes that may be left out, each behind the look-up that it is
    decided by. -/
theorem refreshNode_eq (s : Settings) (n : Node) :
    refreshNode s n = (do
      let stopped ← isStopped n
      changeUnless (stopped = n.hasTaint shutdownTaint)
        (.patchNode n ⟨none, .empty, some (n.shutdownTaints stopped)⟩)
      let found ← addressesByProviderId s n.providerId
      changeUnless (withHostname found n.name = n.addresses)
        (.setAddresses n (withHostname found n.name))) := by
  unfold refreshNode changeUnless
  congr 1
  funext stopped
  by_cases hsettled : stopped = n.hasTaint shutdownTaint
  · simp only [if_pos hsettled]
    rfl
  · simp only [if_neg hsettled]

theorem writes_changeUnless_of_done {settled : Prop} [Decidable settled] {c : ClusterWrite}
    (h : (changeUnless settled c).run w = (.done (), w')) :
    (changeUnless settled c).writes w =
      (if settled then [] else [c]).map fun c => (c, .ok ()) := by
  unfold changeUnless at h ⊢
  by_cases hsettled : settled
  · simp [hsettled]
  · rw [if_neg hsettled] at h
    simp [hsettled, writes_change, run_change_eq_done.mp h]

theorem yields_changeUnless {settled : Prop} [Decidable settled] {c : ClusterWrite}
    (h : settled) : (changeUnless settled c).Yields st () := by
  unfold changeUnless
  rw [if_pos h]
  exact yields_pure ()

theorem completes_changeUnless (settled : Prop) [Decidable settled] (c : ClusterWrite) :
    (changeUnless settled c).Completes st := by
  unfold changeUnless
  split
  · intro w _ _
    exact ⟨(), w, rfl⟩
  · exact completes_change c

theorem yields_isStopped (hi : st.providedInstance? n.providerId = some i) :
    (isStopped n).Yields st (n.stoppedOn i) := by
  unfold isStopped Node.stoppedOn
  cases n.isReady with
  | true => exact yields_pure false
  | false => exact yields_bind (yields_providedInstance hi) (yields_pure _)

theorem yields_isOrphaned (hi : st.providedInstance? n.providerId = some i) :
    (isOrphaned n).Yields st false := by
  unfold isOrphaned
  cases n.isReady with
  | true => exact yields_pure false
  | false =>
    exact yields_bind (yields_bind (yields_instanceByProviderId hi) (yields_pure _))
      (yields_pure _)

theorem addressesByProviderId_done (hw : w.Mirrors st)
    (hi : st.providedInstance? n.providerId = some i)
    (h : (addressesByProviderId s n.providerId).run w = (.done addresses, w')) :
    st.addressesOf? s i = some addresses := by
  obtain ⟨found, w₁, hfound, haddresses⟩ := run_bind_eq_done.mp h
  obtain rfl := eq_of_yields (yields_providedInstance hi) hw hfound
  exact addressesOfInstance_done (hw.steady.run hfound) haddresses

/-- A comparison that ends well has found the addresses of the instance, and its writes are
    those that are due. -/
theorem writes_refreshNode_of_done (hw : w.Mirrors st)
    (hi : st.providedInstance? n.providerId = some i)
    (h : (refreshNode s n).run w = (.done (), w')) :
    ∃ addresses, st.addressesOf? s i = some addresses ∧
      (refreshNode s n).writes w = (n.due i addresses).map fun c => (c, .ok ()) := by
  rw [refreshNode_eq] at h ⊢
  obtain ⟨stopped, w₁, hstopped, h⟩ := run_bind_eq_done.mp h
  obtain ⟨⟨⟩, w₂, htaint, h⟩ := run_bind_eq_done.mp h
  obtain ⟨found, w₃, hfound, haddress⟩ := run_bind_eq_done.mp h
  obtain rfl := eq_of_yields (yields_isStopped hi) hw hstopped
  have hw₂ := (hw.run hstopped).run htaint
  refine ⟨found, addressesByProviderId_done hw₂ hi hfound, ?_⟩
  have hread : (isStopped n).writes w = [] := writes_eq_nil (within_isStopped n) (fun _ => id) w
  have hread' : (addressesByProviderId s n.providerId).writes w₂ = [] :=
    writes_eq_nil (within_addressesByProviderId s _) (fun _ => id) w₂
  rw [writes_bind_of_done hstopped, writes_bind_of_done htaint, writes_bind_of_done hfound, hread,
    hread', writes_changeUnless_of_done htaint, writes_changeUnless_of_done haddress,
    List.nil_append, List.nil_append, ← List.map_append, Node.due]

/-- A comparison ends well exactly if the instance gives addresses and every write that is sent
    is taken. -/
theorem refreshNode_done_iff (hw : w.Mirrors st)
    (hi : st.providedInstance? n.providerId = some i) :
    (∃ w', (refreshNode s n).run w = (.done (), w')) ↔
      (∃ addresses, st.addressesOf? s i = some addresses) ∧
        ∀ x ∈ (refreshNode s n).writes w, x.2 = .ok () := by
  constructor
  · rintro ⟨w', h⟩
    obtain ⟨addresses, haddresses, hdue⟩ := writes_refreshNode_of_done hw hi h
    refine ⟨⟨addresses, haddresses⟩, fun x hx => ?_⟩
    rw [hdue] at hx
    obtain ⟨c, -, rfl⟩ := List.mem_map.mp hx
    rfl
  · rintro ⟨⟨addresses, haddresses⟩, htaken⟩
    have hcompletes : (refreshNode s n).Completes st := by
      rw [refreshNode_eq]
      apply completes_bind_of_yields (yields_isStopped hi)
      apply completes_bind (completes_changeUnless _ _)
      intro _
      apply completes_bind_of_yields (yields_addressesByProviderId hi haddresses)
      exact completes_changeUnless _ _
    obtain ⟨⟨⟩, w', h⟩ := hcompletes w hw htaken
    exact ⟨w', h⟩

/-- A node that agrees with its instance is compared to the end and not written. -/
theorem refreshNode_of_agrees (hi : st.providedInstance? n.providerId = some i)
    (haddresses : st.addressesOf? s i = some addresses) (h : n.Agrees i addresses)
    (hw : w.Mirrors st) :
    (∃ w', (refreshNode s n).run w = (.done (), w')) ∧ (refreshNode s n).writes w = [] := by
  have hdone : (refreshNode s n).Yields st () := by
    rw [refreshNode_eq]
    refine yields_bind (yields_isStopped hi) ?_
    refine yields_bind (yields_changeUnless h.tainted) ?_
    refine yields_bind (yields_addressesByProviderId hi haddresses) ?_
    exact yields_changeUnless h.addressed
  obtain ⟨w', hrun⟩ := hdone w hw
  obtain ⟨found, hfound, hwrites⟩ := writes_refreshNode_of_done hw hi hrun
  cases haddresses.symm.trans hfound
  rw [due_eq_nil_iff.mpr h] at hwrites
  exact ⟨⟨w', hrun⟩, hwrites⟩

/-! ## Reconciling a node again -/

theorem parse_of_providedInstance? {raw : String} (hi : st.providedInstance? raw = some i) :
    ∃ p, ProviderId.parse raw = .ok p := by
  rw [Store.providedInstance?] at hi
  split at hi
  · cases hi
  · exact ⟨_, ‹_›⟩
  · exact ⟨_, ‹_›⟩

/-- Of an initialized node whose instance exists a reconciliation is a comparison. -/
theorem reconcileNode_of_provided (hw : w.Mirrors st)
    (htaint : n.hasTaint uninitializedTaint = false)
    (hi : st.providedInstance? n.providerId = some i) :
    ∃ w₁, w₁.Mirrors st ∧ (reconcileNode s n).writes w = (refreshNode s n).writes w₁ ∧
      ∀ visit w', (reconcileNode s n).run w = (.done visit, w') ↔
        visit = .after monitorPeriod ∧ (refreshNode s n).run w₁ = (.done (), w') := by
  obtain ⟨p, hp⟩ := parse_of_providedInstance? hi
  have hbelongs := belongs_of_parse hp
  obtain ⟨w₁, horphaned⟩ := yields_isOrphaned hi w hw
  have hread : (isOrphaned n).writes w = [] := writes_eq_nil (within_isOrphaned n) (fun _ => id) w
  have hmonitor : (monitorNode s n).run w = (refreshNode s n).run w₁ :=
    run_bind_of_done horphaned
  refine ⟨w₁, hw.run horphaned, ?_, fun visit w' => ?_⟩
  · rw [writes_of_monitored htaint hbelongs, monitorNode, writes_bind_of_done horphaned, hread,
      List.nil_append]
    rfl
  · rw [reconcileNode_of_monitored htaint hbelongs, run_bind_eq_done, hmonitor]
    constructor
    · rintro ⟨⟨⟩, w₂, hrefresh, hvisit⟩
      cases hvisit
      exact ⟨rfl, hrefresh⟩
    · rintro ⟨rfl, hrefresh⟩
      exact ⟨(), w', hrefresh, rfl⟩

/-- **Monitoring.** Reconcile an initialized node whose instance exists in a world in which no
    call fails. That ends well exactly if the instance gives addresses and the cluster takes
    every write. The node that then comes of the writes has the taint of a stopped instance
    exactly if it is not ready and its instance is stopped. Its other taints are as before and
    in their order, its addresses are those of the instance with its name behind them, and
    nothing else of it has changed. Reconciled again, wherever the instances and subnets are the
    same, it is not written. -/
theorem monitoring_settles (hw : w.Calm) (htaint : n.hasTaint uninitializedTaint = false)
    (hi : w.store.providedInstance? n.providerId = some i) :
    ((∃ visit w', (reconcileNode s n).run w = (.done visit, w')) ↔
      (∃ addresses, w.store.addressesOf? s i = some addresses) ∧
        ∀ x ∈ (reconcileNode s n).writes w, x.2 = .ok ()) ∧
    ∀ visit w', (reconcileNode s n).run w = (.done visit, w') →
      ∃ m addresses, w.store.addressesOf? s i = some addresses ∧
        n.written ((reconcileNode s n).writes w) = some m ∧
        (m.hasTaint shutdownTaint = true ↔ n.isReady = false ∧ i.status = .stopped) ∧
        m.taintsWithout shutdownTaint = n.taintsWithout shutdownTaint ∧
        m = { n with taints := m.taints, addresses := addresses ++ [⟨"Hostname", n.name⟩] } ∧
        ∀ w₂ : World, w₂.Mirrors w.store →
          (∃ w₃, (reconcileNode s m).run w₂ = (.done visit, w₃)) ∧
            (reconcileNode s m).writes w₂ = [] := by
  obtain ⟨w₁, hw₁, hwrites, hdone⟩ := reconcileNode_of_provided (s := s) hw.mirrors htaint hi
  constructor
  · rw [hwrites, ← refreshNode_done_iff hw₁ hi]
    constructor
    · rintro ⟨visit, w', h⟩
      exact ⟨w', ((hdone visit w').mp h).2⟩
    · rintro ⟨w', h⟩
      exact ⟨_, w', (hdone _ w').mpr ⟨rfl, h⟩⟩
  · intro visit w' h
    obtain ⟨rfl, hrefresh⟩ := (hdone visit w').mp h
    obtain ⟨addresses, haddresses, hdue⟩ := writes_refreshNode_of_done hw₁ hi hrefresh
    have hhostname :=
      withHostname_of_reaches (fun a ha => reaches_of_addressesOf? haddresses ha) n.name
    refine ⟨n.refreshed i addresses, addresses, haddresses, ?_, ?_, taintsWithout_refreshed, ?_, ?_⟩
    · rw [hwrites, hdue]
      exact written_due
    · rw [hasTaint_refreshed]
      simp [Node.stoppedOn]
    · rw [← hhostname]
      rfl
    · intro w₂ hw₂
      -- the node keeps its providerID, so the same instance is behind it
      have hinitialized : (n.refreshed i addresses).hasTaint uninitializedTaint = false := by
        rw [hasTaint_refreshed_of_ne (by decide)]
        exact htaint
      obtain ⟨w₃, hw₃, hwrites₃, hdone₃⟩ := reconcileNode_of_provided (s := s)
        (n := n.refreshed i addresses) hw₂ hinitialized hi
      obtain ⟨⟨w₄, hrun⟩, hnone⟩ := refreshNode_of_agrees (n := n.refreshed i addresses) hi
        haddresses agrees_refreshed hw₃
      exact ⟨⟨w₄, (hdone₃ _ w₄).mpr ⟨rfl, hrun⟩⟩, hwrites₃.trans hnone⟩

namespace Sample

/-- The first node of the cluster, which is not ready, with two taints of one kind and with an
    address that it no longer has. -/
def stale : Node :=
  { node "worker-0" "fhm1" with
    taints := [⟨"own", "NoExecute", none, none⟩, ⟨"own", "NoExecute", none, none⟩]
    addresses := [internalAddress "10.0.0.4"] }

/-- The store with the first instance stopped. -/
def halted : Store :=
  { store with
    instances := store.instances.put
      { machine "fhm1" "worker-0" "10.0.0.5" with status := .stopped } }

end Sample

open Sample in
/-- The stale node is tainted, and its address is corrected. Then it is left alone. -/
theorem monitoring_settles_stale :
    ∃ m, stale.written ((reconcileNode settings stale).writes (.ofStore halted)) = some m ∧
      m.hasTaint shutdownTaint = true ∧ m.taintsWithout shutdownTaint = stale.taints ∧
      m.addresses = [internalAddress "10.0.0.5", ⟨"Hostname", "worker-0"⟩] ∧
      (reconcileNode settings m).writes (.ofStore halted) = [] := by
  have hcalm : (World.ofStore halted).Calm := rfl
  have hrun : (reconcileNode settings stale).run (.ofStore halted) =
      (.done (.after monitorPeriod),
        ((reconcileNode settings stale).run (.ofStore halted)).2) := by
    rfl
  let stopped := { machine "fhm1" "worker-0" "10.0.0.5" with status := .stopped }
  have hfound : halted.providedInstance? stale.providerId = some stopped := by decide
  have hknown : halted.addressesOf? settings stopped = some [internalAddress "10.0.0.5"] := by
    decide
  obtain ⟨-, hsettles⟩ := monitoring_settles (s := settings) hcalm (by decide) hfound
  obtain ⟨m, addresses, haddresses, hwritten, hshutdown, hothers, hm, hsettled⟩ :=
    hsettles _ _ hrun
  cases haddresses.symm.trans hknown
  refine ⟨m, hwritten, hshutdown.mpr ⟨by decide, rfl⟩, hothers, ?_,
    (hsettled (.ofStore halted) hcalm.mirrors).2⟩
  rw [hm]
  rfl

end CloudSteward
