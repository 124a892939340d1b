import CloudSteward.Proofs.Service.Orphan
import CloudSteward.Proofs.TargetGroup.Cleanup

/-!
# Groups that balancers are attached to

A balancer names the target group that it sends its traffic to. Placing a balancer
looks the group up first, and filling groups removes none, so that both leave every
attachment with a group behind it. Only a cleanup deletes groups. It is done when no
service wants a balancer any more and one is released or there are no nodes to sync. It
does not ask whether all balancers are gone: that of a service that is still to be
released stays attached to groups that are no longer there.

Results:

* `keepsAttached_serveService`: serving a service leaves nothing attached to a missing
  group.
* `Site.Turn.attached`, `Site.Turn.cleanedUp`: one move, without and with a cleanup.
* `attached_iff_none_stranded`: attachments hold in all states of a history exactly if
  no cleanup of it meets another balancer that uses the groups.
* `cleanup_strands_balancer`: a history in which one does.
-/

namespace CloudSteward

open Program

/-! ## Attachments -/

namespace Store

/-- There is a target group of an id. -/
def HasGroup (st : Store) (id : String) : Prop := ∃ g ∈ st.targetGroups, g.id = id

/-- Every attachment of a stored balancer names a stored target group. -/
def Attached (st : Store) : Prop :=
  ∀ b ∈ st.balancers, ∀ a ∈ b.attachments, st.HasGroup a.targetGroupId

/-- The parts of a store that attachments are about. -/
def attachable (st : Store) : Inventory Balancer Balancer.id × TargetGroups :=
  (st.balancers, st.targetGroups)

variable {st st' : Store} {c : Call} {id : String}

theorem HasGroup.congr (h : st.HasGroup id) (hg : st'.targetGroups = st.targetGroups) :
    st'.HasGroup id := by
  rwa [HasGroup, hg]

theorem Attached.congr (h : st.Attached) (hsame : st'.attachable = st.attachable) :
    st'.Attached := by
  obtain ⟨hb, hg⟩ := Prod.mk.inj hsame
  intro b hmem a ha
  rw [hb] at hmem
  exact (h b hmem a ha).congr hg

/-- Filing a group takes no id away. -/
theorem HasGroup.put (h : st.HasGroup id) (g : TargetGroup)
    (hput : st'.targetGroups = st.targetGroups.put g) : st'.HasGroup id := by
  obtain ⟨old, hold, rfl⟩ := h
  by_cases hid : old.id = g.id
  · exact ⟨g, Inventory.mem_of_eq_put hput, hid.symm⟩
  · exact ⟨old, by rw [hput, Inventory.mem_put]; exact .inr ⟨hid, hold⟩, rfl⟩

theorem HasGroup.changeTargets (h : st.HasGroup id) (group : String)
    (update : List Target → List Target) : (st.changeTargets group update).2.HasGroup id := by
  rw [Store.changeTargets]
  split
  · exact h
  · exact h.put _ rfl

/-- Only deletions take groups away. -/
theorem HasGroup.answer (h : st.HasGroup id) (hc : c.method ≠ .deleteTargetGroup) :
    (st.answer c).2.HasGroup id := by
  have hp := st.answer_parts c
  cases c with
  | createTargetGroup r =>
    show (st.createTargetGroup r).2.HasGroup id
    rw [createTargetGroup]
    split
    · exact h
    · exact h.put _ rfl
  | addTargets group targets => exact h.changeTargets group _
  | removeTargets group targets => exact h.changeTargets group _
  | deleteTargetGroup group => exact absurd rfl hc
  | _ => exact h.congr (hp.targetGroups rfl)

/-- A call that deletes no group and attaches none but those that are there. -/
theorem Attached.answer (h : st.Attached) (hc : c.method ≠ .deleteTargetGroup)
    (hattach : ∀ id a, c = .attachTargetGroup id a → st.HasGroup a.targetGroupId)
    (hcreate : ∀ r, c = .createBalancer r → ∀ a ∈ r.attachments, st.HasGroup a.targetGroupId) :
    (st.answer c).2.Attached := by
  intro b hb a ha
  refine HasGroup.answer ?_ hc
  obtain ⟨old, here, -, -, hattached⟩ | ⟨r, hr, -, hattached⟩ := answer_origin hb
  · rcases hattached a ha with ha | ⟨id, hid⟩
    · exact h old here a ha
    · exact hattach id a hid
  · exact hcreate r hr a (hattached ▸ ha)

end Store

/-! ## Programs that keep attachments -/

/-- A program after whose runs, however they end, nothing is attached to a missing group
    if nothing was before. -/
def Program.KeepsAttached {α : Type} (p : Program α) : Prop :=
  ∀ w o w', w.Calm → w.store.Attached → p.run w = (o, w') → w'.store.Attached

section Keeping

variable {α β : Type} {p : Program α} {f : α → Program β} {s : Settings} {service : Service}
  {w w' : World}

theorem keepsAttached_bind (hp : p.KeepsAttached) (hf : ∀ a, (f a).KeepsAttached) :
    (p >>= f).KeepsAttached := by
  intro w o w' hw hatt h
  rcases run_bind_cases h with ⟨-, o₁, h₁, -⟩ | ⟨a, w₁, h₁, h⟩
  · exact hp w o₁ w' hw hatt h₁
  · exact hf a w₁ o w' (calm_run hw h₁) (hp w _ w₁ hw hatt h₁) h

theorem keepsAttached_of_within (hp : p.Within (·.Preserves Store.Attached)) :
    p.KeepsAttached := by
  intro w o w' hw hatt h
  exact (run_frame (frame_preserves Store.attachable fun hatt hsame _ => hatt.congr hsame) hp h
    ⟨keep_of_calm hw _, hatt⟩).2

theorem keepsAttached_of_callsNothing (hp : p.Within Action.CallsNothing) : p.KeepsAttached :=
  fun _ _ _ _ hatt h => by rwa [store_run hp h]

theorem Action.Fills.preservesAttached {a : Action} (h : a.Fills) :
    a.Preserves Store.Attached := by
  cases a with
  | call c =>
    have hc : c.method.fillsGroups = true := h
    refine fun st hatt => hatt.answer ?_ ?_ ?_
    · intro hdelete
      rw [hdelete] at hc
      cases hc
    · rintro id a rfl
      cases hc
    · rintro r rfl
      cases hc
  | write c => trivial
  | remember names => trivial

theorem keepsAttached_of_fills (hp : p.Within Action.Fills) : p.KeepsAttached :=
  keepsAttached_of_within (hp.mono fun _ => Action.Fills.preservesAttached)

/-- What attaches one group keeps attachments as long as the group is there. -/
theorem Action.Attaches.preserves {name : String} {attachment : Attachment} {a : Action}
    (h : a.Attaches name attachment) :
    a.Preserves fun st => st.Attached ∧ st.HasGroup attachment.targetGroupId := by
  cases a with
  | call c =>
    have habout : c.method.aboutBalancers = true := h.places.calls
    have hc : c.method ≠ .deleteTargetGroup := by
      intro hdelete
      rw [hdelete] at habout
      cases habout
    refine fun st ⟨hatt, hgroup⟩ => ⟨hatt.answer hc ?_ ?_, hgroup.answer hc⟩
    · rintro id a rfl
      exact (show a = attachment from h) ▸ hgroup
    · rintro r rfl a ha
      rw [h.2, List.mem_singleton] at ha
      exact ha ▸ hgroup
  | write c => trivial
  | remember names => trivial

/-- A balancer is attached to a group that was found. -/
theorem keepsAttached_placeAttached (s : Settings) (spec : BalancerSpec) :
    (placeAttached s spec).KeepsAttached := by
  intro w o w' hw hatt h
  have hread : (ask (.findTargetGroup spec.targetGroupName)).KeepsAttached :=
    keepsAttached_of_fills (within_ask (by rfl))
  rcases run_bind_cases h with ⟨-, o₁, hfind, -⟩ | ⟨found, w₁, hfind, h⟩
  · exact hread w o₁ w' hw hatt hfind
  · have hatt₁ := hread w _ w₁ hw hatt hfind
    cases found with
    | none =>
      cases h
      exact hatt₁
    | some group =>
      have hnamed := findTargetGroup_done (keep_of_calm hw _) hfind
      have hgroup : w₁.store.HasGroup group.id :=
        ⟨group, (Inventory.filter_values_eq_singleton_iff.mp hnamed).1, rfl⟩
      have hframe := frame_preserves Store.attachable
        (P := fun st => st.Attached ∧ st.HasGroup group.id)
        fun hst hsame _ => ⟨hst.1.congr hsame, hst.2.congr (Prod.mk.inj hsame).2⟩
      have hplace := (attaches_placeBalancer (attachmentFor spec group) s spec).mono
        fun _ ha => ha.preserves
      exact (run_frame hframe hplace h ⟨keep_of_calm (calm_run hw hfind) _, hatt₁, hgroup⟩).2.1

theorem keepsAttached_ensureBalancer (s : Settings) (services : List Service) (service : Service)
    (nodes : List Node) : (ensureBalancer s services service nodes).KeepsAttached := by
  rw [ensureBalancer_eq]
  refine keepsAttached_bind (keepsAttached_of_callsNothing ?_) fun spec => ?_
  · rw [describedBalancer]
    split <;> trivial
  · split
    · exact keepsAttached_of_callsNothing trivial
    · rename_i hnodes
      have hnodes : nodes ≠ [] := by simpa using hnodes
      exact keepsAttached_bind
        (keepsAttached_of_fills (within_syncTargetGroups_of_nodes s services hnodes))
        fun _ => keepsAttached_placeAttached s spec

/-- Serving a service leaves nothing attached to a missing group. -/
theorem keepsAttached_serveService (s : Settings) (c : Cluster) (service : Service) :
    (serveService s c service).KeepsAttached := by
  have hreport : (reportBalancer s c service).KeepsAttached := by
    refine keepsAttached_bind (keepsAttached_bind
      (keepsAttached_ensureBalancer s _ service _) fun _ => ?_) fun status => ?_
    · exact keepsAttached_of_callsNothing trivial
    · split
      · exact keepsAttached_of_callsNothing trivial
      · exact keepsAttached_of_callsNothing (within_change trivial)
  cases hmark : service.hasCleanupFinalizer with
  | true =>
    rw [serveService_of_marked hmark]
    exact hreport
  | false =>
    rw [serveService_of_unmarked hmark]
    exact keepsAttached_bind (keepsAttached_of_callsNothing (within_change trivial))
      fun _ => hreport

theorem keepsAttached_removeNamed (name : String) : (removeNamed name).KeepsAttached := by
  have hread : (ask (.findBalancer name)).KeepsAttached :=
    keepsAttached_of_fills (within_ask (by rfl))
  refine keepsAttached_bind hread fun found => ?_
  cases found with
  | none => exact keepsAttached_of_callsNothing trivial
  | some b =>
    refine keepsAttached_bind (keepsAttached_of_within (within_answer fun st hatt => ?_))
      fun r => ?_
    · exact hatt.answer nofun nofun nofun
    · cases r with
      | ok _ => exact keepsAttached_of_callsNothing trivial
      | error e =>
        dsimp only
        split <;> exact keepsAttached_of_callsNothing trivial

/-- A release without a cleanup: a service still wants a balancer, or the release stops
    because its own service has no balancer name. -/
theorem keepsAttached_releaseService (s : Settings) {services : List Service}
    {service : Service}
    (h : services.any Service.isActive = true ∨ balancerName? service = none) :
    (releaseService s services service).KeepsAttached := by
  rw [releaseService_eq, ensureLoadBalancerDeleted_eq, namedBalancer]
  cases hname : balancerName? service with
  | none => exact keepsAttached_of_callsNothing trivial
  | some name =>
    have hactive : services.any Service.isActive = true := by simpa [hname] using h
    have hsync : syncTargetGroups s services [] = .pure () := by
      rw [syncTargetGroups, if_pos (by rfl), if_pos hactive]
    refine keepsAttached_bind (keepsAttached_bind ?_ fun _ => ?_) fun _ =>
      keepsAttached_of_callsNothing (callsNothing_liftMark service)
    · exact keepsAttached_of_callsNothing trivial
    · rw [hsync]
      exact keepsAttached_bind (keepsAttached_removeNamed _) fun _ =>
        keepsAttached_of_callsNothing trivial

end Keeping

/-! ## Cleanups -/

/-- A cleanup has been done after the balancer of a name was released, if there was one:
    the groups that belong to the cluster are gone, and so is the balancer. -/
structure CleanedUp (clusterName : String) (released? : Option String) (before after : Store) :
    Prop where
  balancers : ∀ b : Balancer, b ∈ after.balancers ↔ b ∈ before.balancers ∧ released? ≠ some b.name
  groups : ∀ g : TargetGroup, g ∈ after.targetGroups ↔
    g ∈ before.targetGroups ∧ g.belongsTo clusterName = false

/-- A balancer is attached to a group that belongs to a cluster. -/
def Store.Uses (st : Store) (clusterName : String) (b : Balancer) : Prop :=
  ∃ a ∈ b.attachments, ∃ g ∈ st.targetGroups,
    g.id = a.targetGroupId ∧ g.belongsTo clusterName = true

/-- A cleanup keeps attachments exactly if no other balancer uses a group of the
    cluster. -/
theorem CleanedUp.attached_iff {clusterName : String} {released? : Option String}
    {before after : Store} (h : CleanedUp clusterName released? before after)
    (hatt : before.Attached) :
    after.Attached ↔
      ∀ b ∈ before.balancers, released? ≠ some b.name → ¬ before.Uses clusterName b := by
  constructor
  · rintro hafter b hb hother ⟨a, ha, g, hg, hid, hbelongs⟩
    obtain ⟨left, hleft, hleftid⟩ := hafter b ((h.balancers b).mpr ⟨hb, hother⟩) a ha
    obtain ⟨hmem, hspared⟩ := (h.groups left).mp hleft
    rw [Inventory.eq_of_mem_of_key_eq hmem hg (hleftid.trans hid.symm), hbelongs] at hspared
    cases hspared
  · intro hunused b hb a ha
    obtain ⟨hmem, hother⟩ := (h.balancers b).mp hb
    obtain ⟨g, hg, hid⟩ := hatt b hmem a ha
    refine ⟨g, (h.groups g).mpr ⟨hg, ?_⟩, hid⟩
    cases hbelongs : g.belongsTo clusterName with
    | false => rfl
    | true => exact absurd ⟨a, ha, g, hg, hid, hbelongs⟩ (hunused b hmem hother)

section Releasing

variable {s : Settings} {service : Service} {services : List Service} {name : String}
  {w w' : World}

theorem Store.UniqueNames.named {st : Store} (h : st.UniqueNames) (name : String) :
    st.balancersNamed name = [] ∨ ∃ b, st.balancersNamed name = [b] := by
  by_cases hnone : st.balancersNamed name = []
  · exact .inl hnone
  · obtain ⟨b, hb⟩ := List.exists_mem_of_ne_nil _ hnone
    obtain ⟨hmem, hname⟩ := List.mem_filter.mp hb
    have hmem := Inventory.mem_values.mp hmem
    refine .inr ⟨b, Inventory.filter_values_eq_singleton_iff.mpr ⟨hmem, hname, ?_⟩⟩
    intro other hother hsame
    exact h other hother b hmem (by rw [beq_iff_eq.mp hsame, beq_iff_eq.mp hname])

/-- In a calm world the balancer of a name is removed, and nothing else. -/
theorem removeNamed_run_of_calm (hw : w.Calm) (hu : w.store.UniqueNames) (name : String) :
    ∃ w', (removeNamed name).run w = (.done (), w') ∧
      w'.store.targetGroups = w.store.targetGroups ∧
      ∀ b : Balancer, b ∈ w'.store.balancers ↔ b ∈ w.store.balancers ∧ b.name ≠ name := by
  rcases hu.named name with hnone | ⟨b, honly⟩
  · have hfind : (ask (.findBalancer name)).run w = (.done none, w.afterReads 1) :=
      run_read_of_calm hw rfl (unique_eq_none_iff.mpr hnone)
    have hrun : (removeNamed name).run w = (.done (), w.afterReads 1) := run_bind_of_done hfind
    refine ⟨w.afterReads 1, hrun, rfl, fun b => ?_⟩
    have hothers := Store.balancersNamed_eq_nil_iff.mp hnone
    exact ⟨fun hb => ⟨hb, hothers b hb⟩, And.left⟩
  · have hfind : (ask (.findBalancer name)).run w = (.done (some b), w.afterReads 1) :=
      run_read_of_calm hw rfl (unique_eq_some_iff.mpr honly)
    have hrun : (removeNamed name).run w =
        (.done (), ((w.afterReads 1).serve (.deleteBalancer b.id)).2) := by
      rw [removeNamed, run_bind_of_done hfind]
      exact run_bind_of_done (run_answer_of_calm (calm_afterReads hw 1))
    obtain ⟨hmem, hname, honly⟩ := Inventory.filter_values_eq_singleton_iff.mp honly
    refine ⟨_, hrun, rfl, fun other => ?_⟩
    show other ∈ w.store.balancers.erase b.id ↔ _
    rw [Inventory.mem_erase, and_comm, and_congr_right_iff]
    intro hother
    -- of all balancers only this one has the name, and only this one has the id
    constructor
    · intro hid hsame
      exact hid (by rw [honly other hother (beq_iff_eq.mpr hsame)])
    · intro hne hid
      rw [Inventory.eq_of_mem_of_key_eq hother hmem hid] at hne
      exact hne (beq_iff_eq.mp hname)

/-- Without services that want a balancer a sync of no nodes is a cleanup. -/
theorem syncTargetGroups_cleanedUp (hw : w.Calm)
    (hservices : services.any Service.isActive = false) :
    ∃ w', (syncTargetGroups s services []).run w = (.done (), w') ∧
      CleanedUp s.clusterName none w.store w'.store := by
  obtain ⟨w', h⟩ := cleanup_run_of_calm (s := s) hw hservices
  have hbalancers := balancers_syncTargetGroups (keep_of_calm hw _) h
  refine ⟨w', h, fun b => ?_, ?_⟩
  · rw [hbalancers]
    simp
  · exact cleanup_done hservices (keep_of_calm hw _) (truthful_of_calm hw) h

/-- A release removes the balancer of its service and cleans up. -/
theorem releaseService_cleanedUp {o : Outcome Unit} (hname : balancerName? service = some name)
    (hw : w.Calm) (hu : w.store.UniqueNames) (hservices : services.any Service.isActive = false)
    (h : (releaseService s services service).run w = (o, w')) :
    CleanedUp s.clusterName (some name) w.store w'.store := by
  obtain ⟨w₁, hremove, hgroups, hbalancers⟩ := removeNamed_run_of_calm hw hu name
  obtain ⟨w₂, hsync, hclean⟩ := syncTargetGroups_cleanedUp (s := s) (calm_run hw hremove) hservices
  have hdelete : (ensureLoadBalancerDeleted s services service).run w = (.done (), w₂) := by
    have hnamed : namedBalancer service = Pure.pure name := by rw [namedBalancer, hname]; rfl
    rw [ensureLoadBalancerDeleted_eq, hnamed, pure_bind, run_bind_of_done hremove, hsync]
  rw [releaseService_eq, run_bind_of_done hdelete] at h
  rw [store_run (callsNothing_liftMark service) h]
  refine ⟨fun b => ?_, fun g => ?_⟩
  · rw [hclean.balancers, hbalancers]
    simp [eq_comm]
  · rw [hclean.groups, hgroups]

end Releasing

/-! ## Histories -/

/-- What can happen to a site. -/
inductive Site.Move where
  | edit
  | elsewhere
  | reconcile (service : Service)
  | sync (nodes : List Node)

/-- The name of the balancer that a move is about. -/
def Site.Move.balancerName? : Site.Move → Option String
  | .reconcile service => CloudSteward.balancerName? service
  | .edit | .elsewhere | .sync _ => none

namespace Site

/-- A world in which a move may start and nothing goes wrong. -/
structure OpensCalm (site : Site) (w : World) : Prop where
  store : w.store = site.store
  visited : w.visited = site.visited
  calm : w.Calm

/-- One move. Users create, change and delete services as they like, and instances,
    subnets and route tables change. A service is reconciled as it is, and target groups
    are synced, with whatever nodes there are and with all services in view. -/
inductive Turn (s : Settings) (site : Site) : Move → Site → Prop
  | edit (services : List Service) : Turn s site .edit { site with services }
  | elsewhere {store : Store} (same : store.attachable = site.store.attachable) :
      Turn s site .elsewhere { site with store }
  | reconcile {before after nodes} {service result : Service} {w w' : World}
      {o : Outcome NextVisit} (here : site.services = before ++ service :: after)
      (opens : site.OpensCalm w)
      (run : (reconcileService s ⟨nodes, site.services⟩ service).run w = (o, w'))
      (writes : Undergoes ((reconcileService s ⟨nodes, site.services⟩ service).writes w) service
        result) :
      Turn s site (.reconcile service) ⟨w'.store, w'.visited, before ++ result.kept ++ after⟩
  | sync {nodes} {w w' : World} {o : Outcome Unit} (opens : site.OpensCalm w)
      (run : (syncTargetGroups s site.services nodes).run w = (o, w')) :
      Turn s site (.sync nodes) ⟨w'.store, w'.visited, site.services⟩

/-- A move deletes the groups of the cluster: no service wants a balancer, and one that
    has the mark is reconciled or no nodes are synced. -/
def Cleans (site : Site) : Move → Prop
  | .edit | .elsewhere => False
  | .reconcile service => site.services.any Service.isActive = false ∧
      service.hasCleanupFinalizer = true ∧ balancerName? service ≠ none
  | .sync nodes => site.services.any Service.isActive = false ∧ nodes = []

/-- A move deletes a group that a balancer uses which it is not about. -/
structure Strands (s : Settings) (site : Site) (move : Move) (b : Balancer) : Prop where
  cleans : site.Cleans move
  stored : b ∈ site.store.balancers
  other : move.balancerName? ≠ some b.name
  uses : site.store.Uses s.clusterName b

variable {s : Settings} {start site site' : Site} {move : Move}

theorem Turn.uniqueNames (h : site.Turn s move site') (hu : site.store.UniqueNames) :
    site'.store.UniqueNames := by
  cases h with
  | edit services => exact hu
  | elsewhere same => exact hu.congr (Prod.mk.inj same).1
  | reconcile here opens run writes =>
    exact uniqueNames_run (keep_of_calm opens.calm _) (opens.store ▸ hu) run
  | sync opens run => exact uniqueNames_run (keep_of_calm opens.calm _) (opens.store ▸ hu) run

/-- A move without a cleanup leaves nothing attached to a missing group. -/
theorem Turn.attached (h : site.Turn s move site') (hcleans : ¬ site.Cleans move)
    (hatt : site.store.Attached) : site'.store.Attached := by
  cases h with
  | edit services => exact hatt
  | elsewhere same => exact hatt.congr same
  | @reconcile before after nodes service result w w' o here opens run writes =>
    rw [← opens.store] at hatt
    cases hactive : service.isActive with
    | true =>
      rw [reconcileService_of_active hactive] at run
      obtain ⟨o₁, run, -⟩ := run_bind_pure run
      exact keepsAttached_serveService s _ service w o₁ w' opens.calm hatt run
    | false =>
      cases hmark : service.hasCleanupFinalizer with
      | false =>
        rw [reconcileService_of_plain hactive hmark] at run
        cases run
        exact hatt
      | true =>
        rw [reconcileService_of_marked hactive hmark] at run
        obtain ⟨o₁, run, -⟩ := run_bind_pure run
        refine keepsAttached_releaseService s ?_ w o₁ w' opens.calm hatt run
        by_contra hnone
        exact hcleans (by simpa [Cleans, hmark] using hnone)
  | @sync nodes w w' o opens run =>
    rw [← opens.store] at hatt
    by_cases hnodes : nodes = []
    · subst hnodes
      have hactive : site.services.any Service.isActive = true := by simpa [Cleans] using hcleans
      rw [syncTargetGroups, if_pos (by rfl), if_pos hactive] at run
      cases run
      exact hatt
    · exact keepsAttached_of_fills (within_syncTargetGroups_of_nodes s _ hnodes) w o w' opens.calm
        hatt run

/-- A move with a cleanup leaves the other balancers and the groups of other clusters. -/
theorem Turn.cleanedUp (h : site.Turn s move site') (hcleans : site.Cleans move)
    (hu : site.store.UniqueNames) :
    CleanedUp s.clusterName move.balancerName? site.store site'.store := by
  cases h with
  | edit services => exact hcleans.elim
  | elsewhere same => exact hcleans.elim
  | @reconcile before after nodes service result w w' o here opens run writes =>
    obtain ⟨hservices, hmark, hnamed⟩ := hcleans
    obtain ⟨name, hname⟩ := Option.ne_none_iff_exists'.mp hnamed
    have hinactive : service.isActive = false := by
      have hall := List.any_eq_false.mp hservices service (by simp [here])
      simpa using hall
    rw [reconcileService_of_marked hinactive hmark] at run
    obtain ⟨o₁, run, -⟩ := run_bind_pure run
    rw [← opens.store, Move.balancerName?, hname]
    exact releaseService_cleanedUp hname opens.calm (opens.store ▸ hu) hservices run
  | @sync nodes w w' o opens run =>
    obtain ⟨hservices, rfl⟩ := hcleans
    obtain ⟨w₁, hrun, hclean⟩ := syncTargetGroups_cleanedUp (s := s) opens.calm hservices
    cases hrun.symm.trans run
    rw [← opens.store]
    exact hclean

/-- **One move.** It keeps attachments exactly if it strands no balancer. -/
theorem Turn.attached_iff (h : site.Turn s move site') (hu : site.store.UniqueNames)
    (hatt : site.store.Attached) : site'.store.Attached ↔ ∀ b, ¬ site.Strands s move b := by
  by_cases hcleans : site.Cleans move
  · rw [(h.cleanedUp hcleans hu).attached_iff hatt]
    constructor
    · exact fun hunused b hb => hunused b hb.stored hb.other hb.uses
    · exact fun hnone b hb hother huses => hnone b ⟨hcleans, hb, hother, huses⟩
  · exact iff_of_true (h.attached hcleans hatt) fun b hb => hcleans hb.cleans

/-- Moves one after the other, each with the site it was made on, the newest first. -/
inductive Ran (s : Settings) (start : Site) : List (Site × Move) → Site → Prop
  | start : Ran s start [] start
  | turn {turns site site'} {move : Move} (before : Ran s start turns site)
      (last : site.Turn s move site') : Ran s start ((site, move) :: turns) site'

variable {turns : List (Site × Move)}

theorem Ran.uniqueNames (h : Ran s start turns site) (hu : start.store.UniqueNames) :
    site.store.UniqueNames := by
  induction h with
  | start => exact hu
  | turn before last ih => exact last.uniqueNames ih

end Site

/-- **Attachments.** In a history of reconciliations, syncs and edits in which no call
    fails, every attachment of every balancer names a stored target group in all states
    exactly if no move strands a balancer: when no service wants a balancer any more and
    one is released or no nodes are synced, no other balancer may be attached to a group
    of the cluster. -/
theorem attached_iff_none_stranded {s : Settings} {start site : Site}
    {turns : List (Site × Site.Move)} (hatt : start.store.Attached)
    (hunique : start.store.UniqueNames) (hran : Site.Ran s start turns site) :
    (site.store.Attached ∧ ∀ t ∈ turns, t.1.store.Attached) ↔
      ∀ t ∈ turns, ∀ b, ¬ t.1.Strands s t.2 b := by
  induction hran with
  | start => exact iff_of_true ⟨hatt, fun _ h => nomatch h⟩ fun _ h => nomatch h
  | @turn turns site site' move before last ih =>
    have hu := before.uniqueNames hunique
    rw [List.forall_mem_cons, List.forall_mem_cons, ← ih]
    constructor
    · exact fun ⟨hafter, hnow, hearlier⟩ => ⟨(last.attached_iff hu hnow).mp hafter, hnow, hearlier⟩
    · exact fun ⟨hnone, hnow, hearlier⟩ => ⟨(last.attached_iff hu hnow).mpr hnone, hnow, hearlier⟩

namespace Sample

/-- A second service of the small cluster. -/
def sibling : Service :=
  { service with
    metadata := { service.metadata with name := some "api", uid := some "3c4b-5a" } }

/-- A world in which nothing goes wrong, for the next move. -/
def calmWorld (site : Site) : World := { World.ofStore site.store with visited := site.visited }

/-- The reconciliation of a service with all services of a site in view. -/
def look (site : Site) (current : Service) : Program NextVisit :=
  reconcileService settings ⟨nodes, site.services⟩ current

/-- A service after its reconciliation. -/
def afterLook (site : Site) (current : Service) : Service :=
  ((look site current).writes (calmWorld site)).foldl (fun s x => x.1.onService s) current

/-- A site after one of its services was reconciled. -/
def looked (site : Site) (before : List Service) (current : Service) (after : List Service) :
    Site :=
  ⟨((look site current).run (calmWorld site)).2.store,
    ((look site current).run (calmWorld site)).2.visited,
    before ++ (afterLook site current).kept ++ after⟩

theorem turn_looked {site : Site} {before after : List Service} {current : Service}
    (here : site.services = before ++ current :: after) :
    site.Turn settings (.reconcile current) (looked site before current after) :=
  .reconcile (w := calmWorld site) here ⟨rfl, rfl, rfl⟩ rfl (undergoes_foldl _ _)

/-- The small cluster with two services, before anything is done. -/
def two : Site := ⟨store, none, [service, sibling]⟩

/-- The first service is served. -/
def oneServed : Site := looked two [] service [sibling]

/-- The first service as it is served. -/
def servedFirst : Service := afterLook two service

/-- Both services are served. -/
def bothServed : Site := looked oneServed [servedFirst] sibling []

/-- The second service as it is served. -/
def servedSecond : Service := afterLook oneServed sibling

/-- The first service is to be deleted, and the second is in some state. -/
def firstLeaving (second : Service) : Site :=
  { bothServed with services := [deleting servedFirst, second] }

/-- Then the first service is released. -/
def firstReleased (second : Service) : Site :=
  looked (firstLeaving second) [] (deleting servedFirst) [second]

/-- The moves that lead there. -/
def releaseMoves (second : Service) : List (Site × Site.Move) :=
  [(firstLeaving second, .reconcile (deleting servedFirst)), (bothServed, .edit),
    (oneServed, .reconcile sibling), (two, .reconcile service)]

theorem ran_firstReleased (second : Service) :
    Site.Ran settings two (releaseMoves second) (firstReleased second) := by
  have hone : oneServed.services = [servedFirst] ++ sibling :: [] := by
    have hmark : servedFirst.hasCleanupFinalizer = true := by decide +kernel
    show [] ++ servedFirst.kept ++ [sibling] = _
    rw [kept_of_marked hmark]
    rfl
  exact .turn (.turn (.turn (.turn .start (turn_looked rfl)) (turn_looked hone)) (.edit _))
    (turn_looked rfl)

end Sample

open Sample in
/-- The first service is released while the second is still served: its group stays. -/
theorem attached_while_served :
    Site.Ran settings two (releaseMoves servedSecond) (firstReleased servedSecond) ∧
      (firstReleased servedSecond).store.balancers.values.map
        (fun b => (b.name, b.attachments.length)) = [("a3c4b5a", 1)] ∧
      (firstReleased servedSecond).store.Attached := by
  have hempty : two.store.Attached := fun _ h => nomatch h
  have hunique : two.store.UniqueNames := fun _ h => nomatch h
  have hran := ran_firstReleased servedSecond
  have hiff := attached_iff_none_stranded hempty hunique hran
  -- one balancer is left, and in every state a service still wants one
  have ⟨hleft, hwanted⟩ : (firstReleased servedSecond).store.balancers.values.map
        (fun b => (b.name, b.attachments.length)) = [("a3c4b5a", 1)] ∧
      ∀ t ∈ releaseMoves servedSecond, t.1.services.any Service.isActive = true := by
    decide +kernel
  refine ⟨hran, hleft, (hiff.mpr ?_).1⟩
  intro t ht b hb
  have hcleans : ¬ t.1.Cleans t.2 := by
    rw [Site.Cleans.eq_def, hwanted t ht]
    split <;> simp
  exact hcleans hb.cleans

open Sample in
/-- Both services are to be deleted, and the release of the first deletes the group that
    the balancer of the second is still attached to. -/
theorem cleanup_strands_balancer :
    two.services.Pairwise Service.Apart ∧ two.store.balancers.values = [] ∧
      two.store.targetGroups.values = [] ∧
      Site.Ran settings two (releaseMoves (deleting servedSecond))
        (firstReleased (deleting servedSecond)) ∧
      ¬ (firstReleased (deleting servedSecond)).store.Attached := by
  refine ⟨?_, rfl, rfl, ran_firstReleased _, fun hatt => ?_⟩
  · have hone : balancerName? service = some "a0f1e2d" := by decide
    have hother : balancerName? sibling = some "a3c4b5a" := by decide
    refine List.pairwise_pair.mpr fun name hname hsame => ?_
    rw [hone] at hname
    rw [hother, ← hname] at hsame
    exact absurd hsame (by decide)
  · have hleft : (firstReleased (deleting servedSecond)).store.targetGroups.values.length = 0 ∧
        ∃ b ∈ (firstReleased (deleting servedSecond)).store.balancers.values,
          0 < b.attachments.length := by
      decide +kernel
    obtain ⟨hnone, b, hb, hattached⟩ := hleft
    obtain ⟨a, ha⟩ := List.exists_mem_of_length_pos hattached
    obtain ⟨g, hg, -⟩ := hatt b (Inventory.mem_values.mp hb) a ha
    exact List.ne_nil_of_mem (Inventory.mem_values.mpr hg) (List.length_eq_zero_iff.mp hnone)

end CloudSteward
