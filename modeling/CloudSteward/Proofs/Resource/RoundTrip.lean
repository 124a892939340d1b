import CloudSteward.Proofs.Numeral
import CloudSteward.Resource.Encode

/-!
# What is read is read again after it was written

A written resource is read as the resource it was written from. For most
resources that holds of every value; a value with a 64-bit field has to be in
the range of the field, which every value that was read is, and a health check
has to wait for whole seconds, since its spans pass through decimals.

The values that come out of a reader are therefore described by `Readable`, and
what is known of the parts of a readable value is said once for each resource.

Results:

* `ofList_entries`: the entries of a map give the map again.
* `list?_listToJson`, `orNull?_ofOption`, `labels?_ofLabels`: lists, values that
  may be missing and labels are read back.
* `Instance.ofJson?_toJson`, …, `Page.ofJson?_toJson`: so is each resource.
-/

namespace CloudSteward

/-! ## Maps -/

namespace SortedMap

variable {κ α : Type} [Ord κ]

theorem insertEntry_last [Std.TransOrd κ] {k : κ} {v : α} {l : List (κ × α)}
    (h : ∀ p ∈ l, compare p.1 k = .lt) : insertEntry k v l = l ++ [(k, v)] := by
  induction l with
  | nil => rfl
  | cons q rest ih =>
    have behind : compare k q.1 = .gt := Std.OrientedCmp.gt_of_lt (h q List.mem_cons_self)
    rw [insertEntry, behind, List.cons_append, ← ih fun p hp => h p (List.mem_cons_of_mem _ hp)]

/-- Entries in increasing order are put behind each other. -/
theorem entries_foldl_insert [Std.TransOrd κ] (l : List (κ × α)) (m : SortedMap κ α)
    (h : (m.entries ++ l).Pairwise fun a b => compare a.1 b.1 = .lt) :
    (l.foldl (fun m p => m.insert p.1 p.2) m).entries = m.entries ++ l := by
  induction l generalizing m with
  | nil => simp
  | cons p rest ih =>
    have last : (m.insert p.1 p.2).entries = m.entries ++ [p] :=
      insertEntry_last fun q hq => (List.pairwise_append.mp h).2.2 q hq p List.mem_cons_self
    rw [List.foldl_cons, ih _ (by rw [last]; simpa using h), last, List.append_assoc]
    rfl

theorem ofList_entries [Std.TransOrd κ] (m : SortedMap κ α) : ofList m.entries = m := by
  have same : (ofList m.entries).entries = m.entries :=
    entries_foldl_insert m.entries empty m.sorted
  generalize ofList m.entries = n at same
  cases m
  cases n
  cases same
  rfl

end SortedMap

/-! ## Parts of documents -/

namespace Json

variable {α : Type} {decode : Json → Option α} {encode : α → Json}

/-- Some document is read as `v`. -/
def Readable (decode : Json → Option α) (v : α) : Prop :=
  ∃ j, decode j = some v

theorem integer?_range {lo hi n : Int} {s : String} (h : Text.integer? lo hi s = some n) :
    lo ≤ n ∧ n ≤ hi := by
  obtain ⟨m, -, hm⟩ := Option.bind_eq_some_iff.mp h
  simp only [Option.ite_none_right_eq_some, Option.some.injEq] at hm
  obtain ⟨range, rfl⟩ := hm
  exact range

theorem whole?_range {lo hi n : Int} {j : Json} (h : whole? lo hi j = some n) :
    lo ≤ n ∧ n ≤ hi := by
  unfold whole? at h
  split at h
  · simp only [Option.ite_none_right_eq_some, Option.some.injEq] at h
    obtain ⟨range, rfl⟩ := h
    exact range
  · cases h

/-- What a 64-bit field was read as can also be written in it as a number. -/
theorem Readable.int64 {n : Int} (h : Readable int64OrText? n) :
    int64OrText? (.int n) = some n := by
  obtain ⟨j, hj⟩ := h
  have range : Text.minInt64 ≤ n ∧ n ≤ Text.maxInt64 := by
    unfold int64OrText? at hj
    split at hj
    · exact integer?_range hj
    · exact whole?_range hj
  exact if_pos range

theorem readable_of_required {fs : Fields} {name : String} {v : α}
    (h : fs.required name decode = some v) : Readable decode v := by
  obtain ⟨j, -, hj⟩ := Option.bind_eq_some_iff.mp h
  exact ⟨j, hj⟩

theorem readable_of_list {j : Json} {l : List α} (h : list? decode j = some l) {v : α}
    (hv : v ∈ l) : Readable decode v := by
  unfold list? at h
  split at h
  · rename_i items
    induction items generalizing l with
    | nil => simp_all
    | cons i items ih =>
      rw [List.mapM_cons, Option.bind_eq_bind, Option.bind_eq_some_iff] at h
      obtain ⟨w, hw, h⟩ := h
      obtain ⟨rest, hrest, h⟩ := Option.bind_eq_some_iff.mp h
      cases h
      rcases List.mem_cons.mp hv with rfl | hv
      · exact ⟨i, hw⟩
      · exact ih hv hrest
  · cases h

theorem readable_of_withDefault {fs : Fields} {name : String} {l : List α}
    (h : fs.withDefault name [] (list? decode) = some l) {v : α} (hv : v ∈ l) :
    Readable decode v := by
  unfold Fields.withDefault at h
  split at h
  · exact readable_of_list h hv
  · simp_all

theorem readable_of_optional {fs : Fields} {name : String} {o : Option α}
    (h : fs.optional name decode = some o) {v : α} (hv : o = some v) : Readable decode v := by
  subst hv
  unfold Fields.optional Fields.withDefault at h
  split at h
  · rename_i j _
    cases j <;> simp_all [orNull?, Readable]
    all_goals exact ⟨_, h⟩
  · cases h

/-- A list is read back if its items are. -/
theorem list?_listToJson {l : List α} (h : ∀ v ∈ l, decode (encode v) = some v) :
    list? decode (listToJson encode l) = some l := by
  show (l.map encode).mapM decode = some l
  induction l with
  | nil => rfl
  | cons v l ih =>
    rw [List.map_cons, List.mapM_cons, h v List.mem_cons_self,
      ih fun w hw => h w (List.mem_cons_of_mem _ hw)]
    rfl

/-- A value that may be missing is read back from null or from the value. -/
theorem orNull?_ofOption {o : Option α} (h : ∀ v, o = some v → decode (encode v) = some v)
    (written : ∀ v, encode v ≠ .null) : orNull? decode (ofOption encode o) = some o := by
  cases o with
  | none => rfl
  | some v =>
    have value := h v rfl
    have nonnull := written v
    unfold ofOption orNull?
    split
    · contradiction
    · rw [value]; rfl

/-- A value that is left out when it is missing is read back. -/
theorem mapM_written {o : Option α} (h : ∀ v, o = some v → decode (encode v) = some v) :
    (o.mapM fun v => decode (encode v)) = some o := by
  cases o with
  | none => rfl
  | some v => simp [h v rfl]

theorem labels?_ofLabels (m : Labels) : labels? (ofLabels m) = some m := by
  have read : (m.entries.map fun e => (e.1, Json.str e.2)).mapM
      (fun (e : String × Json) => (text? e.2).map (e.1, ·)) = some m.entries := by
    induction m.entries with
    | nil => rfl
    | cons e l ih =>
      rw [List.map_cons, List.mapM_cons, ih]
      rfl
  simp only [labels?, ofLabels, read, Option.map_some, SortedMap.ofList_entries]

theorem labelsIfAny_read (m : Labels) :
    (labelsIfAny m).elim (some SortedMap.empty) labels? = some m := by
  unfold labelsIfAny
  split
  · rename_i none
    obtain ⟨l, hl⟩ := m
    obtain rfl : l = [] := List.isEmpty_iff.mp none
    rfl
  · exact labels?_ofLabels m

theorem texts_read (l : List String) : list? text? (listToJson .str l) = some l :=
  list?_listToJson fun _ _ => rfl

end Json

open Json

/-! ## Enumerations and spans -/

theorem InstanceStatus.ofJson?_toJson (s : InstanceStatus) : ofJson? s.toJson = some s := by
  cases s <;> rfl

theorem IpVersion.ofJson?_toJson (v : IpVersion) : ofJson? v.toJson = some v := by
  cases v <;> rfl

theorem BalancerType.ofJson?_toJson (t : BalancerType) : ofJson? t.toJson = some t := by
  cases t <;> rfl

theorem Protocol.ofJson?_toJson (p : Protocol) : ofJson? p.toJson = some p := by
  cases p <;> rfl

theorem Span.ofJson?_toJson {t : Span} (h : t.IsWhole) : ofJson? t.toJson = some t :=
  decode?_encode h

/-! ## Compute

The spellings of the fields are closed texts, so which member belongs to which
field is computed. What `written` leaves of a reader is the reading of those
members that are not texts. -/

theorem NatAddress.ofJson?_toJson (a : NatAddress) : ofJson? a.toJson = some a := by
  have written : ofJson? a.toJson = (do
      let ipVersion ← orNull? IpVersion.ofJson? (ofOption IpVersion.toJson a.ipVersion)
      return { a with ipVersion }) := rfl
  rw [written, orNull?_ofOption (fun v _ => v.ofJson?_toJson) fun _ => by nofun]
  rfl

theorem PrimaryAddress.ofJson?_toJson (a : PrimaryAddress) : ofJson? a.toJson = some a := by
  have written : ofJson? a.toJson = (do
      let nat ← orNull? NatAddress.ofJson? (ofOption NatAddress.toJson a.nat)
      return { a with nat }) := rfl
  rw [written, orNull?_ofOption (fun n _ => n.ofJson?_toJson) fun _ => by nofun]
  rfl

theorem Interface.ofJson?_toJson (i : Interface) : ofJson? i.toJson = some i := by
  have written : ofJson? i.toJson = (do
      let primary ← orNull? PrimaryAddress.ofJson? (ofOption PrimaryAddress.toJson i.primary)
      return { i with primary }) := rfl
  rw [written, orNull?_ofOption (fun a _ => a.ofJson?_toJson) fun _ => by nofun]
  rfl

theorem Instance.ofJson?_toJson (i : Instance) : ofJson? i.toJson = some i := by
  have written : ofJson? i.toJson = (do
      let status ← InstanceStatus.ofJson? i.status.toJson
      let interfaces ← list? Interface.ofJson? (listToJson Interface.toJson i.interfaces)
      let labels ← labels? (ofLabels i.labels)
      return { i with status, interfaces, labels }) := rfl
  rw [written, InstanceStatus.ofJson?_toJson, list?_listToJson fun n _ => n.ofJson?_toJson,
    labels?_ofLabels]
  rfl

/-! ## Networks -/

theorem Subnet.ofJson?_toJson (s : Subnet) : ofJson? s.toJson = some s := by
  have written : ofJson? s.toJson = (do
      let cidrBlocks ← list? text? (listToJson .str s.cidrBlocks)
      return { s with cidrBlocks }) := rfl
  rw [written, texts_read]
  rfl

theorem StaticRoute.ofJson?_toJson (r : StaticRoute) : ofJson? r.toJson = some r := by
  have written : ofJson? r.toJson = (do
      let labels ← (labelsIfAny r.labels).elim (some .empty) labels?
      return { r with labels }) := by
    unfold toJson
    cases labelsIfAny r.labels <;> rfl
  rw [written, labelsIfAny_read]
  rfl

theorem RouteTable.ofJson?_toJson (t : RouteTable) : ofJson? t.toJson = some t := by
  have written : ofJson? t.toJson = (do
      let routes ← list? StaticRoute.ofJson? (listToJson StaticRoute.toJson t.routes)
      return { t with routes }) := rfl
  rw [written, list?_listToJson fun r _ => r.ofJson?_toJson]
  rfl

/-! ## Target groups -/

theorem Target.ofJson?_toJson (t : Target) : ofJson? t.toJson = some t := rfl

theorem targets_read (l : List Target) :
    list? Target.ofJson? (listToJson Target.toJson l) = some l :=
  list?_listToJson fun t _ => t.ofJson?_toJson

theorem TargetGroup.ofJson?_toJson (g : TargetGroup) : ofJson? g.toJson = some g := by
  have written : ofJson? g.toJson = (do
      let targets ← list? Target.ofJson? (listToJson Target.toJson g.targets)
      let labels ← labels? (ofLabels g.labels)
      return { g with targets, labels }) := rfl
  rw [written, targets_read, labels?_ofLabels]
  rfl

theorem TargetGroupRequest.ofJson?_toJson (r : TargetGroupRequest) :
    ofJson? r.toJson = some r := by
  have written : ofJson? r.toJson = (do
      let targets ← list? Target.ofJson? (listToJson Target.toJson r.targets)
      let labels ← (labelsIfAny r.labels).elim (some .empty) labels?
      return { r with targets, labels }) := by
    unfold toJson
    cases labelsIfAny r.labels <;> rfl
  rw [written, targets_read, labelsIfAny_read]
  rfl

/-! ## Listeners -/

theorem Listener.readable_ports {l : Listener} (h : Readable ofJson? l) :
    Readable int64OrText? l.port ∧ Readable int64OrText? l.targetPort := by
  obtain ⟨j, h⟩ := h
  simp only [ofJson?, Option.bind_eq_bind, Option.bind_eq_some_iff, Option.pure_def,
    Option.some.injEq] at h
  obtain ⟨fs, -, _, -, _, -, port, hport, _, -, targetPort, htarget, _, -, _, -, rfl⟩ := h
  exact ⟨readable_of_required hport, readable_of_required htarget⟩

theorem Listener.ofJson?_toJson {l : Listener} (h : Readable ofJson? l) :
    ofJson? l.toJson = some l := by
  obtain ⟨port, targetPort⟩ := readable_ports h
  have written : ofJson? l.toJson = (do
      let port ← int64OrText? (.int l.port)
      let protocol ← Protocol.ofJson? l.protocol.toJson
      let targetPort ← int64OrText? (.int l.targetPort)
      let ipVersion ← IpVersion.ofJson? l.ipVersion.toJson
      return { l with port, protocol, targetPort, ipVersion }) := rfl
  rw [written, port.int64, Protocol.ofJson?_toJson, targetPort.int64, IpVersion.ofJson?_toJson]
  rfl

theorem ExternalAddress.ofJson?_toJson (a : ExternalAddress) : ofJson? a.toJson = some a := by
  have written : ofJson? a.toJson = (do
      let ipVersion ← IpVersion.ofJson? a.ipVersion.toJson
      return { a with ipVersion }) := by
    unfold toJson
    cases a.address <;> rfl
  rw [written, IpVersion.ofJson?_toJson]
  rfl

theorem InternalAddress.ofJson?_toJson (a : InternalAddress) : ofJson? a.toJson = some a := by
  have written : ofJson? a.toJson = (do
      let ipVersion ← IpVersion.ofJson? a.ipVersion.toJson
      return { a with ipVersion }) := by
    unfold toJson
    cases a.address <;> rfl
  rw [written, IpVersion.ofJson?_toJson]
  rfl

theorem ListenerSpec.readable_ports {l : ListenerSpec} (h : Readable ofJson? l) :
    Readable int64OrText? l.port ∧ Readable int64OrText? l.targetPort := by
  obtain ⟨j, h⟩ := h
  simp only [ofJson?, Option.bind_eq_bind, Option.bind_eq_some_iff, Option.pure_def,
    Option.some.injEq] at h
  obtain ⟨fs, -, _, -, port, hport, _, -, targetPort, htarget, _, -, _, -, rfl⟩ := h
  exact ⟨readable_of_required hport, readable_of_required htarget⟩

theorem ListenerSpec.ofJson?_toJson {l : ListenerSpec} (h : Readable ofJson? l) :
    ofJson? l.toJson = some l := by
  obtain ⟨port, targetPort⟩ := readable_ports h
  have written : ofJson? l.toJson = (do
      let port ← int64OrText? (.int l.port)
      let protocol ← Protocol.ofJson? l.protocol.toJson
      let targetPort ← int64OrText? (.int l.targetPort)
      let external ← l.external.mapM fun a => ExternalAddress.ofJson? a.toJson
      let internal ← l.internal.mapM fun a => InternalAddress.ofJson? a.toJson
      return { l with port, protocol, targetPort, external, internal }) := by
    unfold toJson
    cases l.external <;> cases l.internal <;> rfl
  rw [written, port.int64, Protocol.ofJson?_toJson, targetPort.int64,
    mapM_written fun a _ => a.ofJson?_toJson, mapM_written fun a _ => a.ofJson?_toJson]
  rfl

/-! ## Health checks -/

theorem HttpProbe.ofJson?_toJson {p : HttpProbe} (h : Readable ofJson? p) :
    ofJson? p.toJson = some p := by
  obtain ⟨j, h⟩ := h
  simp only [ofJson?, Option.bind_eq_bind, Option.bind_eq_some_iff, Option.pure_def,
    Option.some.injEq] at h
  obtain ⟨fs, -, port, hport, path, -, rfl⟩ := h
  have written : ofJson? (toJson ⟨port, path⟩) = (do
      let port ← int64OrText? (.int port)
      return ⟨port, path⟩) := rfl
  rw [written, (readable_of_required hport).int64]
  rfl

theorem TcpProbe.ofJson?_toJson {p : TcpProbe} (h : Readable ofJson? p) :
    ofJson? p.toJson = some p := by
  obtain ⟨j, h⟩ := h
  simp only [ofJson?, Option.bind_eq_bind, Option.bind_eq_some_iff, Option.pure_def,
    Option.some.injEq] at h
  obtain ⟨fs, -, port, hport, rfl⟩ := h
  have written : ofJson? (toJson ⟨port⟩) = (do
      let port ← int64OrText? (.int port)
      return ⟨port⟩) := rfl
  rw [written, (readable_of_required hport).int64]
  rfl

/-- Interval and timeout are whole numbers of seconds, not above 2^53. -/
def HealthCheck.IsWhole (h : HealthCheck) : Prop :=
  h.interval.IsWhole ∧ h.timeout.IsWhole

instance (h : HealthCheck) : Decidable h.IsWhole := inferInstanceAs (Decidable (_ ∧ _))

/-- What is known of the parts of a health check that was read. -/
structure HealthCheck.PartsReadable (h : HealthCheck) : Prop where
  unhealthyThreshold : Readable int64OrText? h.unhealthyThreshold
  healthyThreshold : Readable int64OrText? h.healthyThreshold
  http : ∀ p, h.http = some p → Readable HttpProbe.ofJson? p
  tcp : ∀ p, h.tcp = some p → Readable TcpProbe.ofJson? p

theorem HealthCheck.partsReadable {h : HealthCheck} (hr : Readable ofJson? h) :
    h.PartsReadable := by
  obtain ⟨j, hj⟩ := hr
  simp only [ofJson?, Option.bind_eq_bind, Option.bind_eq_some_iff, Option.pure_def,
    Option.some.injEq] at hj
  obtain ⟨fs, -, _, -, _, -, _, -, unhealthy, hunhealthy, healthy, hhealthy, http, hhttp, tcp, htcp,
    rfl⟩ := hj
  exact {
    unhealthyThreshold := readable_of_required hunhealthy
    healthyThreshold := readable_of_required hhealthy
    http := fun _ => readable_of_optional hhttp
    tcp := fun _ => readable_of_optional htcp }

theorem HealthCheck.ofJson?_toJson {h : HealthCheck} (hr : Readable ofJson? h)
    (whole : h.IsWhole) : ofJson? h.toJson = some h := by
  have parts := partsReadable hr
  have written : ofJson? h.toJson = (do
      let interval ← Span.ofJson? h.interval.toJson
      let timeout ← Span.ofJson? h.timeout.toJson
      let unhealthyThreshold ← int64OrText? (.int h.unhealthyThreshold)
      let healthyThreshold ← int64OrText? (.int h.healthyThreshold)
      let http ← h.http.mapM fun p => HttpProbe.ofJson? p.toJson
      let tcp ← h.tcp.mapM fun p => TcpProbe.ofJson? p.toJson
      return { h with interval, timeout, unhealthyThreshold, healthyThreshold, http, tcp }) := by
    unfold toJson
    cases h.http <;> cases h.tcp <;> rfl
  rw [written, Span.ofJson?_toJson whole.1, Span.ofJson?_toJson whole.2,
    parts.unhealthyThreshold.int64, parts.healthyThreshold.int64,
    mapM_written fun p hp => HttpProbe.ofJson?_toJson (parts.http p hp),
    mapM_written fun p hp => TcpProbe.ofJson?_toJson (parts.tcp p hp)]
  rfl

/-! ## Balancers -/

theorem Attachment.readable_healthChecks {a : Attachment} (h : Readable ofJson? a) :
    ∀ c ∈ a.healthChecks, Readable HealthCheck.ofJson? c := by
  obtain ⟨j, h⟩ := h
  simp only [ofJson?, Option.bind_eq_bind, Option.bind_eq_some_iff, Option.pure_def,
    Option.some.injEq] at h
  obtain ⟨fs, -, _, -, checks, hchecks, rfl⟩ := h
  exact fun _ => readable_of_withDefault hchecks

theorem Attachment.ofJson?_toJson {a : Attachment} (h : Readable ofJson? a)
    (whole : ∀ c ∈ a.healthChecks, c.IsWhole) : ofJson? a.toJson = some a := by
  have written : ofJson? a.toJson = (do
      let healthChecks ← list? HealthCheck.ofJson? (listToJson HealthCheck.toJson a.healthChecks)
      return { a with healthChecks }) := rfl
  rw [written, list?_listToJson fun c hc =>
    HealthCheck.ofJson?_toJson (readable_healthChecks h c hc) (whole c hc)]
  rfl

/-- The attachments of what was read are read back as a list. -/
theorem attachments_read {l : List Attachment} (h : ∀ a ∈ l, Readable Attachment.ofJson? a)
    (whole : ∀ c ∈ l.flatMap (·.healthChecks), c.IsWhole) :
    list? Attachment.ofJson? (listToJson Attachment.toJson l) = some l :=
  list?_listToJson fun a ha => Attachment.ofJson?_toJson (h a ha) fun c hc =>
    whole c (List.mem_flatMap.mpr ⟨a, ha, hc⟩)

theorem Balancer.readable_parts {b : Balancer} (h : Readable ofJson? b) :
    (∀ l ∈ b.listeners, Readable Listener.ofJson? l) ∧
      ∀ a ∈ b.attachments, Readable Attachment.ofJson? a := by
  obtain ⟨j, h⟩ := h
  simp only [ofJson?, Option.bind_eq_bind, Option.bind_eq_some_iff, Option.pure_def,
    Option.some.injEq] at h
  obtain ⟨fs, -, _, -, _, -, _, -, _, -, _, -, _, -, listeners, hlisteners, attachments,
    hattachments, rfl⟩ := h
  exact ⟨fun _ => readable_of_withDefault hlisteners,
    fun _ => readable_of_withDefault hattachments⟩

theorem Balancer.ofJson?_toJson {b : Balancer} (h : Readable ofJson? b)
    (whole : ∀ c ∈ b.attachments.flatMap (·.healthChecks), c.IsWhole) :
    ofJson? b.toJson = some b := by
  obtain ⟨listeners, attachments⟩ := readable_parts h
  have written : ofJson? b.toJson = (do
      let type ← BalancerType.ofJson? b.type.toJson
      let listeners ← list? Listener.ofJson? (listToJson Listener.toJson b.listeners)
      let attachments ← list? Attachment.ofJson? (listToJson Attachment.toJson b.attachments)
      return { b with type, listeners, attachments }) := rfl
  rw [written, BalancerType.ofJson?_toJson,
    list?_listToJson fun l hl => Listener.ofJson?_toJson (listeners l hl),
    attachments_read attachments whole]
  rfl

theorem BalancerRequest.readable_parts {r : BalancerRequest} (h : Readable ofJson? r) :
    (∀ l ∈ r.listeners, Readable ListenerSpec.ofJson? l) ∧
      ∀ a ∈ r.attachments, Readable Attachment.ofJson? a := by
  obtain ⟨j, h⟩ := h
  simp only [ofJson?, Option.bind_eq_bind, Option.bind_eq_some_iff, Option.pure_def,
    Option.some.injEq] at h
  obtain ⟨fs, -, _, -, _, -, _, -, _, -, listeners, hlisteners, attachments, hattachments, rfl⟩ := h
  obtain ⟨_, hl⟩ := readable_of_required hlisteners
  obtain ⟨_, ha⟩ := readable_of_required hattachments
  exact ⟨fun _ => readable_of_list hl, fun _ => readable_of_list ha⟩

theorem BalancerRequest.ofJson?_toJson {r : BalancerRequest} (h : Readable ofJson? r)
    (whole : ∀ c ∈ r.attachments.flatMap (·.healthChecks), c.IsWhole) :
    ofJson? r.toJson = some r := by
  obtain ⟨listeners, attachments⟩ := readable_parts h
  have written : ofJson? r.toJson = (do
      let type ← BalancerType.ofJson? r.type.toJson
      let listeners ← list? ListenerSpec.ofJson? (listToJson ListenerSpec.toJson r.listeners)
      let attachments ← list? Attachment.ofJson? (listToJson Attachment.toJson r.attachments)
      return { r with type, listeners, attachments }) := rfl
  rw [written, BalancerType.ofJson?_toJson,
    list?_listToJson fun l hl => ListenerSpec.ofJson?_toJson (listeners l hl),
    attachments_read attachments whole]
  rfl

/-! ## Pages -/

theorem Page.ofJson?_toJson {α : Type} {decode : Json → Option α} {encode : α → Json}
    (h : ∀ v, decode (encode v) = some v) (p : Page α) :
    ofJson? decode (p.toJson encode) = some p := by
  have written : ofJson? decode (p.toJson encode) = (do
      let items ← list? decode (listToJson encode p.items)
      let nextPageToken ← orNull? text? (ofOption .str p.nextPageToken)
      return { p with items, nextPageToken }) := rfl
  rw [written, list?_listToJson fun v _ => h v,
    orNull?_ofOption (fun _ _ => by rfl) fun _ => by nofun]
  rfl

end CloudSteward
