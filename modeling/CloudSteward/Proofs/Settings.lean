import CloudSteward.Proofs.Rest.Location

/-!
# Settings that are loaded

Settings come from variables of the environment, each read without the blanks around its
value, and a value of blanks only is no value. Folder and zone may be left open: then the
metadata service is asked for the location once, and its reply counts only where the
environment gives nothing. The region goes by the zone, wherever that comes from.

Results:

* `Settings.value?_eq_some_iff`, `Settings.value?_eq_none_iff`: what a variable gives.
* `Settings.has_idList_iff`: the members of a list of ids.
* `Settings.exists_ofLookup_iff`: the environments that can be read.
* `Settings.ofEnvironment_ok_iff`: what it means that settings are loaded.
* `settings_loaded`: when settings are loaded, and that they are well-formed then.
-/

namespace CloudSteward

/-! ## Variables -/

namespace Settings

section Variables

variable (lookup : String → Option String) (name : String)

/-- A variable is set to a value that is more than blanks, and this is the value without the
    blanks around it. -/
def Given (value : String) : Prop :=
  ∃ raw, lookup name = some raw ∧ Text.trim raw = value ∧ value ≠ ""

/-- A variable is not set, or is set to blanks only. -/
def Blank : Prop :=
  ∀ raw, lookup name = some raw → ∀ c ∈ raw.toList, Text.isBlank c = true

/-- A variable is set to a list with commas between its entries, and this is one of them
    without the blanks around it, and not empty. -/
def Listed (id : String) : Prop :=
  id ≠ "" ∧ ∃ raw, lookup name = some raw ∧ ∃ entry ∈ Text.parts ',' raw, Text.trim entry = id

variable {lookup name} {value id : String}

theorem value?_eq_some_iff : value? lookup name = some value ↔ Given lookup name value := by
  unfold value? Given
  rw [Option.bind_eq_some_iff]
  simp only [Text.nonBlank?_eq_some_iff]

theorem value?_eq_none_iff : value? lookup name = none ↔ Blank lookup name := by
  unfold value? Blank
  rw [Option.bind_eq_none_iff]
  exact forall_congr' fun raw => imp_congr_right fun _ =>
    Text.nonBlank?_eq_none_iff.trans Text.trim_eq_empty_iff

theorem Given.not_blank (h : Given lookup name value) : ¬ Blank lookup name := by
  rw [← value?_eq_none_iff, value?_eq_some_iff.mpr h]
  nofun

/-- Blanks around the list are no matter: they are trimmed off its first and its last entry
    anyhow. -/
theorem listed_iff :
    Listed lookup name id ↔
      id ≠ "" ∧ ∃ raw, lookup name = some raw ∧
        id ∈ (Text.parts ',' (Text.trim raw)).map Text.trim := by
  refine and_congr_right fun _ => exists_congr fun raw => and_congr_right fun _ => ?_
  rw [Text.map_trim_parts_trim (by decide), List.mem_map]

theorem mem_entries_iff {text : String} :
    id ∈ (Text.parts ',' text).filterMap Text.nonBlank? ↔
      id ≠ "" ∧ id ∈ (Text.parts ',' text).map Text.trim := by
  rw [List.mem_filterMap, List.mem_map]
  constructor
  · rintro ⟨entry, hentry, hid⟩
    obtain ⟨htrim, hne⟩ := Text.nonBlank?_eq_some_iff.mp hid
    exact ⟨hne, entry, hentry, htrim⟩
  · rintro ⟨hne, entry, hentry, htrim⟩
    exact ⟨entry, hentry, Text.nonBlank?_eq_some_iff.mpr ⟨htrim, hne⟩⟩

theorem has_idList_iff :
    (idList (value? lookup name)).has id = true ↔ Listed lookup name id := by
  rw [idList, SortedSet.has_ofMembers, decide_eq_true_iff, listed_iff]
  cases hraw : lookup name with
  | none => simp [value?, hraw]
  | some raw =>
    by_cases hblank : Text.trim raw = ""
    · have hnone : value? lookup name = none := by
        rw [value?, hraw, Option.bind_some, Text.nonBlank?_eq_none_iff, hblank]
      -- a list of blanks only has one entry, and that is blank
      have hentry : (Text.parts ',' "").map Text.trim = [""] := rfl
      rw [hnone]
      refine iff_of_false List.not_mem_nil fun ⟨hne, raw', hraw', hmem⟩ => hne ?_
      cases hraw'
      rwa [hblank, hentry, List.mem_singleton] at hmem
    · have hsome : value? lookup name = some (Text.trim raw) :=
        value?_eq_some_iff.mpr ⟨raw, hraw, rfl, hblank⟩
      rw [hsome, Option.map_some, Option.getD_some, mem_entries_iff]
      simp

/-- A variable is given one value only. -/
theorem Given.unique {value' : String} (h : Given lookup name value)
    (h' : Given lookup name value') : value = value' :=
  Option.some.inj ((value?_eq_some_iff.mpr h).symm.trans (value?_eq_some_iff.mpr h'))

theorem Given.ne_empty (h : Given lookup name value) : value ≠ "" := by
  obtain ⟨-, -, -, hne⟩ := h
  exact hne

/-- A value that is given is more than blanks. -/
theorem Given.exists_not_blank (h : Given lookup name value) :
    ∃ c ∈ value.toList, Text.isBlank c = false := by
  obtain ⟨raw, -, rfl, hne⟩ := h
  rw [← Text.trim_trim, ne_eq, Text.trim_eq_empty_iff] at hne
  simpa using hne

end Variables

/-! ## Settings that reflect their sources -/

/-- The environment leaves folder or zone open. -/
def LeftOpen (lookup : String → Option String) : Prop :=
  Blank lookup envFolderId ∨ Blank lookup envZone

/-- A setting is what its variable gives, and only if that is blank what has been found out. -/
def Filled (lookup : String → Option String) (name : String) (found : Option String)
    (value : String) : Prop :=
  Given lookup name value ∨ Blank lookup name ∧ found = some value

/-- An optional setting is what its variable gives. -/
def Optional (lookup : String → Option String) (name : String) (option : Option String) : Prop :=
  ∀ value, option = some value ↔ Given lookup name value

/-- A set of ids has the entries of the list in its variable, and nothing else. -/
def Collected (lookup : String → Option String) (name : String) (ids : NameSet) : Prop :=
  ∀ id, ids.has id = true ↔ Listed lookup name id

/-- The number of workers in an environment. -/
inductive HasWorkers (lookup : String → Option String) : Nat → Prop
  | unset (blank : Blank lookup envWorkers) : HasWorkers lookup defaultWorkers
  | set {raw : String} {n : Nat} (given : Given lookup envWorkers raw)
      (count : Text.count? raw = some n) (pos : 0 < n) : HasWorkers lookup n

/-- Settings are those of an environment, and of a location that has been found out, if any. -/
structure Reflects (lookup : String → Option String) (found : Option Location)
    (settings : Settings) : Prop where
  cluster : Given lookup envClusterName settings.clusterName
  network : Given lookup envTargetGroupNetworkId settings.targetGroupNetworkId
  folder : Filled lookup envFolderId (found.map (·.folderId)) settings.folderId
  zone : Filled lookup envZone (found.map (·.zoneId)) settings.zoneId
  region : settings.regionId = regionOf settings.zoneId
  token : Optional lookup envIamToken settings.iamToken
  subnet : Optional lookup envListenerSubnetId settings.listenerSubnetId
  table : Optional lookup envRouteTableId settings.routeTableId
  internal : Collected lookup envInternalNetworkIds settings.internalNetworkIds
  external : Collected lookup envExternalNetworkIds settings.externalNetworkIds
  workers : HasWorkers lookup settings.workers

/-- An environment that settings can be read from, up to folder and zone. -/
structure Readable (lookup : String → Option String) : Prop where
  cluster : ∃ value, Given lookup envClusterName value
  network : ∃ value, Given lookup envTargetGroupNetworkId value
  workers : ∃ n, HasWorkers lookup n

/-- What is right about settings, whatever they come from. -/
structure WellFormed (settings : Settings) : Prop where
  cluster : settings.clusterName ≠ ""
  network : settings.targetGroupNetworkId ≠ ""
  folder : settings.folderId ≠ ""
  zone : settings.zoneId ≠ ""
  region : settings.regionId = regionOf settings.zoneId
  workers : 0 < settings.workers
  options : ∀ option ∈ [settings.iamToken, settings.listenerSubnetId, settings.routeTableId],
    ∀ value, option = some value → ∃ c ∈ value.toList, Text.isBlank c = false

section Sources

variable {lookup : String → Option String} {name value : String}

theorem Filled.unique {value' : String} {found : Option String} (h : Filled lookup name found value)
    (h' : Filled lookup name found value') : value = value' := by
  rcases h with hgiven | ⟨hblank, hfound⟩
  · rcases h' with hgiven' | ⟨hblank', -⟩
    · exact hgiven.unique hgiven'
    · exact absurd hblank' hgiven.not_blank
  · rcases h' with hgiven' | ⟨-, hfound'⟩
    · exact absurd hblank hgiven'.not_blank
    · exact Option.some.inj (hfound.symm.trans hfound')

theorem Filled.ne_empty {found : Option String} (h : Filled lookup name found value)
    (hfound : found ≠ some "") : value ≠ "" := by
  rintro rfl
  rcases h with hgiven | ⟨-, hempty⟩
  · exact hgiven.ne_empty rfl
  · exact hfound hempty

theorem filled_getD : Filled lookup name (some "") ((value? lookup name).getD "") := by
  cases hvalue : value? lookup name with
  | none => exact .inr ⟨value?_eq_none_iff.mp hvalue, rfl⟩
  | some value => exact .inl (value?_eq_some_iff.mp hvalue)

/-- What is open is filled with what is found out later. -/
theorem Filled.fill (h : Filled lookup name (some "") value) (found : String) :
    Filled lookup name (some found) (if value.isEmpty then found else value) := by
  rcases h with hgiven | ⟨hblank, hempty⟩
  · rw [if_neg fun hempty => hgiven.ne_empty (String.isEmpty_iff.mp hempty)]
    exact .inl hgiven
  · cases hempty
    exact .inr ⟨hblank, rfl⟩

theorem Filled.isEmpty_iff (h : Filled lookup name (some "") value) :
    value.isEmpty = true ↔ Blank lookup name := by
  rw [String.isEmpty_iff]
  constructor
  · rintro rfl
    rcases h with hgiven | ⟨hblank, -⟩
    · exact absurd rfl hgiven.ne_empty
    · exact hblank
  · intro hblank
    rcases h with hgiven | ⟨-, hempty⟩
    · exact absurd hblank hgiven.not_blank
    · exact (Option.some.inj hempty).symm

theorem Filled.of_not_blank {found found' : Option String} (h : Filled lookup name found value)
    (hgiven : ¬ Blank lookup name) : Filled lookup name found' value :=
  .inl (h.resolve_right fun hopen => hgiven hopen.1)

theorem requiredVariable_eq_ok_iff :
    requiredVariable lookup name = .ok value ↔ Given lookup name value := by
  rw [← value?_eq_some_iff, requiredVariable]
  cases value? lookup name <;> simp

theorem optional_value? : Optional lookup name (value? lookup name) :=
  fun _ => value?_eq_some_iff

theorem Optional.unique {option option' : Option String} (h : Optional lookup name option)
    (h' : Optional lookup name option') : option = option' :=
  Option.ext fun value => (h value).trans (h' value).symm

theorem Collected.unique {ids ids' : NameSet} (h : Collected lookup name ids)
    (h' : Collected lookup name ids') : ids = ids' :=
  SortedSet.ext_has fun id => Bool.eq_iff_iff.mpr ((h id).trans (h' id).symm)

theorem workersOf_eq_ok_iff {n : Nat} :
    workersOf (value? lookup envWorkers) = .ok n ↔ HasWorkers lookup n := by
  constructor
  · intro h
    cases hraw : value? lookup envWorkers with
    | none =>
      rw [hraw] at h
      cases h
      exact .unset (value?_eq_none_iff.mp hraw)
    | some raw =>
      rw [hraw, workersOf] at h
      split at h
      · rename_i hcount
        cases h
        obtain ⟨hcount, hpos⟩ := Option.filter_eq_some_iff.mp hcount
        exact .set (value?_eq_some_iff.mp hraw) hcount (of_decide_eq_true hpos)
      · cases h
  · intro h
    cases h with
    | unset blank =>
      rw [value?_eq_none_iff.mpr blank]
      rfl
    | set given count pos =>
      have hcount : (Text.count? _).filter (0 < ·) = some n :=
        Option.filter_eq_some_iff.mpr ⟨count, decide_eq_true pos⟩
      rw [value?_eq_some_iff.mpr given, workersOf, hcount]

theorem HasWorkers.unique {n n' : Nat} (h : HasWorkers lookup n) (h' : HasWorkers lookup n') :
    n = n' :=
  Except.ok.inj ((workersOf_eq_ok_iff.mpr h).symm.trans (workersOf_eq_ok_iff.mpr h'))

theorem HasWorkers.pos {n : Nat} (h : HasWorkers lookup n) : 0 < n := by
  cases h with
  | unset _ => decide
  | set _ _ pos => exact pos

/-- Settings that reflect the same sources are the same. -/
theorem Reflects.unique {found : Option Location} {settings settings' : Settings}
    (h : Reflects lookup found settings) (h' : Reflects lookup found settings') :
    settings = settings' := by
  have hzone := h.zone.unique h'.zone
  have hregion : settings.regionId = settings'.regionId := by
    rw [h.region, h'.region, hzone]
  cases settings
  cases settings'
  rw [Settings.mk.injEq]
  exact ⟨h.cluster.unique h'.cluster, h.folder.unique h'.folder, hzone, hregion,
    h.token.unique h'.token, h.subnet.unique h'.subnet, h.network.unique h'.network,
    h.internal.unique h'.internal, h.external.unique h'.external, h.table.unique h'.table,
    h.workers.unique h'.workers⟩

end Sources

/-! ## Loading -/

/-- How settings are loaded in a session. -/
inductive Loaded (lookup : String → Option String) (s : Session) : Settings → Session → Prop
  | given {settings : Settings} (complete : ¬ LeftOpen lookup)
      (reflects : Reflects lookup none settings) : Loaded lookup s settings s
  | asked {settings : Settings} {l : Location} (leftOpen : LeftOpen lookup)
      (tells : (s.send Metadata.locationRequest).1.Tells l)
      (reflects : Reflects lookup (some l) settings) :
      Loaded lookup s settings (s.send Metadata.locationRequest).2

/-- Settings can be loaded in a session: the environment can be read, and if it leaves folder or
    zone open, the metadata service tells a location. -/
structure Loadable (lookup : String → Option String) (s : Session) : Prop where
  readable : Readable lookup
  told : LeftOpen lookup → ∃ l, (s.send Metadata.locationRequest).1.Tells l

section Loading

variable {lookup : String → Option String} {s s' : Session} {settings : Settings}

/-- An environment alone gives the settings of an empty location. -/
theorem reflects_of_ofLookup (h : ofLookup lookup = .ok settings) :
    Reflects lookup (some ⟨"", ""⟩) settings := by
  rw [ofLookup] at h
  obtain ⟨clusterName, hcluster, h⟩ := bind_eq_ok_iff.mp h
  obtain ⟨networkId, hnetwork, h⟩ := bind_eq_ok_iff.mp h
  obtain ⟨workers, hworkers, h⟩ := bind_eq_ok_iff.mp h
  cases h
  exact {
    cluster := requiredVariable_eq_ok_iff.mp hcluster
    network := requiredVariable_eq_ok_iff.mp hnetwork
    folder := filled_getD
    zone := filled_getD
    region := rfl
    token := optional_value?
    subnet := optional_value?
    table := optional_value?
    internal := fun _ => has_idList_iff
    external := fun _ => has_idList_iff
    workers := workersOf_eq_ok_iff.mp hworkers }

theorem exists_ofLookup_iff : (∃ settings, ofLookup lookup = .ok settings) ↔ Readable lookup := by
  simp only [ofLookup, exists_bind_ok_iff, requiredVariable_eq_ok_iff, workersOf_eq_ok_iff]
  constructor
  · rintro ⟨clusterName, hcluster, networkId, hnetwork, workers, hworkers, -⟩
    exact ⟨⟨clusterName, hcluster⟩, ⟨networkId, hnetwork⟩, ⟨workers, hworkers⟩⟩
  · rintro ⟨⟨clusterName, hcluster⟩, ⟨networkId, hnetwork⟩, ⟨workers, hworkers⟩⟩
    exact ⟨clusterName, hcluster, networkId, hnetwork, workers, hworkers, _, rfl⟩

theorem Reflects.readable {found : Option Location} (h : Reflects lookup found settings) :
    Readable lookup :=
  ⟨⟨_, h.cluster⟩, ⟨_, h.network⟩, ⟨_, h.workers⟩⟩

/-- Settings are left open where the environment leaves them open. -/
theorem Reflects.needsLocation_iff (h : Reflects lookup (some ⟨"", ""⟩) settings) :
    settings.needsLocation = true ↔ LeftOpen lookup := by
  rw [needsLocation, Bool.or_eq_true, h.folder.isEmpty_iff, h.zone.isEmpty_iff, LeftOpen]

theorem Reflects.locate (h : Reflects lookup (some ⟨"", ""⟩) settings) (l : Location) :
    Reflects lookup (some l) (settings.locate l) where
  cluster := h.cluster
  network := h.network
  folder := h.folder.fill l.folderId
  zone := h.zone.fill l.zoneId
  region := by
    rw [regionId_locate, zoneId_locate, h.region]
    split <;> rfl
  token := h.token
  subnet := h.subnet
  table := h.table
  internal := h.internal
  external := h.external
  workers := h.workers

/-- Where nothing is left open, it does not matter what is found out. -/
theorem Reflects.of_complete {found : Option Location} (h : Reflects lookup found settings)
    (complete : ¬ LeftOpen lookup) (found' : Option Location) : Reflects lookup found' settings :=
  { h with
    folder := h.folder.of_not_blank fun hblank => complete (.inl hblank)
    zone := h.zone.of_not_blank fun hblank => complete (.inr hblank) }

theorem located_apply (settings : Settings) (s : Session) :
    settings.located s =
      if settings.needsLocation then
        (.ok (match Metadata.locationOf (s.send Metadata.locationRequest).1 with
          | .ok l => .ok (settings.locate l)
          | .error e => .error (.cloud e)), (s.send Metadata.locationRequest).2)
      else (.ok (.ok settings), s) := by
  rw [located]
  split
  · show Talk.bind (Metadata.location metadataAddress).attempt _ s = _
    rw [Talk.bind, Talk.attempt, Metadata.location_apply]
    cases Metadata.locationOf (s.send Metadata.locationRequest).1 <;> rfl
  · rfl

/-- Settings are loaded where they can be loaded, and otherwise there is an error. -/
theorem ofEnvironment_cases (lookup : String → Option String) (s : Session) :
    (∃ settings s', ofEnvironment lookup s = (.ok (.ok settings), s') ∧
        Loaded lookup s settings s') ∨
      ¬ Loadable lookup s ∧ ∃ e, (ofEnvironment lookup s).1 = .ok (.error e) := by
  cases hread : ofLookup lookup with
  | error e =>
    rw [ofEnvironment_of_error hread]
    refine .inr ⟨fun hloadable => ?_, e, rfl⟩
    obtain ⟨settings, hsettings⟩ := exists_ofLookup_iff.mpr hloadable.readable
    rw [hread] at hsettings
    cases hsettings
  | ok settings =>
    have hreflects := reflects_of_ofLookup hread
    rw [ofEnvironment, hread]
    dsimp only
    rw [located_apply]
    by_cases hopen : LeftOpen lookup
    · rw [if_pos (hreflects.needsLocation_iff.mpr hopen)]
      cases htold : Metadata.locationOf (s.send Metadata.locationRequest).1 with
      | ok l =>
        exact .inl ⟨_, _, rfl, .asked hopen (Metadata.tells_iff.mpr htold) (hreflects.locate l)⟩
      | error e =>
        refine .inr ⟨fun hloadable => ?_, .cloud e, rfl⟩
        obtain ⟨l, hl⟩ := hloadable.told hopen
        rw [Metadata.tells_iff.mp hl] at htold
        cases htold
    · rw [if_neg fun hneeds => hopen (hreflects.needsLocation_iff.mp hneeds)]
      exact .inl ⟨_, _, rfl, .given hopen (hreflects.of_complete hopen none)⟩

theorem Loaded.loadable (h : Loaded lookup s settings s') : Loadable lookup s := by
  cases h with
  | given complete reflects => exact ⟨reflects.readable, fun hopen => absurd hopen complete⟩
  | asked _ tells reflects => exact ⟨reflects.readable, fun _ => ⟨_, tells⟩⟩

theorem Loaded.unique {settings' : Settings} {s'' : Session} (h : Loaded lookup s settings s')
    (h' : Loaded lookup s settings' s'') : settings = settings' ∧ s' = s'' := by
  cases h with
  | given complete reflects =>
    cases h' with
    | given _ reflects' => exact ⟨reflects.unique reflects', rfl⟩
    | asked leftOpen _ _ => exact absurd leftOpen complete
  | asked leftOpen tells reflects =>
    cases h' with
    | given complete _ => exact absurd leftOpen complete
    | asked _ tells' reflects' =>
      cases tells.unique tells'
      exact ⟨reflects.unique reflects', rfl⟩

/-- Settings are loaded exactly if they reflect the environment, and the location that the
    metadata service tells if it is asked. -/
theorem ofEnvironment_ok_iff :
    ofEnvironment lookup s = (.ok (.ok settings), s') ↔ Loaded lookup s settings s' := by
  constructor
  · intro h
    obtain ⟨settings', s'', hrun, hloaded⟩ | ⟨-, e, hrun⟩ := ofEnvironment_cases lookup s
    · cases h.symm.trans hrun
      exact hloaded
    · rw [h] at hrun
      cases hrun
  · intro h
    obtain ⟨settings', s'', hrun, hloaded⟩ | ⟨hunloadable, -⟩ := ofEnvironment_cases lookup s
    · obtain ⟨rfl, rfl⟩ := h.unique hloaded
      exact hrun
    · exact absurd h.loadable hunloadable

theorem Reflects.wellFormed {found : Option Location} (h : Reflects lookup found settings)
    (hfound : ∀ l ∈ found, l.folderId ≠ "" ∧ l.zoneId ≠ "") : settings.WellFormed where
  cluster := h.cluster.ne_empty
  network := h.network.ne_empty
  folder := h.folder.ne_empty fun hempty => by
    obtain ⟨l, hl, hfolder⟩ := Option.map_eq_some_iff.mp hempty
    exact (hfound l hl).1 hfolder
  zone := h.zone.ne_empty fun hempty => by
    obtain ⟨l, hl, hzone⟩ := Option.map_eq_some_iff.mp hempty
    exact (hfound l hl).2 hzone
  region := h.region
  workers := h.workers.pos
  options := by
    simp only [List.forall_mem_cons, List.not_mem_nil, false_implies, implies_true, and_true]
    exact ⟨fun value hvalue => ((h.token value).mp hvalue).exists_not_blank,
      fun value hvalue => ((h.subnet value).mp hvalue).exists_not_blank,
      fun value hvalue => ((h.table value).mp hvalue).exists_not_blank⟩

theorem Loaded.wellFormed (h : Loaded lookup s settings s') : settings.WellFormed := by
  cases h with
  | given _ reflects => exact reflects.wellFormed (by simp)
  | asked _ tells reflects =>
    refine reflects.wellFormed fun l hl => ?_
    cases hl
    exact tells.ne_empty

/-- The metadata service is asked once if folder or zone are left open, and not otherwise. -/
theorem Loaded.received (h : Loaded lookup s settings s') :
    (LeftOpen lookup → s'.server.received = s.server.received ++ [Metadata.locationRequest]) ∧
      (¬ LeftOpen lookup → s' = s) := by
  cases h with
  | given complete _ => exact ⟨fun hopen => absurd hopen complete, fun _ => rfl⟩
  | asked leftOpen tells _ =>
    exact ⟨fun _ => tells.received, fun complete => absurd leftOpen complete⟩

end Loading

end Settings

/-- **Loaded settings.** Settings are loaded exactly if the environment can be read and, where it
    leaves folder or zone open, the metadata service tells a location; anything else ends in an
    error. Loaded settings reflect the environment, and the location only where the environment
    is blank. They are well-formed, and the metadata service has been asked exactly if something
    was left open. -/
theorem settings_loaded (lookup : String → Option String) (s : Session) :
    (Settings.Loadable lookup s →
        ∃ settings, (Settings.ofEnvironment lookup s).1 = .ok (.ok settings)) ∧
      (¬ Settings.Loadable lookup s →
        ∃ e, (Settings.ofEnvironment lookup s).1 = .ok (.error e)) ∧
      ∀ settings s',
        (Settings.ofEnvironment lookup s = (.ok (.ok settings), s') ↔
          Settings.Loaded lookup s settings s') ∧
        (Settings.ofEnvironment lookup s = (.ok (.ok settings), s') →
          settings.WellFormed ∧
            (Settings.LeftOpen lookup →
              s'.server.received = s.server.received ++ [Metadata.locationRequest]) ∧
            (¬ Settings.LeftOpen lookup → s' = s)) := by
  have hcases := Settings.ofEnvironment_cases lookup s
  refine ⟨fun hloadable => ?_, fun hunloadable => ?_, fun settings s' =>
    ⟨Settings.ofEnvironment_ok_iff, fun hrun => ?_⟩⟩
  · obtain ⟨settings, s', hrun, -⟩ | ⟨hunloadable, -⟩ := hcases
    · exact ⟨settings, congrArg Prod.fst hrun⟩
    · exact absurd hloadable hunloadable
  · obtain ⟨settings, s', -, hloaded⟩ | ⟨-, hfailed⟩ := hcases
    · exact absurd hloaded.loadable hunloadable
    · exact hfailed
  · have hloaded := Settings.ofEnvironment_ok_iff.mp hrun
    exact ⟨hloaded.wellFormed, hloaded.received⟩

/-- A folder that is given stays, and the zone is taken from the reply. -/
example :
    let lookup := fun name =>
      if name = envClusterName then some "prod" else
      if name = envTargetGroupNetworkId then some "net " else
      if name = envFolderId then some "mine" else none
    let reply := Delivery.reply 200 "projects/other/zones/ru-central1-a\n"
    (Settings.ofEnvironment lookup ⟨⟨true, [⟨reply, 0⟩], []⟩, 0, none⟩).1 =
      .ok (.ok ⟨"prod", "mine", "ru-central1-a", "ru-central1", none, none, "net", .empty, .empty,
        none, 2⟩) := by
  rfl

end CloudSteward
