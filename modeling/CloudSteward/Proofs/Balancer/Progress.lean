import CloudSteward.Proofs.Balancer.Ensure
import CloudSteward.Proofs.Calm

/-!
# Changing a balancer when nothing goes wrong

In a calm world every change of a balancer that is there is carried out, but for one
kind: a listener cannot be added under a name that another listener has. Converging
adds the missing listeners after the unwanted ones are gone, so it ends well exactly if
no listener that is kept has the name of one that is missing. The kept ones are told
by their keys, whatever their names.

Results:

* `addListeners_run_of_free`, `addListeners_run_of_taken`: when listeners can be added.
* `convergeBalancer_run_of_clear`, `convergeBalancer_run_of_clash`: when a balancer can be
  converged.
* `createBalancer_run`: what is created under an unused name.
* `ensureBalancer_run`, `placeBalancer_run_of_absent`, `placeBalancer_run_of_present`: the
  way to either.
* `placeBalancer_run_of_type_ne`: a balancer of another type is replaced.
-/

namespace CloudSteward

open Program

/-! ## Replies -/

namespace Store

theorem changeBalancer_reply {st : Store} {b : Balancer} (hb : b ∈ st.balancers)
    (update : Balancer → Except CloudError Balancer) :
    (st.changeBalancer b.id update).1 = update b := by
  rw [changeBalancer, Inventory.mem_iff.mp hb]
  simp only [existing]
  cases update b <;> rfl

theorem listenerFrom_name (n : Nat) (l : ListenerSpec) : (listenerFrom n l).1.name = l.name := by
  rw [listenerFrom]
  split <;> rfl

/-- A listener is added unless its name is taken. -/
theorem addListener_reply {st : Store} {b : Balancer} (hb : b ∈ st.balancers) (l : ListenerSpec) :
    (st.addListener b.id l).1 =
      if b.listeners.any (·.name == l.name) then
        .error (.alreadyExists s!"Listener {l.name} already exists")
      else .ok { b with listeners := b.listeners ++ [(listenerFrom st.counter l).1] } := by
  rw [addListener]
  dsimp only
  have hb' : b ∈ (if (listenerFrom st.counter l).2 then { st with counter := st.counter + 1 }
      else st).balancers := by
    split <;> exact hb
  rw [changeBalancer_reply hb', listenerFrom_name]

end Store

/-! ## A list of changes -/

section Runs

variable {w : World} {b : Balancer}

theorem removeListeners_run (hw : w.Calm) (hb : b ∈ w.store.balancers) (names : List String) :
    ∃ r w', (removeListeners b.id names b).run w = (.done r, w') := by
  induction names generalizing w b with
  | nil => exact ⟨b, w, rfl⟩
  | cons name rest ih =>
    have hreply : (w.store.answer (.removeListener b.id name)).1 =
        .ok { b with listeners := b.listeners.filter (·.name != name) } :=
      Store.changeBalancer_reply hb _
    have hask := run_ask_of_calm hw hreply
    obtain ⟨-, hs⟩ := removeListener_done (keep_of_calm hw _) hb hask
    obtain ⟨r, w', hrest⟩ := ih (calm_serve hw _) (Inventory.mem_of_eq_put hs)
    exact ⟨r, w', (run_bind_of_done hask).trans hrest⟩

theorem detachGroups_run (hw : w.Calm) (hb : b ∈ w.store.balancers) (groups : List String) :
    ∃ r w', (detachGroups b.id groups b).run w = (.done r, w') := by
  induction groups generalizing w b with
  | nil => exact ⟨b, w, rfl⟩
  | cons group rest ih =>
    have hreply : (w.store.answer (.detachTargetGroup b.id group)).1 =
        .ok { b with attachments := b.attachments.filter (·.targetGroupId != group) } :=
      Store.changeBalancer_reply hb _
    have hask := run_ask_of_calm hw hreply
    obtain ⟨-, hs⟩ := detachTargetGroup_done (keep_of_calm hw _) hb hask
    obtain ⟨r, w', hrest⟩ := ih (calm_serve hw _) (Inventory.mem_of_eq_put hs)
    exact ⟨r, w', (run_bind_of_done hask).trans hrest⟩

/-- A listener can be added under a name that no other has. -/
theorem addListener_run_of_free {l : ListenerSpec} (hw : w.Calm) (hb : b ∈ w.store.balancers)
    (hfree : l.name ∉ b.listeners.map (·.name)) :
    ∃ listener : Listener, ∃ w', listener.name = l.name ∧ w'.Calm ∧
      { b with listeners := b.listeners ++ [listener] } ∈ w'.store.balancers ∧
      (ask (.addListener b.id l)).run w =
        (.done { b with listeners := b.listeners ++ [listener] }, w') := by
  have hnone : ¬ b.listeners.any (·.name == l.name) = true := by simpa using hfree
  have hreply : (w.store.answer (.addListener b.id l)).1 =
      .ok { b with listeners := b.listeners ++ [(Store.listenerFrom w.store.counter l).1] } :=
    (Store.addListener_reply hb l).trans (if_neg hnone)
  have hask := run_ask_of_calm hw hreply
  obtain ⟨listener, -, -, hs⟩ := addListener_done (keep_of_calm hw _) hb hask
  exact ⟨_, _, Store.listenerFrom_name _ l, calm_serve hw _, Inventory.mem_of_eq_put hs, hask⟩

/-- Listeners can be added if their names are different and no other has one of
    them. -/
theorem addListeners_run_of_free {l : List ListenerSpec} (hw : w.Calm)
    (hb : b ∈ w.store.balancers) (hnodup : (l.map (·.name)).Nodup)
    (hfree : ∀ new ∈ l, new.name ∉ b.listeners.map (·.name)) :
    ∃ r w', (addListeners b.id l b).run w = (.done r, w') := by
  induction l generalizing w b with
  | nil => exact ⟨b, w, rfl⟩
  | cons new rest ih =>
    obtain ⟨hnew, hrest⟩ := List.nodup_cons.mp hnodup
    obtain ⟨listener, w₁, hname, hw₁, hb₁, hask⟩ :=
      addListener_run_of_free hw hb (hfree new List.mem_cons_self)
    have hfree₁ : ∀ other ∈ rest,
        other.name ∉ (b.listeners ++ [listener]).map (·.name) := by
      intro other hother hmem
      rw [List.map_append, List.mem_append] at hmem
      rcases hmem with hmem | hmem
      · exact hfree other (List.mem_cons_of_mem new hother) hmem
      · rw [List.map_singleton, List.mem_singleton, hname] at hmem
        exact hnew (List.mem_map.mpr ⟨other, hother, hmem⟩)
    obtain ⟨r, w', hrun⟩ := ih hw₁ hb₁ hrest hfree₁
    exact ⟨r, w', (run_bind_of_done hask).trans hrun⟩

/-- Adding listeners fails at the first one whose name another listener has. -/
theorem addListeners_run_of_taken {l : List ListenerSpec} (hw : w.Calm)
    (hb : b ∈ w.store.balancers) (htaken : ∃ new ∈ l, new.name ∈ b.listeners.map (·.name)) :
    ∃ e w', (addListeners b.id l b).run w = (.failed (.cloud e), w') ∧
      e.isAlreadyExists = true := by
  induction l generalizing w b with
  | nil =>
    obtain ⟨new, hnew, -⟩ := htaken
    cases hnew
  | cons new rest ih =>
    by_cases hnew : new.name ∈ b.listeners.map (·.name)
    · have hany : b.listeners.any (·.name == new.name) = true := by simpa using hnew
      have hreply : (w.store.answer (.addListener b.id new)).1 =
          .error (.alreadyExists s!"Listener {new.name} already exists") :=
        (Store.addListener_reply hb new).trans (if_pos hany)
      exact ⟨_, _, run_bind_of_failed (run_ask_error_of_calm hw hreply), rfl⟩
    · obtain ⟨listener, w₁, -, hw₁, hb₁, hask⟩ := addListener_run_of_free hw hb hnew
      have htaken₁ : ∃ other ∈ rest, other.name ∈ (b.listeners ++ [listener]).map (·.name) := by
        obtain ⟨other, hother, hmem⟩ := htaken
        rcases List.mem_cons.mp hother with rfl | hother
        · exact absurd hmem hnew
        · exact ⟨other, hother, by rw [List.map_append]; exact List.mem_append_left _ hmem⟩
      obtain ⟨e, w', hrun, he⟩ := ih hw₁ hb₁ htaken₁
      exact ⟨e, w', (run_bind_of_done hask).trans hrun, he⟩

/-! ## Converging -/

/-- A listener that is missing has the name of one that is kept. -/
def Balancer.Clashes (b : Balancer) (wanted : List ListenerSpec) : Prop :=
  ∃ new ∈ missingListeners b wanted, ∃ kept ∈ b.listeners,
    kept.key ∈ wanted.map (·.key) ∧ kept.name = new.name

/-- The names that are in use once the unwanted listeners are gone. -/
theorem mem_names_kept {wanted : List ListenerSpec} (hd : b.Distinct) (name : String) :
    name ∈ (keptListeners b wanted).map (·.name) ↔
      ∃ kept ∈ b.listeners, kept.key ∈ wanted.map (·.key) ∧ kept.name = name := by
  simp only [keptListeners, List.mem_map, List.mem_filter, decide_eq_true_eq]
  constructor
  · rintro ⟨kept, ⟨hkept, hname⟩, rfl⟩
    exact ⟨kept, hkept, by simpa using (notMem_staleListeners hd hkept).mp hname, rfl⟩
  · rintro ⟨kept, hkept, hkey, rfl⟩
    exact ⟨kept, ⟨hkept, (notMem_staleListeners hd hkept).mpr (by simpa using hkey)⟩, rfl⟩

/-- The first part of converging: the unwanted listeners are removed. -/
theorem removeStale_run (hw : w.Calm) (hb : b ∈ w.store.balancers) (wanted : List ListenerSpec) :
    ∃ kept w', kept.id = b.id ∧ kept.attachments = b.attachments ∧
      kept.listeners = keptListeners b wanted ∧
      w'.Calm ∧ kept ∈ w'.store.balancers ∧
      (removeListeners b.id (staleListeners b wanted) b).run w = (.done kept, w') := by
  obtain ⟨r, w', hrun⟩ := removeListeners_run hw hb (staleListeners b wanted)
  obtain ⟨hr, hs⟩ := removeListeners_done (keep_of_calm hw _) hb hrun
  exact ⟨r, w', by rw [hr], by rw [hr], by rw [hr]; rfl, calm_run hw hrun,
    Inventory.mem_of_eq_put hs, hrun⟩

/-- The last part of converging: strange groups are detached and the wanted one is
    attached, unless it was. -/
theorem attachWanted_run {current : Balancer} (hw : w.Calm)
    (hcurrent : current ∈ w.store.balancers) (hid : current.id = b.id)
    (hattachments : current.attachments = b.attachments) (hd : b.Distinct)
    (attachment : Attachment) :
    ∃ r w', (do
      let current ← detachGroups b.id (strangeGroups b attachment) current
      if b.attachments.contains attachment then return current
      else ask (.attachTargetGroup b.id attachment)).run w = (.done r, w') := by
  rw [← hid]
  obtain ⟨r₁, w₁, hrun⟩ := detachGroups_run hw hcurrent (strangeGroups b attachment)
  obtain ⟨hr₁, hs₁⟩ := detachGroups_done (keep_of_calm hw _) hcurrent hrun
  have hid₁ : r₁.id = current.id := by rw [hr₁]
  have hmem₁ := Inventory.mem_of_eq_put hs₁
  rw [run_bind_of_done hrun, ← hid₁]
  split
  · exact ⟨_, _, rfl⟩
  · rename_i hother
    -- nothing is attached any more, so the wanted group is not
    have hnone : r₁.attachments = [] := by
      rw [hr₁, hattachments, filter_notMem_strangeGroups hd, if_neg (by simpa using hother)]
    have hreply : (w₁.store.answer (.attachTargetGroup r₁.id attachment)).1 =
        .ok { r₁ with attachments := r₁.attachments ++ [attachment] } := by
      refine (Store.changeBalancer_reply hmem₁ _).trans (if_neg ?_)
      simp [hnone]
    exact ⟨_, _, run_ask_of_calm (calm_run hw hrun) hreply⟩

/-- A balancer can be converged if no missing listener has the name of a kept one. -/
theorem convergeBalancer_run_of_clear {spec : BalancerSpec} {attachment : Attachment}
    (hw : w.Calm) (hb : b ∈ w.store.balancers) (hd : b.Distinct)
    (hnodup : (spec.listeners.map (·.name)).Nodup) (hclear : ¬ b.Clashes spec.listeners) :
    ∃ r w', (convergeBalancer b spec attachment).run w = (.done r, w') := by
  obtain ⟨kept, w₁, hid, hattachments, hlisteners, hw₁, hkept, hrun₁⟩ :=
    removeStale_run hw hb spec.listeners
  have hmissing : ((missingListeners b spec.listeners).map (·.name)).Nodup :=
    hnodup.sublist (List.filter_sublist.map _)
  have hfree : ∀ new ∈ missingListeners b spec.listeners,
      new.name ∉ kept.listeners.map (·.name) := by
    intro new hnew hmem
    rw [hlisteners] at hmem
    exact hclear ⟨new, hnew, (mem_names_kept hd _).mp hmem⟩
  obtain ⟨r₂, w₂, hrun₂⟩ := addListeners_run_of_free hw₁ hkept hmissing hfree
  obtain ⟨new, -, hr₂, hs₂⟩ := addListeners_done (keep_of_calm hw₁ _) hkept hrun₂
  have hid₂ : r₂.id = b.id := by rw [hr₂, hid]
  have hattachments₂ : r₂.attachments = b.attachments := by rw [hr₂, hattachments]
  obtain ⟨r, w', hrun₃⟩ := attachWanted_run (calm_run hw₁ hrun₂) (Inventory.mem_of_eq_put hs₂)
    hid₂ hattachments₂ hd attachment
  rw [hid] at hrun₂
  exact ⟨r, w', (run_bind_of_done hrun₁).trans ((run_bind_of_done hrun₂).trans hrun₃)⟩

/-- Converging a balancer fails if a missing listener has the name of a kept one. -/
theorem convergeBalancer_run_of_clash {spec : BalancerSpec} {attachment : Attachment}
    (hw : w.Calm) (hb : b ∈ w.store.balancers) (hd : b.Distinct)
    (hclash : b.Clashes spec.listeners) :
    ∃ e w', (convergeBalancer b spec attachment).run w = (.failed (.cloud e), w') ∧
      e.isAlreadyExists = true := by
  obtain ⟨kept, w₁, hid, -, hlisteners, hw₁, hkept, hrun₁⟩ := removeStale_run hw hb spec.listeners
  obtain ⟨new, hnew, hold⟩ := hclash
  have htaken : new.name ∈ kept.listeners.map (·.name) := by
    rw [hlisteners]
    exact (mem_names_kept hd _).mpr hold
  obtain ⟨e, w', hrun₂, he⟩ := addListeners_run_of_taken hw₁ hkept ⟨new, hnew, htaken⟩
  rw [hid] at hrun₂
  exact ⟨e, w', (run_bind_of_done hrun₁).trans (run_bind_of_failed hrun₂), he⟩

/-! ## Creating -/

/-- What tells the listeners of a balancer apart: names and keys. -/
def Listener.tag (l : Listener) : String × ListenerKey := (l.name, l.key)

/-- The tag of a listener to be. -/
def ListenerSpec.tag (l : ListenerSpec) : String × ListenerKey := (l.name, l.key)

/-- A balancer as it is created from a description. -/
structure Balancer.MadeFrom (b : Balancer) (spec : BalancerSpec) (attachment : Attachment) :
    Prop where
  name : b.name = spec.name
  type : b.type = spec.type
  tags : b.listeners.map (·.tag) = spec.listeners.map (·.tag)
  attachments : b.attachments = [attachment]

theorem tags_of_made {new : List Listener} {l : List ListenerSpec}
    (h : List.Forall₂ Listener.MadeOf new l) : new.map (·.tag) = l.map (·.tag) := by
  induction h with
  | nil => rfl
  | cons hmade _ ih =>
    obtain ⟨n, rfl⟩ := hmade
    rw [List.map_cons, List.map_cons, ih, Listener.tag, ListenerSpec.tag, listenerFrom_key,
      Store.listenerFrom_name]

/-- What is created from a description has its names and keys. -/
theorem Balancer.CreatedFrom.madeFrom {b : Balancer} {spec : BalancerSpec}
    {attachment : Attachment} (h : b.CreatedFrom spec attachment) : b.MadeFrom spec attachment :=
  ⟨h.name, h.type, tags_of_made h.listeners, h.attachments⟩

/-- Under an unused name a balancer is created as described. -/
theorem createBalancer_run {spec : BalancerSpec} (hw : w.Calm)
    (hnone : w.store.balancersNamed spec.name = []) (s : Settings) (attachment : Attachment) :
    ∃ b w', (createBalancer s spec attachment).run w = (.done b, w') ∧
      b.MadeFrom spec attachment ∧ w'.store.balancersNamed spec.name = [b] := by
  have habsent : ¬ w.store.balancers.values.any (·.name == spec.name) = true := by
    rw [List.any_eq_true]
    rintro ⟨b, hb, hname⟩
    exact Store.balancersNamed_eq_nil_iff.mp hnone b (Inventory.mem_values.mp hb)
      (beq_iff_eq.mp hname)
  obtain ⟨b, hreply⟩ : ∃ b : Balancer,
      (w.store.answer (.createBalancer (balancerRequest s spec attachment))).1 = .ok b := by
    have hcreate := congrArg Prod.fst (if_neg habsent :
      w.store.createBalancer (balancerRequest s spec attachment) = _)
    exact ⟨_, hcreate⟩
  have hrun : (createBalancer s spec attachment).run w =
      (.done b, (w.serve (.createBalancer (balancerRequest s spec attachment))).2) := by
    rw [createBalancer, run_bind_of_done (run_answer_of_calm hw), hreply]
    rfl
  obtain ⟨hcreated, hnamed⟩ := createBalancer_done (keep_of_calm hw _) hnone hrun
  exact ⟨b, _, hrun, hcreated.madeFrom, hnamed⟩

/-! ## The way to either -/

theorem placeBalancer_run_of_absent {s : Settings} {spec : BalancerSpec} {attachment : Attachment}
    (hw : w.Calm) (hnone : w.store.balancersNamed spec.name = []) :
    (placeBalancer s spec attachment).run w =
      (createBalancer s spec attachment).run (w.afterReads 1) := by
  have hfind : (ask (.findBalancer spec.name)).run w = (.done none, w.afterReads 1) :=
    run_read_of_calm hw rfl (unique_eq_none_iff.mpr hnone)
  rw [placeBalancer, run_bind_of_done hfind]

theorem placeBalancer_run_of_present {s : Settings} {spec : BalancerSpec} {attachment : Attachment}
    (hw : w.Calm) (hnamed : w.store.balancersNamed spec.name = [b]) :
    (placeBalancer s spec attachment).run w =
      (if b.type = spec.type then convergeBalancer b spec attachment
        else do
          let _ ← ask (.deleteBalancer b.id)
          createBalancer s spec attachment).run (w.afterReads 1) := by
  have hfind : (ask (.findBalancer spec.name)).run w = (.done (some b), w.afterReads 1) :=
    run_read_of_calm hw rfl (unique_eq_some_iff.mpr hnamed)
  rw [placeBalancer, run_bind_of_done hfind]

/-- A balancer of another type makes way for a new one. -/
theorem placeBalancer_run_of_type_ne {s : Settings} {spec : BalancerSpec}
    {attachment : Attachment} (hw : w.Calm) (hnamed : w.store.balancersNamed spec.name = [b])
    (htype : b.type ≠ spec.type) :
    ∃ r w', (placeBalancer s spec attachment).run w = (.done r, w') := by
  have hw₁ : (w.afterReads 1).Calm := calm_afterReads hw 1
  have hreply : ((w.afterReads 1).store.answer (.deleteBalancer b.id)).1 = .ok () := rfl
  have hdelete := run_ask_of_calm hw₁ hreply
  have hgone := deleteBalancer_done (keep_of_calm hw₁ _) (run_ask_eq_done.mp hdelete)
  obtain ⟨r, w', hcreate, -⟩ := createBalancer_run (calm_serve hw₁ (.deleteBalancer b.id))
    (Store.balancersNamed_erase hnamed hgone) s attachment
  rw [placeBalancer_run_of_present hw hnamed, if_neg htype, run_bind_of_done hdelete]
  exact ⟨r, w', hcreate⟩

/-- Once the groups are synced and the group of the description is there, ensuring a
    balancer is placing it. -/
theorem ensureBalancer_run {s : Settings} {services : List Service} {service : Service}
    {nodes : List Node} {spec : BalancerSpec} {group : TargetGroup} {w₁ : World}
    (hspec : balancerSpec service s = .ok spec) (hnodes : nodes ≠ [])
    (hsync : (syncTargetGroups s services nodes).run w = (.done (), w₁)) (hw₁ : w₁.Calm)
    (hgroup : w₁.store.groupsNamed spec.targetGroupName = [group]) :
    (ensureBalancer s services service nodes).run w =
      (placeBalancer s spec (attachmentFor spec group)).run (w₁.afterReads 1) := by
  have hdescribed : (describedBalancer s service).run w = (.done spec, w) := by
    rw [describedBalancer, hspec]
    rfl
  have hfind : (ask (.findTargetGroup spec.targetGroupName)).run w₁ =
      (.done (some group), w₁.afterReads 1) :=
    run_read_of_calm hw₁ rfl (unique_eq_some_iff.mpr hgroup)
  rw [ensureBalancer_eq, run_bind_of_done hdescribed, if_neg (by simpa using hnodes),
    run_bind_of_done hsync, placeAttached, run_bind_of_done hfind]
  rfl

end Runs

end CloudSteward
