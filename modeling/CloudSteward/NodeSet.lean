import CloudSteward.Cluster.Object

/-!
# Changes of the node set

Balancers only care which nodes there are, what instance stands behind each and
whether it takes traffic. `NodeSet` follows a watch on the nodes and tells for
each event whether that view has changed. A watch may start over: it then lists
all nodes anew, and the new list replaces the view when it is complete.

Results:

* `observe_changed_iff`: an event is a change exactly when it changes the view.
-/

namespace CloudSteward

/-- What a balancer sees of a node. -/
structure NodeKey where
  providerId : String
  takesTraffic : Bool
deriving DecidableEq, Repr

/-- What a balancer sees of a node. -/
def Node.key (n : Node) : NodeKey :=
  ⟨n.providerId, n.takesTraffic⟩

/-- What a balancer sees of the nodes, by name. -/
abbrev NodeView := SortedMap String NodeKey

/-- An event of a watch. -/
inductive NodeEvent where
  | apply (node : Node)
  | delete (node : Node)
  /-- The watch starts over. -/
  | init
  /-- One node of the new list. -/
  | initApply (node : Node)
  /-- The new list is complete. -/
  | initDone

/-- The view of the nodes, and the list in progress if the watch has started
    over. -/
structure NodeSet where
  current : NodeView
  relisted : Option NodeView
deriving DecidableEq

namespace NodeSet

/-- No nodes seen yet. -/
def start : NodeSet := ⟨.empty, none⟩

/-- Takes an event in; the first component tells whether the view has changed. -/
def observe (s : NodeSet) : NodeEvent → Bool × NodeSet
  | .apply node =>
    (s.current.get? node.name != some node.key,
      { s with current := s.current.insert node.name node.key })
  | .delete node =>
    ((s.current.get? node.name).isSome, { s with current := s.current.erase node.name })
  | .init => (false, { s with relisted := some .empty })
  | .initApply node =>
    (false, { s with relisted := some ((s.relisted.getD .empty).insert node.name node.key) })
  | .initDone =>
    let listed := s.relisted.getD .empty
    (decide (listed ≠ s.current), { current := listed, relisted := none })

/-- Number of nodes in the view. -/
def nodeCount (s : NodeSet) : Nat := s.current.size

/-! ## Laws -/

theorem insert_eq_self_iff (m : NodeView) (k : String) (v : NodeKey) :
    m.insert k v = m ↔ m.get? k = some v := by
  constructor
  · intro h
    rw [← h, SortedMap.get?_insert, if_pos rfl]
  · intro h
    refine SortedMap.ext_get? fun k' => ?_
    rw [SortedMap.get?_insert]
    split
    · rename_i e
      rw [e, h]
    · rfl

theorem erase_eq_self_iff (m : NodeView) (k : String) : m.erase k = m ↔ m.get? k = none := by
  constructor
  · intro h
    rw [← h, SortedMap.get?_erase, if_pos rfl]
  · intro h
    refine SortedMap.ext_get? fun k' => ?_
    rw [SortedMap.get?_erase]
    split
    · rename_i e
      rw [e, h]
    · rfl

/-- An event is reported as a change exactly when the view is another one
    afterwards. -/
theorem observe_changed_iff (s : NodeSet) (e : NodeEvent) :
    (s.observe e).1 = true ↔ (s.observe e).2.current ≠ s.current := by
  cases e with
  | apply node => simp [observe, insert_eq_self_iff]
  | delete node =>
    rw [observe, Ne, erase_eq_self_iff]
    cases s.current.get? node.name <;> simp
  | init => simp [observe]
  | initApply node => simp [observe]
  | initDone => simp [observe]

end NodeSet

end CloudSteward
