import Mathlib.Algebra.Ring.Nat
import PropertyGraph.Proofs.Notification
import PropertyGraph.Proofs.Removal

/-!
# Accounting for runs

What a graph counts is kept apart from what it stores, and each counter by another function. A
ledger of all updates of a run, taken down beside it, settles every one of them. Updates create
elements, removals take them out, and nothing else does either: what was created is still there,
or is counted as removed.

## Main definitions

- `Update.creations` — how many elements an update creates
- `LedgerEntry`, `Graph.ledger` — what there is to count about the updates of a run
- `Graph.Balances` — a graph counts what a ledger has
- `Graph.run_metrics` — what a graph counts in a run from the beginning
-/

namespace PropertyGraph

/-- How many vertices and edges an update creates in a store: the updated element, unless it is
stored, and the endpoints that an edge lacks. -/
def Update.creations (s : Store) : Update → Nat
  | .vertex v _ => if s.hasVertex v.id then 0 else 1
  | .edge e _ => (s.missingEndpoints e).length + if s.edges.contains e.key then 0 else 1

/-- The operation adds a subscriber. -/
def Operation.subscribes : Operation → Bool
  | .subscribe _ _ => true
  | _ => false

/-- What there is to count about an update: how many elements it creates, and how many subscribers
are told. -/
structure LedgerEntry where
  update : Update
  created : Nat
  subscribers : Nat

namespace Graph

/-- The ledger of a series of updates. -/
def entries (g : Graph) : List Update → List LedgerEntry
  | [] => []
  | u :: rest => ⟨u, u.creations g.store, g.subscribers.size⟩ :: (g.apply u).1.entries rest

/-- The ledger of a run. -/
def ledger (g : Graph) : List Operation → List LedgerEntry
  | [] => []
  | op :: ops => g.entries (op.updates g) ++ (g.attempt op).ledger ops

end Graph

/-! ## Operations that may take something out -/

theorem Operation.eq_of_not_keeps {op : Operation} (h : ¬op.Keeps) :
    (∃ id, op = .removeVertex id) ∨ (∃ key, op = .removeEdge key) ∨
      ∃ id, op = .deletePlaceholder id := by
  cases op with
  | removeVertex id => exact .inl ⟨id, rfl⟩
  | removeEdge key => exact .inr (.inl ⟨key, rfl⟩)
  | deletePlaceholder id => exact .inr (.inr ⟨id, rfl⟩)
  | _ => exact absurd trivial h

theorem Operation.updates_of_not_keeps {op : Operation} (h : ¬op.Keeps) (g : Graph) :
    op.updates g = [] := by
  obtain ⟨id, rfl⟩ | ⟨key, rfl⟩ | ⟨id, rfl⟩ := eq_of_not_keeps h <;> rfl

theorem Operation.subscribed_of_not_keeps {op : Operation} (h : ¬op.Keeps) (s : Subscribers) :
    op.subscribed s = s := by
  obtain ⟨id, rfl⟩ | ⟨key, rfl⟩ | ⟨id, rfl⟩ := eq_of_not_keeps h <;> rfl

/-! ## How many elements there are -/

namespace Store

variable {s : Store}

theorem elementCount_insertVertex (s : Store) (v : Vertex) :
    (s.insertVertex v).elementCount = s.elementCount + if s.hasVertex v.id then 0 else 1 := by
  have hsize := SortedMap.size_insert s.vertices v.id v
  change (s.vertices.insert v.id v).size + s.edges.size = s.vertices.size + s.edges.size + _
  rw [hsize, hasVertex]
  omega

theorem elementCount_ensureVertex (s : Store) (v : Vertex) :
    (s.ensureVertex v).elementCount = s.elementCount + if s.hasVertex v.id then 0 else 1 := by
  rw [ensureVertex]
  split
  · rfl
  · rename_i hv
    rw [elementCount_insertVertex, if_neg hv]

/-- The endpoints that an edge lacks are created, a vertex at both ends only once. -/
theorem elementCount_ensureEndpoints (s : Store) (e : Edge) :
    ((s.ensureVertex e.sourceVertex).ensureVertex e.targetVertex).elementCount =
      s.elementCount + (s.missingEndpoints e).length := by
  have htarget : (s.ensureVertex e.sourceVertex).hasVertex e.key.target = true ↔
      e.key.target = e.key.source ∨ s.hasVertex e.key.target = true :=
    Indexed.hasVertex_ensureVertex ..
  rw [elementCount_ensureVertex, elementCount_ensureVertex, missingEndpoints,
    ← List.countP_eq_length_filter, EdgeKey.isLoop]
  change s.elementCount + (if s.hasVertex e.key.source then 0 else 1) +
    (if (s.ensureVertex e.sourceVertex).hasVertex e.key.target then 0 else 1) = _
  by_cases hloop : e.key.target = e.key.source
  · rw [if_pos (htarget.2 (.inl hloop)), if_pos (beq_iff_eq.2 hloop.symm), List.countP_singleton]
    cases s.hasVertex e.key.source <;> rfl
  · rw [Bool.eq_iff_iff.2 (htarget.trans (or_iff_right hloop)),
      if_neg (mt beq_iff_eq.1 (Ne.symm hloop)), List.countP_cons, List.countP_singleton]
    cases s.hasVertex e.key.source <;> cases s.hasVertex e.key.target <;> rfl

/-- **An edge brings its missing endpoints along.** -/
theorem elementCount_insertEdge (s : Store) (e : Edge) :
    (s.insertEdge e).elementCount =
      s.elementCount +
        ((s.missingEndpoints e).length + if s.edges.contains e.key then 0 else 1) := by
  have hendpoints := elementCount_ensureEndpoints s e
  have hedges : ((s.ensureVertex e.sourceVertex).ensureVertex e.targetVertex).edges.contains e.key =
      s.edges.contains e.key := by
    refine congrArg Option.isSome ?_
    exact (edge?_ensureVertex ..).trans (edge?_ensureVertex ..)
  have hsize := SortedMap.size_insert
    ((s.ensureVertex e.sourceVertex).ensureVertex e.targetVertex).edges e.key e
  rw [hedges] at hsize
  rw [elementCount] at hendpoints
  rw [insertEdge, elementCount]
  dsimp only
  omega

theorem elementCount_storeVertex (h : s.Consistent) (v : Vertex) (overwrite : Bool) :
    (Graph.storeVertex s v overwrite).elementCount =
      s.elementCount + Update.creations s (.vertex v overwrite) := by
  rw [Graph.storeVertex_eq_insertVertex h, elementCount_insertVertex,
    (Graph.mergedVertex_storedUnder h v overwrite).id_eq]
  rfl

theorem elementCount_storeEdge (h : s.Consistent) (e : Edge) (overwrite : Bool) :
    (Graph.storeEdge s e overwrite).elementCount =
      s.elementCount + Update.creations s (.edge e overwrite) := by
  rw [Graph.storeEdge_eq_insertEdge h, elementCount_insertEdge, missingEndpoints,
    (Graph.mergedEdge_storedUnder h e overwrite).key_eq]
  rfl

end Store

namespace Graph

variable {g g' : Graph} {ledger : List LedgerEntry}

/-! ## What an update counts -/

/-- **An update is counted**: as one of a vertex or of an edge, as one look at the element before
if there is anybody to tell, and as one notice for everybody. -/
theorem metrics_apply (h : g.store.Consistent) (u : Update) :
    (g.apply u).1.metrics = { g.metrics with
      vertexUpdates := g.metrics.vertexUpdates + if u.isVertex then 1 else 0
      edgeUpdates := g.metrics.edgeUpdates + if u.isVertex then 0 else 1
      notifications := g.metrics.notifications + g.subscribers.size
      snapshotLookups := g.metrics.snapshotLookups + if 0 < g.subscribers.size then 1 else 0 } := by
  rw [(announced_apply h u).graph]
  rfl

theorem elementCount_apply (h : g.store.Consistent) (u : Update) :
    (g.apply u).1.store.elementCount = g.store.elementCount + u.creations g.store := by
  cases u with
  | vertex v overwrite =>
    rw [apply, store_updateVertex, Store.elementCount_storeVertex h]
  | edge e overwrite =>
    rw [apply, store_updateEdge, Store.elementCount_storeEdge h]

/-! ## What an operation takes out -/

theorem loses_nothing (g : Graph) : g.Loses (fun _ => false) (fun _ => false) g where
  name := rfl
  root := rfl
  subscribers := rfl
  vertex _ := rfl
  edge _ := rfl
  edgesAt _ _ _ := (List.filter_eq_self.2 fun _ _ => rfl).symm
  removals := rfl
  metrics := rfl

/-- An operation that may take something out takes out some elements, or none. -/
theorem attempt_loses (h : g.store.Consistent) {op : Operation} (hop : ¬op.Keeps) :
    ∃ vertexGone edgeGone, g.Loses vertexGone edgeGone (g.attempt op) := by
  obtain ⟨id, rfl⟩ | ⟨key, rfl⟩ | ⟨id, rfl⟩ := Operation.eq_of_not_keeps hop
  · rw [attempt, perform]
    cases hv : g.store.vertex? id with
    | none =>
      rw [removeVertex, hv]
      exact ⟨_, _, loses_nothing g⟩
    | some v =>
      obtain ⟨g', hremove, hloses⟩ := removeVertex_loses h hv
      rw [hremove]
      exact ⟨_, _, hloses⟩
  · rw [attempt, perform]
    cases he : g.store.edge? key with
    | none =>
      rw [removeEdge, he]
      exact ⟨_, _, loses_nothing g⟩
    | some e =>
      obtain ⟨g', hremove, hloses⟩ := removeEdge_loses h he
      rw [hremove]
      exact ⟨_, _, hloses⟩
  · rw [attempt, perform]
    by_cases hremovable : g.RemovablePlaceholder id
    · obtain ⟨g', v, -, hloses, hdelete⟩ := deletePlaceholder_of_removable h hremovable
      rw [hdelete]
      exact ⟨_, _, hloses⟩
    · rw [deletePlaceholder_of_not_removable h hremovable]
      exact ⟨_, _, loses_nothing g⟩

/-! ## Balance -/

/-- **A graph balances a ledger**: it has counted the updates in it, and what they created is
stored or is counted as removed. -/
structure Balances (g : Graph) (ledger : List LedgerEntry) : Prop where
  consistent : g.store.Consistent
  vertexUpdates : g.metrics.vertexUpdates = ledger.countP (·.update.isVertex)
  edgeUpdates : g.metrics.edgeUpdates = ledger.countP (!·.update.isVertex)
  snapshotLookups : g.metrics.snapshotLookups = ledger.countP (0 < ·.subscribers)
  notifications : g.metrics.notifications = (ledger.map (·.subscribers)).sum
  created : (ledger.map (·.created)).sum = g.store.elementCount + g.metrics.removals

namespace Balances

theorem new (name : String) (root : Option String) : (Graph.new name root).Balances [] where
  consistent := .empty
  vertexUpdates := rfl
  edgeUpdates := rfl
  snapshotLookups := rfl
  notifications := rfl
  created := rfl

/-- What a graph balances depends on its store and its counters only. -/
theorem congr (h : g.Balances ledger) (hstore : g'.store = g.store)
    (hmetrics : g'.metrics = g.metrics) : g'.Balances ledger := by
  obtain ⟨hconsistent, hvertex, hedge, hlookup, hnotice, hcreated⟩ := h
  refine ⟨?_, ?_, ?_, ?_, ?_, ?_⟩
  all_goals simpa only [hstore, hmetrics]

/-- One more update: it is entered with what it creates and with the subscribers it has. -/
theorem apply (h : g.Balances ledger) (u : Update) :
    (g.apply u).1.Balances
      (ledger ++ [⟨u, u.creations g.store, g.subscribers.size⟩]) where
  consistent := apply_consistent h.consistent u
  vertexUpdates := by
    rw [metrics_apply h.consistent, List.countP_append, List.countP_singleton, ← h.vertexUpdates]
  edgeUpdates := by
    rw [metrics_apply h.consistent, List.countP_append, List.countP_singleton, ← h.edgeUpdates]
    cases u.isVertex <;> rfl
  snapshotLookups := by
    rw [metrics_apply h.consistent, List.countP_append, List.countP_singleton, ← h.snapshotLookups]
    simp only [decide_eq_true_eq]
  notifications := by
    rw [metrics_apply h.consistent, List.map_append, List.sum_append, ← h.notifications]
    rfl
  created := by
    rw [metrics_apply h.consistent, elementCount_apply h.consistent, List.map_append,
      List.sum_append, h.created, List.map_singleton, List.sum_singleton]
    dsimp only
    omega

/-- A series of updates. -/
theorem series {updates : List Update} {notices : List Notice} (h : g.Balances ledger)
    (hseries : Announced g updates g' notices) :
    g'.Balances (ledger ++ g.entries updates) := by
  induction hseries generalizing ledger with
  | done g => rwa [entries, List.append_nil]
  | step _ _ ih =>
    rw [entries, List.append_cons]
    exact ih (h.apply _)

/-- What is taken out moves from the store to the removals. -/
theorem loses {vertexGone : String → Bool} {edgeGone : EdgeKey → Bool} (h : g.Balances ledger)
    (hloses : g.Loses vertexGone edgeGone g') (hconsistent : g'.store.Consistent) :
    g'.Balances ledger where
  consistent := hconsistent
  vertexUpdates := by rw [hloses.metrics, h.vertexUpdates]
  edgeUpdates := by rw [hloses.metrics, h.edgeUpdates]
  snapshotLookups := by rw [hloses.metrics, h.snapshotLookups]
  notifications := by rw [hloses.metrics, h.notifications]
  created := by
    have hremovals := hloses.removals
    have hcreated := h.created
    omega

/-- An operation that is attempted. -/
theorem attempt (h : g.Balances ledger) (op : Operation) :
    (g.attempt op).Balances (ledger ++ g.entries (op.updates g)) := by
  by_cases hop : op.Keeps
  · obtain ⟨updated, hannounced, hstore, -, hmetrics⟩ := announced_calls h.consistent hop
    exact (h.series hannounced).congr hstore hmetrics
  · obtain ⟨_, _, hloses⟩ := attempt_loses h.consistent hop
    rw [Operation.updates_of_not_keeps hop, entries, List.append_nil]
    exact h.loses hloses (attempt_consistent h.consistent op)

/-- A run. -/
theorem run (h : g.Balances ledger) (ops : List Operation) :
    (g.run ops).Balances (ledger ++ g.ledger ops) := by
  induction ops generalizing g ledger with
  | nil => rwa [Graph.ledger, List.append_nil]
  | cons op rest ih =>
    rw [Graph.ledger, ← List.append_assoc]
    exact ih (h.attempt op)

end Balances

/-! ## Subscribers -/

theorem subscribers_attempt_any (h : g.store.Consistent) (op : Operation) :
    (g.attempt op).subscribers = op.subscribed g.subscribers := by
  by_cases hop : op.Keeps
  · exact subscribers_attempt h hop
  · obtain ⟨_, _, hloses⟩ := attempt_loses h hop
    rw [hloses.subscribers, Operation.subscribed_of_not_keeps hop]

theorem size_subscribed (s : Subscribers) (op : Operation) :
    (op.subscribed s).size = s.size + if op.subscribes then 1 else 0 := by
  cases op with
  | subscribe name finalizing =>
    cases finalizing <;>
      simp [Operation.subscribed, Operation.subscribes, Subscribers.push, Subscribers.size,
        Subscribers.callOrder] <;> omega
  | _ => rfl

theorem size_subscribers_run (h : g.store.Consistent) (ops : List Operation) :
    (g.run ops).subscribers.size = g.subscribers.size + ops.countP (·.subscribes) := by
  induction ops generalizing g with
  | nil => rfl
  | cons op rest ih =>
    have hrest := ih (attempt_consistent h op)
    rw [subscribers_attempt_any h, size_subscribed] at hrest
    rw [List.countP_cons, Nat.add_comm (rest.countP _), ← Nat.add_assoc]
    exact hrest

/-- Nobody subscribes in the course of a series of updates. -/
theorem subscribers_of_mem_entries (h : g.store.Consistent) {updates : List Update}
    {entry : LedgerEntry} (hentry : entry ∈ g.entries updates) :
    entry.subscribers = g.subscribers.size := by
  induction updates generalizing g with
  | nil => cases hentry
  | cons u rest ih =>
    rcases List.mem_cons.1 hentry with rfl | hrest
    · rfl
    · rw [ih (apply_consistent h u) hrest, subscribers_apply h]

theorem subscribers_of_mem_ledger (h : g.store.Consistent) {ops : List Operation}
    (hops : ∀ op ∈ ops, op.subscribes = false) {entry : LedgerEntry}
    (hentry : entry ∈ g.ledger ops) : entry.subscribers = g.subscribers.size := by
  induction ops generalizing g with
  | nil => cases hentry
  | cons op rest ih =>
    rcases List.mem_append.1 hentry with hfirst | hrest
    · exact subscribers_of_mem_entries h hfirst
    · have hlater := ih (attempt_consistent h op)
        (fun op' hop' => hops op' (List.mem_cons_of_mem _ hop')) hrest
      rw [hlater, subscribers_attempt_any h, size_subscribed, hops op List.mem_cons_self]
      rfl

/-! ## Runs from the beginning -/

/-- **What a graph counts accounts for its run.** From the beginning on, a graph counts every update
of a vertex and every update of an edge, those that marks and unions consist of among them; it looks
at an element before an update just if somebody is subscribed, never if nobody has subscribed; and
it counts a notice for every subscriber that there is at an update. Whatever vertices and edges the
updates created, those created again and the endpoints that edges brought along included, are there
or are counted as removed. -/
theorem run_metrics (name : String) (root : Option String) (ops : List Operation) :
    let g := (Graph.new name root).run ops
    let ledger := (Graph.new name root).ledger ops
    g.metrics.vertexUpdates = ledger.countP (·.update.isVertex) ∧
    g.metrics.edgeUpdates = ledger.countP (!·.update.isVertex) ∧
    g.metrics.snapshotLookups = ledger.countP (0 < ·.subscribers) ∧
    ((∀ op ∈ ops, op.subscribes = false) → g.metrics.snapshotLookups = 0) ∧
    g.metrics.notifications = (ledger.map (·.subscribers)).sum ∧
    g.subscribers.size = ops.countP (·.subscribes) ∧
    (ledger.map (·.created)).sum =
      g.store.vertices.size + g.store.edges.size + g.metrics.removals := by
  intro g ledger
  have hbalances : g.Balances ledger := (Balances.new name root).run ops
  have hsubscribers := size_subscribers_run (g := Graph.new name root) .empty ops
  refine ⟨hbalances.vertexUpdates, hbalances.edgeUpdates, hbalances.snapshotLookups, fun hops => ?_,
    hbalances.notifications, ?_, hbalances.created⟩
  · rw [hbalances.snapshotLookups, List.countP_eq_zero]
    intro entry hentry
    rw [subscribers_of_mem_ledger .empty hops hentry]
    exact Bool.false_ne_true
  · rw [hsubscribers]
    exact Nat.zero_add _

/-- An edge is created with both endpoints, and once more after one of them is removed. -/
example :
    let ab : Edge := ⟨⟨"a", "b", "l"⟩, .empty, by decide⟩
    let ops : List Operation :=
      [.updateEdge ab true, .subscribe "s" false, .markVertex "a" ⟨0, 0⟩, .removeVertex "b",
        .updateEdge ab true, .subscribe "t" true, .removeEdge ⟨"a", "b", "m"⟩]
    ((Graph.new "g" none).ledger ops).map (fun entry => (entry.created, entry.subscribers)) =
        [(3, 0), (0, 1), (2, 1)] ∧
      ((Graph.new "g" none).run ops).metrics = ⟨1, 2, 2, 2, 2, 0, 0⟩ := by
  decide

end Graph

end PropertyGraph
