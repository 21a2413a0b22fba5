import PropertyGraph.Proofs.Built

/-!
# Notices as a change log

Whatever is done to a graph, removals apart, is a series of updates of single elements. Each of
them is made known to everybody who is subscribed by then, and what a subscriber is told is
enough to keep a copy of the store: an update of an element is the insertion of what it becomes,
and the endpoints that an edge brings along come with the edge again.

## Main definitions

- `Update`, `Operation.updates` — updates of single elements, and those of an operation
- `Update.counted` — what a graph counts while subscribers are called
- `Update.Announced`, `Graph.Announced` — updates are made known to all subscribers
- `Notice.toldTo` — the changes that one subscriber is told of
- `Store.Mirrors` — a copy of a store is kept up by storing what changes lead to
- `Operation.Keeps` — the operation removes nothing
-/

namespace PropertyGraph

/-- An update of a single element. -/
inductive Update where
  | vertex (v : Vertex) (overwrite : Bool)
  | edge (e : Edge) (overwrite : Bool)

/-- The updated element is a vertex. -/
def Update.isVertex : Update → Bool
  | .vertex _ _ => true
  | .edge _ _ => false

/-- What a graph counts while subscribers are called for an update: the update, and the look at the
element before it, which is taken if there is anybody to tell. No notice is counted yet. -/
def Update.counted (u : Update) (g : Graph) : Metrics :=
  { g.metrics with
    vertexUpdates := g.metrics.vertexUpdates + if u.isVertex then 1 else 0
    edgeUpdates := g.metrics.edgeUpdates + if u.isVertex then 0 else 1
    snapshotLookups := g.metrics.snapshotLookups + if 0 < g.subscribers.size then 1 else 0 }

/-- The graph after an update, and the calls of subscribers that it made. -/
def Graph.apply (g : Graph) : Update → Graph × List Notice
  | .vertex v overwrite => g.updateVertex v overwrite
  | .edge e overwrite => g.updateEdge e overwrite

/-- The change that an update makes between two stores: the stored element of its identity,
before and after. -/
inductive Update.Makes (s t : Store) : Update → Change → Prop
  | vertex {v : Vertex} {overwrite : Bool} {after : Vertex} : t.vertex? v.id = some after →
      Makes s t (.vertex v overwrite) (.vertex (s.vertex? v.id) after)
  | edge {e : Edge} {overwrite : Bool} {after : Edge} : t.edge? e.key = some after →
      Makes s t (.edge e overwrite) (.edge (s.edge? e.key) after)

/-- **An update is made known**: every subscriber is called once, in the order of calls, with
the change that the update made, and sees the graph as it is then, the update counted and the
notices not. After the calls these are counted too. Apart from that, an update touches nothing but
the store. -/
structure Update.Announced (u : Update) (g g' : Graph) (notices : List Notice) : Prop where
  graph : g' = { g with
    store := g'.store
    metrics := { u.counted g with
      notifications := g.metrics.notifications + g.subscribers.size } }
  subscribers : notices.map (·.subscriber) = g.subscribers.callOrder
  change : ∀ n ∈ notices, u.Makes g.store g'.store n.change
  seen : ∀ n ∈ notices, n.seen = { g' with metrics := u.counted g }

/-- **A series of updates is made known**, one update after the other. -/
inductive Graph.Announced : Graph → List Update → Graph → List Notice → Prop
  | done (g : Graph) : Announced g [] g []
  | step {g g' : Graph} {u : Update} {rest : List Update} {later : List Notice} :
      u.Announced g (g.apply u).1 (g.apply u).2 → Announced (g.apply u).1 rest g' later →
      Announced g (u :: rest) g' ((g.apply u).2 ++ later)

/-- The updates that an operation consists of; a mark is an update of a stored element. -/
def Operation.updates (g : Graph) : Operation → List Update
  | .updateVertex v overwrite => [.vertex v overwrite]
  | .updateEdge e overwrite => [.edge e overwrite]
  | .markVertex id t =>
    if named : id ≠ "" then
      if g.store.hasVertex id then [.vertex ⟨id, deletionMark t, named⟩ true] else []
    else []
  | .markEdge key t =>
    if named : key.Named then
      if g.store.edges.contains key then [.edge (edgeMark key named t) true] else []
    else []
  | .union other =>
    other.store.vertexList.map (.vertex · true) ++ other.store.edgeList.map (.edge · true)
  | _ => []

/-- The operation removes nothing. -/
def Operation.Keeps : Operation → Prop
  | .removeVertex _ => False
  | .removeEdge _ => False
  | .deletePlaceholder _ => False
  | _ => True

/-- The subscribers after an operation. -/
def Operation.subscribed (s : Subscribers) : Operation → Subscribers
  | .subscribe name finalizing => s.push name finalizing
  | _ => s

/-- The names that are subscribed to one of the two groups. -/
def Operation.names (finalizing : Bool) (ops : List Operation) : List String :=
  ops.filterMap fun
    | .subscribe name f => if f = finalizing then some name else none
    | _ => none

namespace Graph

/-- The calls of subscribers that an operation makes; none, if it fails. -/
def calls (g : Graph) (op : Operation) : List Notice :=
  match g.perform op with
  | .ok r => r.2
  | .error _ => []

/-- The calls of subscribers in a run. -/
def callsOf (g : Graph) : List Operation → List Notice
  | [] => []
  | op :: ops => g.calls op ++ (g.attempt op).callsOf ops

end Graph

/-- The changes that a subscriber is told of. -/
def Notice.toldTo (name : String) (notices : List Notice) : List Change :=
  (notices.filter (·.subscriber = name)).map (·.change)

/-! ## Mirrors -/

/-- A change starts from the element that a store has of its identity, if any. -/
def Change.StartsFrom (s : Store) : Change → Prop
  | .vertex before after => before = s.vertex? after.id
  | .edge before after => before = s.edge? after.key

/-- Store what a change leads to. -/
def Store.mirror (s : Store) : Change → Store
  | .vertex _ after => s.insertVertex after
  | .edge _ after => s.insertEdge after

/-- **A mirror is kept up by changes**: each one starts from what the mirror has, and is followed
by storing what it leads to. -/
inductive Store.Mirrors : Store → List Change → Store → Prop
  | refl (s : Store) : Mirrors s [] s
  | step {s t : Store} {c : Change} {rest : List Change} :
      c.StartsFrom s → Mirrors (s.mirror c) rest t → Mirrors s (c :: rest) t

theorem Store.Mirrors.trans {s t u : Store} {first later : List Change} (h : s.Mirrors first t)
    (h' : t.Mirrors later u) : s.Mirrors (first ++ later) u := by
  induction h with
  | refl => exact h'
  | step hstarts _ ih => exact .step hstarts (ih h')

theorem Notice.toldTo_append (name : String) (first later : List Notice) :
    toldTo name (first ++ later) = toldTo name first ++ toldTo name later := by
  rw [toldTo, List.filter_append, List.map_append]
  rfl

/-! ## Single updates -/

namespace Graph

variable {g g' : Graph} {u : Update}

/-- A vertex update stores the merged vertex, and announces it. -/
theorem updateVertex_eq (h : g.store.Consistent) (v : Vertex) (overwrite : Bool) :
    ∃ after, (storeVertex g.store v overwrite).vertex? v.id = some after ∧
      g.updateVertex v overwrite =
        { g with
          store := storeVertex g.store v overwrite
          metrics := (Update.vertex v overwrite).counted g }.announce
          (.vertex (if g.hasSubscribers then g.store.vertex? v.id else none) after) := by
  have hafter := vertex?_storeVertex h v overwrite v.id
  rw [if_pos rfl] at hafter
  refine ⟨_, hafter, ?_⟩
  unfold updateVertex
  rw [countLookup_eq]
  simp only [count, hafter]
  rfl

/-- An edge update stores the merged edge, and announces it. -/
theorem updateEdge_eq (h : g.store.Consistent) (e : Edge) (overwrite : Bool) :
    ∃ after, (storeEdge g.store e overwrite).edge? e.key = some after ∧
      g.updateEdge e overwrite =
        { g with
          store := storeEdge g.store e overwrite
          metrics := (Update.edge e overwrite).counted g }.announce
          (.edge (if g.hasSubscribers then g.store.edge? e.key else none) after) := by
  have hafter := edge?_storeEdge h e overwrite e.key
  rw [if_pos rfl] at hafter
  refine ⟨_, hafter, ?_⟩
  unfold updateEdge
  rw [countLookup_eq]
  simp only [count, hafter]
  rfl

/-- An announcement calls everybody, and counts the calls. -/
theorem announced_announce {s : Store} {c : Change}
    (hmakes : g.hasSubscribers = true → u.Makes g.store s c) :
    u.Announced g ({ g with store := s, metrics := u.counted g }.announce c).1
      ({ g with store := s, metrics := u.counted g }.announce c).2 where
  graph := by
    simp only [announce, count, Subscribers.notify, List.length_map]
    rfl
  subscribers := by
    rw [announce, Subscribers.notify, List.map_map]
    exact List.map_id' _
  change n hn := by
    obtain ⟨name, hname, rfl⟩ := List.mem_map.1 hn
    apply hmakes
    exact hasSubscribers_iff.2 (List.length_pos_of_mem hname)
  seen n hn := by
    obtain ⟨name, -, rfl⟩ := List.mem_map.1 hn
    rfl

/-- **A single update is made known.** -/
theorem announced_apply (h : g.store.Consistent) (u : Update) :
    u.Announced g (g.apply u).1 (g.apply u).2 := by
  cases u with
  | vertex v overwrite =>
    obtain ⟨after, hafter, heq⟩ := updateVertex_eq h v overwrite
    rw [apply, heq]
    refine announced_announce fun hsubscribers => ?_
    rw [if_pos hsubscribers]
    exact .vertex hafter
  | edge e overwrite =>
    obtain ⟨after, hafter, heq⟩ := updateEdge_eq h e overwrite
    rw [apply, heq]
    refine announced_announce fun hsubscribers => ?_
    rw [if_pos hsubscribers]
    exact .edge hafter

theorem apply_consistent (h : g.store.Consistent) (u : Update) :
    (g.apply u).1.store.Consistent := by
  cases u with
  | vertex v overwrite => exact updateVertex_consistent h v overwrite
  | edge e overwrite => exact updateEdge_consistent h e overwrite

theorem subscribers_apply (h : g.store.Consistent) (u : Update) :
    (g.apply u).1.subscribers = g.subscribers := by
  rw [(announced_apply h u).graph]

/-- **What an update tells is enough for a mirror**: the change starts from what the store has,
and storing what it leads to gives the store after the update. -/
theorem mirrors_apply (h : g.store.Consistent) {c : Change}
    (hc : u.Makes g.store (g.apply u).1.store c) : g.store.Mirrors [c] (g.apply u).1.store := by
  cases hc with
  | @vertex v overwrite after hafter =>
    change (g.updateVertex v overwrite).1.store.vertex? v.id = some after at hafter
    change g.store.Mirrors [_] (g.updateVertex v overwrite).1.store
    rw [store_updateVertex] at hafter ⊢
    rw [vertex?_storeVertex h, if_pos rfl, Option.some.injEq] at hafter
    have hid : after.id = v.id := hafter ▸ (mergedVertex_storedUnder h v overwrite).id_eq
    rw [storeVertex_eq_insertVertex h, hafter]
    refine .step ?_ (.refl _)
    rw [Change.StartsFrom, hid]
  | @edge e overwrite after hafter =>
    change (g.updateEdge e overwrite).1.store.edge? e.key = some after at hafter
    change g.store.Mirrors [_] (g.updateEdge e overwrite).1.store
    rw [store_updateEdge] at hafter ⊢
    rw [edge?_storeEdge h, if_pos rfl, Option.some.injEq] at hafter
    have hkey : after.key = e.key := hafter ▸ (mergedEdge_storedUnder h e overwrite).key_eq
    rw [storeEdge_eq_insertEdge h, hafter]
    refine .step ?_ (.refl _)
    rw [Change.StartsFrom, hkey]

/-! ## Series of updates -/

/-- Who is subscribed once is told once. -/
theorem toldTo_of_announced {notices : List Notice} {name : String}
    (h : u.Announced g g' notices) (hname : g.subscribers.callOrder.count name = 1) :
    ∃ n ∈ notices, Notice.toldTo name notices = [n.change] := by
  have hlength : (notices.filter (·.subscriber = name)).length = 1 := by
    rw [← List.countP_eq_length_filter, ← hname, ← h.subscribers, List.count, List.countP_map]
    rfl
  obtain ⟨n, hn⟩ := List.length_eq_one_iff.1 hlength
  have hmem : n ∈ notices.filter (·.subscriber = name) := hn ▸ List.mem_singleton_self n
  refine ⟨n, (List.mem_filter.1 hmem).1, ?_⟩
  rw [Notice.toldTo, hn, List.map_singleton]

namespace Announced

variable {g'' : Graph} {updates later : List Update} {notices notices' : List Notice}

theorem single (h : g.store.Consistent) (u : Update) :
    Announced g [u] (g.apply u).1 (g.apply u).2 := by
  have hseries := Announced.step (announced_apply h u) (.done _)
  rwa [List.append_nil] at hseries

theorem trans (h : Announced g updates g' notices) (h' : Announced g' later g'' notices') :
    Announced g (updates ++ later) g'' (notices ++ notices') := by
  induction h with
  | done => exact h'
  | step hfirst _ ih =>
    rw [List.append_assoc]
    exact .step hfirst (ih h')

theorem consistent (h : Announced g updates g' notices) (hg : g.store.Consistent) :
    g'.store.Consistent := by
  induction h with
  | done => exact hg
  | step _ _ ih => exact ih (apply_consistent hg _)

theorem subscribers (h : Announced g updates g' notices) (hg : g.store.Consistent) :
    g'.subscribers = g.subscribers := by
  induction h with
  | done => rfl
  | step _ _ ih => rw [ih (apply_consistent hg _), subscribers_apply hg]

/-- **A series of updates tells enough for a mirror.** -/
theorem mirrors (h : Announced g updates g' notices) (hg : g.store.Consistent) {name : String}
    (hname : g.subscribers.callOrder.count name = 1) :
    g.store.Mirrors (Notice.toldTo name notices) g'.store := by
  induction h with
  | done => exact .refl _
  | step hfirst _ ih =>
    obtain ⟨n, hn, htold⟩ := toldTo_of_announced hfirst hname
    have hrest := ih (apply_consistent hg _) (by rwa [subscribers_apply hg])
    rw [Notice.toldTo_append, htold]
    exact (mirrors_apply hg (hfirst.change n hn)).trans hrest

end Announced

/-! ## Operations -/

theorem announced_updateVertices (h : g.store.Consistent) (vertices : List Vertex) :
    Announced g (vertices.map (.vertex · true)) (g.updateVertices vertices).1
      (g.updateVertices vertices).2 := by
  induction vertices generalizing g with
  | nil => exact .done g
  | cons v rest ih =>
    exact .step (announced_apply h (.vertex v true)) (ih (updateVertex_consistent h v true))

theorem announced_updateEdges (h : g.store.Consistent) (edges : List Edge) :
    Announced g (edges.map (.edge · true)) (g.updateEdges edges).1 (g.updateEdges edges).2 := by
  induction edges generalizing g with
  | nil => exact .done g
  | cons e rest ih =>
    exact .step (announced_apply h (.edge e true)) (ih (updateEdge_consistent h e true))

theorem perform_markVertex {id : String} {t : Instant} (named : id ≠ "")
    (hid : g.store.hasVertex id = true) :
    g.perform (.markVertex id t) = .ok (g.updateVertex ⟨id, deletionMark t, named⟩ true) := by
  rw [perform, markVertexDeleted, if_pos hid, Vertex.new?, dif_pos named]
  rfl

theorem perform_markEdge {key : EdgeKey} {t : Instant} (named : key.Named)
    (hkey : g.store.edges.contains key = true) :
    g.perform (.markEdge key t) = .ok (g.updateEdge (edgeMark key named t) true) := by
  rw [perform, markEdgeDeleted, if_pos hkey, Edge.new?, dif_pos named.1, dif_pos named.2.1,
    dif_pos named.2.2]
  rfl

theorem calls_of_ok {op : Operation} {r : Graph × List Notice} (h : g.perform op = .ok r) :
    g.calls op = r.2 := by
  rw [calls, h]

theorem calls_of_error {op : Operation} {err : GraphError} (h : g.perform op = .error err) :
    g.calls op = [] := by
  rw [calls, h]

/-- An operation that fails consists of no updates. -/
theorem updates_of_error {op : Operation} {err : GraphError} (h : g.perform op = .error err) :
    op.updates g = [] := by
  cases op with
  | markVertex id t =>
    rw [Operation.updates]
    split
    · rename_i named
      split
      · rename_i hid
        rw [perform_markVertex named hid] at h
        cases h
      · rfl
    · rfl
  | markEdge key t =>
    rw [Operation.updates]
    split
    · rename_i named
      split
      · rename_i hkey
        rw [perform_markEdge named hkey] at h
        cases h
      · rfl
    · rfl
  | updateVertex | updateEdge | union => cases h
  | removeVertex | removeEdge | deletePlaceholder | setRoot | subscribe => rfl

/-- What an operation does to a graph, apart from its root and its subscribers, is made known as
a series of updates. -/
theorem announced_calls (h : g.store.Consistent) {op : Operation} (hkeeps : op.Keeps) :
    ∃ updated, Announced g (op.updates g) updated (g.calls op) ∧
      (g.attempt op).store = updated.store ∧
      (g.attempt op).subscribers = op.subscribed updated.subscribers ∧
      (g.attempt op).metrics = updated.metrics := by
  cases op with
  | updateVertex v overwrite => exact ⟨_, .single h (.vertex v overwrite), rfl, rfl, rfl⟩
  | updateEdge e overwrite => exact ⟨_, .single h (.edge e overwrite), rfl, rfl, rfl⟩
  | markVertex id t =>
    cases hop : g.perform (.markVertex id t) with
    | ok r =>
      obtain ⟨hid, named, rfl⟩ := markVertexDeleted_eq_ok hop
      rw [Operation.updates, dif_pos named, if_pos hid, calls_of_ok hop, attempt_of_ok hop]
      exact ⟨_, .single h (.vertex _ true), rfl, rfl, rfl⟩
    | error err =>
      rw [updates_of_error hop, calls_of_error hop, attempt_of_error hop]
      exact ⟨g, .done g, rfl, rfl, rfl⟩
  | markEdge key t =>
    cases hop : g.perform (.markEdge key t) with
    | ok r =>
      obtain ⟨hkey, named, rfl⟩ := markEdgeDeleted_eq_ok hop
      rw [Operation.updates, dif_pos named, if_pos hkey, calls_of_ok hop, attempt_of_ok hop]
      exact ⟨_, .single h (.edge _ true), rfl, rfl, rfl⟩
    | error err =>
      rw [updates_of_error hop, calls_of_error hop, attempt_of_error hop]
      exact ⟨g, .done g, rfl, rfl, rfl⟩
  | removeVertex | removeEdge | deletePlaceholder => cases hkeeps
  | union other =>
    have hvertices := announced_updateVertices h other.store.vertexList
    have hedges := announced_updateEdges (hvertices.consistent h) other.store.edgeList
    exact ⟨_, hvertices.trans hedges, rfl, rfl, rfl⟩
  | setRoot id => exact ⟨_, .done g, rfl, rfl, rfl⟩
  | subscribe name finalizing => exact ⟨_, .done g, rfl, rfl, rfl⟩

/-! ## Subscriptions -/

theorem count_push (s : Subscribers) (name other : String) (finalizing : Bool) :
    (s.push other finalizing).callOrder.count name =
      s.callOrder.count name + [other].count name := by
  cases finalizing with
  | true => simp [Subscribers.push, Subscribers.callOrder, Nat.add_assoc]
  | false => simp [Subscribers.push, Subscribers.callOrder, List.count_cons, Nat.add_assoc]

theorem count_subscribed {s : Subscribers} {name : String} {op : Operation}
    (hop : ∀ finalizing, op ≠ .subscribe name finalizing) :
    (op.subscribed s).callOrder.count name = s.callOrder.count name := by
  cases op with
  | subscribe other finalizing =>
    have hother : name ∉ [other] := by
      rintro hmem
      obtain rfl := List.mem_singleton.1 hmem
      exact hop finalizing rfl
    rw [Operation.subscribed, count_push, List.count_eq_zero_of_not_mem hother, Nat.add_zero]
  | _ => rfl

/-- A subscription adds a name to one group and leaves the other one as it is. -/
theorem subscribed_eq (s : Subscribers) (op : Operation) :
    op.subscribed s =
      ⟨s.regular ++ Operation.names false [op], s.finalizing ++ Operation.names true [op]⟩ := by
  cases op with
  | subscribe name finalizing =>
    cases finalizing with
    | true => simp [Operation.subscribed, Subscribers.push, Operation.names]
    | false => simp [Operation.subscribed, Subscribers.push, Operation.names]
  | _ => simp [Operation.subscribed, Operation.names]

/-! ## Runs -/

theorem subscribers_attempt (h : g.store.Consistent) {op : Operation} (hkeeps : op.Keeps) :
    (g.attempt op).subscribers = op.subscribed g.subscribers := by
  obtain ⟨updated, hannounced, -, hsubscribers, -⟩ := announced_calls h hkeeps
  rw [hsubscribers, hannounced.subscribers h]

theorem attempt_consistent (h : g.store.Consistent) (op : Operation) :
    (g.attempt op).store.Consistent := by
  cases hop : g.perform op with
  | ok r =>
    rw [attempt_of_ok hop]
    exact perform_consistent h hop
  | error err =>
    rw [attempt_of_error hop]
    exact h

/-- The subscribers after a run: each group has grown by those that the run subscribed to it. -/
theorem subscribers_run (h : g.store.Consistent) {ops : List Operation}
    (hkeeps : ∀ op ∈ ops, op.Keeps) :
    (g.run ops).subscribers =
      ⟨g.subscribers.regular ++ Operation.names false ops,
        g.subscribers.finalizing ++ Operation.names true ops⟩ := by
  induction ops generalizing g with
  | nil => simp [run, Operation.names]
  | cons op rest ih =>
    have hnames : ∀ finalizing, Operation.names finalizing (op :: rest) =
        Operation.names finalizing [op] ++ Operation.names finalizing rest := by
      intro finalizing
      rw [Operation.names, ← List.singleton_append, List.filterMap_append]
      rfl
    have hrest := ih (attempt_consistent h op) fun op' hop' => hkeeps op' (List.mem_cons_of_mem _ hop')
    rw [subscribers_attempt h (hkeeps op List.mem_cons_self), subscribed_eq] at hrest
    rw [hnames, hnames, ← List.append_assoc, ← List.append_assoc]
    exact hrest

/-- **A subscriber can mirror the store** through a run, if it stays the only one of its name. -/
theorem mirrors_callsOf (h : g.store.Consistent) {ops : List Operation}
    (hkeeps : ∀ op ∈ ops, op.Keeps) {name : String}
    (hname : g.subscribers.callOrder.count name = 1)
    (honly : ∀ finalizing, .subscribe name finalizing ∉ ops) :
    g.store.Mirrors (Notice.toldTo name (g.callsOf ops)) (g.run ops).store := by
  induction ops generalizing g with
  | nil => exact .refl _
  | cons op rest ih =>
    have hop := hkeeps op List.mem_cons_self
    obtain ⟨updated, hannounced, hstore, -⟩ := announced_calls h hop
    have hfirst := hannounced.mirrors h hname
    rw [← hstore] at hfirst
    -- the subscriber is still the only one of its name
    have hcount : (g.attempt op).subscribers.callOrder.count name = 1 := by
      rw [subscribers_attempt h hop, count_subscribed, hname]
      rintro finalizing rfl
      exact honly finalizing List.mem_cons_self
    have hrest := ih (attempt_consistent h op)
      (fun op' hop' => hkeeps op' (List.mem_cons_of_mem _ hop')) hcount
      (fun finalizing hmem => honly finalizing (List.mem_cons_of_mem _ hmem))
    rw [callsOf, Notice.toldTo_append]
    exact hfirst.trans hrest

theorem run_append (g : Graph) (past rest : List Operation) :
    g.run (past ++ rest) = (g.run past).run rest :=
  List.foldl_append

/-- **The notices are a faithful change log.** In a run without removals, the updates of every
operation are made known one by one to all who are subscribed by then, regular subscribers first
and finalizing ones after, each group in the order of subscription. And whoever subscribes, under
a name of its own, to a graph in the course of the run can mirror its store from then on: every
change that it is told of starts from the element that its mirror has, and after any operations
that follow the mirror is the store. -/
theorem Built.notices_faithful (hg : g.Built) {ops : List Operation}
    (hkeeps : ∀ op ∈ ops, op.Keeps) :
    (∀ past op rest, ops = past ++ op :: rest →
      (g.run past).subscribers.callOrder =
        (g.subscribers.regular ++ Operation.names false past) ++
          (g.subscribers.finalizing ++ Operation.names true past) ∧
      ∃ updated, Announced (g.run past) (op.updates (g.run past)) updated ((g.run past).calls op) ∧
        (g.run (past ++ [op])).store = updated.store) ∧
    (∀ past name finalizing followed rest,
      ops = past ++ .subscribe name finalizing :: (followed ++ rest) →
      name ∉ (g.run past).subscribers.callOrder →
      (∀ finalizing', .subscribe name finalizing' ∉ followed) →
      let subscribed := g.run (past ++ [.subscribe name finalizing])
      (g.run past).store.Mirrors (Notice.toldTo name (subscribed.callsOf followed))
        (subscribed.run followed).store) := by
  constructor
  · rintro past op rest rfl
    have hpast : (g.run past).store.Consistent := (hg.run past).consistent
    have hop : op.Keeps := hkeeps op (by simp)
    refine ⟨?_, ?_⟩
    · rw [subscribers_run hg.consistent fun op' hop' => hkeeps op' (by simp [hop'])]
      rfl
    · obtain ⟨updated, hannounced, hstore, -⟩ := announced_calls hpast hop
      refine ⟨updated, hannounced, ?_⟩
      rw [run_append]
      exact hstore
  · rintro past name finalizing followed rest rfl hnew honly
    have hpast : (g.run past).store.Consistent := (hg.run past).consistent
    have hcount : ((g.run past).subscribe name finalizing).subscribers.callOrder.count name = 1 := by
      rw [subscribe, count_push, List.count_eq_zero_of_not_mem hnew, List.count_singleton_self]
    have hmirrors := mirrors_callsOf (g := (g.run past).subscribe name finalizing) hpast
      (fun op hop => hkeeps op (by simp [hop])) hcount honly
    rw [run_append]
    exact hmirrors

/-- A mirror that is begun before an edge brings its target along has the target in the end. -/
theorem Built.notices_faithful_endpoint :
    let past : List Operation := [.updateVertex ⟨"a", .empty, by decide⟩ false]
    let followed : List Operation :=
      [.updateEdge ⟨⟨"a", "b", "l"⟩, .empty, by decide⟩ true, .subscribe "late" false,
        .markVertex "b" ⟨0, 0⟩]
    let g := Graph.new "g" none
    let subscribed := g.run (past ++ [.subscribe "mirror" true])
    (∀ op ∈ past ++ .subscribe "mirror" true :: (followed ++ []), op.Keeps) ∧
      (Notice.toldTo "mirror" (subscribed.callsOf followed)).length = 2 ∧
      (subscribed.run followed).store.hasVertex "b" = true ∧
      (g.run past).store.Mirrors (Notice.toldTo "mirror" (subscribed.callsOf followed))
        (subscribed.run followed).store := by
  intro past followed g subscribed
  have hkeeps : ∀ op ∈ past ++ .subscribe "mirror" true :: (followed ++ []), op.Keeps := by
    simp [past, followed, Operation.Keeps]
  refine ⟨hkeeps, by decide, by decide, ?_⟩
  exact (Built.notices_faithful (.new "g" none) hkeeps).2 past "mirror" true followed [] rfl
    (by decide) (by simp [followed])

end Graph

end PropertyGraph
