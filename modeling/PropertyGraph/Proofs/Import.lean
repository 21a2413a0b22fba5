import Mathlib.Data.List.DropRight
import PropertyGraph.Proofs.History

/-!
# What a document says

The import of a document is a series of updates, one for each node and each link, that starts with
an empty graph. It goes through if and only if no node or link has a fault, and otherwise it fails
with the first one. A graph that is imported has the vertices that the nodes name and the edges
that the links name, and what is said of one of them in several places is merged in order.

## Main definitions

- `NodeLink.idAt?`, `NodeLink.Link.key?` — what the indices of a document stand for
- `NodeLink.Node.fault?`, `NodeLink.Link.fault?` — what is wrong with a node or a link
- `NodeLink.Document.Importable` — documents without faults
- `NodeLink.Document.HasFault` — the first fault in a document
- `NodeLink.Document.Describes` — a graph has what a document says, and nothing else
-/

namespace PropertyGraph

/-! ## Merged changes -/

namespace Readings

/-- Changes applied in order to no properties, each overwriting. -/
def merged (changes : List Properties) : Readings :=
  changes.foldl (fun bag change => bag.changed change true) .none

@[simp] theorem relabelled_relabelled (bag : Readings) (label : String) :
    (bag.relabelled label).relabelled label = bag.relabelled label := by
  funext k
  unfold relabelled
  split <;> rfl

end Readings

/-- A stored edge has its label. -/
theorem Edge.StoredUnder.relabelled_eq {e : Edge} {k : EdgeKey} (h : e.StoredUnder k) :
    Readings.relabelled e.properties.entries.get? k.label = e.properties.entries.get? := by
  funext key
  unfold Readings.relabelled
  split
  · rename_i hkey
    rw [hkey, ← h.markerFree.get?_eq, h.label]
  · rfl

namespace NodeLink

variable {nodes before : List Node} {links : List Link} {n : Node} {l : Link} {i : UInt64}
  {id : String} {k : EdgeKey}

/-! ## Nodes and links -/

/-- The identity that an index stands for. -/
def idAt? (nodes : List Node) (index : UInt64) : Option String :=
  (nodes.find? (·.index == index)).map (·.id)

/-- The edge that a link names. -/
def Link.key? (nodes : List Node) (l : Link) : Option EdgeKey := do
  return ⟨← idAt? nodes l.source, ← idAt? nodes l.target, l.label⟩

/-- The properties in a node. -/
def Node.change (n : Node) : Properties := .ofJson n.properties.members

/-- The properties in a link. -/
def Link.change (l : Link) : Properties := .ofJson l.properties.members

theorem idAt?_eq_none_iff : idAt? nodes i = none ↔ i ∉ nodes.map (·.index) := by
  simp [idAt?]

theorem idAt?_append_singleton (hnew : n.index ∉ before.map (·.index)) (i : UInt64) :
    idAt? (before ++ [n]) i = if i = n.index then some n.id else idAt? before i := by
  rw [idAt?, List.find?_append, Option.map_or, ← idAt?]
  split
  · rename_i hi
    rw [hi, idAt?_eq_none_iff.2 hnew]
    simp
  · rename_i hi
    have hother : List.find? (·.index == i) [n] = none := by simp [Ne.symm hi]
    rw [hother, Option.map_none, Option.or_none]

theorem exists_of_idAt? (h : idAt? nodes i = some id) : ∃ n ∈ nodes, n.id = id := by
  obtain ⟨n, hn, rfl⟩ := Option.map_eq_some_iff.1 h
  exact ⟨n, List.mem_of_find?_eq_some hn, rfl⟩

theorem Link.key?_eq_some_iff :
    l.key? nodes = some k ↔ idAt? nodes l.source = some k.source ∧
      idAt? nodes l.target = some k.target ∧ l.label = k.label := by
  obtain ⟨source, target, label⟩ := k
  simp [Link.key?, Option.bind_eq_some_iff]

/-! ## Faults -/

/-- What is wrong with a node that comes after others. -/
def Node.fault? (before : List Node) (n : Node) : Option GraphError :=
  if n.index ∈ before.map (·.index) then some (.serialization (.duplicateIndex n.index))
  else if n.id = "" then some (.invalidArgument .emptyVertexId)
  else none

/-- What is wrong with a link between some of the nodes. -/
def Link.fault? (nodes : List Node) (l : Link) : Option GraphError :=
  if l.source ∉ nodes.map (·.index) then some (.serialization (.unknownNode l.source))
  else if l.target ∉ nodes.map (·.index) then some (.serialization (.unknownNode l.target))
  else if l.label = "" then some (.invalidArgument .emptyLabel)
  else none

theorem Node.fault?_eq_none_iff :
    n.fault? before = none ↔ n.index ∉ before.map (·.index) ∧ n.id ≠ "" := by
  grind [Node.fault?]

theorem Link.fault?_eq_none_iff :
    l.fault? nodes = none ↔ l.source ∈ nodes.map (·.index) ∧ l.target ∈ nodes.map (·.index) ∧
      l.label ≠ "" := by
  grind [Link.fault?]

theorem faultless_nodes_iff :
    Faultless Node.fault? nodes ↔
      (nodes.map (·.index)).Nodup ∧ ∀ n ∈ nodes, n.id ≠ "" := by
  induction nodes using List.reverseRecOn with
  | nil => simp [faultless_nil]
  | append_singleton before n ih =>
    rw [faultless_append_singleton, ih, Node.fault?_eq_none_iff, List.map_append,
      List.map_singleton, (List.perm_append_singleton _ _).nodup_iff, List.nodup_cons,
      List.forall_mem_append, List.forall_mem_singleton]
    tauto

theorem faultless_links_iff :
    Faultless (fun _ => Link.fault? nodes) links ↔ ∀ l ∈ links,
      (l.source ∈ nodes.map (·.index) ∧ l.target ∈ nodes.map (·.index)) ∧ l.label ≠ "" := by
  simp only [and_assoc, ← Link.fault?_eq_none_iff]
  constructor
  · intro h l hl
    obtain ⟨before, after, hsplit⟩ := List.append_of_mem hl
    exact h before l after hsplit
  · intro h before l after hsplit
    exact h l (by simp [hsplit])

/-! ## One step of the import -/

/-- What happens to the graph when a node is added. -/
def Node.event (n : Node) : Event := .vertexUpdated n.id n.change true

/-- What happens to the graph when a link is added. -/
def Link.event? (nodes : List Node) (l : Link) : Option Event :=
  (l.key? nodes).map fun k => .edgeUpdated k l.change true

/-- The state of the import after some of the nodes. -/
structure NodesAdded (start : Graph) (before : List Node) (state : Graph × Indices) : Prop where
  name_eq : state.1.name = start.name
  root_eq : state.1.root = start.root
  follows : state.1.store.Follows (before.map Node.event)
  get?_eq : ∀ i, state.2.get? i = idAt? before i

/-- The state of the import after all nodes and some of the links. -/
structure LinksAdded (start : Graph) (nodes : List Node) (before : List Link) (g : Graph) :
    Prop where
  name_eq : g.name = start.name
  root_eq : g.root = start.root
  follows : g.store.Follows (nodes.map Node.event ++ before.filterMap (Link.event? nodes))

variable {start g : Graph} {indices : Indices}

theorem NodesAdded.contains_iff (h : NodesAdded start before (g, indices)) (i : UInt64) :
    indices.contains i = true ↔ i ∈ before.map (·.index) := by
  rw [SortedMap.contains, h.get?_eq, Option.isSome_iff_ne_none, ne_eq, idAt?_eq_none_iff, not_not]

theorem NodesAdded.addNode_ok (h : NodesAdded start before (g, indices))
    (hn : n.fault? before = none) :
    ∃ state, addNode (g, indices) n = .ok state ∧ NodesAdded start (before ++ [n]) state := by
  obtain ⟨hnew, named⟩ := Node.fault?_eq_none_iff.1 hn
  refine ⟨((g.updateVertex ⟨n.id, n.change, named⟩ true).1, indices.insert n.index n.id), ?_, ?_⟩
  · rw [addNode, if_neg (mt (h.contains_iff n.index).1 hnew), Vertex.new?, dif_pos named]
    rfl
  · obtain ⟨metrics, hg⟩ := Graph.updateVertex_fst g ⟨n.id, n.change, named⟩ true
    rw [hg]
    refine ⟨h.name_eq, h.root_eq, ?_, fun i => ?_⟩
    · rw [List.map_append]
      exact h.follows.updateVertex ⟨n.id, n.change, named⟩ true
    · rw [idAt?_append_singleton hnew, ← h.get?_eq]
      exact SortedMap.get?_insert ..

theorem NodesAdded.addNode_error (h : NodesAdded start before (g, indices)) {err : GraphError}
    (hn : n.fault? before = some err) : addNode (g, indices) n = .error err := by
  rw [Node.fault?] at hn
  split at hn
  · rename_i hold
    cases hn
    rw [addNode, if_pos ((h.contains_iff n.index).2 hold)]
  · rename_i hnew
    split at hn
    · rename_i hempty
      cases hn
      rw [addNode, if_neg (mt (h.contains_iff n.index).1 hnew), Vertex.new?,
        dif_neg (not_not_intro hempty)]
      rfl
    · cases hn

theorem resolve_of_mem (hindices : ∀ i, indices.get? i = idAt? nodes i)
    (hnamed : ∀ n ∈ nodes, n.id ≠ "") (hi : i ∈ nodes.map (·.index)) :
    ∃ id, idAt? nodes i = some id ∧ id ≠ "" ∧ resolve indices i = .ok id := by
  obtain ⟨id, hid⟩ := Option.ne_none_iff_exists'.1 (mt idAt?_eq_none_iff.1 (not_not_intro hi))
  obtain ⟨n, hn, rfl⟩ := exists_of_idAt? hid
  exact ⟨n.id, hid, hnamed n hn, by rw [resolve, hindices, hid]⟩

theorem resolve_of_notMem (hindices : ∀ i, indices.get? i = idAt? nodes i)
    (hi : i ∉ nodes.map (·.index)) :
    resolve indices i = .error (.serialization (.unknownNode i)) := by
  rw [resolve, hindices, idAt?_eq_none_iff.2 hi]

theorem LinksAdded.addLink_ok (h : LinksAdded start nodes links g)
    (hindices : ∀ i, indices.get? i = idAt? nodes i) (hnamed : ∀ n ∈ nodes, n.id ≠ "")
    (hl : l.fault? nodes = none) :
    ∃ g', addLink indices g l = .ok g' ∧ LinksAdded start nodes (links ++ [l]) g' := by
  obtain ⟨hsource, htarget, hlabel⟩ := Link.fault?_eq_none_iff.1 hl
  obtain ⟨source, hs, hsourceNamed, hresolve⟩ := resolve_of_mem hindices hnamed hsource
  obtain ⟨target, ht, htargetNamed, hresolve'⟩ := resolve_of_mem hindices hnamed htarget
  let e : Edge := ⟨⟨source, target, l.label⟩, l.change, hsourceNamed, htargetNamed, hlabel⟩
  have hkey : l.key? nodes = some e.key := Link.key?_eq_some_iff.2 ⟨hs, ht, rfl⟩
  have hevent : l.event? nodes = some (.edgeUpdated e.key l.change true) := by
    rw [Link.event?, hkey]
    rfl
  refine ⟨(g.updateEdge e.syncLabel true).1, ?_, ?_⟩
  · rw [addLink, hresolve, hresolve']
    simp only [bind_ok, Edge.new?, dif_pos hsourceNamed, dif_pos htargetNamed, dif_pos hlabel]
    rfl
  · obtain ⟨metrics, hg⟩ := Graph.updateEdge_fst g e.syncLabel true
    rw [hg]
    refine ⟨h.name_eq, h.root_eq, ?_⟩
    rw [List.filterMap_append, List.filterMap_cons_some hevent, ← List.append_assoc]
    exact h.follows.updateEdge e.syncLabel true fun bag => relabelled_syncLabel bag e true

theorem addLink_error (hindices : ∀ i, indices.get? i = idAt? nodes i)
    (hnamed : ∀ n ∈ nodes, n.id ≠ "") {err : GraphError} (hl : l.fault? nodes = some err) :
    addLink indices g l = .error err := by
  rw [Link.fault?] at hl
  by_cases hsource : l.source ∈ nodes.map (·.index)
  · by_cases htarget : l.target ∈ nodes.map (·.index)
    · rw [if_neg (not_not_intro hsource), if_neg (not_not_intro htarget)] at hl
      split at hl
      · rename_i hempty
        cases hl
        obtain ⟨source, -, hsourceNamed, hresolve⟩ := resolve_of_mem hindices hnamed hsource
        obtain ⟨target, -, htargetNamed, hresolve'⟩ := resolve_of_mem hindices hnamed htarget
        rw [addLink, hresolve, hresolve']
        simp only [bind_ok, Edge.new?, dif_pos hsourceNamed, dif_pos htargetNamed,
          dif_neg (not_not_intro hempty)]
        rfl
      · cases hl
    · rw [if_neg (not_not_intro hsource), if_pos htarget] at hl
      cases hl
      obtain ⟨source, -, -, hresolve⟩ := resolve_of_mem hindices hnamed hsource
      rw [addLink, hresolve, resolve_of_notMem hindices htarget]
      rfl
  · rw [if_pos hsource] at hl
    cases hl
    rw [addLink, resolve_of_notMem hindices hsource]
    rfl

/-! ## What the events of an import leave -/

theorem foldl_changeVertex_nodes (nodes : List Node) (id : String) (bag : Readings) :
    (nodes.map Node.event).foldl (Event.changeVertex id) bag =
      ((nodes.filter (·.id == id)).map Node.change).foldl
        (fun bag change => bag.changed change true) bag := by
  induction nodes generalizing bag with
  | nil => rfl
  | cons n rest ih =>
    rw [List.map_cons, List.foldl_cons, ih, Node.event, Event.changeVertex]
    by_cases hid : n.id = id
    · rw [if_pos hid, List.filter_cons_of_pos (by simpa using hid), List.map_cons, List.foldl_cons]
    · rw [if_neg hid, List.filter_cons_of_neg (by simpa using hid)]

/-- Links do not change vertices. -/
theorem foldl_changeVertex_links (links : List Link) (id : String) (bag : Readings) :
    (links.filterMap (Link.event? nodes)).foldl (Event.changeVertex id) bag = bag := by
  induction links with
  | nil => rfl
  | cons l rest ih =>
    cases hl : l.key? nodes with
    | none => rw [List.filterMap_cons_none (by rw [Link.event?, hl]; rfl), ih]
    | some k =>
      rw [List.filterMap_cons_some (by rw [Link.event?, hl]; rfl), List.foldl_cons]
      exact ih

/-- Nodes do not change edges. -/
theorem foldl_changeEdge_nodes (nodes : List Node) (k : EdgeKey) (bag : Readings) :
    (nodes.map Node.event).foldl (Event.changeEdge k) bag = bag := by
  induction nodes with
  | nil => rfl
  | cons n rest ih => exact ih

/-- The label may be put back once, after all changes. -/
theorem relabelled_foldl_changeEdge_links (links : List Link) {bag bag' : Readings}
    (h : bag.relabelled k.label = bag'.relabelled k.label) :
    ((links.filterMap (Link.event? nodes)).foldl (Event.changeEdge k) bag).relabelled k.label =
      (((links.filter fun l => l.key? nodes == some k).map Link.change).foldl
        (fun bag change => bag.changed change true) bag').relabelled k.label := by
  induction links generalizing bag bag' with
  | nil => exact h
  | cons l rest ih =>
    cases hl : l.key? nodes with
    | none =>
      rw [List.filterMap_cons_none (by rw [Link.event?, hl]; rfl),
        List.filter_cons_of_neg (by simp [hl])]
      exact ih h
    | some j =>
      rw [List.filterMap_cons_some (by rw [Link.event?, hl]; rfl), List.foldl_cons,
        Event.changeEdge]
      by_cases hj : j = k
      · rw [if_pos hj, List.filter_cons_of_pos (by simp [hl, hj]), List.map_cons, List.foldl_cons]
        refine ih ?_
        rw [Readings.relabelled_relabelled]
        exact Readings.relabelled_changed_congr h (fun _ _ => rfl) true
      · rw [if_neg hj, List.filter_cons_of_neg (by simp [hl, hj])]
        exact ih h

/-- Everything that the import of a document makes happen. -/
def Document.events (d : Document) : List Event :=
  d.nodes.map Node.event ++ d.links.filterMap (Link.event? d.nodes)

variable {d : Document}

theorem Document.mem_events_iff {e : Event} :
    e ∈ d.events ↔ (∃ n ∈ d.nodes, n.event = e) ∨
      ∃ l ∈ d.links, ∃ k, l.key? d.nodes = some k ∧ .edgeUpdated k l.change true = e := by
  simp [Document.events, Link.event?]

/-- As the import removes nothing, all of its events count. -/
theorem Document.sinceLast_events {kind : Event → Bool}
    (hremoves : ∀ e, kind e = true → (∃ id, e = .vertexRemoved id) ∨ ∃ k, e = .edgeRemoved k) :
    sinceLast kind d.events = d.events := by
  have hnone : ∀ e ∈ d.events, (!kind e) = true := by
    intro e he
    rw [Bool.not_eq_true', Bool.eq_false_iff]
    intro hkind
    rcases Document.mem_events_iff.1 he with ⟨n, -, rfl⟩ | ⟨l, -, k, -, rfl⟩ <;>
      rcases hremoves _ hkind with ⟨id, h⟩ | ⟨k', h⟩ <;> cases h
  exact List.rtakeWhile_eq_self_iff.2 hnone

theorem Document.sinceLast_removesVertex (d : Document) (id : String) :
    sinceLast (·.removesVertex id) d.events = d.events := by
  refine Document.sinceLast_events fun e he => ?_
  cases e <;> simp_all [Event.removesVertex]

theorem Document.sinceLast_removesEdge (d : Document) (k : EdgeKey) :
    sinceLast (·.removesEdge k) d.events = d.events := by
  refine Document.sinceLast_events fun e he => ?_
  cases e <;> simp_all [Event.removesEdge]

/-! ## What a document says -/

/-- The indices of a document are exact and nothing in it lacks a name. -/
structure Document.Importable (d : Document) : Prop where
  indices_nodup : (d.nodes.map (·.index)).Nodup
  id_ne_empty : ∀ n ∈ d.nodes, n.id ≠ ""
  ends_listed : ∀ l ∈ d.links,
    l.source ∈ d.nodes.map (·.index) ∧ l.target ∈ d.nodes.map (·.index)
  label_ne_empty : ∀ l ∈ d.links, l.label ≠ ""

/-- A graph has the vertices that the nodes of a document name and the edges that its links name,
with everything that is said of them, merged in order. -/
structure Document.Describes (d : Document) (g : Graph) : Prop where
  name_eq : g.name = d.attributes.name.getD "entity_graph"
  root_eq : g.root = d.attributes.root
  hasVertex_iff : ∀ id, g.store.hasVertex id = true ↔ ∃ n ∈ d.nodes, n.id = id
  containsEdge_iff : ∀ k, g.store.edges.contains k = true ↔
    ∃ l ∈ d.links, l.key? d.nodes = some k
  vertex : ∀ id v, g.store.vertex? id = some v → v.id = id ∧ v.properties.entries.get? =
    Readings.merged ((d.nodes.filter (·.id == id)).map Node.change)
  edge : ∀ k e, g.store.edge? k = some e → e.key = k ∧ e.properties.entries.get? =
    (Readings.merged ((d.links.filter fun l => l.key? d.nodes == some k).map
      Link.change)).relabelled k.label

/-- The first node that has a fault has this one or, if no node has any, the first link that has
one does. -/
def Document.HasFault (d : Document) (err : GraphError) : Prop :=
  FirstFault Node.fault? d.nodes err ∨
    Faultless Node.fault? d.nodes ∧ FirstFault (fun _ => Link.fault? d.nodes) d.links err

theorem Document.importable_iff :
    d.Importable ↔ Faultless Node.fault? d.nodes ∧
      Faultless (fun _ => Link.fault? d.nodes) d.links := by
  rw [faultless_nodes_iff, faultless_links_iff]
  constructor
  · exact fun h => ⟨⟨h.1, h.2⟩, fun l hl => ⟨h.3 l hl, h.4 l hl⟩⟩
  · exact fun h => ⟨h.1.1, h.1.2, fun l hl => (h.2 l hl).1, fun l hl => (h.2 l hl).2⟩

theorem Document.Importable.not_hasFault (h : d.Importable) {err : GraphError} :
    ¬d.HasFault err := by
  obtain ⟨hnodes, hlinks⟩ := Document.importable_iff.1 h
  rintro (hnode | ⟨-, hlink⟩)
  · exact hnodes.not_firstFault hnode
  · exact hlinks.not_firstFault hlink

theorem Document.HasFault.unique {err err' : GraphError} (h : d.HasFault err)
    (h' : d.HasFault err') : err = err' := by
  rcases h with hnode | ⟨hnodes, hlink⟩ <;> rcases h' with hnode' | ⟨hnodes', hlink'⟩
  · exact hnode.unique hnode'
  · exact absurd hnode hnodes'.not_firstFault
  · exact absurd hnode' hnodes.not_firstFault
  · exact hlink.unique hlink'

theorem LinksAdded.describes
    (h : LinksAdded (.new (d.attributes.name.getD defaultGraphName) d.attributes.root) d.nodes
      d.links g) : d.Describes g where
  name_eq := h.name_eq
  root_eq := h.root_eq
  hasVertex_iff id := by
    have hs : g.store.Follows d.events := h.follows
    rw [hs.hasVertex_iff, d.sinceLast_removesVertex]
    constructor
    · rintro ⟨e, he, hbrings⟩
      rcases Document.mem_events_iff.1 he with ⟨n, hn, rfl⟩ | ⟨l, hl, k, hk, rfl⟩
      · exact ⟨n, hn, beq_iff_eq.1 hbrings⟩
      · -- the endpoints of a link are nodes
        obtain ⟨hsource, htarget, -⟩ := Link.key?_eq_some_iff.1 hk
        simp only [Event.bringsVertex, Bool.or_eq_true, beq_iff_eq] at hbrings
        rcases hbrings with rfl | rfl
        · exact exists_of_idAt? hsource
        · exact exists_of_idAt? htarget
    · rintro ⟨n, hn, rfl⟩
      exact ⟨n.event, Document.mem_events_iff.2 (.inl ⟨n, hn, rfl⟩), beq_self_eq_true _⟩
  containsEdge_iff k := by
    have hs : g.store.Follows d.events := h.follows
    rw [hs.containsEdge_iff, d.sinceLast_removesEdge]
    constructor
    · rintro ⟨e, he, hbrings⟩
      rcases Document.mem_events_iff.1 he with ⟨n, hn, rfl⟩ | ⟨l, hl, j, hj, rfl⟩
      · cases hbrings
      · exact ⟨l, hl, by rw [hj, beq_iff_eq.1 hbrings]⟩
    · rintro ⟨l, hl, hk⟩
      exact ⟨_, Document.mem_events_iff.2 (.inr ⟨l, hl, k, hk, rfl⟩), beq_self_eq_true _⟩
  vertex id v hv := by
    have hs : g.store.Follows d.events := h.follows
    refine ⟨(hs.consistent.vertex hv).id_eq, ?_⟩
    rw [hs.readings_vertex hv, d.sinceLast_removesVertex, Document.events, List.foldl_append,
      foldl_changeVertex_links, foldl_changeVertex_nodes, Readings.merged]
  edge k e he := by
    have hs : g.store.Follows d.events := h.follows
    have hstored := hs.consistent.edge he
    refine ⟨hstored.key_eq, ?_⟩
    rw [← hstored.relabelled_eq, hs.readings_edge he, d.sinceLast_removesEdge, Document.events,
      List.foldl_append, foldl_changeEdge_nodes, Readings.merged]
    exact relabelled_foldl_changeEdge_links d.links rfl

/-! ## The import as a whole -/

theorem Document.toGraph_cases (d : Document) :
    (d.Importable ∧ ∃ g, d.toGraph = .ok (g, ⟨d.nodes.length, d.links.length⟩) ∧ d.Describes g) ∨
      ∃ err, d.toGraph = .error err ∧ d.HasFault err := by
  let start := Graph.new (d.attributes.name.getD defaultGraphName) d.attributes.root
  have hstart : NodesAdded start [] (start, .empty) := ⟨rfl, rfl, .empty, fun _ => rfl⟩
  rcases foldlM_of_faults (P := NodesAdded start) (f := addNode)
    (fun _ _ _ h hn => h.addNode_ok hn) (fun _ _ _ _ h hn => h.addNode_error hn) hstart d.nodes with
    ⟨hnodes, ⟨g, indices⟩, hrun, hadded⟩ | ⟨err, herr, hrun⟩
  · have hnamed := (faultless_nodes_iff.1 hnodes).2
    have hlinks : LinksAdded start d.nodes [] g :=
      ⟨hadded.name_eq, hadded.root_eq, by simpa using hadded.follows⟩
    have htoGraph : d.toGraph = (do
        let g ← d.links.foldlM (addLink indices) g
        return (g, ⟨d.nodes.length, d.links.length⟩)) := by
      rw [Document.toGraph, hrun, bind_ok]
    rw [htoGraph]
    rcases foldlM_of_faults (P := LinksAdded start d.nodes) (f := addLink indices)
      (fun _ _ _ h hl => h.addLink_ok hadded.get?_eq hnamed hl)
      (fun _ _ _ _ _ hl => addLink_error hadded.get?_eq hnamed hl) hlinks d.links with
      ⟨hfaultless, g', hrun', hdone⟩ | ⟨err, herr, hrun'⟩
    · exact .inl ⟨Document.importable_iff.2 ⟨hnodes, hfaultless⟩, g', by rw [hrun', bind_ok]; rfl,
        hdone.describes⟩
    · exact .inr ⟨err, by rw [hrun']; rfl, .inr ⟨hnodes, herr⟩⟩
  · exact .inr ⟨err, by rw [Document.toGraph, hrun]; rfl, .inl herr⟩

/-- **The import of documents.** A document is imported if and only if its indices are distinct, all
links are between indices of nodes, and no identity or label is empty. The graph is then what the
document says, and all nodes and links are counted. Otherwise the import fails with the first fault
of a node in the order of the document or, if no node has one, with the first fault of a link. -/
theorem Document.toGraph_exact (d : Document) :
    ((∃ r, d.toGraph = .ok r) ↔ d.Importable) ∧
    (∀ g counts, d.toGraph = .ok (g, counts) →
      d.Describes g ∧ counts = ⟨d.nodes.length, d.links.length⟩) ∧
    ∀ err, d.toGraph = .error err ↔ d.HasFault err := by
  rcases d.toGraph_cases with ⟨himportable, g, hok, hdescribes⟩ | ⟨err, herror, hfault⟩
  · refine ⟨iff_of_true ⟨_, hok⟩ himportable, fun g' counts h => ?_, fun err => ?_⟩
    · rw [hok] at h
      cases h
      exact ⟨hdescribes, rfl⟩
    · rw [hok]
      exact iff_of_false nofun himportable.not_hasFault
  · rw [herror]
    refine ⟨iff_of_false (fun ⟨_, h⟩ => nomatch h) fun h => h.not_hasFault hfault, nofun,
      fun err' => ?_⟩
    constructor
    · rintro ⟨⟩
      exact hfault
    · exact fun hfault' => congrArg Except.error (hfault.unique hfault')

/-- One identity under two indices, of which the later one takes a property away, and a link that
is given twice. -/
theorem Document.toGraph_exact_repeated :
    let d : Document := ⟨true, true, ⟨none, some "c"⟩,
      [⟨7, "a", .ofMembers [("x", .string "1")]⟩, ⟨3, "b", .ofMembers []⟩,
        ⟨5, "a", .ofMembers [("x", .null)]⟩],
      [⟨5, 3, "l", .ofMembers []⟩, ⟨7, 3, "l", .ofMembers []⟩]⟩
    ∃ g, d.toGraph = .ok (g, ⟨3, 2⟩) ∧ d.Describes g ∧
      ∀ v, g.store.vertex? "a" = some v → v.properties.entries.get? "x" = none := by
  intro d
  have himportable : d.Importable := ⟨by decide, by decide, by decide, by decide⟩
  obtain ⟨⟨g, counts⟩, hok⟩ := (Document.toGraph_exact d).1.2 himportable
  obtain ⟨hdescribes, rfl⟩ := (Document.toGraph_exact d).2.1 g counts hok
  refine ⟨g, hok, hdescribes, fun v hv => ?_⟩
  rw [(hdescribes.vertex "a" v hv).2]
  rfl

/-- Whatever else is wrong, the first faulty node is reported: its index is looked at before its
identity, and all nodes before any link. -/
example :
    Document.toGraph ⟨true, true, .none,
      [⟨1, "a", .ofMembers []⟩, ⟨1, "", .ofMembers []⟩, ⟨2, "", .ofMembers []⟩],
      [⟨9, 1, "l", .ofMembers []⟩]⟩ = .error (.serialization (.duplicateIndex 1)) := rfl

end NodeLink

end PropertyGraph
