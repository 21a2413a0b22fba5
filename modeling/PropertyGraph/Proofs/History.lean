import PropertyGraph.Proofs.Marking

/-!
# The history of a graph

What a graph stores is a function of what has happened to it. An element is there if it was
brought in since it was last removed, and its properties are the changes addressed to it since
then, one applied after the other to no properties at all. Operations that failed have not
happened; a mark that succeeded is an update.

## Main definitions

- `Event`, `Graph.history` — what has happened in a run
- `Operation.applies` — the operation finds what it is addressed to
- `sinceLast` — the part of a history after the last event of some kind
- `Store.Follows` — a store is what a history says
-/

namespace PropertyGraph

/-- Something that has happened to one element. -/
inductive Event where
  | vertexUpdated (id : String) (change : Properties) (overwrite : Bool)
  | edgeUpdated (key : EdgeKey) (change : Properties) (overwrite : Bool)
  | vertexRemoved (id : String)
  | edgeRemoved (key : EdgeKey)

/-- What the keys of a bag read as. -/
abbrev Readings := String → Option Value

/-- No properties at all. -/
def Readings.none : Readings := fun _ => .none

/-- A change, key by key. -/
def Readings.changed (bag : Readings) (change : Properties) (overwrite : Bool) : Readings :=
  fun k => mergedValue (bag k) (change.entries.get? k) overwrite

/-- The label put back among the properties. -/
def Readings.relabelled (bag : Readings) (label : String) : Readings :=
  fun k => if k = RelationKey.relationshipType then some (.string label) else bag k

namespace Event

/-- The event removes a vertex. -/
def removesVertex (id : String) : Event → Bool
  | .vertexRemoved j => j == id
  | _ => false

/-- The event removes an edge, or one of its endpoints. -/
def removesEdge (key : EdgeKey) : Event → Bool
  | .edgeRemoved k => k == key
  | .vertexRemoved id => id == key.source || id == key.target
  | _ => false

/-- The event updates a vertex, or an edge with this endpoint. -/
def bringsVertex (id : String) : Event → Bool
  | .vertexUpdated j _ _ => j == id
  | .edgeUpdated k _ _ => k.source == id || k.target == id
  | _ => false

/-- The event updates an edge. -/
def bringsEdge (key : EdgeKey) : Event → Bool
  | .edgeUpdated k _ _ => k == key
  | _ => false

/-- The properties of a vertex after an event. -/
def changeVertex (id : String) (bag : Readings) : Event → Readings
  | .vertexUpdated j change overwrite => if j = id then bag.changed change overwrite else bag
  | _ => bag

/-- The properties of an edge after an event. -/
def changeEdge (key : EdgeKey) (bag : Readings) : Event → Readings
  | .edgeUpdated k change overwrite =>
    if k = key then (bag.changed change overwrite).relabelled key.label else bag
  | _ => bag

end Event

/-- What a successful operation makes happen. -/
def Operation.effects (g : Graph) : Operation → List Event
  | .updateVertex v overwrite => [.vertexUpdated v.id v.properties overwrite]
  | .updateEdge e overwrite => [.edgeUpdated e.key e.properties overwrite]
  | .markVertex id t => [.vertexUpdated id (deletionMark t) true]
  | .markEdge key t => [.edgeUpdated key (deletionMark t) true]
  | .removeVertex id => [.vertexRemoved id]
  | .removeEdge key => [.edgeRemoved key]
  | .deletePlaceholder id =>
    match g.deletePlaceholder id with
    | .ok (_, true) => [.vertexRemoved id]
    | _ => []
  | .union other =>
    other.store.vertexList.map (fun v => .vertexUpdated v.id v.properties true) ++
      other.store.edgeList.map fun e => .edgeUpdated e.key e.properties true
  | .setRoot _ => []
  | .subscribe _ _ => []

/-- What an operation makes happen; nothing, if it fails. -/
def Operation.events (g : Graph) (op : Operation) : List Event :=
  match g.perform op with
  | .ok _ => op.effects g
  | .error _ => []

/-- Everything that happens in a run. -/
def Graph.history (g : Graph) : List Operation → List Event
  | [] => []
  | op :: ops => op.events g ++ (g.attempt op).history ops

/-- The operation finds what it is addressed to. An update always does. -/
def Operation.applies (g : Graph) : Operation → Bool
  | .markVertex id _ => g.store.hasVertex id
  | .markEdge key _ => g.store.edges.contains key
  | .removeVertex id => g.store.hasVertex id
  | .removeEdge key => g.store.edges.contains key
  | .deletePlaceholder id => g.isRemovablePlaceholder id
  | _ => true

/-- The events after the last one of some kind; all events, if there is none. -/
def sinceLast (kind : Event → Bool) (h : List Event) : List Event :=
  (h.reverse.takeWhile fun e => !kind e).reverse

/-! ## What enters the history -/

namespace Operation

variable {g : Graph} {op : Operation} {err : GraphError}

theorem applies_of_misses (h : op.Misses g.store err) : op.applies g = false := by
  cases h with
  | removeVertex hid => exact Store.hasVertex_eq_false_iff.2 hid
  | markVertex hid => exact Store.hasVertex_eq_false_iff.2 hid
  | removeEdge hkey => exact Store.containsEdge_eq_false_iff.2 hkey
  | markEdge hkey => exact Store.containsEdge_eq_false_iff.2 hkey

/-- A placeholder that may be removed is, and the graph does nothing about any other vertex. -/
theorem effects_deletePlaceholder (h : g.store.Consistent) (id : String) :
    (deletePlaceholder id).effects g =
      if g.isRemovablePlaceholder id then [.vertexRemoved id] else [] := by
  rw [effects]
  by_cases hid : g.isRemovablePlaceholder id = true
  · have hremovable := (Graph.isRemovablePlaceholder_iff h).1 hid
    obtain ⟨g', v, -, -, hdelete⟩ := Graph.deletePlaceholder_of_removable h hremovable
    rw [hdelete, if_pos hid]
  · have hnot := mt (Graph.isRemovablePlaceholder_iff h).2 hid
    rw [Graph.deletePlaceholder_of_not_removable h hnot, if_neg hid]

/-- An operation that succeeds applies, or makes nothing happen. -/
theorem applies_of_ok (h : g.store.Consistent) {r : Graph × List Notice}
    (hop : g.perform op = .ok r) : op.applies g = true ∨ op.effects g = [] := by
  cases op with
  | markVertex id t => exact .inl (Graph.markVertexDeleted_eq_ok hop).1
  | markEdge key t => exact .inl (Graph.markEdgeDeleted_eq_ok hop).1
  | removeVertex id =>
    obtain ⟨removed, hremoved, -⟩ := map_eq_ok_iff.1 hop
    exact .inl (Store.hasVertex_of_vertex? (Graph.removeVertex_eq_ok hremoved).1)
  | removeEdge key =>
    obtain ⟨removed, hremoved, -⟩ := map_eq_ok_iff.1 hop
    exact .inl (Store.containsEdge_of_edge? (Graph.removeEdge_eq_ok hremoved).1)
  | deletePlaceholder id =>
    rw [effects_deletePlaceholder h, applies]
    cases g.isRemovablePlaceholder id with
    | true => exact .inl rfl
    | false => exact .inr rfl
  | updateVertex | updateEdge | union | setRoot | subscribe => exact .inl rfl

/-- **What enters the history**: of an operation that finds what it is addressed to everything that
it makes happen, and of any other one nothing. So updates always enter it, and a mark or a removal
does just if the element is stored. -/
theorem events_eq (h : g.store.Consistent) (op : Operation) :
    op.events g = if op.applies g then op.effects g else [] := by
  cases hop : g.perform op with
  | ok r =>
    rw [events, hop]
    rcases applies_of_ok h hop with happlies | hnothing
    · rw [if_pos happlies]
    · rw [hnothing, ite_self]
  | error err =>
    have happlies := applies_of_misses ((Graph.perform_eq_error_iff h).1 hop)
    rw [events, hop, happlies]
    rfl

end Operation

theorem Graph.history_append (g : Graph) (past rest : List Operation) :
    g.history (past ++ rest) = g.history past ++ (g.run past).history rest := by
  induction past generalizing g with
  | nil => rfl
  | cons op past ih =>
    rw [List.cons_append, history, history, ih, List.append_assoc]
    rfl

/-- Any operation in the course of a run stands in its history with what it makes happen, if it
applies to the graph as it is by then. -/
theorem Graph.Built.history_split {g : Graph} (hg : g.Built) (past rest : List Operation)
    (op : Operation) :
    let before := g.run past
    g.history (past ++ op :: rest) = g.history past ++
      (if op.applies before then op.effects before else []) ++
        (before.attempt op).history rest := by
  intro before
  rw [history_append, history, Operation.events_eq (hg.run past).consistent, List.append_assoc]

/-! ## What remains of one element -/

section Remains

variable {ends brings : Event → Bool} {change : Readings → Event → Readings}

/-- What a history leaves of an element: its properties, if it was brought in since it was last
removed. -/
def remains (ends brings : Event → Bool) (change : Readings → Event → Readings)
    (h : List Event) : Option Readings :=
  if (sinceLast ends h).any brings then some ((sinceLast ends h).foldl change .none) else none

theorem remains_eq_some_iff {h : List Event} {bag : Readings} :
    remains ends brings change h = some bag ↔
      (∃ e ∈ sinceLast ends h, brings e = true) ∧ (sinceLast ends h).foldl change .none = bag := by
  rw [remains]
  split
  · rename_i hany
    simpa using fun _ => List.any_eq_true.1 hany
  · rename_i hany
    simpa using fun e he hbrings _ => hany (List.any_eq_true.2 ⟨e, he, hbrings⟩)

theorem sinceLast_append (kind : Event → Bool) (h : List Event) (e : Event) :
    sinceLast kind (h ++ [e]) = if kind e = true then [] else sinceLast kind h ++ [e] := by
  rw [sinceLast, List.reverse_append, List.reverse_singleton, List.singleton_append,
    List.takeWhile_cons]
  cases kind e <;> simp [sinceLast]

theorem foldl_change_of_not_any (hchange : ∀ bag e, brings e = false → change bag e = bag)
    {l : List Event} (hl : l.any brings = false) (bag : Readings) :
    l.foldl change bag = bag := by
  induction l generalizing bag with
  | nil => rfl
  | cons e rest ih =>
    rw [List.any_cons, Bool.or_eq_false_iff] at hl
    rw [List.foldl_cons, hchange bag e hl.1, ih hl.2]

/-- One more event: it removes the element, or brings or changes it, or does not concern it. -/
theorem remains_append (hchange : ∀ bag e, brings e = false → change bag e = bag)
    (h : List Event) (e : Event) :
    remains ends brings change (h ++ [e]) =
      if ends e = true then none
      else if brings e = true then
        some (change ((remains ends brings change h).getD .none) e)
      else remains ends brings change h := by
  rw [remains, sinceLast_append]
  by_cases hends : ends e = true
  · rw [if_pos hends, if_pos hends]
    rfl
  · rw [if_neg hends, if_neg hends, List.any_append, List.foldl_append, remains]
    by_cases hbrings : brings e = true
    · cases hany : (sinceLast ends h).any brings with
      | true => simp [hbrings]
      | false =>
        -- nothing in the window concerned the element before
        rw [foldl_change_of_not_any hchange hany]
        simp [hbrings]
    · have hsame := hchange ((sinceLast ends h).foldl change .none) e (by simpa using hbrings)
      simp [hbrings, hsame]

end Remains

/-- What a history leaves of a vertex. -/
def vertexRemains (id : String) (h : List Event) : Option Readings :=
  remains (·.removesVertex id) (·.bringsVertex id) (Event.changeVertex id) h

/-- What a history leaves of an edge. -/
def edgeRemains (key : EdgeKey) (h : List Event) : Option Readings :=
  remains (·.removesEdge key) (·.bringsEdge key) (Event.changeEdge key) h

theorem vertexRemains_append (id : String) (h : List Event) (e : Event) :
    vertexRemains id (h ++ [e]) =
      if e.removesVertex id = true then none
      else if e.bringsVertex id = true then
        some (Event.changeVertex id ((vertexRemains id h).getD .none) e)
      else vertexRemains id h := by
  refine remains_append (fun bag e he => ?_) h e
  cases e with
  | vertexUpdated j change overwrite => exact if_neg (by simpa [Event.bringsVertex] using he)
  | _ => rfl

theorem edgeRemains_append (key : EdgeKey) (h : List Event) (e : Event) :
    edgeRemains key (h ++ [e]) =
      if e.removesEdge key = true then none
      else if e.bringsEdge key = true then
        some (Event.changeEdge key ((edgeRemains key h).getD .none) e)
      else edgeRemains key h := by
  refine remains_append (fun bag e he => ?_) h e
  cases e with
  | edgeUpdated k change overwrite => exact if_neg (by simpa [Event.bringsEdge] using he)
  | _ => rfl

/-! ## Merged elements, key by key -/

theorem readings_mergedVertex {s : Store} (h : s.Consistent) (v : Vertex) (overwrite : Bool) :
    (Graph.mergedVertex (s.vertex? v.id) v overwrite).properties.entries.get? =
      (((s.vertex? v.id).map (·.properties.entries.get?)).getD Readings.none).changed v.properties
        overwrite := by
  funext k
  cases hs : s.vertex? v.id with
  | some old =>
    refine (Properties.entries_get?_merge ..).trans ?_
    rw [(h.vertex hs).markerFree.get?_eq]
    rfl
  | none => exact Properties.entries_get?_normalize_eq_merged ..

theorem readings_syncLabel (e : Edge) :
    e.syncLabel.properties.entries.get? =
      Readings.relabelled e.properties.entries.get? e.key.label := by
  funext k
  exact SortedMap.get?_insert ..

theorem readings_mergedEdge {s : Store} (h : s.Consistent) (e : Edge) (overwrite : Bool) :
    (Graph.mergedEdge (s.edge? e.key) e overwrite).properties.entries.get? =
      ((((s.edge? e.key).map (·.properties.entries.get?)).getD Readings.none).changed e.properties
        overwrite).relabelled e.key.label := by
  cases hs : s.edge? e.key with
  | some old =>
    refine (readings_syncLabel _).trans ?_
    have hkey : old.key = e.key := (h.edge hs).key_eq
    have hbag : (old.properties.merge e.properties overwrite).entries.get? =
        Readings.changed old.properties.entries.get? e.properties overwrite := by
      funext k
      rw [Properties.entries_get?_merge, (h.edge hs).markerFree.get?_eq]
      rfl
    rw [Edge.withProperties, hbag, hkey]
    rfl
  | none =>
    refine (readings_syncLabel _).trans ?_
    have hbag : e.properties.normalize.entries.get? =
        Readings.changed Readings.none e.properties overwrite := by
      funext k
      exact Properties.entries_get?_normalize_eq_merged ..
    rw [Edge.withProperties, hbag]
    rfl

/-- The label that bags and changes have does not matter if it is put back afterwards. -/
theorem Readings.relabelled_changed_congr {bag bag' : Readings} {change change' : Properties}
    {label : String} (hbag : bag.relabelled label = bag'.relabelled label)
    (hchange : ∀ k, k ≠ RelationKey.relationshipType →
      change.entries.get? k = change'.entries.get? k) (overwrite : Bool) :
    (bag.changed change overwrite).relabelled label =
      (bag'.changed change' overwrite).relabelled label := by
  funext k
  by_cases hk : k = RelationKey.relationshipType
  · simp only [relabelled, if_pos hk]
  · have hread := congrFun hbag k
    simp only [relabelled, if_neg hk] at hread
    simp only [relabelled, if_neg hk, changed, hread, hchange k hk]

theorem relabelled_edgeMark (bag : Readings) (key : EdgeKey) (named : key.Named) (t : Instant) :
    (bag.changed (edgeMark key named t).properties true).relabelled key.label =
      (bag.changed (deletionMark t) true).relabelled key.label := by
  refine Readings.relabelled_changed_congr rfl (fun k hk => ?_) true
  simp only [edgeMark, deletionMark, Properties.set, SortedMap.get?_insert, hk, if_false]
  rfl

theorem relabelled_syncLabel (bag : Readings) (e : Edge) (overwrite : Bool) :
    (bag.changed e.syncLabel.properties overwrite).relabelled e.key.label =
      (bag.changed e.properties overwrite).relabelled e.key.label := by
  refine Readings.relabelled_changed_congr rfl (fun k hk => ?_) overwrite
  rw [readings_syncLabel, Readings.relabelled, if_neg hk]

/-! ## Stores that follow a history -/

/-- The store is consistent, and has of every element what the history leaves of it. -/
structure Store.Follows (s : Store) (h : List Event) : Prop where
  consistent : s.Consistent
  vertex : ∀ id, (s.vertex? id).map (·.properties.entries.get?) = vertexRemains id h
  edge : ∀ key, (s.edge? key).map (·.properties.entries.get?) = edgeRemains key h

namespace Store.Follows

variable {s : Store} {h : List Event}

theorem empty : Store.empty.Follows [] where
  consistent := .empty
  vertex _ := rfl
  edge _ := rfl

theorem updateVertex (hs : s.Follows h) (v : Vertex) (overwrite : Bool) :
    (Graph.storeVertex s v overwrite).Follows
      (h ++ [.vertexUpdated v.id v.properties overwrite]) where
  consistent := Graph.storeVertex_consistent hs.consistent v overwrite
  vertex id := by
    rw [Graph.vertex?_storeVertex hs.consistent, vertexRemains_append, ← hs.vertex]
    by_cases hid : id = v.id
    · subst hid
      simp only [Event.removesVertex, Event.bringsVertex, Event.changeVertex, beq_self_eq_true,
        Bool.false_eq_true, if_false, if_true, Option.map_some,
        readings_mergedVertex hs.consistent]
    · simp only [Event.removesVertex, Event.bringsVertex, if_neg hid, beq_iff_eq,
        if_neg (Ne.symm hid), Bool.false_eq_true, if_false]
  edge key := by
    rw [Graph.edge?_storeVertex, edgeRemains_append, hs.edge]
    rfl

/-- An update of an edge, under any name for its change that means the same once the label is
put back. -/
theorem updateEdge (hs : s.Follows h) (e : Edge) (overwrite : Bool) {change : Properties}
    (hchange : ∀ bag : Readings,
      (bag.changed e.properties overwrite).relabelled e.key.label =
        (bag.changed change overwrite).relabelled e.key.label) :
    (Graph.storeEdge s e overwrite).Follows (h ++ [.edgeUpdated e.key change overwrite]) where
  consistent := Graph.storeEdge_consistent hs.consistent e overwrite
  vertex id := by
    have hproperties := Graph.properties_storeEdge hs.consistent e overwrite id
    rw [vertexRemains_append, ← hs.vertex]
    simp only [Event.removesVertex, Event.bringsVertex, Event.changeVertex, Bool.false_eq_true,
      if_false, Bool.or_eq_true, beq_iff_eq, eq_comm (b := id)]
    -- the readings of a bag are those of its entries
    have hmap : ∀ o : Option Vertex, o.map (·.properties.entries.get?) =
        (o.map (·.properties)).map fun p : Properties => p.entries.get? := by
      intro o
      cases o <;> rfl
    rw [hmap, hmap, hproperties]
    cases (s.vertex? id).map (·.properties) with
    | some p => simp
    | none =>
      by_cases hend : id = e.key.source ∨ id = e.key.target
      · simp only [Option.none_or, if_pos hend, Option.map_some]
        rfl
      · simp only [Option.none_or, if_neg hend]
  edge key := by
    rw [Graph.edge?_storeEdge hs.consistent, edgeRemains_append, ← hs.edge]
    by_cases hkey : key = e.key
    · subst hkey
      simp only [Event.removesEdge, Event.bringsEdge, Event.changeEdge, beq_self_eq_true,
        Bool.false_eq_true, if_false, if_true, Option.map_some,
        readings_mergedEdge hs.consistent, hchange]
    · simp only [Event.removesEdge, Event.bringsEdge, if_neg hkey, beq_iff_eq,
        if_neg (Ne.symm hkey), Bool.false_eq_true, if_false]

theorem removeVertex (hs : s.Follows h) (id : String) :
    (s.removeVertex id).Follows (h ++ [.vertexRemoved id]) where
  consistent := hs.consistent.removeVertex id
  vertex j := by
    rw [vertex?_removeVertex, vertexRemains_append, ← hs.vertex]
    by_cases hj : j = id
    · simp [hj, Event.removesVertex]
    · simp [hj, Event.removesVertex, Event.bringsVertex, Ne.symm hj]
  edge key := by
    -- the edges at the vertex end with it
    rw [hs.consistent.edge?_removeVertex, edgeRemains_append, ← hs.edge]
    by_cases hend : key.source = id ∨ key.target = id
    · simp [hend, Event.removesEdge, eq_comm (a := id)]
    · simp [hend, Event.removesEdge, Event.bringsEdge, eq_comm (a := id)]

theorem removeEdge (hs : s.Follows h) (key : EdgeKey) :
    (s.removeEdge key).Follows (h ++ [.edgeRemoved key]) where
  consistent := hs.consistent.removeEdge key
  vertex id := by
    rw [vertex?_removeEdge, vertexRemains_append, hs.vertex]
    rfl
  edge k := by
    rw [edge?_removeEdge, edgeRemains_append, ← hs.edge]
    by_cases hk : k = key
    · simp [hk, Event.removesEdge]
    · simp [hk, Event.removesEdge, Event.bringsEdge, Ne.symm hk]

theorem updateVertices (hs : s.Follows h) (vertices : List Vertex) :
    (vertices.foldl (fun s v => Graph.storeVertex s v true) s).Follows
      (h ++ vertices.map fun v => .vertexUpdated v.id v.properties true) := by
  induction vertices generalizing s h with
  | nil => simpa using hs
  | cons v rest ih => simpa using ih (hs.updateVertex v true)

theorem updateEdges (hs : s.Follows h) (edges : List Edge) :
    (edges.foldl (fun s e => Graph.storeEdge s e true) s).Follows
      (h ++ edges.map fun e => .edgeUpdated e.key e.properties true) := by
  induction edges generalizing s h with
  | nil => simpa using hs
  | cons e rest ih => simpa using ih (hs.updateEdge e true fun _ => rfl)

/-! ## Runs -/

theorem perform {g : Graph} (hs : g.store.Follows h) {op : Operation} {r : Graph × List Notice}
    (hop : g.perform op = .ok r) : r.1.store.Follows (h ++ op.effects g) := by
  cases op with
  | updateVertex v overwrite =>
    cases hop
    rw [Graph.store_updateVertex]
    exact hs.updateVertex v overwrite
  | updateEdge e overwrite =>
    cases hop
    rw [Graph.store_updateEdge]
    exact hs.updateEdge e overwrite fun _ => rfl
  | markVertex id t =>
    obtain ⟨-, named, rfl⟩ := Graph.markVertexDeleted_eq_ok hop
    rw [Graph.store_updateVertex]
    exact hs.updateVertex ⟨id, deletionMark t, named⟩ true
  | markEdge key t =>
    -- the mark carries the label, which the event leaves out
    obtain ⟨-, named, rfl⟩ := Graph.markEdgeDeleted_eq_ok hop
    rw [Graph.store_updateEdge]
    exact hs.updateEdge (edgeMark key named t) true fun bag => relabelled_edgeMark bag key named t
  | removeVertex id =>
    obtain ⟨removed, hremoved, rfl⟩ := map_eq_ok_iff.1 hop
    rw [(Graph.removeVertex_eq_ok hremoved).2]
    exact hs.removeVertex id
  | removeEdge key =>
    obtain ⟨removed, hremoved, rfl⟩ := map_eq_ok_iff.1 hop
    rw [(Graph.removeEdge_eq_ok hremoved).2]
    exact hs.removeEdge key
  | deletePlaceholder id =>
    obtain ⟨⟨g', removed⟩, hremoved, rfl⟩ := map_eq_ok_iff.1 hop
    simp only [Operation.effects, hremoved]
    rcases Graph.deletePlaceholder_eq_ok hremoved with ⟨hyes, hstore⟩ | ⟨hno, hsame⟩
    · cases hyes
      dsimp only at hstore ⊢
      rw [hstore]
      exact hs.removeVertex id
    · cases hno
      cases hsame
      simpa using hs
  | union other =>
    cases hop
    rw [Graph.store_union, Operation.effects, ← List.append_assoc]
    exact (hs.updateVertices _).updateEdges _
  | setRoot id =>
    cases hop
    rw [Operation.effects, List.append_nil]
    exact hs
  | subscribe name finalizing =>
    cases hop
    rw [Operation.effects, List.append_nil]
    exact hs

/-- **One operation**: the store goes on following the history. -/
theorem attempt {g : Graph} (hs : g.store.Follows h) (op : Operation) :
    (g.attempt op).store.Follows (h ++ op.events g) := by
  cases hop : g.perform op with
  | ok r =>
    rw [Graph.attempt_of_ok hop, Operation.events, hop]
    exact hs.perform hop
  | error err =>
    rw [Graph.attempt_of_error hop, Operation.events, hop]
    simpa using hs

theorem run {g : Graph} (hs : g.store.Follows h) (ops : List Operation) :
    (g.run ops).store.Follows (h ++ g.history ops) := by
  induction ops generalizing g h with
  | nil => simpa [Graph.history, Graph.run] using hs
  | cons op rest ih =>
    rw [Graph.history, ← List.append_assoc]
    exact ih (hs.attempt op)

theorem hasVertex_iff (hs : s.Follows h) (id : String) :
    s.hasVertex id = true ↔ ∃ e ∈ sinceLast (·.removesVertex id) h, e.bringsVertex id = true := by
  rw [Store.hasVertex_iff]
  constructor
  · rintro ⟨v, hv⟩
    have hremains := hs.vertex id
    rw [hv] at hremains
    exact (remains_eq_some_iff.1 hremains.symm).1
  · intro hbrought
    have hremains := (hs.vertex id).trans (remains_eq_some_iff.2 ⟨hbrought, rfl⟩)
    obtain ⟨v, hv, -⟩ := Option.map_eq_some_iff.1 hremains
    exact ⟨v, hv⟩

theorem containsEdge_iff (hs : s.Follows h) (key : EdgeKey) :
    s.edges.contains key = true ↔
      ∃ e ∈ sinceLast (·.removesEdge key) h, e.bringsEdge key = true := by
  rw [Store.containsEdge_iff]
  constructor
  · rintro ⟨e, he⟩
    have hremains := hs.edge key
    rw [he] at hremains
    exact (remains_eq_some_iff.1 hremains.symm).1
  · intro hbrought
    have hremains := (hs.edge key).trans (remains_eq_some_iff.2 ⟨hbrought, rfl⟩)
    obtain ⟨e, he, -⟩ := Option.map_eq_some_iff.1 hremains
    exact ⟨e, he⟩

theorem readings_vertex (hs : s.Follows h) {id : String} {v : Vertex}
    (hv : s.vertex? id = some v) :
    v.properties.entries.get? =
      (sinceLast (·.removesVertex id) h).foldl (Event.changeVertex id) .none := by
  have hremains := hs.vertex id
  rw [hv] at hremains
  exact (remains_eq_some_iff.1 hremains.symm).2.symm

theorem readings_edge (hs : s.Follows h) {key : EdgeKey} {e : Edge} (he : s.edge? key = some e) :
    e.properties.entries.get? =
      (sinceLast (·.removesEdge key) h).foldl (Event.changeEdge key) .none := by
  have hremains := hs.edge key
  rw [he] at hremains
  exact (remains_eq_some_iff.1 hremains.symm).2.symm

end Store.Follows

/-- **A graph stores what its history says.** After any series of operations on an empty graph, a
vertex is stored if and only if it, or an edge at it, was updated since its last removal, and an
edge if and only if it was updated since the last removal of it or of one of its endpoints. Its
properties are the changes addressed to it since then, applied in order to no properties. -/
theorem Graph.run_store_eq_history (name : String) (root : Option String)
    (ops : List Operation) :
    let s := ((Graph.new name root).run ops).store
    let h := (Graph.new name root).history ops
    (∀ id, s.hasVertex id = true ↔
      ∃ e ∈ sinceLast (·.removesVertex id) h, e.bringsVertex id = true) ∧
    (∀ key, s.edges.contains key = true ↔
      ∃ e ∈ sinceLast (·.removesEdge key) h, e.bringsEdge key = true) ∧
    (∀ id v, s.vertex? id = some v → v.id = id ∧ v.properties.entries.get? =
      (sinceLast (·.removesVertex id) h).foldl (Event.changeVertex id) .none) ∧
    (∀ key e, s.edge? key = some e → e.key = key ∧ e.properties.entries.get? =
      (sinceLast (·.removesEdge key) h).foldl (Event.changeEdge key) .none) := by
  intro s h
  have hs : s.Follows h := Store.Follows.run (g := Graph.new name root) .empty ops
  refine ⟨hs.hasVertex_iff, hs.containsEdge_iff, ?_, ?_⟩
  · exact fun id v hv => ⟨(hs.consistent.vertex hv).id_eq, hs.readings_vertex hv⟩
  · exact fun key e he => ⟨(hs.consistent.edge he).key_eq, hs.readings_edge he⟩

/-- A vertex that an edge brings back after its removal has none of the properties that it had, and
the first edge does not come back with it. The mark of a vertex that is not stored leaves no
trace. -/
theorem Graph.run_store_eq_history_brought_back :
    let ops : List Operation :=
      [.updateVertex ⟨"a", .ofList [("x", .integer 1)], by decide⟩ true,
        .updateEdge ⟨⟨"a", "b", "l"⟩, .empty, by decide⟩ true, .markVertex "c" ⟨0, 0⟩,
        .removeVertex "a", .updateEdge ⟨⟨"b", "a", "m"⟩, .empty, by decide⟩ false]
    let s := ((Graph.new "g" none).run ops).store
    ((Graph.new "g" none).history ops).length = 4 ∧
      s.hasVertex "a" = true ∧ s.edges.contains ⟨"a", "b", "l"⟩ = false ∧
      ∀ v, s.vertex? "a" = some v → v.properties.entries.get? "x" = none := by
  intro ops s
  obtain ⟨hvertex, hedge, hreadings, -⟩ := Graph.run_store_eq_history "g" none ops
  have hwindow : sinceLast (·.removesVertex "a") ((Graph.new "g" none).history ops) =
      [.edgeUpdated ⟨"b", "a", "m"⟩ .empty false] := rfl
  refine ⟨by decide, (hvertex "a").2 ?_, Bool.eq_false_iff.2 fun hstored => ?_, fun v hv => ?_⟩
  · rw [hwindow]
    exact ⟨_, List.mem_singleton_self _, rfl⟩
  · have hbrought := (hedge ⟨"a", "b", "l"⟩).1 hstored
    exact absurd hbrought (by decide)
  · rw [(hreadings "a" v hv).2, hwindow]
    rfl

end PropertyGraph
