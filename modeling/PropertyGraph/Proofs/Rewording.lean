import Mathlib.Logic.Relation
import PropertyGraph.NodeLink.Document

/-!
# Documents in other words

The same document can be put in several ways. The members of a record come in any order, some of
them need not be there, others are of no concern, and the links go by two names. A document that
is put in other words is read as the same one, and what is written of it is read back.

## Main definitions

- `Json.Wording`, `Json.Rewording` — what may be changed about a record, and one change of it
- `NodeLink.Document.wording` — what may be changed about a document
- `NodeLink.Document.read_back_reworded` — documents are read back, in whatever words
-/

namespace PropertyGraph

namespace Json

/-- What may be changed about a record without changing what it says. -/
structure Wording where
  /-- The names of its fields. -/
  names : List String
  /-- Members that say what their absence says. -/
  spare : List (String × Json)
  /-- A name of a field, and another one. -/
  aliases : List (String × String)
  /-- Changes of the value of a member. -/
  inside : String → Json → Json → Prop

/-- **A record is put in other words** by a single change. -/
inductive Rewording (w : Wording) : Json → Json → Prop
  | reorder {members members' : List (String × Json)} : members.Perm members' →
      Rewording w (.object members) (.object members')
  | leaveOut {member : String × Json} {rest : List (String × Json)} : member ∈ w.spare →
      Rewording w (.object (member :: rest)) (.object rest)
  | add {name : String} {j : Json} {rest : List (String × Json)} : name ∉ w.names →
      Rewording w (.object rest) (.object ((name, j) :: rest))
  | rename {name name' : String} {j : Json} {rest : List (String × Json)} :
      (name, name') ∈ w.aliases →
      Rewording w (.object ((name, j) :: rest)) (.object ((name', j) :: rest))
  | inside {name : String} {j j' : Json} {rest : List (String × Json)} : w.inside name j j' →
      Rewording w (.object ((name, j) :: rest)) (.object ((name, j') :: rest))

/-- One of the records in a list is put in other words. -/
inductive ItemRewording (w : Wording) : Json → Json → Prop
  | mk {before after : List Json} {j j' : Json} : Rewording w j j' →
      ItemRewording w (.array (before ++ j :: after)) (.array (before ++ j' :: after))

/-- A record of which no field has a second name, and no value may be changed. -/
def Wording.flat (fields : List (List String)) (spare : List (String × Json)) : Wording :=
  ⟨fields.flatten, spare, [], fun _ _ _ => False⟩

/-! ## Fields of objects -/

section Fields

variable {α : Type} {names : List String} {name name' : String} {j j' : Json}
  {rest members members' : List (String × Json)} {given : Option Json}

theorem field?_perm (h : members.Perm members') : field? names members = field? names members' := by
  have hfilter := h.filter (names.contains ·.1)
  rw [field?, field?]
  generalize members.filter _ = found at hfilter ⊢
  generalize members'.filter _ = found' at hfilter ⊢
  match found, found', hfilter with
  | [], _, h => rw [h.nil_eq]
  | [_], _, h => rw [h.singleton_eq]
  | _ :: _ :: _, [], h => exact absurd h.eq_nil (List.cons_ne_nil _ _)
  | _ :: _ :: _, [_], h => exact absurd h.length_eq (by simp)
  | _ :: _ :: _, _ :: _ :: _, _ => rfl

theorem field?_cons_of_notMem (h : name ∉ names) :
    field? names ((name, j) :: rest) = field? names rest := by
  rw [field?, List.filter_cons_of_neg (by simpa using h), field?]

/-- A member of the field is all that the field is given. -/
theorem field?_cons_eq_some_iff (h : name ∈ names) :
    field? names ((name, j) :: rest) = some given ↔
      given = some j ∧ field? names rest = some none := by
  rw [field?, List.filter_cons_of_pos (by simpa using h), field?]
  generalize rest.filter _ = found
  match found with
  | [] => simp [eq_comm]
  | [_] => simp
  | _ :: _ :: _ => simp

/-- A field is given at most once. -/
theorem field?_eq_none_of_two (hne : name ≠ name') (hname : name ∈ names) (hname' : name' ∈ names)
    (h : name ∈ members.map (·.1)) (h' : name' ∈ members.map (·.1)) :
    field? names members = none := by
  have hmem : ∀ n ∈ names, n ∈ members.map (·.1) →
      n ∈ (members.filter (names.contains ·.1)).map (·.1) := by
    intro n hn hmem
    obtain ⟨m, hm, rfl⟩ := List.mem_map.1 hmem
    exact List.mem_map.2 ⟨m, List.mem_filter.2 ⟨hm, by simpa using hn⟩, rfl⟩
  replace h := hmem name hname h
  replace h' := hmem name' hname' h'
  rw [field?]
  generalize members.filter _ = found at h h' ⊢
  match found, h, h' with
  | [m], h, h' =>
    rw [List.map_singleton, List.mem_singleton] at h h'
    exact absurd (h.trans h'.symm) hne
  | _ :: _ :: _, _, _ => rfl

/-- What is read of a field. -/
def readField (read : Option Json → Option α) (names : List String)
    (members : List (String × Json)) : Option α :=
  (field? names members).bind read

variable {read : Option Json → Option α} {a : α}

theorem readField_eq_some_iff :
    readField read names members = some a ↔
      ∃ given, field? names members = some given ∧ read given = some a :=
  Option.bind_eq_some_iff

theorem readField_cons_of_notMem (h : name ∉ names) :
    readField read names ((name, j) :: rest) = readField read names rest := by
  rw [readField, field?_cons_of_notMem h, readField]

theorem readField_cons_eq_some_iff (h : name ∈ names) :
    readField read names ((name, j) :: rest) = some a ↔
      read (some j) = some a ∧ field? names rest = some none := by
  simp only [readField_eq_some_iff, field?_cons_eq_some_iff h]
  constructor
  · rintro ⟨given, ⟨rfl, hrest⟩, hread⟩
    exact ⟨hread, hrest⟩
  · rintro ⟨hread, hrest⟩
    exact ⟨_, ⟨rfl, hrest⟩, hread⟩

/-- The fields of an object are found one after the other. -/
theorem recordFields?_cons_bind_eq_some_iff {fields : List (List String)}
    {f : List (Option Json) → Option α} :
    (recordFields? (names :: fields) (.object members)).bind f = some a ↔
      ∃ given, field? names members = some given ∧
        (recordFields? fields (.object members)).bind (fun rest => f (given :: rest)) = some a := by
  simp only [recordFields?, List.mapM_cons, Option.bind_eq_bind, Option.bind_assoc,
    Option.pure_def, Option.bind_some]
  exact Option.bind_eq_some_iff

theorem recordFields?_nil_bind {f : List (Option Json) → Option α} :
    (recordFields? [] (.object members)).bind f = f [] :=
  rfl

end Fields

/-! ## Readings of fields -/

/-- The reading of a field does not tell apart what may be changed. -/
structure Wording.Suits {α : Type} (w : Wording) (names : List String)
    (read : Option Json → Option α) : Prop where
  known : ∀ name ∈ names, name ∈ w.names
  spare : ∀ member ∈ w.spare, member.1 ∈ names → read (some member.2) = read none
  aliases : ∀ a ∈ w.aliases, (a.1 ∈ names ↔ a.2 ∈ names)
  inside : ∀ name ∈ names, ∀ j j', w.inside name j j' →
    ∀ a, read (some j) = some a → read (some j') = some a

section Readings

variable {α : Type} {w : Wording} {names : List String} {read : Option Json → Option α}
  {members members' : List (String × Json)} {a : α}

theorem Wording.suits_flat {fields : List (List String)} {spare : List (String × Json)}
    (hknown : ∀ name ∈ names, name ∈ fields.flatten)
    (hspare : ∀ member ∈ spare, member.1 ∈ names → read (some member.2) = read none) :
    (Wording.flat fields spare).Suits names read where
  known := hknown
  spare := hspare
  aliases _ h := nomatch h
  inside _ _ _ _ h := nomatch h

/-- **A field is read the same in other words.** -/
theorem Wording.Suits.readField_rewording (h : w.Suits names read)
    (hw : Rewording w (.object members) (.object members'))
    (hread : readField read names members = some a) : readField read names members' = some a := by
  cases hw with
  | reorder hperm => rwa [readField, ← field?_perm hperm]
  | @leaveOut member rest hmember =>
    obtain ⟨name, j⟩ := member
    by_cases hname : name ∈ names
    · obtain ⟨hj, hrest⟩ := (readField_cons_eq_some_iff hname).1 hread
      rw [readField, hrest, Option.bind_some, ← h.spare _ hmember hname, hj]
    · rwa [readField_cons_of_notMem hname] at hread
  | add hname => rwa [readField_cons_of_notMem fun hmem => hname (h.known _ hmem)]
  | @rename name name' j rest haliases =>
    have halias := h.aliases _ haliases
    by_cases hname : name ∈ names
    · exact (readField_cons_eq_some_iff (halias.1 hname)).2
        ((readField_cons_eq_some_iff hname).1 hread)
    · rw [readField_cons_of_notMem hname] at hread
      rwa [readField_cons_of_notMem (mt halias.2 hname)]
  | @inside name j j' rest hinside =>
    by_cases hname : name ∈ names
    · obtain ⟨hj, hrest⟩ := (readField_cons_eq_some_iff hname).1 hread
      exact (readField_cons_eq_some_iff hname).2 ⟨h.inside name hname j j' hinside a hj, hrest⟩
    · rw [readField_cons_of_notMem hname] at hread
      rwa [readField_cons_of_notMem hname]

theorem Rewording.exists_object {j j' : Json} (h : Rewording w j j') :
    ∃ members members', j = .object members ∧ j' = .object members' := by
  cases h <;> exact ⟨_, _, rfl, rfl⟩

/-- A list is read the same in other words, if its records are. -/
theorem list?_of_itemRewording {read : Json → Option α} {j j' : Json} {items : List α}
    (hread : ∀ j j' a, Rewording w j j' → read j = some a → read j' = some a)
    (hw : ItemRewording w j j') (h : list? read j = some items) : list? read j' = some items := by
  cases hw with
  | @mk before after j j' hitem =>
    simp only [list?, List.mapM_append, List.mapM_cons, Option.bind_eq_bind,
      Option.bind_eq_some_iff] at h ⊢
    obtain ⟨first, hfirst, _, ⟨a, ha, hrest⟩, h⟩ := h
    exact ⟨first, hfirst, _, ⟨a, hread _ _ _ hitem ha, hrest⟩, h⟩

end Readings

/-! ## Values of fields -/

theorem word?_ofWord (n : UInt64) : word? (ofWord n) = some n := by
  rw [ofWord]
  split
  · rfl
  · rename_i hsmall
    have hnonneg : 0 ≤ n.toInt64 := by
      rw [Int64.le_iff_toInt_le]
      change 0 ≤ n.toBitVec.toInt
      rw [BitVec.toInt_eq_toNat_of_lt]
      · exact Int.natCast_nonneg _
      · have hlt : n.toBitVec.toNat < 0x8000000000000000 := Nat.lt_of_not_le hsmall
        omega
    rw [word?, if_pos hnonneg, UInt64.toUInt64_toInt64]

theorem object?_toJson (o : JsonObject) : object? o.toJson = some o :=
  congrArg some o.ofMembers_members

/-- A list is read back, if its items are. -/
theorem list?_map {α : Type} {read : Json → Option α} {write : α → Json}
    (hread : ∀ a, read (write a) = some a) (items : List α) :
    list? read (.array (items.map write)) = some items := by
  induction items with
  | nil => rfl
  | cons a rest ih =>
    rw [list?] at ih ⊢
    rw [List.map_cons, List.mapM_cons, hread, ih]
    rfl

end Json

namespace NodeLink

open Json

/-! ## Words of documents -/

/-- What may be changed about what is said of the graph as a whole. -/
def Attributes.wording : Wording := .flat Attributes.fields []

/-- What may be changed about a node: properties that are empty need not be there. -/
def Node.wording : Wording := .flat Node.fields [("properties", JsonObject.empty.toJson)]

/-- What may be changed about a link: properties that are empty need not be there. -/
def Link.wording : Wording := .flat Link.fields [("properties", JsonObject.empty.toJson)]

/-- Changes of the records inside a document. -/
inductive Document.RewordingInside : String → Json → Json → Prop
  | attributes {j j' : Json} : Rewording Attributes.wording j j' → RewordingInside "graph" j j'
  | node {j j' : Json} : ItemRewording Node.wording j j' → RewordingInside "nodes" j j'
  | link {name : String} {j j' : Json} : name = "links" ∨ name = "edges" →
      ItemRewording Link.wording j j' → RewordingInside name j j'

/-- **What may be changed about a document.** What it says by default need not be said, the links
may be called edges, and the records inside it may be put in other words. -/
def Document.wording : Wording where
  names := Document.fields.flatten
  spare := [("directed", .bool true), ("multigraph", .bool true),
    ("graph", Attributes.none.toJson), ("links", .array []), ("edges", .array [])]
  aliases := [("links", "edges")]
  inside := Document.RewordingInside

/-! ## Records by their fields -/

variable {members : List (String × Json)}

theorem Attributes.ofJson?_object_iff {a : Attributes} :
    Attributes.ofJson? (.object members) = some a ↔
      readField (withDefault? .none optionalString?) ["name"] members = some a.name ∧
      readField (withDefault? .none optionalString?) ["root_id"] members = some a.root := by
  simp only [ofJson?, Attributes.fields, Option.bind_eq_bind, recordFields?_cons_bind_eq_some_iff,
    recordFields?_nil_bind, Option.pure_def]
  simp only [Option.bind_eq_some_iff, readField_eq_some_iff, Option.some.injEq]
  -- all fields are found before the first one is read, here and in the other records
  constructor
  · rintro ⟨_, gname, _, groot, _, hname, _, hroot, rfl⟩
    exact ⟨⟨_, gname, hname⟩, ⟨_, groot, hroot⟩⟩
  · rintro ⟨⟨_, gname, hname⟩, ⟨_, groot, hroot⟩⟩
    exact ⟨_, gname, _, groot, _, hname, _, hroot, rfl⟩

theorem Node.ofJson?_object_iff {n : Node} :
    Node.ofJson? (.object members) = some n ↔
      readField (required? word?) ["index"] members = some n.index ∧
      readField (required? string?) ["id"] members = some n.id ∧
      readField (withDefault? .empty object?) ["properties"] members = some n.properties := by
  simp only [ofJson?, Node.fields, Option.bind_eq_bind, recordFields?_cons_bind_eq_some_iff,
    recordFields?_nil_bind, Option.pure_def]
  simp only [Option.bind_eq_some_iff, readField_eq_some_iff, Option.some.injEq]
  constructor
  · rintro ⟨_, gindex, _, gid, _, gproperties, _, hindex, _, hid, _, hproperties, rfl⟩
    exact ⟨⟨_, gindex, hindex⟩, ⟨_, gid, hid⟩, ⟨_, gproperties, hproperties⟩⟩
  · rintro ⟨⟨_, gindex, hindex⟩, ⟨_, gid, hid⟩, ⟨_, gproperties, hproperties⟩⟩
    exact ⟨_, gindex, _, gid, _, gproperties, _, hindex, _, hid, _, hproperties, rfl⟩

theorem Link.ofJson?_object_iff {l : Link} :
    Link.ofJson? (.object members) = some l ↔
      readField (required? word?) ["source"] members = some l.source ∧
      readField (required? word?) ["target"] members = some l.target ∧
      readField (required? string?) ["key"] members = some l.label ∧
      readField (withDefault? .empty object?) ["properties"] members = some l.properties := by
  simp only [ofJson?, Link.fields, Option.bind_eq_bind, recordFields?_cons_bind_eq_some_iff,
    recordFields?_nil_bind, Option.pure_def]
  simp only [Option.bind_eq_some_iff, readField_eq_some_iff, Option.some.injEq]
  constructor
  · rintro ⟨_, gsource, _, gtarget, _, glabel, _, gproperties, _, hsource, _, htarget, _, hlabel,
      _, hproperties, rfl⟩
    exact ⟨⟨_, gsource, hsource⟩, ⟨_, gtarget, htarget⟩, ⟨_, glabel, hlabel⟩, ⟨_, gproperties,
      hproperties⟩⟩
  · rintro ⟨⟨_, gsource, hsource⟩, ⟨_, gtarget, htarget⟩, ⟨_, glabel, hlabel⟩, ⟨_, gproperties,
      hproperties⟩⟩
    exact ⟨_, gsource, _, gtarget, _, glabel, _, gproperties, _, hsource, _, htarget, _, hlabel,
      _, hproperties, rfl⟩

theorem Document.ofJson?_object_iff {d : Document} :
    Document.ofJson? (.object members) = some d ↔
      readField (withDefault? true bool?) ["directed"] members = some d.directed ∧
      readField (withDefault? true bool?) ["multigraph"] members = some d.multigraph ∧
      readField (withDefault? .none Attributes.ofJson?) ["graph"] members = some d.attributes ∧
      readField (required? (list? Node.ofJson?)) ["nodes"] members = some d.nodes ∧
      readField (withDefault? [] (list? Link.ofJson?)) ["links", "edges"] members =
        some d.links := by
  simp only [ofJson?, Document.fields, Option.bind_eq_bind, recordFields?_cons_bind_eq_some_iff,
    recordFields?_nil_bind, Option.pure_def]
  simp only [Option.bind_eq_some_iff, readField_eq_some_iff, Option.some.injEq]
  constructor
  · rintro ⟨_, gdirected, _, gmultigraph, _, gattributes, _, gnodes, _, glinks, _, hdirected, _,
      hmultigraph, _, hattributes, _, hnodes, _, hlinks, rfl⟩
    exact ⟨⟨_, gdirected, hdirected⟩, ⟨_, gmultigraph, hmultigraph⟩, ⟨_, gattributes,
      hattributes⟩, ⟨_, gnodes, hnodes⟩, ⟨_, glinks, hlinks⟩⟩
  · rintro ⟨⟨_, gdirected, hdirected⟩, ⟨_, gmultigraph, hmultigraph⟩, ⟨_, gattributes,
      hattributes⟩, ⟨_, gnodes, hnodes⟩, ⟨_, glinks, hlinks⟩⟩
    exact ⟨_, gdirected, _, gmultigraph, _, gattributes, _, gnodes, _, glinks, _, hdirected, _,
      hmultigraph, _, hattributes, _, hnodes, _, hlinks, rfl⟩

/-! ## What is written is read back -/

theorem Attributes.ofJson?_toJson (a : Attributes) : Attributes.ofJson? a.toJson = some a := by
  obtain ⟨name, root⟩ := a
  refine ofJson?_object_iff.2 ?_
  cases name <;> cases root <;> exact ⟨rfl, rfl⟩

theorem Node.ofJson?_toJson (n : Node) : Node.ofJson? n.toJson = some n :=
  ofJson?_object_iff.2 ⟨word?_ofWord n.index, rfl, object?_toJson n.properties⟩

theorem Link.ofJson?_toJson (l : Link) : Link.ofJson? l.toJson = some l :=
  ofJson?_object_iff.2
    ⟨word?_ofWord l.source, word?_ofWord l.target, rfl, object?_toJson l.properties⟩

theorem Document.ofJson?_toJson (d : Document) : Document.ofJson? d.toJson = some d :=
  ofJson?_object_iff.2 ⟨rfl, rfl, Attributes.ofJson?_toJson d.attributes,
    list?_map Node.ofJson?_toJson d.nodes, list?_map Link.ofJson?_toJson d.links⟩

/-! ## Other words are read the same -/

variable {j j' : Json}

theorem Attributes.ofJson?_rewording {a : Attributes} (hw : Rewording Attributes.wording j j')
    (h : Attributes.ofJson? j = some a) : Attributes.ofJson? j' = some a := by
  obtain ⟨members, members', rfl, rfl⟩ := hw.exists_object
  rw [ofJson?_object_iff] at h ⊢
  obtain ⟨hname, hroot⟩ := h
  constructor
  · exact (Wording.suits_flat (by decide) (by simp)).readField_rewording hw hname
  · exact (Wording.suits_flat (by decide) (by simp)).readField_rewording hw hroot

/-- Properties that are left out are read as empty. -/
theorem spare_properties {names : List String} :
    ∀ member ∈ [("properties", JsonObject.empty.toJson)], member.1 ∈ names →
      withDefault? .empty object? (some member.2) = withDefault? .empty object? none :=
  List.forall_mem_singleton.2 fun _ => object?_toJson .empty

theorem Node.ofJson?_rewording {n : Node} (hw : Rewording Node.wording j j')
    (h : Node.ofJson? j = some n) : Node.ofJson? j' = some n := by
  obtain ⟨members, members', rfl, rfl⟩ := hw.exists_object
  rw [ofJson?_object_iff] at h ⊢
  obtain ⟨hindex, hid, hproperties⟩ := h
  refine ⟨?_, ?_, ?_⟩
  · exact (Wording.suits_flat (by decide) (by simp)).readField_rewording hw hindex
  · exact (Wording.suits_flat (by decide) (by simp)).readField_rewording hw hid
  · exact (Wording.suits_flat (by decide) spare_properties).readField_rewording hw hproperties

theorem Link.ofJson?_rewording {l : Link} (hw : Rewording Link.wording j j')
    (h : Link.ofJson? j = some l) : Link.ofJson? j' = some l := by
  obtain ⟨members, members', rfl, rfl⟩ := hw.exists_object
  rw [ofJson?_object_iff] at h ⊢
  obtain ⟨hsource, htarget, hlabel, hproperties⟩ := h
  refine ⟨?_, ?_, ?_, ?_⟩
  · exact (Wording.suits_flat (by decide) (by simp)).readField_rewording hw hsource
  · exact (Wording.suits_flat (by decide) (by simp)).readField_rewording hw htarget
  · exact (Wording.suits_flat (by decide) (by simp)).readField_rewording hw hlabel
  · exact (Wording.suits_flat (by decide) spare_properties).readField_rewording hw hproperties

/-- What has to be known about a field of a document. -/
theorem Document.suits {α : Type} {names : List String} {read : Option Json → Option α}
    (hknown : ∀ name ∈ names, name ∈ Document.fields.flatten)
    (hspare : ∀ member ∈ Document.wording.spare, member.1 ∈ names →
      read (some member.2) = read none)
    (haliases : "links" ∈ names ↔ "edges" ∈ names)
    (hattributes : "graph" ∈ names → ∀ j j', Rewording Attributes.wording j j' →
      ∀ a, read (some j) = some a → read (some j') = some a)
    (hnodes : "nodes" ∈ names → ∀ j j', ItemRewording Node.wording j j' →
      ∀ a, read (some j) = some a → read (some j') = some a)
    (hlinks : "links" ∈ names → ∀ j j', ItemRewording Link.wording j j' →
      ∀ a, read (some j) = some a → read (some j') = some a) :
    Document.wording.Suits names read where
  known := hknown
  spare := hspare
  aliases a ha := by
    obtain rfl := List.mem_singleton.1 ha
    exact haliases
  inside name hname j j' hinside := by
    cases hinside with
    | attributes hw => exact hattributes hname j j' hw
    | node hw => exact hnodes hname j j' hw
    | link hlink hw =>
      rcases hlink with rfl | rfl
      · exact hlinks hname j j' hw
      · exact hlinks (haliases.2 hname) j j' hw

theorem Document.ofJson?_rewording {d : Document} (hw : Rewording Document.wording j j')
    (h : Document.ofJson? j = some d) : Document.ofJson? j' = some d := by
  obtain ⟨members, members', rfl, rfl⟩ := hw.exists_object
  rw [ofJson?_object_iff] at h ⊢
  obtain ⟨hdirected, hmultigraph, hattributes, hnodes, hlinks⟩ := h
  refine ⟨?_, ?_, ?_, ?_, ?_⟩
  · refine (Document.suits (by decide) ?_ (by decide) (by simp) (by simp)
      (by simp)).readField_rewording hw hdirected
    simp [wording, withDefault?, bool?]
  · refine (Document.suits (by decide) ?_ (by decide) (by simp) (by simp)
      (by simp)).readField_rewording hw hmultigraph
    simp [wording, withDefault?, bool?]
  · refine (Document.suits (by decide) ?_ (by decide) (fun _ _ _ hw _ => ?_) (by simp)
      (by simp)).readField_rewording hw hattributes
    · simp [wording, withDefault?, Attributes.ofJson?_toJson]
    · exact Attributes.ofJson?_rewording hw
  · refine (Document.suits (by decide) ?_ (by decide) (by simp) (fun _ _ _ hw _ => ?_)
      (by simp)).readField_rewording hw hnodes
    · simp [wording]
    · exact list?_of_itemRewording (fun _ _ _ => Node.ofJson?_rewording) hw
  · refine (Document.suits (by decide) ?_ (by decide) (by simp) (by simp)
      (fun _ _ _ hw _ => ?_)).readField_rewording hw hlinks
    · simp [wording, withDefault?, list?]
    · exact list?_of_itemRewording (fun _ _ _ => Link.ofJson?_rewording) hw

/-- The links cannot be given under both of their names. -/
theorem Document.ofJson?_eq_none_of_two (hlinks : "links" ∈ members.map (·.1))
    (hedges : "edges" ∈ members.map (·.1)) : Document.ofJson? (.object members) = none := by
  have hfield : field? ["links", "edges"] members = none :=
    field?_eq_none_of_two (by decide) (by decide) (by decide) hlinks hedges
  refine Option.eq_none_iff_forall_ne_some.2 fun d h => ?_
  have hread := (ofJson?_object_iff.1 h).2.2.2.2
  rw [readField, hfield] at hread
  cases hread

/-- **A document is read back from what is written of it**, in whatever words it is put: with the
members of its records in any order, with its links called edges, without what it says by default
and without properties that are empty, and with members of other names in any of its records. But
one that gives links and edges as well is not read. -/
theorem Document.read_back_reworded (d : Document) :
    (∀ j, Relation.ReflTransGen (Rewording Document.wording) d.toJson j →
      Document.ofJson? j = some d) ∧
    ∀ members : List (String × Json), "links" ∈ members.map (·.1) → "edges" ∈ members.map (·.1) →
      Document.ofJson? (.object members) = none := by
  refine ⟨fun j hj => ?_, fun members => ofJson?_eq_none_of_two⟩
  induction hj with
  | refl => exact ofJson?_toJson d
  | tail _ hstep ih => exact ofJson?_rewording hstep ih

/-- All that has to be there is a list of nodes. -/
example : Document.ofJson? (.object [("nodes", .array []), ("origin", .null)]) =
    some ⟨true, true, .none, [], []⟩ := rfl

end NodeLink

end PropertyGraph
