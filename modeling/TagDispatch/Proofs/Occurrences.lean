import TagDispatch.Proofs.Paths

/-!
Which nodes the walks over a tree meet, and in which order. Equal subtrees may stand in several
places, so the nodes are listed with their paths. Two orders are enough: a node before all that is
inside it, or after it; either way the nodes beside each other come from left to right. The walk
over all nodes has the first order, the walk over the nodes of one tag the second, and both meet
what the paths of the tree lead to, once each.
-/

namespace TagDispatch

/-- A node in a tree, with the path that leads to it. -/
structure Occurrence where
  path : List Nat
  node : Tree

namespace Occurrence

/-- The occurrence as it is seen one level further out, from where it is inside of element `i`. -/
def under (i : Nat) (x : Occurrence) : Occurrence := ⟨i :: x.path, x.node⟩

/-- The path to the first one goes on where the path to the second one ends. -/
def Inside (x y : Occurrence) : Prop := ∃ i path, x.path = y.path ++ i :: path

/-- The paths part somewhere, and there the first one goes further to the left. -/
def LeftOf (x y : Occurrence) : Prop :=
  ∃ common i j left right, x.path = common ++ i :: left ∧ y.path = common ++ j :: right ∧ i < j

def hasTag (tag : String) (x : Occurrence) : Bool := x.node.tagName? == some tag

/-- The node is an element of the tree itself. -/
def isChild (x : Occurrence) : Bool := x.path.length == 1

variable {x y : Occurrence}

theorem Inside.under (h : x.Inside y) (i : Nat) : (x.under i).Inside (y.under i) := by
  obtain ⟨j, path, hx⟩ := h
  exact ⟨j, path, congrArg (i :: ·) hx⟩

theorem LeftOf.under (h : x.LeftOf y) (i : Nat) : (x.under i).LeftOf (y.under i) := by
  obtain ⟨common, j, k, left, right, hx, hy, lt⟩ := h
  exact ⟨i :: common, j, k, left, right, congrArg (i :: ·) hx, congrArg (i :: ·) hy, lt⟩

theorem leftOf_of_lt (x y : Occurrence) {i j : Nat} (h : i < j) :
    (x.under i).LeftOf (y.under j) := ⟨[], i, j, x.path, y.path, rfl, rfl, h⟩

theorem inside_root (x : Occurrence) (i : Nat) (n : Tree) : (x.under i).Inside ⟨[], n⟩ :=
  ⟨i, x.path, rfl⟩

theorem Inside.path_ne (h : x.Inside y) : x.path ≠ y.path := by
  obtain ⟨i, path, hx⟩ := h
  intro same
  have length := congrArg List.length (same.symm.trans hx)
  rw [List.length_append, List.length_cons] at length
  omega

theorem LeftOf.path_ne (h : x.LeftOf y) : x.path ≠ y.path := by
  obtain ⟨common, i, j, left, right, hx, hy, lt⟩ := h
  intro same
  rw [hx, hy] at same
  have heads := (List.cons.inj (List.append_cancel_left same)).1
  omega

end Occurrence

/-- When a walk meets a node: before the nodes inside it, or after them. -/
inductive WalkOrder where
  | outerFirst
  | innerFirst

namespace WalkOrder

variable {α β : Type}

/-- Puts a node before or after those inside it. -/
def join : WalkOrder → α → List α → List α
  | outerFirst, x, inner => x :: inner
  | innerFirst, x, inner => inner ++ [x]

/-- Which of two occurrences the walk meets first. -/
def Before (o : WalkOrder) (x y : Occurrence) : Prop :=
  (match o with
    | outerFirst => y.Inside x
    | innerFirst => x.Inside y) ∨ x.LeftOf y

@[simp] theorem mem_join {o : WalkOrder} {x y : α} {inner : List α} :
    y ∈ o.join x inner ↔ y = x ∨ y ∈ inner := by
  cases o
  · exact List.mem_cons
  · rw [join, List.mem_append, List.mem_singleton, or_comm]

theorem map_join (o : WalkOrder) (f : α → β) (x : α) (inner : List α) :
    (o.join x inner).map f = o.join (f x) (inner.map f) := by
  cases o <;> simp [join]

/-- Only the outer one passes a test that nothing inside it passes. -/
theorem filter_join_of_inner (o : WalkOrder) {test : α → Bool} {x : α} {inner : List α}
    (hx : test x = true) (hinner : ∀ y ∈ inner, test y = false) :
    (o.join x inner).filter test = [x] := by
  have none_inside : inner.filter test = [] := by simpa using hinner
  cases o <;> simp [join, hx, none_inside]

theorem Before.under {o : WalkOrder} {x y : Occurrence} (h : o.Before x y) (i : Nat) :
    o.Before (x.under i) (y.under i) := by
  rcases h with nested | left
  · cases o <;> exact .inl (nested.under i)
  · exact .inr (left.under i)

theorem Before.path_ne {o : WalkOrder} {x y : Occurrence} (h : o.Before x y) :
    x.path ≠ y.path := by
  rcases h with nested | left
  · cases o
    · exact nested.path_ne.symm
    · exact nested.path_ne
  · exact left.path_ne

theorem pairwise_join {o : WalkOrder} {x : Occurrence} {inner : List Occurrence}
    (sorted : inner.Pairwise o.Before) (hx : ∀ y ∈ inner, y.Inside x) :
    (o.join x inner).Pairwise o.Before := by
  cases o with
  | outerFirst => exact List.pairwise_cons.2 ⟨fun y hy => .inl (hx y hy), sorted⟩
  | innerFirst =>
    refine List.pairwise_append.2 ⟨sorted, List.pairwise_singleton _ _, fun y hy z hz => ?_⟩
    rw [List.mem_singleton.1 hz]
    exact .inl (hx y hy)

end WalkOrder

/-! ### The occurrences in a tree -/

namespace Element

mutual

/-- The nodes of an element, the element itself included, with the paths to them. -/
def occurrences (o : WalkOrder) : Element → List Occurrence
  | .atom _ => []
  | .node ⟨es, fields, line⟩ => o.join ⟨[], ⟨es, fields, line⟩⟩ (listOccurrences o 0 es)

/-- The nodes of elements that stand in a node from index `i` on. -/
def listOccurrences (o : WalkOrder) (i : Nat) : List Element → List Occurrence
  | [] => []
  | e :: es => (e.occurrences o).map (.under i) ++ listOccurrences o (i + 1) es

end

/-- The nodes tagged `tag` with their paths, as a walk over the nodes of one tag meets them. -/
def matched (tag : String) (e : Element) : List Occurrence :=
  (e.occurrences .innerFirst).filter (Occurrence.hasTag tag)

def listMatched (tag : String) (i : Nat) (es : List Element) : List Occurrence :=
  (listOccurrences .innerFirst i es).filter (Occurrence.hasTag tag)

theorem occurrences_node (o : WalkOrder) (n : Tree) :
    (Element.node n).occurrences o = o.join ⟨[], n⟩ (listOccurrences o 0 n.elements) := rfl

theorem matched_node (tag : String) (n : Tree) :
    (Element.node n).matched tag =
      listMatched tag 0 n.elements ++ if n.tagName? = some tag then [⟨[], n⟩] else [] := by
  rw [matched, occurrences_node, WalkOrder.join, List.filter_append, listMatched]
  congr 1
  by_cases h : n.tagName? = some tag <;> simp [Occurrence.hasTag, h]

theorem listMatched_cons (tag : String) (i : Nat) (e : Element) (es : List Element) :
    listMatched tag i (e :: es) = (e.matched tag).map (.under i) ++ listMatched tag (i + 1) es := by
  rw [listMatched, listOccurrences, List.filter_append, List.filter_map]
  rfl

theorem mem_listOccurrences {o : WalkOrder} {i : Nat} {es : List Element} {x : Occurrence} :
    x ∈ listOccurrences o i es ↔
      ∃ (k : Nat) (e : Element) (y : Occurrence),
        es[k]? = some e ∧ y ∈ e.occurrences o ∧ x = y.under (i + k) := by
  induction es generalizing i with
  | nil => simp [listOccurrences]
  | cons e es ih =>
    rw [listOccurrences, List.mem_append, List.mem_map, ih]
    constructor
    · rintro (⟨y, hy, rfl⟩ | ⟨k, e', y, he, hy, rfl⟩)
      · exact ⟨0, e, y, rfl, hy, rfl⟩
      · exact ⟨k + 1, e', y, he, hy, by rw [Nat.add_assoc, Nat.add_comm 1 k]⟩
    · rintro ⟨_ | k, e', y, he, hy, rfl⟩
      · cases he
        exact .inl ⟨y, hy, rfl⟩
      · exact .inr ⟨k, e', y, he, hy, by rw [Nat.add_assoc, Nat.add_comm 1 k]⟩

/-- Whatever the order, the nodes in the list are those that paths lead to. -/
theorem mem_occurrences {o : WalkOrder} {e : Element} {path : List Nat} {m : Tree} :
    ⟨path, m⟩ ∈ e.occurrences o ↔ e.at? path = some (.node m) := by
  induction path generalizing e with
  | nil =>
    cases e with
    | atom a => simp [occurrences, Element.at?]
    | node n =>
      rw [occurrences_node, WalkOrder.mem_join, mem_listOccurrences, Element.at?]
      constructor
      · rintro (here | ⟨k, e, y, -, -, there⟩)
        · cases here
          rfl
        · cases congrArg Occurrence.path there
      · intro here
        cases here
        exact .inl rfl
  | cons i path ih =>
    cases e with
    | atom a => simp [occurrences, Element.at?]
    | node n =>
      rw [occurrences_node, WalkOrder.mem_join, mem_listOccurrences, Element.at?_node_eq_some_iff]
      constructor
      · rintro (here | ⟨k, e, ⟨p, m⟩, he, hy, there⟩)
        · cases congrArg Occurrence.path here
        · rw [Nat.zero_add] at there
          cases there
          exact ⟨e, he, ih.1 hy⟩
      · rintro ⟨e, he, there⟩
        exact .inr ⟨i, e, ⟨path, m⟩, he, ih.2 there, by rw [Nat.zero_add]; rfl⟩

mutual

theorem occurrences_sorted (o : WalkOrder) (e : Element) :
    (e.occurrences o).Pairwise o.Before := by
  cases e with
  | atom a => exact .nil
  | node n =>
    obtain ⟨es, fields, line⟩ := n
    refine WalkOrder.pairwise_join (listOccurrences_sorted o 0 es) fun x hx => ?_
    obtain ⟨k, e, y, -, -, rfl⟩ := mem_listOccurrences.1 hx
    exact y.inside_root _ _

theorem listOccurrences_sorted (o : WalkOrder) (i : Nat) (es : List Element) :
    (listOccurrences o i es).Pairwise o.Before := by
  cases es with
  | nil => exact .nil
  | cons e es =>
    refine List.pairwise_append.2 ⟨?_, listOccurrences_sorted o (i + 1) es, fun x hx z hz => ?_⟩
    · exact List.pairwise_map.2 ((occurrences_sorted o e).imp fun before => before.under i)
    · obtain ⟨y, -, rfl⟩ := List.mem_map.1 hx
      obtain ⟨k, -, y', -, -, rfl⟩ := mem_listOccurrences.1 hz
      exact .inr (Occurrence.leftOf_of_lt y y' (by omega))

end

/-! ### What the walks meet -/

mutual

theorem occurrences_map_node (e : Element) :
    (e.occurrences .outerFirst).map Occurrence.node = e.nodes := by
  cases e with
  | atom a => rfl
  | node n =>
    obtain ⟨es, fields, line⟩ := n
    rw [occurrences, WalkOrder.map_join, listOccurrences_map_node 0 es]
    rfl

theorem listOccurrences_map_node (i : Nat) (es : List Element) :
    (listOccurrences .outerFirst i es).map Occurrence.node = listNodes es := by
  cases es with
  | nil => rfl
  | cons e es =>
    rw [listOccurrences, List.map_append, List.map_map, listOccurrences_map_node (i + 1) es,
      listNodes, ← occurrences_map_node e]
    rfl

end

mutual

theorem matched_map_node (tag : String) (e : Element) :
    (e.matched tag).map Occurrence.node = e.nodesTagged tag := by
  cases e with
  | atom a => rfl
  | node n =>
    obtain ⟨es, fields, line⟩ := n
    rw [matched_node, List.map_append, listMatched_map_node tag 0 es, nodesTagged]
    congr 1
    split <;> rfl

theorem listMatched_map_node (tag : String) (i : Nat) (es : List Element) :
    (listMatched tag i es).map Occurrence.node = listTagged tag es := by
  cases es with
  | nil => rfl
  | cons e es =>
    rw [listMatched_cons, List.map_append, List.map_map, listMatched_map_node tag (i + 1) es,
      listTagged, ← matched_map_node tag e]
    rfl

end

mutual

theorem length_nodes (e : Element) : e.nodes.length = e.mass := by
  cases e with
  | atom a => rfl
  | node n =>
    obtain ⟨es, fields, line⟩ := n
    rw [nodes, List.length_cons, length_listNodes es, mass, Nat.add_comm]

theorem length_listNodes (es : List Element) : (listNodes es).length = listMass es := by
  cases es with
  | nil => rfl
  | cons e es => rw [listNodes, List.length_append, length_nodes e, length_listNodes es, listMass]

end

/-- Whatever the order, the occurrences one level down are the nodes among the elements. -/
theorem listOccurrences_children (o : WalkOrder) (i : Nat) (es : List Element) :
    ((listOccurrences o i es).filter Occurrence.isChild).map Occurrence.node =
      es.filterMap Element.node? := by
  induction es generalizing i with
  | nil => rfl
  | cons e es ih =>
    rw [listOccurrences, List.filter_append, List.map_append, ih]
    cases e with
    | atom a => rfl
    | node n =>
      have deeper : ∀ y ∈ (listOccurrences o 0 n.elements).map (Occurrence.under i),
          y.isChild = false := by
        intro y hy
        obtain ⟨z, hz, rfl⟩ := List.mem_map.1 hy
        obtain ⟨k, -, w, -, -, rfl⟩ := mem_listOccurrences.1 hz
        simp [Occurrence.isChild, Occurrence.under]
      rw [occurrences_node, WalkOrder.map_join, o.filter_join_of_inner rfl deeper]
      rfl

end Element

namespace Node

/-- The nested nodes with their paths. -/
def occurrences (n : Tree) (o : WalkOrder) : List Occurrence :=
  Element.listOccurrences o 0 n.elements

/-- The nested nodes tagged `tag` with their paths, as a walk over the nodes of one tag meets
them. -/
def matched (n : Tree) (tag : String) : List Occurrence := Element.listMatched tag 0 n.elements

variable {n m : Tree} {o : WalkOrder} {path : List Nat} {tag : String}

theorem mem_occurrences :
    ⟨path, m⟩ ∈ n.occurrences o ↔ path ≠ [] ∧ n.at? path = some (.node m) := by
  have all : ⟨path, m⟩ ∈ (Element.node n).occurrences o ↔ n.at? path = some (.node m) :=
    Element.mem_occurrences
  rw [Element.occurrences_node, WalkOrder.mem_join] at all
  constructor
  · intro nested
    refine ⟨?_, all.1 (.inr nested)⟩
    obtain ⟨k, e, y, -, -, same⟩ := Element.mem_listOccurrences.1 nested
    rw [show path = _ from congrArg Occurrence.path same]
    exact List.cons_ne_nil _ _
  · rintro ⟨below, there⟩
    rcases all.2 there with root | nested
    · exact absurd (congrArg Occurrence.path root) below
    · exact nested

theorem occurrences_sorted (n : Tree) (o : WalkOrder) : (n.occurrences o).Pairwise o.Before :=
  Element.listOccurrences_sorted o 0 n.elements

theorem occurrences_nodup (n : Tree) (o : WalkOrder) :
    ((n.occurrences o).map Occurrence.path).Nodup :=
  List.pairwise_map.2 ((n.occurrences_sorted o).imp WalkOrder.Before.path_ne)

/-- The order of a walk does not matter to what it meets. -/
theorem occurrences_perm (n : Tree) (o u : WalkOrder) :
    (n.occurrences o).Perm (n.occurrences u) := by
  have once (o : WalkOrder) : (n.occurrences o).Nodup :=
    (n.occurrences_sorted o).imp fun before same => before.path_ne (congrArg Occurrence.path same)
  exact (List.perm_ext_iff_of_nodup (once o) (once u)).2 fun x =>
    mem_occurrences.trans mem_occurrences.symm

theorem occurrences_map_node (n : Tree) :
    (n.occurrences .outerFirst).map Occurrence.node = n.descendants :=
  Element.listOccurrences_map_node 0 n.elements

theorem matched_map_node (n : Tree) (tag : String) :
    (n.matched tag).map Occurrence.node = n.nodesTagged tag :=
  Element.listMatched_map_node tag 0 n.elements

theorem mem_matched :
    ⟨path, m⟩ ∈ n.matched tag ↔
      path ≠ [] ∧ n.at? path = some (.node m) ∧ m.tagName? = some tag := by
  rw [matched, Element.listMatched, List.mem_filter, ← occurrences, mem_occurrences,
    Occurrence.hasTag, beq_iff_eq, and_assoc]

theorem matched_sorted (n : Tree) (tag : String) :
    (n.matched tag).Pairwise WalkOrder.innerFirst.Before :=
  (n.occurrences_sorted .innerFirst).filter _

theorem nodesTagged_perm (n : Tree) (tag : String) :
    (n.nodesTagged tag).Perm (n.descendants.filter (·.tagName? == some tag)) := by
  rw [← matched_map_node, ← occurrences_map_node, List.filter_map]
  exact ((n.occurrences_perm .innerFirst .outerFirst).filter (Occurrence.hasTag tag)).map _

theorem length_descendants (n : Tree) : n.descendants.length + 1 = n.mass := by
  rw [descendants, Element.length_listNodes, mass, Nat.add_comm]

theorem childrenTagged_eq (n : Tree) (tag : String) (o : WalkOrder) :
    n.childrenTagged tag = (((n.occurrences o).filter (Occurrence.hasTag tag)).filter
      Occurrence.isChild).map Occurrence.node := by
  have children := Element.listOccurrences_children o 0 n.elements
  rw [childrenTagged, Node.children, ← children, List.filter_map, List.filter_filter,
    List.filter_filter]
  congr 2
  funext x
  exact Bool.and_comm _ _

/-- The walks over a tree meet the same nodes. The walk over all nodes meets what the paths that
lead inside lead to, once each, a node before those inside it: one less than the tree has nodes. The
walk over the nodes of one tag meets those of them with the tag, a node after those inside it. Both
go from left to right, and the elements of the tree itself with that tag are met in their order. -/
theorem walks_meet_same_nodes (n : Tree) :
    n.descendants = (n.occurrences .outerFirst).map Occurrence.node ∧
    n.descendants.length + 1 = n.mass ∧
    (∀ path m, ⟨path, m⟩ ∈ n.occurrences .outerFirst ↔
      path ≠ [] ∧ n.at? path = some (.node m)) ∧
    ((n.occurrences .outerFirst).map Occurrence.path).Nodup ∧
    (n.occurrences .outerFirst).Pairwise (fun x y => y.Inside x ∨ x.LeftOf y) ∧
    ∀ tag,
      n.nodesTagged tag = (n.matched tag).map Occurrence.node ∧
      (n.matched tag).Perm ((n.occurrences .outerFirst).filter (Occurrence.hasTag tag)) ∧
      (n.nodesTagged tag).Perm (n.descendants.filter (·.tagName? == some tag)) ∧
      (n.matched tag).Pairwise (fun x y => x.Inside y ∨ x.LeftOf y) ∧
      n.childrenTagged tag =
        ((n.matched tag).filter Occurrence.isChild).map Occurrence.node ∧
      n.childrenTagged tag = (((n.occurrences .outerFirst).filter (Occurrence.hasTag tag)).filter
        Occurrence.isChild).map Occurrence.node ∧
      n.childTagged? tag = (n.childrenTagged tag).head? := by
  refine ⟨n.occurrences_map_node.symm, n.length_descendants, fun _ _ => mem_occurrences,
    n.occurrences_nodup .outerFirst, n.occurrences_sorted .outerFirst, fun tag =>
    ⟨(n.matched_map_node tag).symm, ?_, n.nodesTagged_perm tag, n.matched_sorted tag,
      n.childrenTagged_eq tag .innerFirst, n.childrenTagged_eq tag .outerFirst, ?_⟩⟩
  · exact (n.occurrences_perm .innerFirst .outerFirst).filter _
  · exact List.head?_filter.symm

end Node

end TagDispatch
