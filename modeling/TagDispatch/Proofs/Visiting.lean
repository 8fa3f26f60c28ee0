import TagDispatch.Proofs.Occurrences

/-!
Changing the nodes of one tag while walking over them. The walk goes on inside the tree that it is
changing and looks at a tag only after what is inside the node was changed. Still it visits what
the walk over the unchanged tree meets, in the same order and whatever is done to the nodes.
-/

namespace TagDispatch

variable {σ : Type}

/-- The callback is run on one node after the other, from the state that the run before it left. Of
each run there is what it was shown and what it gave back. -/
inductive Threads (f : Tree → σ → Tree × σ) : σ → List (Tree × Tree) → σ → Prop
  | done (s : σ) : Threads f s [] s
  | visit {s mid t : σ} {shown given : Tree} {rest : List (Tree × Tree)}
      (run : f shown s = (given, mid)) (after : Threads f mid rest t) :
      Threads f s ((shown, given) :: rest) t

theorem Threads.append {f : Tree → σ → Tree × σ} {s mid t : σ} {first rest : List (Tree × Tree)}
    (h : Threads f s first mid) (after : Threads f mid rest t) : Threads f s (first ++ rest) t := by
  induction h with
  | done => exact after
  | visit run _ ih => exact .visit run (ih after)

/-! ### Trees with other nodes in the places of the matches -/

mutual

/-- The outermost nodes tagged `tag` give way to what is given for their paths. -/
def Element.patched (tag : String) (given : List Nat → Tree) : Element → Element
  | .atom a => .atom a
  | .node ⟨es, fields, line⟩ =>
    if (⟨es, fields, line⟩ : Tree).tagName? = some tag then .node (given [])
    else .node ⟨Element.listPatched tag given 0 es, fields, line⟩

def Element.listPatched (tag : String) (given : List Nat → Tree) (i : Nat) :
    List Element → List Element
  | [] => []
  | e :: es =>
    e.patched tag (fun path => given (i :: path)) :: Element.listPatched tag given (i + 1) es

end

/-- The nodes inside a tree give way, never the tree itself. -/
def Node.patched (tag : String) (given : List Nat → Tree) (n : Tree) : Tree :=
  { n with elements := Element.listPatched tag given 0 n.elements }

/-- How the callback is run on a node: the matches inside it have given way already. -/
def Occurrence.call (tag : String) (given : List Nat → Tree) (x : Occurrence) : Tree × Tree :=
  (x.node.patched tag fun path => given (x.path ++ path), given x.path)

theorem Occurrence.call_under (tag : String) (given : List Nat → Tree) (i : Nat) (x : Occurrence) :
    (x.under i).call tag given = x.call tag fun path => given (i :: path) := rfl

namespace Element

variable {tag : String} {given other : List Nat → Tree}

theorem patched_node (tag : String) (given : List Nat → Tree) (n : Tree) :
    (Element.node n).patched tag given =
      if n.tagName? = some tag then .node (given []) else .node (n.patched tag given) := rfl

/-- Only what is given from index `i` on matters. -/
theorem listPatched_congr {i : Nat} (h : ∀ j path, i ≤ j → given (j :: path) = other (j :: path))
    (es : List Element) : listPatched tag given i es = listPatched tag other i es := by
  induction es generalizing i with
  | nil => rfl
  | cons e es ih =>
    rw [listPatched, listPatched, ih fun j path hj => h j path (by omega)]
    rw [funext fun path => h i path (Nat.le_refl i)]

theorem getElem?_listPatched (tag : String) (given : List Nat → Tree) (i k : Nat)
    (es : List Element) : (listPatched tag given i es)[k]? =
      es[k]?.map fun e => e.patched tag fun path => given ((i + k) :: path) := by
  induction es generalizing i k with
  | nil => rfl
  | cons e es ih =>
    cases k with
    | zero => rfl
    | succ k =>
      rw [listPatched, List.getElem?_cons_succ, List.getElem?_cons_succ, ih, Nat.add_assoc,
        Nat.add_comm 1 k]

theorem length_listPatched (tag : String) (given : List Nat → Tree) (i : Nat)
    (es : List Element) : (listPatched tag given i es).length = es.length := by
  induction es generalizing i with
  | nil => rfl
  | cons e es ih => rw [listPatched, List.length_cons, ih, List.length_cons]

end Element

/-- The tag is an element of the node itself and stays. A node in front gives way to a node. -/
theorem Node.tagName?_patched (tag : String) (given : List Nat → Tree) (n : Tree) :
    (n.patched tag given).tagName? = n.tagName? := by
  obtain ⟨es, fields, line⟩ := n
  cases es with
  | nil => rfl
  | cons e es =>
    cases e with
    | atom a => rfl
    | node m =>
      rw [Node.patched, Element.listPatched, Element.patched_node]
      split <;> rfl

/-! ### The walk -/

namespace Element

variable {tag : String}

theorem exists_under_of_mem_listMatched {i : Nat} {es : List Element} {x : Occurrence}
    (h : x ∈ listMatched tag i es) : ∃ j, ∃ y : Occurrence, i ≤ j ∧ x = y.under j := by
  obtain ⟨k, -, y, -, -, rfl⟩ := mem_listOccurrences.1 (List.mem_filter.1 h).1
  exact ⟨i + k, y, Nat.le_add_right i k, rfl⟩

/-- Only what is given from index `i` on matters to the runs there. -/
theorem listMatched_call_congr {given other : List Nat → Tree} {i : Nat}
    (h : ∀ j path, i ≤ j → given (j :: path) = other (j :: path)) (es : List Element) :
    (listMatched tag i es).map (Occurrence.call tag given) =
      (listMatched tag i es).map (Occurrence.call tag other) := by
  refine List.map_congr_left fun x hx => ?_
  obtain ⟨j, y, hj, rfl⟩ := exists_under_of_mem_listMatched hx
  rw [Occurrence.call_under, Occurrence.call_under, funext fun path => h j path hj]

mutual

/-- What is given for a path is what the callback gave back there, for the node itself what it gives
back last. -/
theorem updateTagged_visits (tag : String) (f : Tree → σ → Tree × σ) (e : Element) (s : σ) :
    ∃ given,
      Threads f s ((e.matched tag).map (Occurrence.call tag given)) (e.updateTagged tag f s).2 ∧
        (e.updateTagged tag f s).1 = e.patched tag given := by
  cases e with
  | atom a => exact ⟨fun _ => .empty, .done s, rfl⟩
  | node n =>
    obtain ⟨es, fields, line⟩ := n
    obtain ⟨given, visits, result⟩ := updateList_visits tag f es s 0
    let n : Tree := ⟨es, fields, line⟩
    have update : (Element.node n).updateTagged tag f s =
        if n.tagName? = some tag then
          (.node (f (n.patched tag given) (updateList tag f es s).2).1,
            (f (n.patched tag given) (updateList tag f es s).2).2)
        else (.node (n.patched tag given), (updateList tag f es s).2) := by
      rw [updateTagged, result, ← n.tagName?_patched tag given]
      rfl
    by_cases h : n.tagName? = some tag
    · let last := f (n.patched tag given) (updateList tag f es s).2
      let given' : List Nat → Tree
        | [] => last.1
        | i :: path => given (i :: path)
      have inner : ∀ j path, 0 ≤ j → given' (j :: path) = given (j :: path) := fun _ _ _ => rfl
      have shown : n.patched tag given' = n.patched tag given := by
        rw [Node.patched, Node.patched, listPatched_congr inner]
      rw [update, if_pos h, matched_node, if_pos h]
      refine ⟨given', ?_, (if_pos h).symm⟩
      rw [List.map_append, listMatched_call_congr inner]
      refine visits.append (.visit ?_ (.done last.2))
      exact congrArg (f · (updateList tag f es s).2) shown
    · rw [update, if_neg h, matched_node, if_neg h, List.append_nil]
      exact ⟨given, visits, (if_neg h).symm⟩

theorem updateList_visits (tag : String) (f : Tree → σ → Tree × σ) (es : List Element) (s : σ)
    (i : Nat) : ∃ given,
      Threads f s ((listMatched tag i es).map (Occurrence.call tag given))
        (updateList tag f es s).2 ∧ (updateList tag f es s).1 = listPatched tag given i es := by
  cases es with
  | nil => exact ⟨fun _ => .empty, .done s, rfl⟩
  | cons e es =>
    obtain ⟨first, visits, result⟩ := updateTagged_visits tag f e s
    obtain ⟨rest, visits', result'⟩ :=
      updateList_visits tag f es (e.updateTagged tag f s).2 (i + 1)
    let given : List Nat → Tree
      | [] => .empty
      | j :: path => if j = i then first path else rest (j :: path)
    have here (path : List Nat) : given (i :: path) = first path := if_pos rfl
    have there : ∀ j path, i + 1 ≤ j → given (j :: path) = rest (j :: path) :=
      fun j path hj => if_neg (by omega)
    refine ⟨given, ?_, ?_⟩
    · have calls : (e.matched tag).map (Occurrence.call tag given ∘ .under i) =
          (e.matched tag).map (Occurrence.call tag first) := by
        refine List.map_congr_left fun x _ => ?_
        rw [Function.comp, Occurrence.call_under, funext here]
      rw [listMatched_cons, List.map_append, List.map_map, calls, listMatched_call_congr there]
      exact visits.append visits'
    · rw [updateList, listPatched, listPatched_congr there, funext here, result, result']

end

/-- Where no match is met on the way, there is what was there before. -/
theorem framed_patched (tag : String) (path : List Nat) (e : Element) (given : List Nat → Tree)
    (h : ∀ p m, p <+: path → e.at? p = some (.node m) → m.tagName? ≠ some tag) :
    Option.Rel (Framed Eq) (e.at? path) ((e.patched tag given).at? path) := by
  induction path generalizing e given with
  | nil =>
    cases e with
    | atom a => exact .some (.atom rfl)
    | node n =>
      rw [patched_node, if_neg (h [] n List.nil_prefix rfl)]
      exact .some (.node (length_listPatched tag given 0 n.elements) rfl rfl)
  | cons i path ih =>
    cases e with
    | atom a => exact .none
    | node n =>
      rw [patched_node, if_neg (h [] n List.nil_prefix rfl), at?_node_cons, at?_node_cons,
        Node.patched, getElem?_listPatched, Nat.zero_add]
      cases found : n.elements[i]? with
      | none => exact .none
      | some x =>
        refine ih x _ fun p m hp there => h (i :: p) m (List.cons_prefix_cons.2 ⟨rfl, hp⟩) ?_
        exact at?_node_eq_some_iff.2 ⟨x, found, there⟩

end Element

namespace Node

theorem framed_patched (n : Tree) (tag : String) (given : List Nat → Tree) (path : List Nat)
    (h : ∀ x ∈ n.matched tag, ¬ x.path <+: path) :
    Option.Rel (Element.Framed Eq) (n.at? path) ((n.patched tag given).at? path) := by
  cases path with
  | nil => exact .some (.node (Element.length_listPatched tag given 0 n.elements) rfl rfl)
  | cons i path =>
    rw [Node.at?, Node.at?, Element.at?_node_cons, Element.at?_node_cons, Node.patched,
      Element.getElem?_listPatched]
    cases found : n.elements[i]? with
    | none => exact .none
    | some x =>
      refine Element.framed_patched tag path x _ fun p m hp there same => ?_
      have here : n.at? (i :: p) = some (.node m) :=
        Element.at?_node_eq_some_iff.2 ⟨x, found, there⟩
      exact h ⟨i :: p, m⟩ (mem_matched.2 ⟨List.cons_ne_nil i p, here, same⟩)
        (List.cons_prefix_cons.2 ⟨rfl, hp⟩)

/-- A walk that changes the nodes of one tag visits what the walk over the unchanged tree meets, in
the same order, whatever the callback does. It is shown each of these nodes as the tree had it, but
with what it gave back before in the places of the matches inside. In the end what it gave back
last stands in the places of the outermost matches; where there is no match at a path or on the way
to it, there is the same atom, or a node of the same length, line and field names. -/
theorem changing_visits_what_reading_meets (n : Tree) (tag : String) (f : Tree → σ → Tree × σ)
    (s : σ) :
    n.nodesTagged tag = (n.matched tag).map Occurrence.node ∧
    (∀ path m, ⟨path, m⟩ ∈ n.matched tag ↔
      path ≠ [] ∧ n.at? path = some (.node m) ∧ m.tagName? = some tag) ∧
    (n.matched tag).Pairwise (fun x y => x.Inside y ∨ x.LeftOf y) ∧
    (∃ given : List Nat → Tree,
      Threads f s ((n.matched tag).map fun x =>
        (x.node.patched tag fun path => given (x.path ++ path), given x.path))
        (n.updateTagged tag f s).2 ∧
      (n.updateTagged tag f s).1 = n.patched tag given) ∧
    ∀ path, (∀ x ∈ n.matched tag, ¬ x.path <+: path) →
      Option.Rel (Element.Framed Eq) (n.at? path) ((n.updateTagged tag f s).1.at? path) := by
  obtain ⟨given, visits, result⟩ := Element.updateList_visits tag f n.elements s 0
  have patch : (n.updateTagged tag f s).1 = n.patched tag given := by
    rw [updateTagged, Node.patched, result]
  refine ⟨(n.matched_map_node tag).symm, fun _ _ => mem_matched, n.matched_sorted tag,
    ⟨given, visits, patch⟩, fun path outside => ?_⟩
  rw [patch]
  exact n.framed_patched tag given path outside

end Node

/-- Empties the first node, puts another match into the second one and gives the rest a new tag. -/
def unruly (n : Tree) (k : Nat) : Tree × Nat :=
  match k with
  | 0 => (.empty, 1)
  | 1 => (n.push (.node (.tagged (.symbol "a"))), 2)
  | k => (.tagged (.symbol "b"), k + 1)

/-- A match in a match, a match that starts with a string, and one inside another node. -/
def unrulyTree : Tree :=
  ⟨[.atom (.symbol "a"), .node (.ofElements [.atom (.symbol "a"), .node (.tagged (.str "a"))]),
    .node ⟨[.node (.tagged (.symbol "a")), .atom (.symbol "a")], ["first"], some 2⟩], ["x"], none⟩

/-- The node at `[2]` keeps its length, line and field names, while its first element is changed. -/
theorem changing_visits_what_reading_meets_unruly :
    (unrulyTree.matched "a").map Occurrence.path = [[1, 1], [1], [2, 0]] ∧
    (∀ x ∈ unrulyTree.matched "a", ¬ x.path <+: [2]) ∧
    (unrulyTree.updateTagged "a" unruly 0).2 = 3 ∧
    Option.Rel (Element.Framed Eq) (unrulyTree.at? [2])
      ((unrulyTree.updateTagged "a" unruly 0).1.at? [2]) := by
  have outside : ∀ x ∈ unrulyTree.matched "a", ¬ x.path <+: [2] := by decide +kernel
  exact ⟨by decide +kernel, outside, by decide +kernel,
    (unrulyTree.changing_visits_what_reading_meets "a" unruly 0).2.2.2.2 [2] outside⟩

end TagDispatch
