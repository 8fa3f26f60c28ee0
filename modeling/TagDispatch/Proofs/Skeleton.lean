import TagDispatch.Proofs.Occurrences

/-!
The skeleton of a tree. Leaving atoms out may bring a nested node to the front of its node, or leave
nothing of it; what the walks over the nodes see of the tree stays the same. The walks, the measures
and the skeleton are said here of a node and its children, and then follow each other.
-/

namespace TagDispatch

/-! ### Trees by their children -/

/-- A statement about trees holds of all if a tree has it from its children. -/
theorem Node.nested {P : Tree → Prop} (step : ∀ n : Tree, (∀ m ∈ n.children, P m) → P n)
    (n : Tree) : P n := by
  refine Element.nested (P := fun e => ∀ m, e.node? = some m → P m) nofun ?_ (.node n) n rfl
  intro n ih m hm
  cases hm
  refine step n fun m hm => ?_
  obtain ⟨e, he, found⟩ := List.mem_filterMap.1 hm
  exact ih e he m found

namespace Element

theorem listNodes_eq_flatMap (es : List Element) :
    listNodes es = (es.filterMap node?).flatMap fun m => m :: m.descendants := by
  induction es with
  | nil => rfl
  | cons e es ih =>
    rw [listNodes, ih]
    cases e <;> rfl

theorem listDepth_eq_foldr (es : List Element) :
    listDepth es = ((es.filterMap node?).map Node.depth).foldr max 0 := by
  induction es with
  | nil => rfl
  | cons e es ih =>
    rw [listDepth, ih]
    cases e with
    | atom a => exact Nat.zero_max _
    | node m => rfl

theorem listSkeleton_eq_map (es : List Element) :
    listSkeleton es = (es.filterMap node?).map fun m => .node m.skeleton := by
  induction es with
  | nil => rfl
  | cons e es ih =>
    rw [listSkeleton, ih]
    cases e <;> rfl

/-- What is put after the tag does not become the tag if it is a node. -/
theorem skeletonHead_append (es : List Element) (ms : List Tree) :
    skeletonHead (skeletonHead es ++ ms.map .node) = skeletonHead es := by
  cases es with
  | nil => cases ms <;> rfl
  | cons e es =>
    cases e with
    | atom a => rfl
    | node m => cases ms <;> rfl

end Element

namespace Node

theorem descendants_eq (n : Tree) :
    n.descendants = n.children.flatMap fun m => m :: m.descendants :=
  Element.listNodes_eq_flatMap n.elements

theorem depth_eq (n : Tree) : n.depth = 1 + (n.children.map depth).foldr max 0 :=
  congrArg (1 + ·) (Element.listDepth_eq_foldr n.elements)

theorem tag?_eq (n : Tree) :
    n.tag? = (Element.skeletonHead n.elements).head?.bind Element.atom? := by
  obtain ⟨es, fields, line⟩ := n
  cases es with
  | nil => rfl
  | cons e es => cases e <;> rfl

/-! ### The skeleton -/

theorem skeleton_elements (n : Tree) :
    n.skeleton.elements =
      Element.skeletonHead n.elements ++ (n.children.map skeleton).map .node := by
  rw [List.map_map]
  exact congrArg (Element.skeletonHead n.elements ++ ·) (Element.listSkeleton_eq_map n.elements)

theorem skeletonHead_skeleton (n : Tree) :
    Element.skeletonHead n.skeleton.elements = Element.skeletonHead n.elements := by
  rw [skeleton_elements, Element.skeletonHead_append]

theorem tag?_skeleton (n : Tree) : n.skeleton.tag? = n.tag? := by
  rw [tag?_eq, tag?_eq, skeletonHead_skeleton]

theorem children_skeleton (n : Tree) : n.skeleton.children = n.children.map skeleton := by
  have tag_only : (Element.skeletonHead n.elements).filterMap Element.node? = [] := by
    unfold Element.skeletonHead
    split <;> rfl
  rw [children, skeleton_elements, List.filterMap_append, tag_only, List.nil_append,
    List.filterMap_map]
  exact List.filterMap_some

theorem depth_skeleton (n : Tree) : n.skeleton.depth = n.depth := by
  induction n using Node.nested with
  | step n ih =>
    rw [depth_eq, depth_eq, children_skeleton, List.map_map]
    exact congrArg (fun ds => 1 + ds.foldr max 0) (List.map_congr_left ih)

theorem tags_skeleton (n : Tree) :
    n.skeleton.descendants.map tag? = n.descendants.map tag? := by
  induction n using Node.nested with
  | step n ih =>
    rw [descendants_eq, descendants_eq n, children_skeleton, List.flatMap_map, List.map_flatMap,
      List.map_flatMap, List.flatMap_def, List.flatMap_def]
    refine congrArg List.flatten (List.map_congr_left fun m hm => ?_)
    rw [List.map_cons, List.map_cons, ih m hm, tag?_skeleton]

theorem mass_skeleton (n : Tree) : n.skeleton.mass = n.mass := by
  rw [← length_descendants, ← length_descendants]
  simpa using congrArg List.length n.tags_skeleton

/-- How many nodes have a tag can be told from the tags alone. -/
theorem length_nodesTagged (n : Tree) (tag : String) :
    (n.nodesTagged tag).length =
      (n.descendants.map tag?).countP fun t => t.bind Atom.name? == some tag := by
  rw [(n.nodesTagged_perm tag).length_eq, List.countP_map, List.countP_eq_length_filter]
  rfl

/-- The atoms of a skeleton are tags: nothing is inside a tag, and it is the only element before the
children. -/
theorem getLast?_of_at?_skeleton (n : Tree) (path : List Nat) (a : Atom)
    (h : n.skeleton.at? path = some (.atom a)) : path.getLast? = some 0 := by
  induction path generalizing n with
  | nil => cases h
  | cons i path ih =>
    obtain ⟨e, found, there⟩ := Element.at?_node_eq_some_iff.1 h
    rw [skeleton_elements, List.getElem?_append] at found
    split at found
    · have tag_only : (Element.skeletonHead n.elements).length ≤ 1 := by
        unfold Element.skeletonHead
        split <;> simp
      obtain rfl : i = 0 := by omega
      unfold Element.skeletonHead at found
      split at found
      · cases found
        cases path with
        | nil => rfl
        | cons j path => cases there
      · cases found
    · obtain ⟨m, hm, rfl⟩ := List.mem_map.1 (List.mem_of_getElem? found)
      obtain ⟨m, -, rfl⟩ := List.mem_map.1 hm
      rw [List.getLast?_cons, ih m there]
      rfl

theorem skeleton_skeleton (n : Tree) : n.skeleton.skeleton = n.skeleton := by
  induction n using Node.nested with
  | step n ih =>
    have children : (n.children.map skeleton).map skeleton = n.children.map skeleton := by
      rw [List.map_map]
      exact List.map_congr_left ih
    have elements : n.skeleton.skeleton.elements = n.skeleton.elements := by
      rw [skeleton_elements n.skeleton, skeletonHead_skeleton, children_skeleton, children,
        skeleton_elements n]
    exact congrArg ofElements elements

/-- The skeleton of a tree has as many nodes and levels and the same tag. Its nodes have the same
tags in the same order, so there are as many of every tag. It has no atoms but tags, and it is its
own skeleton. -/
theorem skeleton_is_faithful (n : Tree) :
    n.skeleton.mass = n.mass ∧ n.skeleton.depth = n.depth ∧ n.skeleton.tag? = n.tag? ∧
    n.skeleton.descendants.map tag? = n.descendants.map tag? ∧
    (∀ tag, (n.skeleton.nodesTagged tag).length = (n.nodesTagged tag).length) ∧
    (∀ path a, n.skeleton.at? path = some (.atom a) → path.getLast? = some 0) ∧
    n.skeleton.skeleton = n.skeleton := by
  refine ⟨n.mass_skeleton, n.depth_skeleton, n.tag?_skeleton, n.tags_skeleton, fun tag => ?_,
    n.getLast?_of_at?_skeleton, n.skeleton_skeleton⟩
  rw [length_nodesTagged, length_nodesTagged, tags_skeleton]

end Node

/-- An empty node, a node that starts with another, and one whose tag names nothing. -/
def bareTree : Tree :=
  ⟨[.atom (.symbol "a"), .atom (.int 1), .node .empty,
    .node ⟨[.node (.tagged (.str "a")), .atom (.symbol "b")], ["x"], some 3⟩,
    .node (.ofElements [.atom (.float ⟨0x7ff8000000000001⟩), .atom .nil])], [], some 1⟩

/-- The string at `[2, 0, 0]` is the tag of a node that came to the front. -/
theorem skeleton_is_faithful_bare :
    (bareTree.skeleton.at? [2, 0, 0]).bind Element.atom? = some (.str "a") ∧
    [2, 0, 0].getLast? = some 0 ∧ bareTree.skeleton.mass = 5 ∧
    (bareTree.skeleton.nodesTagged "a").length = 1 ∧
    bareTree.skeleton.skeleton = bareTree.skeleton := by
  obtain ⟨mass, -, -, -, tagged, atoms, twice⟩ := bareTree.skeleton_is_faithful
  have there : bareTree.skeleton.at? [2, 0, 0] = some (.atom (.str "a")) := rfl
  refine ⟨congrArg (·.bind Element.atom?) there, atoms _ _ there, mass.trans (by decide), ?_, twice⟩
  exact (tagged "a").trans (by decide +kernel)

end TagDispatch
