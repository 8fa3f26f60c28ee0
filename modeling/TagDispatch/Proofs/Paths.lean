import TagDispatch.Tree.Walk

/-!
Places in a tree. A path is the list of the indices that lead to an element from the outside in, so
what is said of every path is said of every depth.
-/

namespace TagDispatch

mutual

/-- A statement about elements holds of all if a node has it from what is inside. -/
theorem Element.nested {P : Element → Prop} (leaf : ∀ a, P (.atom a))
    (inner : ∀ n : Tree, (∀ e ∈ n.elements, P e) → P (.node n)) (e : Element) : P e := by
  cases e with
  | atom a => exact leaf a
  | node n =>
    obtain ⟨es, fields, line⟩ := n
    exact inner ⟨es, fields, line⟩ (Element.nested_list leaf inner es)

theorem Element.nested_list {P : Element → Prop} (leaf : ∀ a, P (.atom a))
    (inner : ∀ n : Tree, (∀ e ∈ n.elements, P e) → P (.node n)) (es : List Element) :
    ∀ e ∈ es, P e := by
  cases es with
  | nil => exact fun e he => absurd he List.not_mem_nil
  | cons e es =>
    exact List.forall_mem_cons.2
      ⟨Element.nested leaf inner e, Element.nested_list leaf inner es⟩

end

/-- What stands at a path of indices, from the outside in. -/
def Element.at? : Element → List Nat → Option Element
  | e, [] => some e
  | .atom _, _ :: _ => none
  | .node n, i :: path => n.elements[i]?.bind (·.at? path)

def Node.at? (n : Tree) (path : List Nat) : Option Element := (Element.node n).at? path

theorem Element.at?_node_cons (n : Tree) (i : Nat) (path : List Nat) :
    (Element.node n).at? (i :: path) = n.elements[i]?.bind (·.at? path) := rfl

theorem Element.at?_node_eq_some_iff {n : Tree} {i : Nat} {path : List Nat} {e : Element} :
    (Element.node n).at? (i :: path) = some e ↔
      ∃ x, n.elements[i]? = some x ∧ x.at? path = some e := Option.bind_eq_some_iff

/-- A map that keeps every node a node of the mapped elements commutes with going down a path. -/
theorem Element.at?_map {f : Element → Element} (leaf : ∀ a, ∃ b, f (.atom a) = .atom b)
    (inner : ∀ n : Tree, ∃ m : Tree, f (.node n) = .node m ∧ m.elements = n.elements.map f)
    (e : Element) (path : List Nat) : (f e).at? path = (e.at? path).map f := by
  induction path generalizing e with
  | nil => cases e <;> rfl
  | cons i path ih =>
    cases e with
    | atom a =>
      obtain ⟨b, mapped⟩ := leaf a
      rw [mapped]
      rfl
    | node n =>
      obtain ⟨m, mapped, elements⟩ := inner n
      rw [mapped, Element.at?_node_cons, Element.at?_node_cons, elements, List.getElem?_map]
      cases n.elements[i]? with
      | none => rfl
      | some x => exact ih x

/-- Every atom of an element, at whatever depth, has the property. -/
def Element.AllAtoms (P : Atom → Prop) (e : Element) : Prop :=
  ∀ path a, e.at? path = some (.atom a) → P a

def Node.AllAtoms (P : Atom → Prop) (n : Tree) : Prop := (Element.node n).AllAtoms P

theorem Element.allAtoms_atom {P : Atom → Prop} {a : Atom} :
    (Element.atom a).AllAtoms P ↔ P a := by
  refine ⟨fun h => h [] a rfl, fun h path b there => ?_⟩
  cases path with
  | nil =>
    cases there
    exact h
  | cons i path => cases there

theorem Element.allAtoms_node {P : Atom → Prop} {n : Tree} :
    (Element.node n).AllAtoms P ↔ ∀ e ∈ n.elements, e.AllAtoms P := by
  constructor
  · intro h e he path a there
    obtain ⟨i, found⟩ := List.mem_iff_getElem?.1 he
    exact h (i :: path) a (Element.at?_node_eq_some_iff.2 ⟨e, found, there⟩)
  · intro h path a there
    cases path with
    | nil => cases there
    | cons i path =>
      obtain ⟨e, found, there⟩ := Element.at?_node_eq_some_iff.1 there
      exact h e (List.mem_of_getElem? found) path a there

/-- The second element in the place of the first: an atom related to the atom, or a node of as many
elements and with the same line and field names. -/
inductive Element.Framed (R : Atom → Atom → Prop) : Element → Element → Prop
  | atom {a b : Atom} (related : R a b) : Element.Framed R (.atom a) (.atom b)
  | node {n m : Tree} (size : m.size = n.size) (line : m.line = n.line)
      (fields : m.fields = n.fields) : Element.Framed R (.node n) (.node m)

end TagDispatch
