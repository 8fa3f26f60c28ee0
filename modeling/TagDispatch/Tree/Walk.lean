import TagDispatch.Tree.Equality

/-!
Walks over the nodes inside a tree. The node a walk starts from is never among those it meets.
-/

namespace TagDispatch

namespace Element

/-! ### Nodes of one tag, children first -/

mutual

/-- The nodes tagged `tag` in an element, the element itself included; a match inside another
match comes before it. -/
def nodesTagged (tag : String) : Element → List Tree
  | .atom _ => []
  | .node ⟨es, fields, line⟩ =>
    let n : Tree := ⟨es, fields, line⟩
    listTagged tag es ++ if n.tagName? = some tag then [n] else []

def listTagged (tag : String) : List Element → List Tree
  | [] => []
  | e :: es => nodesTagged tag e ++ listTagged tag es

end

mutual

/-- Runs `f` on every node tagged `tag`, in the order of `nodesTagged`, and puts what it returns
in the node's place. A node is tested after everything inside it was updated. -/
def updateTagged {σ : Type} (tag : String) (f : Tree → σ → Tree × σ) : Element → σ → Element × σ
  | .atom a, s => (.atom a, s)
  | .node ⟨es, fields, line⟩, s =>
    let inner := updateList tag f es s
    let n : Tree := ⟨inner.1, fields, line⟩
    if n.tagName? = some tag then
      let outer := f n inner.2
      (.node outer.1, outer.2)
    else (.node n, inner.2)

def updateList {σ : Type} (tag : String) (f : Tree → σ → Tree × σ) :
    List Element → σ → List Element × σ
  | [], s => ([], s)
  | e :: es, s =>
    let first := updateTagged tag f e s
    let rest := updateList tag f es first.2
    (first.1 :: rest.1, rest.2)

end

/-! ### Replacing atoms -/

mutual

def replaceAtoms (old new : Atom) : Element → Element
  | .atom a => .atom (if a.same old then new else a)
  | .node ⟨es, fields, line⟩ => .node ⟨replaceAtomsList old new es, fields, line⟩

def replaceAtomsList (old new : Atom) : List Element → List Element
  | [] => []
  | e :: es => replaceAtoms old new e :: replaceAtomsList old new es

end

/-! ### All nodes, outermost first -/

mutual

def nodes : Element → List Tree
  | .atom _ => []
  | .node ⟨es, fields, line⟩ => ⟨es, fields, line⟩ :: listNodes es

def listNodes : List Element → List Tree
  | [] => []
  | e :: es => nodes e ++ listNodes es

end

/-! ### Measures and the skeleton -/

mutual

def mass : Element → Nat
  | .atom _ => 0
  | .node ⟨es, _, _⟩ => 1 + listMass es

def listMass : List Element → Nat
  | [] => 0
  | e :: es => mass e + listMass es

end

mutual

def depth : Element → Nat
  | .atom _ => 0
  | .node ⟨es, _, _⟩ => 1 + listDepth es

def listDepth : List Element → Nat
  | [] => 0
  | e :: es => max (depth e) (listDepth es)

end

/-- What stands before the children in a skeleton: the tag, if there is one. -/
def skeletonHead : List Element → List Element
  | .atom a :: _ => [.atom a]
  | _ => []

mutual

/-- Tags and nesting only; an atom leaves nothing. -/
def skeleton : Element → List Element
  | .atom _ => []
  | .node ⟨es, _, _⟩ => [.node (.ofElements (skeletonHead es ++ listSkeleton es))]

def listSkeleton : List Element → List Element
  | [] => []
  | e :: es => skeleton e ++ listSkeleton es

end

end Element

namespace Node

/-- The nested nodes tagged `tag`, a match inside another match first. -/
def nodesTagged (n : Tree) (tag : String) : List Tree := Element.listTagged tag n.elements

/-- Runs `f` on every nested node tagged `tag`, threading a state through. -/
def updateTagged {σ : Type} (n : Tree) (tag : String) (f : Tree → σ → Tree × σ) (s : σ) :
    Tree × σ :=
  let r := Element.updateList tag f n.elements s
  ({ n with elements := r.1 }, r.2)

/-- Replaces every atom equal to `old`, tags included, at any depth. -/
def replaceAtoms (n : Tree) (old new : Atom) : Tree :=
  { n with elements := Element.replaceAtomsList old new n.elements }

def children (n : Tree) : List Tree := n.elements.filterMap Element.node?

def childrenTagged (n : Tree) (tag : String) : List Tree :=
  n.children.filter (·.tagName? == some tag)

def childTagged? (n : Tree) (tag : String) : Option Tree :=
  n.children.find? (·.tagName? == some tag)

/-- Every nested node, each before the nodes inside it. -/
def descendants (n : Tree) : List Tree := Element.listNodes n.elements

/-- The number of nodes, this one included. -/
def mass (n : Tree) : Nat := 1 + Element.listMass n.elements

/-- The number of levels; a node without nested nodes has one. -/
def depth (n : Tree) : Nat := 1 + Element.listDepth n.elements

/-- The same tree with every atom below a tag left out, and no fields or lines. -/
def skeleton (n : Tree) : Tree :=
  .ofElements (Element.skeletonHead n.elements ++ Element.listSkeleton n.elements)

end Node

end TagDispatch
