import TagDispatch.Number.Binary64

/-!
Tagged trees. A node is an ordered sequence of elements, each an atom or a node again; element 0,
when it is an atom, is the node's tag. Nodes are consumed from the front, so what is left of a
node is exactly what nobody has taken yet.
-/

namespace TagDispatch

inductive Atom where
  | symbol (name : String)
  | str (text : String)
  | int (value : Int64)
  | float (value : Binary64)
  | bool (value : Bool)
  | nil
  deriving DecidableEq, Repr

/-- One node over the type `ε` of what it holds. The field names and the line number are notes
about the node and no part of its content. -/
structure Node (ε : Type) where
  elements : List ε
  fields : List String := []
  line : Option Nat := none

inductive Element where
  | atom (a : Atom)
  | node (n : Node Element)

abbrev Tree := Node Element

/-- Why an operation on a single node was refused. -/
inductive TreeError where
  | fieldNotFound (name tag : String)
  | fieldVacant (name : String) (index : Nat)
  | empty
  | nestedTag
  | expectedNode (found : Atom)
  | expectedAtom (found : Tree)

namespace Atom

def typeName : Atom → String
  | symbol _ => "symbol"
  | str _ => "string"
  | int _ => "integer"
  | float _ => "float"
  | bool _ => "bool"
  | nil => "nil"

/-- The text of a symbol or a string: what can name a tag, a variable or an operator. -/
def name? : Atom → Option String
  | symbol s => some s
  | str s => some s
  | _ => none

def isNil : Atom → Bool
  | nil => true
  | _ => false

end Atom

namespace Element

def typeName : Element → String
  | atom a => a.typeName
  | node _ => "sexp"

def isNode : Element → Bool
  | atom _ => false
  | node _ => true

def node? : Element → Option Tree
  | atom _ => none
  | node n => some n

def atom? : Element → Option Atom
  | atom a => some a
  | node _ => none

def name? : Element → Option String
  | atom a => a.name?
  | node _ => none

end Element

namespace Node

variable {ε : Type}

def empty : Node ε := ⟨[], [], none⟩

def ofElements (es : List ε) : Node ε := ⟨es, [], none⟩

/-- A node that holds its tag only. -/
def tagged (tag : Atom) : Tree := ofElements [.atom tag]

def size (n : Node ε) : Nat := n.elements.length

def isEmpty (n : Node ε) : Bool := n.elements.isEmpty

def get? (n : Node ε) (i : Nat) : Option ε := n.elements[i]?

/-- Overwrites element `i`, if there is one. -/
def put? (n : Node ε) (i : Nat) (e : ε) : Option (Node ε) :=
  if i < n.elements.length then some { n with elements := n.elements.set i e } else none

/-- The elements after the tag. -/
def body (n : Node ε) : List ε := n.elements.drop 1

def push (n : Node ε) (e : ε) : Node ε := { n with elements := n.elements ++ [e] }

def unshift (n : Node ε) (e : ε) : Node ε := { n with elements := e :: n.elements }

/-- Takes the front element off. -/
def shift (n : Node ε) : Option ε × Node ε :=
  match n.elements with
  | [] => (none, n)
  | e :: es => (some e, { n with elements := es })

def clear (n : Node ε) : Node ε := { n with elements := [] }

def setLine (n : Node ε) (line : Option Nat) : Node ε := { n with line }

def tag? (n : Tree) : Option Atom := n.elements.head?.bind Element.atom?

/-- The key by which a node is dispatched. -/
def tagName? (n : Tree) : Option String := n.tag?.bind Atom.name?

/-- The tag as it is shown in messages. -/
def label (n : Tree) : String := n.tagName?.getD "nil"

/-- Overwrites the tag. A node in front stays: overwriting it would drop a subtree. -/
def setTag (n : Tree) (tag : Atom) : Except TreeError Tree :=
  match n.elements with
  | [] => .error .empty
  | .node _ :: _ => .error .nestedTag
  | .atom _ :: es => .ok { n with elements := .atom tag :: es }

/-- Tags of plain sequences, whose elements have no roles of their own. -/
def isArrayLike (n : Tree) : Bool := n.tagName? == some "array" || n.tagName? == some "args"

/-- Takes a nested node off the front, and nothing else. -/
def shiftNode (n : Tree) : Except TreeError (Tree × Tree) :=
  match n.elements with
  | [] => .error .empty
  | .atom a :: _ => .error (.expectedNode a)
  | .node m :: es => .ok (m, { n with elements := es })

/-- Takes an atom off the front, and nothing else. -/
def shiftAtom (n : Tree) : Except TreeError (Atom × Tree) :=
  match n.elements with
  | [] => .error .empty
  | .node m :: _ => .error (.expectedAtom m)
  | .atom a :: es => .ok (a, { n with elements := es })

end Node

end TagDispatch
