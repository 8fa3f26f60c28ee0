import TagDispatch.Tree.Basic

/-!
A node's elements under names. Name `i` of the installed list stands for element `i + 1`, since
element 0 is the tag; a name that is listed twice stands for its first place.
-/

namespace TagDispatch

namespace Node

variable {ε : Type}

def setFields (n : Node ε) (fields : List String) : Node ε := { n with fields }

def clearFields (n : Node ε) : Node ε := { n with fields := [] }

/-- The element that a name stands for. -/
def fieldIndex? (n : Node ε) (name : String) : Option Nat :=
  (n.fields.findIdx? (· == name)).map (· + 1)

def field (n : Tree) (name : String) : Except TreeError Element :=
  match n.fieldIndex? name with
  | none => .error (.fieldNotFound name n.label)
  | some i =>
    match n.elements[i]? with
    | none => .error (.fieldVacant name i)
    | some e => .ok e

/-- Overwrites a named element; it fails exactly where reading that name does. -/
def setField (n : Tree) (name : String) (value : Element) : Except TreeError Tree :=
  match n.fieldIndex? name with
  | none => .error (.fieldNotFound name n.label)
  | some i =>
    match n.put? i value with
    | none => .error (.fieldVacant name i)
    | some n => .ok n

end Node

end TagDispatch
