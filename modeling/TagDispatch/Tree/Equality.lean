import TagDispatch.Tree.Basic

/-!
When two trees count as equal. Only the elements are compared, never fields or lines, and numbers
are compared as numbers: a NaN differs from itself and the two zeros agree.
-/

namespace TagDispatch

def Atom.same : Atom → Atom → Bool
  | .float x, .float y => x.numEq y
  | a, b => a == b

mutual

def Element.same : Element → Element → Bool
  | .atom a, .atom b => a.same b
  | .node ⟨es, _, _⟩, .node ⟨fs, _, _⟩ => Element.sameList es fs
  | _, _ => false

def Element.sameList : List Element → List Element → Bool
  | [], [] => true
  | e :: es, f :: fs => e.same f && Element.sameList es fs
  | _, _ => false

end

def Node.same (m n : Tree) : Bool := Element.sameList m.elements n.elements

end TagDispatch
