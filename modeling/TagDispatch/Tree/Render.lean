import TagDispatch.Number.Written
import TagDispatch.Text.Quoted
import TagDispatch.Tree.Basic

/-!
The text of a tree: `s(…)` around the elements of a node, a colon before a symbol, quotes around
a string. Symbols and strings of the same text stay apart, and so do nodes and atoms.
-/

namespace TagDispatch

def Atom.render : Atom → String
  | .symbol s => ":" ++ s
  | .str s => Text.quote s
  | .int i => writeInt i.toInt
  | .float x => x.write
  | .bool true => "true"
  | .bool false => "false"
  | .nil => "nil"

mutual

def Element.render : Element → String
  | .atom a => a.render
  | .node ⟨es, _, _⟩ => "s(" ++ Element.renderList es ++ ")"

def Element.renderList : List Element → String
  | [] => ""
  | [e] => e.render
  | e :: es => e.render ++ ", " ++ Element.renderList es

end

def Node.render (n : Tree) : String := "s(" ++ Element.renderList n.elements ++ ")"

/-- An atom with the name of its kind around it. -/
def Atom.describe : Atom → String
  | .symbol s => "Symbol(" ++ Text.quote s ++ ")"
  | .str s => "Str(" ++ Text.quote s ++ ")"
  | .int i => "Int(" ++ writeInt i.toInt ++ ")"
  | .float x => "Float(" ++ x.write ++ ")"
  | .bool true => "Bool(true)"
  | .bool false => "Bool(false)"
  | .nil => "Nil"

def Element.describe : Element → String
  | .atom a => "Atom(" ++ a.describe ++ ")"
  | .node n => "Sexp(" ++ n.render ++ ")"

def TreeError.message : TreeError → String
  | .fieldNotFound name tag => "no field named '" ++ name ++ "' on :" ++ tag
  | .fieldVacant name index =>
    "field '" ++ name ++ "' maps to position " ++ writeNat index ++ ", which is past the end"
  | .empty => "sexp is empty"
  | .nestedTag => "element 0 is a nested sexp, not a tag"
  | .expectedNode found => "expected sexp at the front, found " ++ found.render
  | .expectedAtom found => "expected atom at the front, found " ++ found.render

end TagDispatch
