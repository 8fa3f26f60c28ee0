import TagDispatch.Tree.Basic

/-!
What a processor may demand of a result. Nil is an atom, but none of the particular kinds of it.
-/

namespace TagDispatch

inductive ResultType where
  | sexp
  | atom
  | symbol
  | string
  | integer
  | float
  | bool
  | any
  deriving DecidableEq, Repr

namespace ResultType

def all : List ResultType := [sexp, atom, symbol, string, integer, float, bool, any]

def name : ResultType → String
  | sexp => "sexp"
  | atom => "atom"
  | symbol => "symbol"
  | string => "string"
  | integer => "integer"
  | float => "float"
  | bool => "bool"
  | any => "any"

/-- The name as it is shown among a configuration's options. -/
def title : ResultType → String
  | sexp => "Sexp"
  | atom => "Atom"
  | symbol => "Symbol"
  | string => "String"
  | integer => "Integer"
  | float => "Float"
  | bool => "Bool"
  | any => "Any"

def ofName? (s : String) : Option ResultType := all.find? (·.name == s)

def accepts : ResultType → Element → Bool
  | any, _ => true
  | sexp, .node _ => true
  | atom, .atom _ => true
  | symbol, .atom (.symbol _) => true
  | string, .atom (.str _) => true
  | integer, .atom (.int _) => true
  | float, .atom (.float _) => true
  | bool, .atom (.bool _) => true
  | _, _ => false

end ResultType

end TagDispatch
