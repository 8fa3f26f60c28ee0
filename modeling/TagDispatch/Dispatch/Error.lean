import TagDispatch.ResultType
import TagDispatch.Tree.Render

/-!
Why processing a tree was given up.
-/

namespace TagDispatch

/-- What a processed child must not become inside a node that is rebuilt around it. -/
inductive BadChild where
  | untagged (child : Tree)
  | atom (a : Atom)

inductive ProcessError where
  | unsupported (tag : String)
  | unknown (tag kind : String)
  | resultMismatch (tag kind : String) (expected : ResultType) (actual : String)
      (snapshot : Option Tree)
  | incomplete (tag kind : String) (remaining : Tree) (snapshot : Option Tree)
  | tagMismatch (expected : String) (found : Tree)
  | malformed (tag : String) (child : BadChild)
  | diverged (tag : String) (rounds : Nat)
  | handlerFailed (tag message : String)
  | tree (cause : TreeError)

def TreeError.kindName : TreeError → String
  | .fieldNotFound _ _ => "Sexp.FieldNotFound"
  | .fieldVacant _ _ => "Sexp.FieldVacant"
  | .empty => "Sexp.EmptySexp"
  | .nestedTag => "Sexp.NestedTag"
  | .expectedNode _ => "Sexp.UnexpectedElement"
  | .expectedAtom _ => "Sexp.UnexpectedElement"

def BadChild.reason : BadChild → String
  | .untagged child => "processed child " ++ child.render ++ " does not start with a tag"
  | .atom a => "processed child became " ++ a.typeName ++ " " ++ a.render

namespace ProcessError

/-- The name under which scripts see an error. -/
def kindName : ProcessError → String
  | unsupported _ => "UnsupportedNodeType"
  | unknown _ _ => "UnknownNodeType"
  | resultMismatch _ _ _ _ _ => "ResultTypeMismatch"
  | incomplete _ _ _ _ => "IncompleteConsumption"
  | tagMismatch _ _ => "TagMismatch"
  | malformed _ _ => "MalformedSexp"
  | diverged _ _ => "RewriteDiverged"
  | handlerFailed _ _ => "HandlerFailed"
  | tree cause => cause.kindName

def message : ProcessError → String
  | unsupported tag => "'" ++ tag ++ "' is not a supported node type"
  | unknown tag kind => "unknown node type '" ++ tag ++ "' for " ++ kind
  | resultMismatch tag kind expected actual _ =>
    kind ++ " handler for '" ++ tag ++ "' returned " ++ actual ++ ", expected " ++ expected.name
  | incomplete tag kind remaining _ =>
    kind ++ " handler for '" ++ tag ++ "' returned without consuming " ++ remaining.render
  | tagMismatch expected found => "expected :" ++ expected ++ " in " ++ found.render
  | malformed tag child => "malformed sexp under '" ++ tag ++ "': " ++ child.reason
  | diverged tag rounds =>
    "rewriting '" ++ tag ++ "' did not settle after " ++ writeNat rounds ++ " rounds"
  | handlerFailed tag message => "handler for '" ++ tag ++ "' failed: " ++ message
  | tree cause => cause.message

/-- The copy of the node that an error carries. -/
def snapshot? : ProcessError → Option Tree
  | resultMismatch _ _ _ _ snapshot => snapshot
  | incomplete _ _ _ snapshot => snapshot
  | _ => none

end ProcessError

/-- Refuses a node of any other tag. -/
def Node.assertTag (n : Tree) (expected : String) : Except ProcessError Unit :=
  if n.tagName? = some expected then .ok () else .error (.tagMismatch expected n)

end TagDispatch
