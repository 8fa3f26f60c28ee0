import TagDispatch.Config.Basic
import TagDispatch.Dispatch.Error
import TagDispatch.Environment

/-!
Code that is attached to tags: a tree of requests to the processor that runs it, each with what
to do next for every possible answer. Handlers, rewriters and recovery hooks are such code; the
processor alone decides what an answer is.
-/

namespace TagDispatch

/-- What processing a node comes to: the result, and what is left of the node. -/
structure Reply where
  result : Except ProcessError Element
  rest : Tree

/-- What a registry tells about itself: the tags that have code, by the role of the code. -/
structure Catalogue where
  handlers : NameSet
  rewriters : NameSet
  recoveries : NameSet

/-- What code can find out about the processor that runs it. -/
structure Profile where
  kind : String
  catalogue : Catalogue

/-- Code over a state `σ` that ends in an `α`, or never. -/
inductive Code (σ α : Type) where
  | done (a : α)
  | diverge
  | process (n : Tree) (k : Reply → Code σ α)
  | rewrite (n : Tree) (k : Except ProcessError Tree → Code σ α)
  | getConfig (k : Config → Code σ α)
  | configure (s : Setting) (k : Code σ α)
  | getState (k : σ → Code σ α)
  | setState (s : σ) (k : Code σ α)
  | getEnv (k : Environment Element → Code σ α)
  | setEnv (e : Environment Element) (k : Code σ α)
  | getContext (k : List String → Code σ α)
  | getKind (k : String → Code σ α)
  | getCatalogue (k : Catalogue → Code σ α)

namespace Code

variable {σ α β : Type}

def bind : Code σ α → (α → Code σ β) → Code σ β
  | done a, f => f a
  | diverge, _ => diverge
  | process n k, f => process n fun r => (k r).bind f
  | rewrite n k, f => rewrite n fun r => (k r).bind f
  | getConfig k, f => getConfig fun c => (k c).bind f
  | configure s k, f => configure s (k.bind f)
  | getState k, f => getState fun s => (k s).bind f
  | setState s k, f => setState s (k.bind f)
  | getEnv k, f => getEnv fun e => (k e).bind f
  | setEnv e k, f => setEnv e (k.bind f)
  | getContext k, f => getContext fun c => (k c).bind f
  | getKind k, f => getKind fun kind => (k kind).bind f
  | getCatalogue k, f => getCatalogue fun c => (k c).bind f

instance : Monad (Code σ) where
  pure := done
  bind := bind

/-- Runs code inside a scope of its own. -/
def inScope (c : Code σ α) : Code σ α :=
  getEnv fun e => setEnv e.push (c.bind fun a => getEnv fun e => setEnv e.leave (done a))

/-- Atoms stand for themselves. -/
def processElement : Element → (Except ProcessError Element → Code σ α) → Code σ α
  | .atom a, k => k (.ok (.atom a))
  | .node n, k => process n fun r => k r.result

/-- Processes elements one after the other up to the first failure, which leaves those after it. -/
def processAll : List Element → Code σ (Except ProcessError (List Element) × List Element)
  | [] => done (.ok [], [])
  | e :: es =>
    processElement e fun
      | .error err => done (.error err, es)
      | .ok v => (processAll es).bind fun r => done (r.1.map (v :: ·), r.2)

/-- A handler for any node: its processed elements under the tag `dummy`. -/
def dummy (n : Tree) : Code σ Reply :=
  (processAll n.elements).bind fun r =>
    done ⟨r.1.map fun vs => .node (.ofElements (.atom (.symbol "dummy") :: vs)),
      { n with elements := r.2 }⟩

end Code

/-- Consumes a node and gives a result for it. -/
abbrev Handler (σ : Type) := Tree → Code σ Reply

/-- Gives a tree to stand in a node's place. -/
abbrev Rewriter (σ : Type) := Tree → Code σ (Except ProcessError Tree)

/-- Gets what a failed handler left, the node as it was before, and the error. -/
abbrev Recovery (σ : Type) := Tree → Tree → ProcessError → Code σ Reply

end TagDispatch
