import TagDispatch.Dispatch.Code
import TagDispatch.Script.Arith
import TagDispatch.Script.Instr
import TagDispatch.Tree.Field
import TagDispatch.Tree.Walk

/-!
What the instructions do. Scripts keep notes, a list of texts, as their state. The stack never
runs dry: popping an empty one gives nil. The first error ends a script; the node keeps what was
done to it until then.
-/

namespace TagDispatch

abbrev Notes := List String

/-- `stack` has its top first; `given` is the error that a recovery hook answers for. -/
structure Frame where
  node : Tree
  stack : List Element := []
  given : Option ProcessError := none

/-- Work on a frame that can fail. -/
abbrev Act (α : Type) := ExceptT ProcessError (StateT Frame (Code Notes)) α

namespace Act

def ask {α : Type} (request : (α → Code Notes α) → Code Notes α) : Act α := fun f =>
  (request Code.done).bind fun a => .done (.ok a, f)

def push (e : Element) : Act Unit := modify fun f => { f with stack := e :: f.stack }

def pushText (s : String) : Act Unit := push (.atom (.str s))

def pushNat (n : Nat) : Act Unit := push (.atom (.int (Int64.ofNat n)))

def pop : Act Element := do
  let f ← get
  match f.stack with
  | [] => return .atom .nil
  | e :: es =>
    set { f with stack := es }
    return e

/-- The top `count` elements, the lowest first; all of them if there are fewer. -/
def popMany (count : Nat) : Act (List Element) := do
  let f ← get
  set { f with stack := f.stack.drop count }
  return (f.stack.take count).reverse

def setNode (n : Tree) : Act Unit := modify fun f => { f with node := n }

def attempt {α : Type} : Except ProcessError α → Act α
  | .ok a => pure a
  | .error e => throw e

def attemptTree {α : Type} : Except TreeError α → Act α
  | .ok a => pure a
  | .error e => throw (.tree e)

def processNode (n : Tree) : Act Reply := ask (Code.process n)

def processElement : Element → Act (Except ProcessError Element)
  | .atom a => return .ok (.atom a)
  | .node n => return (← processNode n).result

def getEnv : Act (Environment Element) := ask Code.getEnv

def setEnv (e : Environment Element) : Act Unit := ask fun k => .setEnv e (k ())

def getNotes : Act Notes := ask Code.getState

def addNote (text : String) : Act Unit := do
  let notes ← getNotes
  ask fun k => .setState (notes ++ [text]) (k ())

def configure : List Setting → Act Unit
  | [] => pure ()
  | s :: rest => do
    ask fun k => .configure s (k ())
    configure rest

/-- Runs `body` for every front element, until none is left; `body` may add some. -/
def drain (body : Act Unit) : Nat → Act Unit
  | 0 => fun _ => .diverge
  | fuel + 1 => do
    match (← get).node.shift with
    | (none, _) => pure ()
    | (some e, n) =>
      setNode n
      push e
      body
      drain body fuel

/-- The scope is left whether or not the work in it fails. -/
def inScope (body : Act Unit) : Act Unit := fun f => Code.inScope (body f)

def processRest : List Element → Act Unit
  | [] => pure ()
  | e :: es => do
    let n := (← get).node
    setNode { n with elements := es }
    push (← attempt (← processElement e))
    processRest es

end Act

/-- The nodes of a table of bindings: each a name and its value. -/
def bindingsTree (t : Table Element) : Tree :=
  .ofElements (t.entries.map fun (k, v) => .node (.ofElements [.atom (.str k), v]))

namespace Act

/-- Instructions without instructions inside them. -/
def ofPlain : Instr → Act Unit
  | .shift => do
    let (e, n) := (← get).node.shift
    setNode n
    push (e.getD (.atom .nil))
  | .shiftAtom => do
    let (a, n) ← attemptTree (← get).node.shiftAtom
    setNode n
    push (.atom a)
  | .shiftNode => do
    let (m, n) ← attemptTree (← get).node.shiftNode
    setNode n
    push (.node m)
  | .clear => do setNode (← get).node.clear
  | .clone => do push (.node (← get).node)
  | .len => do pushNat (← get).node.size
  | .append => do
    let e ← pop
    setNode ((← get).node.push e)
  | .unshift => do
    let e ← pop
    setNode ((← get).node.unshift e)
  | .setTag tag => do setNode (← attemptTree ((← get).node.setTag tag))
  | .setLine line => do setNode ((← get).node.setLine line)
  | .field name => do push (← attemptTree ((← get).node.field name))
  | .setField name => do
    let e ← pop
    setNode (← attemptTree ((← get).node.setField name e))
  | .fields => do
    push (.node (.ofElements ((← get).node.fields.map fun f => .atom (.str f))))
  | .assertTag tag => do attempt ((← get).node.assertTag tag)
  | .replace old new => do setNode ((← get).node.replaceAtoms old new)
  | .push e => push e
  | .pop => do
    let _ ← pop
  | .dup => do
    let e ← pop
    push e
    push e
  | .node tag count => do
    let es ← popMany count
    push (.node (.ofElements (.atom (.symbol tag) :: es)))
  | .nodeAll tag => do
    let es ← popMany (← get).stack.length
    push (.node (.ofElements (.atom (.symbol tag) :: es)))
  | .group count => do
    let es ← popMany count
    push (.node (.ofElements es))
  | .arith tag => do
    let rhs ← pop
    let op ← pop
    let lhs ← pop
    push (← attempt (evalArith tag lhs op rhs))
  | .fail tag message => throw (.handlerFailed tag message)
  | .raise => do
    match (← get).given with
    | some e => throw e
    | none => pure ()
  | .errorSnapshot => do
    match (← get).given.bind ProcessError.snapshot? with
    | some n => push (.node n)
    | none => push (.atom .nil)
  | .process => do
    let e ← pop
    push (← attempt (← processElement e))
  | .processKeep => do
    match ← pop with
    | .atom a =>
      push (.atom a)
      push (.atom .nil)
    | .node n =>
      let r ← processNode n
      push (← attempt r.result)
      push (.node r.rest)
  | .tryProcess => do
    let e ← pop
    match ← processElement e with
    | .ok v => push v
    | .error err => pushText err.message
  | .processSelf => do
    let r ← processNode (← get).node
    setNode r.rest
    push (← attempt r.result)
  | .processRest => do processRest (← get).node.elements
  | .rewrite => do
    match ← pop with
    | .atom a => push (.atom a)
    | .node n =>
      let r ← ask (Code.rewrite n)
      push (.node (← attempt r))
  | .dummy => do
    let n := (← get).node
    let r ← (fun f => (Code.dummy n).bind fun r => .done (.ok r, f) : Act Reply)
    setNode r.rest
    push (← attempt r.result)
  | .context => do
    let tags ← ask Code.getContext
    pushText ("/".intercalate tags.reverse)
  | .parent => do
    let tags ← ask Code.getContext
    match tags[1]? with
    | some tag => pushText tag
    | none => push (.atom .nil)
  | .kind => do pushText (← ask Code.getKind)
  | .setConfig settings => configure settings
  | .note text => addNote text
  | .noteTop => do
    match (← get).stack with
    | e :: _ => addNote e.render
    | [] => addNote "-"
  | .notes => do pushNat (← getNotes).length
  | .envGet name => do push (((← getEnv).get? name).getD (.atom .nil))
  | .envSet name => do
    let v ← pop
    setEnv ((← getEnv).set name v)
  | .envDefine name => do
    let v ← pop
    setEnv ((← getEnv).define name v)
  | .envDepth => do pushNat (← getEnv).depth
  | .envPush => do setEnv (← getEnv).push
  | .envPop => do setEnv (← getEnv).leave
  | .envAll => do push (.node (bindingsTree (← getEnv).visible))
  | .localGet => do
    let e ← pop
    let env ← getEnv
    match e.name?.bind env.get? with
    | some v => push v
    | none => throw (.handlerFailed "local" ("undefined local " ++ e.render))
  | .localSet => do
    let v ← pop
    let e ← pop
    match e.name? with
    | none => throw (.handlerFailed "local" (e.render ++ " is not a name"))
    | some name =>
      setEnv ((← getEnv).set name v)
      push v
  | _ => pure ()

mutual

/-- `limit` bounds the rounds of each loop. -/
def ofInstr (limit : Nat) : Instr → Act Unit
  | .each body => drain (ofInstrs limit body) limit
  | .ifTag tag yes no => do
    if (← get).node.tagName? = some tag then ofInstrs limit yes else ofInstrs limit no
  | .ifTop e yes no => do
    match (← get).stack with
    | top :: _ => if top.same e then ofInstrs limit yes else ofInstrs limit no
    | [] => ofInstrs limit no
  | .ifLen count yes no => do
    if (← get).node.size = count then ofInstrs limit yes else ofInstrs limit no
  | .scope body => inScope (ofInstrs limit body)
  | i => ofPlain i

def ofInstrs (limit : Nat) : List Instr → Act Unit
  | [] => pure ()
  | i :: is => do
    ofInstr limit i
    ofInstrs limit is

end

end Act

/-- The code attached to a tag: instructions, or the handler that processes every element. -/
inductive Script where
  | instrs (code : List Instr)
  | dummy

namespace Script

/-- Far beyond what a loop that ends can take. -/
def loopLimit : Nat := 0x4000000000000000

def start (code : List Instr) (f : Frame) : Code Notes (Except ProcessError Element × Frame) :=
  (do
    Act.ofInstrs loopLimit code
    Act.pop : Act Element) f

def handler : Script → Handler Notes
  | dummy, n => Code.dummy n
  | instrs code, n =>
    (start code { node := n }).bind fun (r, f) => .done ⟨r, f.node⟩

/-- A script that ends on an atom has changed the node in place. -/
def rewriter : Script → Rewriter Notes
  | dummy, n => .done (.ok n)
  | instrs code, n =>
    (start code { node := n }).bind fun (r, f) => .done <|
      match r with
      | .error e => .error e
      | .ok (.node m) => .ok m
      | .ok (.atom _) => .ok f.node

/-- The stack starts with the node as it was, and the error's kind and message above it. -/
def recovery : Script → Recovery Notes
  | dummy, remaining, _, _ => Code.dummy remaining
  | instrs code, remaining, snapshot, e =>
    let stack := [.atom (.str e.message), .atom (.str e.kindName), .node snapshot]
    (start code { node := remaining, stack, given := some e }).bind fun (r, f) =>
      .done ⟨r, f.node⟩

end Script

end TagDispatch
