import TagDispatch.Dispatch.Session
import TagDispatch.Tree.Field

/-!
The processor. A node is routed to the handler of its tag, or to the default handler, and the
result is checked; a node that nobody handles is rebuilt from its processed children. A call from
outside first rewrites the whole tree, children before parents.

Attached code calls the processor again, so each function below is written over the calls it may
make, and `process`, `rewrite` and `settle` tie the knot with an allowance that bounds how deep
calls can nest.
-/

namespace TagDispatch

structure Processor (σ : Type) where
  kind : String
  registry : Registry σ

/-- The calls that a step of the processor can make. -/
structure Calls (σ : Type) where
  process : Tree → Run σ Reply
  rewrite : Tree → Run σ (Except ProcessError Tree)
  settle : String → Nat → Tree → Run σ (Except ProcessError Tree)

/-- Runs attached code, answering its requests. -/
def Code.run {σ α : Type} (self : Profile) (c : Calls σ) : Code σ α → Run σ α
  | .done a => pure a
  | .diverge => Run.stuck
  | .process n k => do
    let r ← c.process n
    (k r).run self c
  | .rewrite n k => do
    let r ← c.rewrite n
    (k r).run self c
  | .getConfig k => do
    let s ← Run.get
    (k s.config).run self c
  | .configure o k => do
    Run.modify fun s => { s with config := s.config.set o }
    k.run self c
  | .getState k => do
    let s ← Run.get
    (k s.state).run self c
  | .setState a k => do
    Run.modify fun s => { s with state := a }
    k.run self c
  | .getEnv k => do
    let s ← Run.get
    (k s.env).run self c
  | .setEnv e k => do
    Run.modify fun s => { s with env := e }
    k.run self c
  | .getContext k => do
    let s ← Run.get
    (k s.context).run self c
  | .getKind k => (k self.kind).run self c
  | .getCatalogue k => (k self.catalogue).run self c

namespace Processor

variable {σ : Type}

def profile (p : Processor σ) : Profile := ⟨p.kind, p.registry.catalogue⟩

/-! ### Dispatch -/

/-- The handler that serves a tag, and whether it serves it by default. -/
def resolve (p : Processor σ) (config : Config) (tag : Option String) :
    Option (Handler σ × Bool) :=
  match tag.bind p.registry.handlers.find? with
  | some h => some (h, tag == config.defaultHandler)
  | none => (config.defaultHandler.bind p.registry.handlers.find?).map (·, true)

def recovery? (p : Processor σ) (tag : Option String) : Option (Recovery σ) :=
  tag.bind p.registry.recoveries.find?

/-- A copy of the node is kept if an error might show it or a recovery hook might need it. -/
def wantsSnapshot (p : Processor σ) (config : Config) (tag : Option String) : Bool :=
  config.captureSnapshot || (tag.bind config.debugTrace.find?).isSome || (p.recovery? tag).isSome

def isTraced (config : Config) (tag : Option String) (text : String) : Bool :=
  match tag.bind config.debugTrace.find? with
  | some pattern => pattern.accepts text
  | none => false

def isExcluded (config : Config) (tag : Option String) : Bool :=
  match tag with
  | some tag => config.excludedTags.contains tag
  | none => false

def fieldsFor (config : Config) (tag : Option String) : List String :=
  (tag.bind config.fieldAccessors.find?).getD []

/-- Whether a result has the expected type. -/
def checkType (p : Processor σ) (config : Config) (label : String) (snapshot : Option Tree)
    (v : Element) : Except ProcessError Element :=
  if config.expected.accepts v then .ok v
  else .error (.resultMismatch label p.kind config.expected v.typeName snapshot)

/-- Whether a handler did what the configuration demands of it. -/
def checkHandled (p : Processor σ) (config : Config) (label : String) (snapshot : Option Tree)
    (v : Element) (rest : Tree) : Except ProcessError Element :=
  match p.checkType config label snapshot v with
  | .error e => .error e
  | .ok v =>
    if config.requireEmpty && !rest.isEmpty then
      .error (.incomplete label p.kind rest snapshot)
    else .ok v

/-- The checks go by the configuration in force when the code has returned. -/
def finish (p : Processor σ) (label : String) (snapshot : Option Tree) (r : Reply) :
    Run σ Reply :=
  match r.result with
  | .error _ => pure r
  | .ok v => do
    let s ← Run.get
    return ⟨p.checkHandled s.config label snapshot v r.rest, r.rest⟩

/-- Lets the tag's recovery hook answer for a handler that failed. -/
def recover (p : Processor σ) (c : Calls σ) (tag : Option String) (label : String)
    (snapshot : Option Tree) (r : Reply) : Run σ Reply :=
  match r.result, p.recovery? tag, snapshot with
  | .error e, some hook, some snapshot => do
    Run.report (.recovered label p.kind e)
    let s ← Run.get
    Run.record (.recovering r.rest snapshot e s)
    (hook r.rest snapshot e).run p.profile c
  | _, _, _ => pure r

def invoke (p : Processor σ) (c : Calls σ) (h : Handler σ) (isDefault : Bool)
    (tag : Option String) (label : String) (snapshot : Option Tree) (n : Tree) :
    Run σ Reply := do
  let s ← Run.get
  if isDefault && s.config.warnOnDefault then
    Run.report (.defaultHandlerUsed label p.kind)
  let n := if s.config.autoShiftTag && !isDefault then n.shift.2 else n
  Run.record (.invoked .handler tag n s)
  let r ← (h n).run p.profile c
  let r ← p.recover c tag label snapshot r
  p.finish label snapshot r

/-- A child keeps its place only as a node that does not start with another node. -/
def keepChild (label : String) : Element → Except ProcessError Tree
  | .atom a => .error (.malformed label (.atom a))
  | .node n =>
    match n.elements with
    | .node _ :: _ => .error (.malformed label (.untagged n))
    | _ => .ok n

/-- Processes the nodes among some elements, left to right, up to the first failure. The second
component is what was not reached. -/
def walkElements (c : Calls σ) (label : String) :
    List Element → Run σ (Except ProcessError (List Element) × List Element)
  | [] => pure (.ok [], [])
  | .atom a :: es => do
    let r ← walkElements c label es
    return (r.1.map (.atom a :: ·), r.2)
  | .node m :: es => do
    let reply ← c.process m
    match reply.result.bind (keepChild label) with
    | .error e => return (.error e, es)
    | .ok child =>
      let r ← walkElements c label es
      return (r.1.map (.node child :: ·), r.2)

/-- Gives the node built in the place of `n` the tag of `n`; if it does not take it, it stays as
it was built. -/
def retag (n built : Tree) : Tree :=
  match n.tag? with
  | none => built
  | some tag =>
    match built.setTag tag with
    | .ok m => m
    | .error _ => built

/-- Rebuilds a node that nobody handles from its processed children. -/
def walk (p : Processor σ) (c : Calls σ) (label : String) (snapshot : Option Tree) (n : Tree) :
    Run σ Reply := do
  let r ← walkElements c label n.elements
  let rest := { n with elements := r.2 }
  match r.1 with
  | .error e => return ⟨.error e, rest⟩
  | .ok es =>
    let s ← Run.get
    return ⟨p.checkType s.config label snapshot (.node (retag n ⟨es, [], n.line⟩)), rest⟩

def route (p : Processor σ) (c : Calls σ) (config : Config) (tag : Option String)
    (label : String) (snapshot : Option Tree) (n : Tree) : Run σ Reply :=
  if isExcluded config tag then pure ⟨.error (.unsupported label), n⟩
  else
    match p.resolve config tag with
    | some (h, isDefault) => p.invoke c h isDefault tag label snapshot n
    | none =>
      if config.strict then pure ⟨.error (.unknown label p.kind), n⟩
      else p.walk c label snapshot n

def dispatch (p : Processor σ) (c : Calls σ) (n : Tree) : Run σ Reply := do
  let s ← Run.get
  let tag := n.tagName?
  let label := n.label
  let traced := isTraced s.config tag n.render
  if traced then Run.report (.traceMatched label .before n.render)
  let snapshot := if p.wantsSnapshot s.config tag then some n else none
  let r ← p.route c s.config tag label snapshot (n.setFields (fieldsFor s.config tag))
  match r.result with
  | .error _ => return r
  | .ok v =>
    if traced then Run.report (.traceMatched label .after v.render)
    return r

/-- Dispatches a node with its tag on the context. -/
def enter (p : Processor σ) (c : Calls σ) (n : Tree) : Run σ Reply := do
  let s ← Run.get
  Run.record (.log (.span "process" (.nodeDispatched n.label s.context.length)))
  Run.record (.called n s)
  Run.modify (·.enter n.label)
  let r ← p.dispatch c n
  Run.modify (·.exit)
  Run.record (.answered r)
  return r

/-- A call from outside finds the context empty. If the rewriting pass fails, the caller's node
stays as it was. -/
def processStep (p : Processor σ) (c : Calls σ) (n : Tree) : Run σ Reply := do
  let s ← Run.get
  if s.context.isEmpty && p.registry.hasRewriters then
    Run.record (.pass n)
    match ← c.rewrite n with
    | .error e => return ⟨.error e, n⟩
    | .ok n => p.enter c n
  else p.enter c n

/-! ### Rewriting -/

def rewriteElements (c : Calls σ) :
    List Element → Run σ (Except ProcessError (List Element))
  | [] => pure (.ok [])
  | .atom a :: es => do
    let r ← rewriteElements c es
    return r.map (.atom a :: ·)
  | .node m :: es => do
    match ← c.rewrite m with
    | .error e => return .error e
    | .ok m =>
      let r ← rewriteElements c es
      return r.map (.node m :: ·)

/-- Children first; then the node itself, as often as a rewriter changes its tag. The node keeps
its line and loses its fields. -/
def rewriteStep (c : Calls σ) (n : Tree) : Run σ (Except ProcessError Tree) := do
  let s ← Run.get
  Run.record (.rewriting n s)
  Run.modify (·.enter n.label)
  let children ← rewriteElements c n.elements
  Run.modify (·.exit)
  let r ← match children with
    | .error e => pure (.error e)
    | .ok es => c.settle n.label 0 ⟨es, [], n.line⟩
  Run.record (.rewrote r)
  return r

/-- One round: the rewriter of the node's tag, if there is one. The label names the node as it
came in, and `rounds` counts the changes of tag so far. -/
def settleStep (p : Processor σ) (c : Calls σ) (label : String) (rounds : Nat) (n : Tree) :
    Run σ (Except ProcessError Tree) := do
  let tag := n.tagName?
  match tag.bind p.registry.rewriters.find? with
  | none => return .ok n
  | some w =>
    let s ← Run.get
    Run.record (.invoked .rewriter tag n s)
    match ← (w n).run p.profile c with
    | .error e => return .error e
    | .ok m =>
      Run.report (.rewritten (tag.getD "") m.label)
      if m.tagName? = tag then return .ok m
      else
        let s ← Run.get
        if s.config.maxRewriteRounds ≤ rounds + 1 then return .error (.diverged label (rounds + 1))
        else c.settle label (rounds + 1) m

/-! ### Tying the knot -/

mutual

/-- Processes a node; calls nest at most as deep as the allowance says. -/
def process (p : Processor σ) : Nat → Tree → Run σ Reply
  | 0, _ => Run.stuck
  | k + 1, n => p.processStep ⟨process p k, rewrite p k, settle p k⟩ n

/-- Rewrites a whole tree. -/
def rewrite (p : Processor σ) : Nat → Tree → Run σ (Except ProcessError Tree)
  | 0, _ => Run.stuck
  | k + 1, n => rewriteStep ⟨process p k, rewrite p k, settle p k⟩ n

/-- Applies rewriters to one node until its tag stays. -/
def settle (p : Processor σ) : Nat → String → Nat → Tree → Run σ (Except ProcessError Tree)
  | 0, _, _, _ => Run.stuck
  | k + 1, label, rounds, n =>
    p.settleStep ⟨process p k, rewrite p k, settle p k⟩ label rounds n

end

/-! ### The outside view -/

/-- Far beyond what a run that ends can nest. -/
def allowance : Nat := 0x4000000000000000

/-- Atoms stand for themselves. -/
def processElement (p : Processor σ) (k : Nat) : Element → Run σ (Except ProcessError Element)
  | .atom a => pure (.ok (.atom a))
  | .node n => do
    let r ← p.process k n
    return r.result

/-- No node, no result. -/
def processOption (p : Processor σ) (k : Nat) :
    Option Tree → Run σ (Except ProcessError (Option Element) × Option Tree)
  | none => pure (.ok none, none)
  | some n => do
    let r ← p.process k n
    return (r.result.map some, some r.rest)

/-- A processor's first session, and the message that it was built. -/
def build (p : Processor σ) (config : Config) (state : σ) : Session σ × Message :=
  ({ config, state }, .processorBuilt p.kind p.registry.size config.strict config.expected)

def describe (p : Processor σ) (s : Session σ) : String :=
  "SexpProcessor " ++ "\x7b" ++ " kind: " ++ Text.quote p.kind ++ ", config: "
    ++ s.config.describe ++ ", registry: " ++ p.registry.describe ++ ", context: "
    ++ writeNames s.path ++ " " ++ "\x7d"

end Processor

end TagDispatch
