import TagDispatch.Table

/-!
Nested scopes of bindings. The innermost scope is always there; leaving it is refused when
nothing encloses it.
-/

namespace TagDispatch

/-- The current scope and those around it, the nearest first. -/
structure Environment (α : Type) where
  current : Table α
  outer : List (Table α)

namespace Environment

variable {α : Type}

def new : Environment α := ⟨∅, []⟩

def depth (e : Environment α) : Nat := e.outer.length + 1

def get? (e : Environment α) (name : String) : Option α :=
  (e.current.find? name).or (e.outer.findSome? (·.find? name))

/-- Binds a name in the current scope. -/
def define (e : Environment α) (name : String) (value : α) : Environment α :=
  { e with current := e.current.insert name value }

/-- Rebinds a name in the nearest scope that has it. -/
def assignOuter (name : String) (value : α) : List (Table α) → Option (List (Table α))
  | [] => none
  | s :: rest =>
    if s.contains name then some (s.insert name value :: rest)
    else (assignOuter name value rest).map (s :: ·)

/-- Rebinds a name where it is bound, and binds it in the current scope if it is nowhere. -/
def set (e : Environment α) (name : String) (value : α) : Environment α :=
  if e.current.contains name then e.define name value
  else
    match assignOuter name value e.outer with
    | some outer => { e with outer }
    | none => e.define name value

def push (e : Environment α) : Environment α := ⟨∅, e.current :: e.outer⟩

/-- The bindings of the scope that was left, and the environment without it. -/
def pop? (e : Environment α) : Option (Table α × Environment α) :=
  match e.outer with
  | [] => none
  | s :: rest => some (e.current, ⟨s, rest⟩)

/-- Leaves the current scope, except the last one. -/
def leave (e : Environment α) : Environment α :=
  match e.pop? with
  | some (_, e') => e'
  | none => e

/-- All visible bindings in one table. -/
def visible (e : Environment α) : Table α :=
  (e.current :: e.outer).foldr (fun scope acc => acc.override scope) ∅

end Environment

end TagDispatch
