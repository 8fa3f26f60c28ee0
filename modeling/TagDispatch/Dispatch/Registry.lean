import TagDispatch.Dispatch.Code
import TagDispatch.Report.Message

/-!
Which code serves which tag.
-/

namespace TagDispatch

structure Registry (σ : Type) where
  handlers : Table (Handler σ) := ∅
  rewriters : Table (Rewriter σ) := ∅
  recoveries : Table (Recovery σ) := ∅

/-- One piece of code for one tag. -/
inductive Registration (σ : Type) where
  | handler (tag : String) (h : Handler σ)
  | rewriter (tag : String) (r : Rewriter σ)
  | recovery (tag : String) (r : Recovery σ)

namespace Registration

variable {σ : Type}

def tag : Registration σ → String
  | handler tag _ => tag
  | rewriter tag _ => tag
  | recovery tag _ => tag

def role : Registration σ → Role
  | handler _ _ => .handler
  | rewriter _ _ => .rewriter
  | recovery _ _ => .recovery

end Registration

namespace Registry

variable {σ : Type}

def empty : Registry σ := {}

instance : EmptyCollection (Registry σ) := ⟨empty⟩

def serves (r : Registry σ) : Role → String → Bool
  | .handler, tag => r.handlers.contains tag
  | .rewriter, tag => r.rewriters.contains tag
  | .recovery, tag => r.recoveries.contains tag

/-- What was registered for the same tag and role before is forgotten. -/
def register (r : Registry σ) : Registration σ → Registry σ
  | .handler tag h => { r with handlers := r.handlers.insert tag h }
  | .rewriter tag w => { r with rewriters := r.rewriters.insert tag w }
  | .recovery tag w => { r with recoveries := r.recoveries.insert tag w }

/-- Forgetting is reported. -/
def warning? (r : Registry σ) (e : Registration σ) : Option Message :=
  if r.serves e.role e.tag then some (.replaced e.tag e.role) else none

/-- Registers in order; the messages are those of the registrations that replaced another. -/
def registerAll (r : Registry σ) : List (Registration σ) → Registry σ × List Message
  | [] => (r, [])
  | e :: es =>
    let rest := (r.register e).registerAll es
    (rest.1, (r.warning? e).toList ++ rest.2)

def ofList (es : List (Registration σ)) : Registry σ := (empty.registerAll es).1

def tags (r : Registry σ) : List String := r.handlers.keys

def size (r : Registry σ) : Nat := r.handlers.size

def isEmpty (r : Registry σ) : Bool := r.handlers.isEmpty

def contains (r : Registry σ) (tag : String) : Bool := r.handlers.contains tag

def hasRewriters (r : Registry σ) : Bool := !r.rewriters.isEmpty

def catalogue (r : Registry σ) : Catalogue :=
  ⟨r.handlers.names, r.rewriters.names, r.recoveries.names⟩

def describe (r : Registry σ) : String :=
  "HandlerRegistry " ++ "\x7b" ++ " handler_tags: " ++ writeNames r.handlers.keys
    ++ ", rewriter_tags: " ++ writeNames r.rewriters.keys
    ++ ", recovery_tags: " ++ writeNames r.recoveries.keys ++ " " ++ "\x7d"

end Registry

end TagDispatch
