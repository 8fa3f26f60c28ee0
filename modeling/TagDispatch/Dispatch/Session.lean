import TagDispatch.Dispatch.Registry

/-!
What changes while a processor runs, and the record of what it did. A run takes a session to an
outcome: a value, the session afterwards, and the journal of the steps in between. A run that
does not come to an end within its allowance has no outcome.
-/

namespace TagDispatch

/-- `context` holds the tags of the nodes being processed, the innermost first. -/
structure Session (σ : Type) where
  config : Config
  state : σ
  env : Environment Element := .new
  context : List String := []

namespace Session

variable {σ : Type}

def enter (s : Session σ) (label : String) : Session σ := { s with context := label :: s.context }

def exit (s : Session σ) : Session σ := { s with context := s.context.tail }

/-- The tag of the node around the one being processed. -/
def parentTag? (s : Session σ) : Option String := s.context[1]?

/-- The tags of the nodes being processed, the outermost first. -/
def path (s : Session σ) : List String := s.context.reverse

end Session

/-- One step of a run. The logged ones are for the reader of a log; the others mark where an
automatic rewriting pass begins, where calls begin and end, and where attached code starts, each
with the session at that moment. -/
inductive Step (σ : Type) where
  | log (entry : LogEntry)
  | pass (n : Tree)
  | called (n : Tree) (s : Session σ)
  | answered (r : Reply)
  | invoked (role : Role) (tag : Option String) (n : Tree) (s : Session σ)
  | recovering (remaining snapshot : Tree) (error : ProcessError) (s : Session σ)
  | rewriting (n : Tree) (s : Session σ)
  | rewrote (r : Except ProcessError Tree)

/-- What of a step shows in a log. -/
def Step.entry? {σ : Type} : Step σ → Option LogEntry
  | .log entry => some entry
  | _ => none

structure Outcome (σ α : Type) where
  value : α
  session : Session σ
  journal : List (Step σ)

def Run (σ α : Type) : Type := Session σ → Option (Outcome σ α)

namespace Run

variable {σ α β : Type}

def pure (a : α) : Run σ α := fun s => some ⟨a, s, []⟩

def bind (x : Run σ α) (f : α → Run σ β) : Run σ β := fun s =>
  match x s with
  | none => none
  | some o =>
    match f o.value o.session with
    | none => none
    | some p => some ⟨p.value, p.session, o.journal ++ p.journal⟩

instance : Monad (Run σ) where
  pure := pure
  bind := bind

/-- Has no outcome. -/
def stuck : Run σ α := fun _ => none

def get : Run σ (Session σ) := fun s => some ⟨s, s, []⟩

def modify (f : Session σ → Session σ) : Run σ Unit := fun s => some ⟨(), f s, []⟩

def record (step : Step σ) : Run σ Unit := fun s => some ⟨(), s, [step]⟩

def report (m : Message) : Run σ Unit := record (.log (.event m))

end Run

/-- The entries of a log that are at least as severe as `limit` admits. -/
def logOf {σ : Type} (limit : Nat) (journal : List (Step σ)) : List LogEntry :=
  (journal.filterMap Step.entry?).filter (·.level.verbosity ≤ limit)

end TagDispatch
