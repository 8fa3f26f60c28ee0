import TagDispatch.Proofs.Registry

/-!
What attached code asks its processor for.
-/

namespace TagDispatch

variable {σ α : Type}

inductive Request where
  | process
  | rewrite
  | getConfig
  | configure (o : Setting)
  | getState
  | setState
  | getEnv
  | setEnv
  | getContext
  | getKind
  | getCatalogue

/-- Every request of the code is one of `P`, whatever the answers are. -/
def Code.Only (P : Request → Prop) : Code σ α → Prop
  | .done _ => True
  | .diverge => True
  | .process _ k => P .process ∧ ∀ r, (k r).Only P
  | .rewrite _ k => P .rewrite ∧ ∀ r, (k r).Only P
  | .getConfig k => P .getConfig ∧ ∀ c, (k c).Only P
  | .configure o k => P (.configure o) ∧ k.Only P
  | .getState k => P .getState ∧ ∀ a, (k a).Only P
  | .setState _ k => P .setState ∧ k.Only P
  | .getEnv k => P .getEnv ∧ ∀ e, (k e).Only P
  | .setEnv _ k => P .setEnv ∧ k.Only P
  | .getContext k => P .getContext ∧ ∀ x, (k x).Only P
  | .getKind k => P .getKind ∧ ∀ kind, (k kind).Only P
  | .getCatalogue k => P .getCatalogue ∧ ∀ c, (k c).Only P

theorem Code.only_of_all {P : Request → Prop} (hP : ∀ r, P r) (x : Code σ α) : x.Only P := by
  induction x with
  | done a => trivial
  | diverge => trivial
  | configure o k ih => exact ⟨hP _, ih⟩
  | setState a k ih => exact ⟨hP _, ih⟩
  | setEnv e k ih => exact ⟨hP _, ih⟩
  | process n k ih => exact ⟨hP _, ih⟩
  | rewrite n k ih => exact ⟨hP _, ih⟩
  | getConfig k ih => exact ⟨hP _, ih⟩
  | getState k ih => exact ⟨hP _, ih⟩
  | getEnv k ih => exact ⟨hP _, ih⟩
  | getContext k ih => exact ⟨hP _, ih⟩
  | getKind k ih => exact ⟨hP _, ih⟩
  | getCatalogue k ih => exact ⟨hP _, ih⟩

theorem Code.Only.mono {P Q : Request → Prop} (h : ∀ r, P r → Q r) {x : Code σ α}
    (hx : x.Only P) : x.Only Q := by
  induction x with
  | done a => trivial
  | diverge => trivial
  | configure o k ih => exact ⟨h _ hx.1, ih hx.2⟩
  | setState a k ih => exact ⟨h _ hx.1, ih hx.2⟩
  | setEnv e k ih => exact ⟨h _ hx.1, ih hx.2⟩
  | process n k ih => exact ⟨h _ hx.1, fun r => ih r (hx.2 r)⟩
  | rewrite n k ih => exact ⟨h _ hx.1, fun r => ih r (hx.2 r)⟩
  | getConfig k ih => exact ⟨h _ hx.1, fun c => ih c (hx.2 c)⟩
  | getState k ih => exact ⟨h _ hx.1, fun a => ih a (hx.2 a)⟩
  | getEnv k ih => exact ⟨h _ hx.1, fun e => ih e (hx.2 e)⟩
  | getContext k ih => exact ⟨h _ hx.1, fun x => ih x (hx.2 x)⟩
  | getKind k ih => exact ⟨h _ hx.1, fun kind => ih kind (hx.2 kind)⟩
  | getCatalogue k ih => exact ⟨h _ hx.1, fun c => ih c (hx.2 c)⟩

/-- Every request of all the code in the registry is one of `P`. -/
def Registry.OnlyAsks (r : Registry σ) (P : Request → Prop) : Prop :=
  r.Every (fun h => ∀ n, (h n).Only P) (fun w => ∀ n, (w n).Only P)
    (fun w => ∀ rest copy e, (w rest copy e).Only P)

theorem Registry.onlyAsks_of_all {P : Request → Prop} (hP : ∀ r, P r) (r : Registry σ) :
    r.OnlyAsks P where
  handlers _ h _ n := Code.only_of_all hP (h n)
  rewriters _ w _ n := Code.only_of_all hP (w n)
  recoveries _ w _ rest copy e := Code.only_of_all hP (w rest copy e)

end TagDispatch
