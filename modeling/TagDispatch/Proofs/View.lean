import Mathlib.Data.List.Forall2
import TagDispatch.Proofs.Run

/-!
Two runs side by side. A view says in what errors, configurations and contexts may differ; from it
follows when replies, sessions, journals and pieces of code count as alike. The second run follows
the first if it comes to an end whenever the first one does, with an outcome alike.
-/

namespace TagDispatch

variable {σ α β γ δ : Type}

structure View where
  error : ProcessError → ProcessError → Prop
  config : Config → Config → Prop
  context : List String → List String → Prop
  /-- Rewriting is part of what is compared. -/
  rewrites : Prop
  /-- What the registries list is part of what is compared. -/
  inspects : Prop
  /-- Journals are no part of what is compared. -/
  silent : Prop

/-- Same value, or errors alike. -/
inductive View.Result (v : View) : Except ProcessError α → Except ProcessError α → Prop
  | ok (a : α) : v.Result (.ok a) (.ok a)
  | error {e e' : ProcessError} (h : v.error e e') : v.Result (.error e) (.error e')

structure Reply.Alike (v : View) (r r' : Reply) : Prop where
  result : v.Result r.result r'.result
  rest : r.rest = r'.rest

structure Session.Alike (v : View) (s t : Session σ) : Prop where
  config : v.config s.config t.config
  state : s.state = t.state
  env : s.env = t.env
  context : v.context s.context t.context

/-- The same step, with sessions and errors alike. -/
inductive Step.Alike (v : View) : Step σ → Step σ → Prop
  | event (m : Message) : Step.Alike v (.log (.event m)) (.log (.event m))
  | recovered (label kind : String) {e e' : ProcessError} (h : v.error e e') :
      Step.Alike v (.log (.event (.recovered label kind e)))
        (.log (.event (.recovered label kind e')))
  | span (label : String) {x y : List String} (h : v.context x y) :
      Step.Alike v (.log (.span "process" (.nodeDispatched label x.length)))
        (.log (.span "process" (.nodeDispatched label y.length)))
  | pass (n : Tree) : Step.Alike v (.pass n) (.pass n)
  | called (n : Tree) {s t : Session σ} (h : s.Alike v t) :
      Step.Alike v (.called n s) (.called n t)
  | answered {r r' : Reply} (h : r.Alike v r') : Step.Alike v (.answered r) (.answered r')
  | invoked (role : Role) (tag : Option String) (n : Tree) {s t : Session σ} (h : s.Alike v t) :
      Step.Alike v (.invoked role tag n s) (.invoked role tag n t)
  | recovering (rest snapshot : Tree) {e e' : ProcessError} (he : v.error e e')
      {s t : Session σ} (h : s.Alike v t) :
      Step.Alike v (.recovering rest snapshot e s) (.recovering rest snapshot e' t)
  | rewriting (n : Tree) {s t : Session σ} (h : s.Alike v t) :
      Step.Alike v (.rewriting n s) (.rewriting n t)
  | rewrote {r r' : Except ProcessError Tree} (h : v.Result r r') :
      Step.Alike v (.rewrote r) (.rewrote r')

/-- Code that asks for the same things and goes on alike after answers alike. -/
inductive Code.Alike (v : View) (Q : α → β → Prop) : Code σ α → Code σ β → Prop
  | done {a : α} {b : β} (h : Q a b) : Code.Alike v Q (.done a) (.done b)
  | diverge : Code.Alike v Q .diverge .diverge
  | process (n : Tree) {k : Reply → Code σ α} {k' : Reply → Code σ β}
      (h : ∀ r r', r.Alike v r' → Code.Alike v Q (k r) (k' r')) :
      Code.Alike v Q (.process n k) (.process n k')
  | rewrite (hv : v.rewrites) (n : Tree) {k : Except ProcessError Tree → Code σ α}
      {k' : Except ProcessError Tree → Code σ β}
      (h : ∀ r r', v.Result r r' → Code.Alike v Q (k r) (k' r')) :
      Code.Alike v Q (.rewrite n k) (.rewrite n k')
  | getConfig {k : Config → Code σ α} {k' : Config → Code σ β}
      (h : ∀ c d, v.config c d → Code.Alike v Q (k c) (k' d)) :
      Code.Alike v Q (.getConfig k) (.getConfig k')
  | configure (o : Setting) {k : Code σ α} {k' : Code σ β} (h : Code.Alike v Q k k') :
      Code.Alike v Q (.configure o k) (.configure o k')
  | getState {k : σ → Code σ α} {k' : σ → Code σ β}
      (h : ∀ a, Code.Alike v Q (k a) (k' a)) : Code.Alike v Q (.getState k) (.getState k')
  | setState (a : σ) {k : Code σ α} {k' : Code σ β} (h : Code.Alike v Q k k') :
      Code.Alike v Q (.setState a k) (.setState a k')
  | getEnv {k : Environment Element → Code σ α} {k' : Environment Element → Code σ β}
      (h : ∀ e, Code.Alike v Q (k e) (k' e)) : Code.Alike v Q (.getEnv k) (.getEnv k')
  | setEnv (e : Environment Element) {k : Code σ α} {k' : Code σ β}
      (h : Code.Alike v Q k k') : Code.Alike v Q (.setEnv e k) (.setEnv e k')
  | getContext {k : List String → Code σ α} {k' : List String → Code σ β}
      (h : ∀ x y, v.context x y → Code.Alike v Q (k x) (k' y)) :
      Code.Alike v Q (.getContext k) (.getContext k')
  | getKind {k : String → Code σ α} {k' : String → Code σ β}
      (h : ∀ kind, Code.Alike v Q (k kind) (k' kind)) :
      Code.Alike v Q (.getKind k) (.getKind k')
  | getCatalogue (hv : v.inspects) {k : Catalogue → Code σ α} {k' : Catalogue → Code σ β}
      (h : ∀ c, Code.Alike v Q (k c) (k' c)) :
      Code.Alike v Q (.getCatalogue k) (.getCatalogue k')

theorem Code.Alike.bind {v : View} {Q : α → β → Prop} {R : γ → δ → Prop} {x : Code σ α}
    {y : Code σ β} {f : α → Code σ γ} {g : β → Code σ δ} (h : x.Alike v Q y)
    (hf : ∀ a b, Q a b → (f a).Alike v R (g b)) : (x.bind f).Alike v R (y.bind g) := by
  induction h with
  | done h => exact hf _ _ h
  | diverge => exact .diverge
  | process n _ ih => exact .process n ih
  | rewrite hv n _ ih => exact .rewrite hv n ih
  | getConfig _ ih => exact .getConfig ih
  | configure o _ ih => exact .configure o ih
  | getState _ ih => exact .getState ih
  | setState a _ ih => exact .setState a ih
  | getEnv _ ih => exact .getEnv ih
  | setEnv e _ ih => exact .setEnv e ih
  | getContext _ ih => exact .getContext ih
  | getKind _ ih => exact .getKind ih
  | getCatalogue hv _ ih => exact .getCatalogue hv ih

namespace View

variable {v : View}

theorem result_map {f : α → β} {r r' : Except ProcessError α} (h : v.Result r r') :
    v.Result (r.map f) (r'.map f) := by
  cases h with
  | ok a => exact .ok _
  | error he => exact .error he

def journal (v : View) (j j' : List (Step σ)) : Prop :=
  v.silent ∨ List.Forall₂ (Step.Alike v) j j'

theorem journal_nil : v.journal ([] : List (Step σ)) [] := .inr .nil

theorem journal_one {e e' : Step σ} (h : e.Alike v e') : v.journal [e] [e'] :=
  .inr (.cons h .nil)

theorem journal_append {i i' j j' : List (Step σ)} (h : v.journal i i') (h' : v.journal j j') :
    v.journal (i ++ j) (i' ++ j') := by
  rcases h with h | h
  · exact .inl h
  · exact h'.imp id fun hj => List.rel_append h hj

/-- From `s` and `t` the second run follows the first. -/
def Follows (v : View) (Q : α → β → Prop) (x : Run σ α) (y : Run σ β) (s t : Session σ) : Prop :=
  ∀ o, x s = some o → ∃ o', y t = some o' ∧ Q o.value o'.value ∧
    o.session.Alike v o'.session ∧ v.journal o.journal o'.journal

section rules

variable {Q : α → β → Prop} {R : γ → δ → Prop} {s t : Session σ}

theorem follows_pure {a : α} {b : β} (h : Q a b) (hs : s.Alike v t) :
    v.Follows Q (pure a) (pure b) s t := by
  intro o ho
  cases ho
  exact ⟨_, rfl, h, hs, journal_nil⟩

theorem follows_stuck (y : Run σ β) : v.Follows Q (Run.stuck : Run σ α) y s t := by
  intro o ho
  cases ho

theorem follows_bind {x : Run σ α} {y : Run σ β} {f : α → Run σ γ} {g : β → Run σ δ}
    (h : v.Follows Q x y s t)
    (hf : ∀ a b s' t', Q a b → s'.Alike v t' → v.Follows R (f a) (g b) s' t') :
    v.Follows R (x >>= f) (y >>= g) s t := by
  intro o ho
  obtain ⟨a, b, ha, hb, rfl⟩ := Run.bind_eq_some.1 ho
  obtain ⟨a', ha', hq, hs, hj⟩ := h a ha
  obtain ⟨b', hb', hr, hs', hj'⟩ := hf _ _ _ _ hq hs b hb
  exact ⟨_, Run.bind_eq_some.2 ⟨a', b', ha', hb', rfl⟩, hr, hs', journal_append hj hj'⟩

theorem follows_get {f : Session σ → Run σ α} {g : Session σ → Run σ β}
    (h : v.Follows Q (f s) (g t) s t) : v.Follows Q (Run.get >>= f) (Run.get >>= g) s t := by
  intro o ho
  rw [Run.get_bind] at ho ⊢
  exact h o ho

theorem follows_modify {m m' : Session σ → Session σ} {f : Unit → Run σ α}
    {g : Unit → Run σ β} (h : v.Follows Q (f ()) (g ()) (m s) (m' t)) :
    v.Follows Q (Run.modify m >>= f) (Run.modify m' >>= g) s t := by
  intro o ho
  rw [Run.modify_bind] at ho ⊢
  exact h o ho

/-- Where each of two runs ends if the other does, whatever is seen alike of their outcomes is the
same. -/
theorem follows_map {ε : Type} {x : Run σ α} {y : Run σ β} {f : Outcome σ α → ε}
    {g : Outcome σ β → ε} (h : v.Follows Q x y s t)
    (back : ∀ o', y t = some o' → ∃ o, x s = some o)
    (hf : ∀ o o', Q o.value o'.value → o.session.Alike v o'.session →
      v.journal o.journal o'.journal → f o = g o') :
    (x s).map f = (y t).map g := by
  cases hx : x s with
  | some o =>
    obtain ⟨o', hy, hq, hs, hj⟩ := h o hx
    rw [hy, Option.map_some, Option.map_some, hf o o' hq hs hj]
  | none =>
    cases hy : y t with
    | none => rfl
    | some o' =>
      obtain ⟨o, ho⟩ := back o' hy
      rw [hx] at ho
      cases ho

/-- Runs that begin with journals alike. -/
theorem follows_after {x x' : Run σ α} {y y' : Run σ β} {j j' : List (Step σ)}
    (hx : x s = (x' s).map (·.after j)) (hy : y t = (y' t).map (·.after j'))
    (hj : v.journal j j') (h : v.Follows Q x' y' s t) : v.Follows Q x y s t := by
  intro o ho
  rw [hx] at ho
  obtain ⟨a, ha, rfl⟩ := Option.map_eq_some_iff.1 ho
  obtain ⟨a', ha', hq, hs, hj'⟩ := h a ha
  exact ⟨a'.after j', by rw [hy, ha']; rfl, hq, hs, journal_append hj hj'⟩

end rules

end View

end TagDispatch
