import TagDispatch.Proofs.Lockstep
import TagDispatch.Proofs.Registry
import TagDispatch.Proofs.Request

/-!
The allowance only decides whether a run comes to an end: an outcome that is there with some
allowance is there with every larger one, journal included. So what a call comes to is one
outcome, and no theorem about it depends on the allowance.
-/

namespace TagDispatch

variable {σ α β : Type}

/-! ### Views without slack -/

/-- Errors and configurations are compared as they are. -/
structure View.Plain (v : View) : Prop where
  error {e e' : ProcessError} : v.error e e' ↔ e = e'
  config {c d : Config} : v.config c d → c = d

/-- Equals are alike, and nothing else is. -/
structure View.Exact (v : View) : Prop extends View.Plain v where
  context {x y : List String} : v.context x y → x = y
  heard : ¬ v.silent

/-- The requests whose answers are the same on both sides, or compared. -/
def View.admits (v : View) : Request → Prop
  | .rewrite => v.rewrites
  | .getCatalogue => v.inspects
  | .getContext => ∀ x y, v.context x y → x = y
  | _ => True

namespace View.Plain

variable {v : View}

theorem result (hv : v.Plain) {r r' : Except ProcessError α} : v.Result r r' ↔ r = r' := by
  constructor
  · intro h
    cases h with
    | ok a => rfl
    | error he => rw [hv.error.1 he]
  · rintro rfl
    cases r with
    | ok a => exact .ok a
    | error e => exact .error (hv.error.2 rfl)

theorem reply (hv : v.Plain) {r r' : Reply} : r.Alike v r' ↔ r = r' := by
  constructor
  · rintro ⟨hr, hrest⟩
    have hr := hv.result.1 hr
    cases r
    cases r'
    simp only at hr hrest
    rw [hr, hrest]
  · rintro rfl
    exact ⟨hv.result.2 rfl, rfl⟩

/-- Code is like itself if it asks only for what the view admits. -/
theorem code (hv : v.Plain) {Q : α → α → Prop} (hq : ∀ a, Q a a) {x : Code σ α}
    (hx : x.Only v.admits) : x.Alike v Q x := by
  induction x with
  | done a => exact .done (hq a)
  | diverge => exact .diverge
  | process n k ih =>
    refine .process n fun r r' h => ?_
    rw [hv.reply.1 h]
    exact ih r' (hx.2 r')
  | rewrite n k ih =>
    refine .rewrite hx.1 n fun r r' h => ?_
    rw [hv.result.1 h]
    exact ih r' (hx.2 r')
  | getConfig k ih =>
    refine .getConfig fun c d h => ?_
    rw [hv.config h]
    exact ih d (hx.2 d)
  | configure o k ih => exact .configure o (ih hx.2)
  | getState k ih => exact .getState fun a => ih a (hx.2 a)
  | setState a k ih => exact .setState a (ih hx.2)
  | getEnv k ih => exact .getEnv fun e => ih e (hx.2 e)
  | setEnv e k ih => exact .setEnv e (ih hx.2)
  | getContext k ih =>
    refine .getContext fun x y h => ?_
    rw [hx.1 x y h]
    exact ih y (hx.2 y)
  | getKind k ih => exact .getKind fun kind => ih kind (hx.2 kind)
  | getCatalogue k ih => exact .getCatalogue hx.1 fun c => ih c (hx.2 c)

theorem replies (hv : v.Plain) {x : Code σ Reply} (hx : x.Only v.admits) :
    x.Alike v (Reply.Alike v) x :=
  hv.code (fun _ => hv.reply.2 rfl) hx

theorem results (hv : v.Plain) {x : Code σ (Except ProcessError α)} (hx : x.Only v.admits) :
    x.Alike v v.Result x :=
  hv.code (fun _ => hv.result.2 rfl) hx

end View.Plain

namespace View.Exact

variable {v : View}

theorem session (hv : v.Exact) {s t : Session σ} (h : s.Alike v t) : s = t := by
  obtain ⟨hc, hs, he, hx⟩ := h
  have hc := hv.config hc
  have hx := hv.context hx
  cases s
  cases t
  simp only at hc hs he hx
  rw [hc, hs, he, hx]

theorem step (hv : v.Exact) {e e' : Step σ} (h : e.Alike v e') : e = e' := by
  cases h with
  | event m => rfl
  | recovered label kind he => rw [hv.error.1 he]
  | span label hx => rw [hv.context hx]
  | pass n => rfl
  | called n hs => rw [hv.session hs]
  | answered hr => rw [hv.reply.1 hr]
  | invoked role tag n hs => rw [hv.session hs]
  | recovering rest copy he hs => rw [hv.error.1 he, hv.session hs]
  | rewriting n hs => rw [hv.session hs]
  | rewrote hr => rw [hv.result.1 hr]

theorem journal (hv : v.Exact) {j j' : List (Step σ)} (h : v.journal j j') : j = j' := by
  rcases h with h | h
  · exact absurd h hv.heard
  · induction h with
    | nil => rfl
    | cons he _ ih => rw [hv.step he, ih]

/-- A run that follows another without slack has its outcome. -/
theorem follows (hv : v.Exact) {Q : α → α → Prop} (hq : ∀ a b, Q a b → a = b) {x y : Run σ α}
    {s t : Session σ} (h : v.Follows Q x y s t) {o : Outcome σ α} (ho : x s = some o) :
    y t = some o := by
  obtain ⟨o', ho', ha, hs, hj⟩ := h o ho
  have ha := hq _ _ ha
  have hs := hv.session hs
  have hj := hv.journal hj
  cases o
  cases o'
  simp only at ha hs hj
  rw [ho', ha, hs, hj]

theorem admits (hv : v.Exact) {r : Request} (rewrites : r = .rewrite → v.rewrites)
    (inspects : r = .getCatalogue → v.inspects) : v.admits r := by
  cases r with
  | rewrite => exact rewrites rfl
  | getCatalogue => exact inspects rfl
  | getContext => exact fun _ _ => hv.context
  | _ => trivial

end View.Exact

/-! ### What runs come to -/

/-- With enough allowance, the run from `s` ends with `a` in the session `t`. -/
def ComesTo (x : Nat → Run σ α) (s : Session σ) (a : α) (t : Session σ) : Prop :=
  ∃ k j, x k s = some ⟨a, t, j⟩

/-- An outcome that is there stays there with more allowance. -/
def Lasting (x : Nat → Run σ α) : Prop :=
  ∀ k l s o, k ≤ l → x k s = some o → x l s = some o

theorem Lasting.pure (a : α) : Lasting fun _ => (Pure.pure a : Run σ α) := fun _ _ _ _ _ h => h

theorem Lasting.bind {x : Nat → Run σ α} {f : Nat → α → Run σ β} (hx : Lasting x)
    (hf : ∀ a, Lasting (f · a)) : Lasting fun k => x k >>= f k := by
  intro k l s o h ho
  obtain ⟨a, b, ha, hb, rfl⟩ := Run.bind_eq_some.1 ho
  exact Run.bind_eq_some.2 ⟨a, b, hx k l s a h ha, hf a.value k l a.session b h hb, rfl⟩

namespace ComesTo

variable {x : Nat → Run σ α} {s t : Session σ}

/-- Two runs after each other; each may need an allowance of its own. -/
theorem bind {f : Nat → α → Run σ β} (hx : Lasting x) (hf : ∀ a, Lasting (f · a)) {b : β} :
    ComesTo (fun k => x k >>= f k) s b t ↔
      ∃ a u, ComesTo x s a u ∧ ComesTo (f · a) u b t := by
  constructor
  · rintro ⟨k, j, h⟩
    obtain ⟨o, q, ho, hq, he⟩ := Run.bind_eq_some.1 h
    cases he
    exact ⟨o.value, o.session, ⟨k, o.journal, ho⟩, ⟨k, q.journal, hq⟩⟩
  · rintro ⟨a, u, ⟨k, j, hk⟩, ⟨l, i, hl⟩⟩
    have hk := hx k _ s _ (Nat.le_max_left k l) hk
    have hl := hf a l _ u _ (Nat.le_max_right k l) hl
    exact ⟨max k l, j ++ i, Run.bind_eq_some.2 ⟨_, _, hk, hl, rfl⟩⟩

theorem unique (hx : Lasting x) {a b : α} {u : Session σ} (h : ComesTo x s a t)
    (h' : ComesTo x s b u) : a = b ∧ t = u := by
  obtain ⟨k, j, hk⟩ := h
  obtain ⟨l, i, hl⟩ := h'
  have he := (hx k _ s _ (Nat.le_max_left k l) hk).symm.trans (hx l _ s _ (Nat.le_max_right k l) hl)
  cases he
  exact ⟨rfl, rfl⟩

/-- More journal in front makes no difference. -/
theorem after {y : Nat → Run σ α} {j : List (Step σ)} (h : ∀ k, x k s = (y k s).map (·.after j))
    {a : α} : ComesTo x s a t ↔ ComesTo y s a t := by
  constructor
  · rintro ⟨k, i, hk⟩
    obtain ⟨o, ho, he⟩ := Option.map_eq_some_iff.1 ((h k).symm.trans hk)
    cases he
    exact ⟨k, o.journal, ho⟩
  · rintro ⟨k, i, hk⟩
    refine ⟨k, j ++ i, ?_⟩
    rw [h, hk]
    rfl

/-- The first unit of allowance is not enough for anything. -/
theorem succ (h : x 0 = Run.stuck) {a : α} :
    ComesTo x s a t ↔ ComesTo (fun k => x (k + 1)) s a t := by
  constructor
  · rintro ⟨k, j, hk⟩
    cases k with
    | zero =>
      rw [h] at hk
      cases hk
    | succ k => exact ⟨k, j, hk⟩
  · rintro ⟨k, j, hk⟩
    exact ⟨k + 1, j, hk⟩

end ComesTo

/-! ### More allowance -/

/-- Everything is compared. -/
def View.same : View := ⟨Eq, Eq, Eq, True, True, False⟩

theorem View.same_exact : View.same.Exact := ⟨⟨.rfl, id⟩, id, id⟩

theorem View.same_only (x : Code σ α) : x.Only View.same.admits :=
  Code.only_of_all (fun _ => View.same_exact.admits (fun _ => trivial) fun _ => trivial) x

theorem View.same_session (s : Session σ) : s.Alike View.same s := ⟨rfl, rfl, rfl, rfl⟩

namespace Processor

theorem lockstep_self (p : Processor σ) : Lockstep View.same p p where
  kind := rfl
  catalogue _ := rfl
  error_refl _ := rfl
  quiet h := congrArg Config.quiet h
  set o h := congrArg (Config.set · o) h
  blind h := .inl h
  enter label h := congrArg (label :: ·) h
  pass h := by rw [View.same_exact.context h]
  rewrites _ _ := trivial
  handlers := Table.find?_rel fun _ h _ n => View.same_exact.replies (View.same_only (h n))
  recoveries := Table.find?_rel fun _ w _ rest copy e e' he => by
    rw [View.same_exact.error.1 he]
    exact View.same_exact.replies (View.same_only (w rest copy e'))
  rewriters tag _ := Table.find?_rel (fun _ w _ n =>
    View.same_exact.results (View.same_only (w n))) tag

/-- A finished call stays what it is with more allowance. -/
theorem process_lasting (p : Processor σ) (n : Tree) : Lasting (p.process · n) :=
  fun _ _ _ _ h ho => View.same_exact.follows (fun _ _ => View.same_exact.reply.1)
    ((p.lockstep_self.calls h).process n (View.same_session _)) ho

theorem rewrite_lasting (p : Processor σ) (n : Tree) : Lasting (p.rewrite · n) :=
  fun _ _ _ _ h ho => View.same_exact.follows (fun _ _ => View.same_exact.result.1)
    ((p.lockstep_self.calls h).rewrite trivial n (View.same_session _)) ho

theorem prepare_lasting (p : Processor σ) (n : Tree) :
    Lasting fun k => p.prepare (p.calls k) n :=
  fun _ _ _ _ h ho => View.same_exact.follows (fun _ _ => View.same_exact.result.1)
    (p.lockstep_self.prepare (p.lockstep_self.calls h) n (View.same_session _)) ho

theorem enter_lasting (p : Processor σ) (n : Tree) : Lasting fun k => p.enter (p.calls k) n :=
  fun _ _ _ _ h ho => View.same_exact.follows (fun _ _ => View.same_exact.reply.1)
    (p.lockstep_self.enter_call (p.lockstep_self.calls h) n (View.same_session _)) ho

theorem settle_lasting (p : Processor σ) (label : String) (rounds : Nat) (n : Tree) :
    Lasting (p.settle · label rounds n) :=
  fun _ _ _ _ h ho => View.same_exact.follows (fun _ _ => View.same_exact.result.1)
    ((p.lockstep_self.calls h).settle trivial label rounds n (View.same_session _)) ho

theorem rewriteElements_lasting (p : Processor σ) (es : List Element) :
    Lasting fun k => rewriteElements (p.calls k) es :=
  fun _ _ _ _ h ho => View.same_exact.follows (fun _ _ => View.same_exact.result.1)
    (Lockstep.rewriteElements (p.lockstep_self.calls h) trivial es (View.same_session _)) ho

theorem code_lasting (p : Processor σ) (x : Code σ α) :
    Lasting fun k => x.run p.profile (p.calls k) :=
  fun _ _ _ _ h ho => View.same_exact.follows (fun _ _ h => h)
    (p.lockstep_self.code (p.lockstep_self.calls h)
      (View.same_exact.code (Q := Eq) (fun _ => rfl) (View.same_only x)) (View.same_session _)) ho

end Processor

end TagDispatch
