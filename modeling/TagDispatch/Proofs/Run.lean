import TagDispatch.Dispatch.Process

/-!
How runs are taken apart, and the calls of a processor as a sequence: with no allowance every
call is stuck, and each further unit of allowance adds one step of the processor. What is proved
of all calls is proved along this sequence.
-/

namespace TagDispatch

variable {σ α β : Type}

/-- The same outcome, with more journal in front. -/
def Outcome.after (o : Outcome σ α) (journal : List (Step σ)) : Outcome σ α :=
  { o with journal := journal ++ o.journal }

namespace Run

@[simp] theorem pure_apply (a : α) (s : Session σ) :
    (Pure.pure a : Run σ α) s = some ⟨a, s, []⟩ := rfl

theorem bind_apply (x : Run σ α) (f : α → Run σ β) (s : Session σ) :
    (x >>= f) s = (x s).bind fun o => (f o.value o.session).map (·.after o.journal) := by
  change Run.bind x f s = _
  unfold Run.bind
  cases x s with
  | none => rfl
  | some o =>
    simp only [Option.bind_some]
    cases f o.value o.session with
    | none => rfl
    | some _ => rfl

theorem bind_eq_some {x : Run σ α} {f : α → Run σ β} {s : Session σ} {o : Outcome σ β} :
    (x >>= f) s = some o ↔
      ∃ a b, x s = some a ∧ f a.value a.session = some b ∧ o = b.after a.journal := by
  rw [bind_apply]
  constructor
  · intro h
    obtain ⟨a, ha, hm⟩ := Option.bind_eq_some_iff.1 h
    obtain ⟨b, hb, rfl⟩ := Option.map_eq_some_iff.1 hm
    exact ⟨a, b, ha, hb, rfl⟩
  · rintro ⟨a, b, ha, hb, rfl⟩
    simp [ha, hb]

/-- Where the second part only adds to the journal, so does the whole. -/
theorem bind_eq_map {x : Run σ α} {f : α → Run σ α} {g : α → List (Step σ)} (s : Session σ)
    (h : ∀ a t, f a t = some ⟨a, t, g a⟩) :
    (x >>= f) s = (x s).map fun o => ⟨o.value, o.session, o.journal ++ g o.value⟩ := by
  rw [bind_apply]
  cases x s with
  | none => rfl
  | some o => simp [h, Outcome.after]

@[simp] theorem get_bind (f : Session σ → Run σ α) (s : Session σ) :
    (Run.get >>= f) s = f s s := by
  rw [bind_apply]
  cases h : f s s <;> simp [Run.get, Outcome.after, h]

@[simp] theorem modify_bind (g : Session σ → Session σ) (f : Unit → Run σ α) (s : Session σ) :
    (Run.modify g >>= f) s = f () (g s) := by
  rw [bind_apply]
  cases h : f () (g s) <;> simp [Run.modify, Outcome.after, h]

@[simp] theorem record_bind (e : Step σ) (f : Unit → Run σ α) (s : Session σ) :
    (Run.record e >>= f) s = (f () s).map (·.after [e]) := by
  rw [bind_apply]
  rfl

@[simp] theorem report_bind (m : Message) (f : Unit → Run σ α) (s : Session σ) :
    (Run.report m >>= f) s = (f () s).map (·.after [.log (.event m)]) :=
  record_bind _ f s

end Run

/-! ### The calls at each allowance -/

/-- No call comes to an end. -/
def Calls.stuck : Calls σ := ⟨fun _ => Run.stuck, fun _ => Run.stuck, fun _ _ _ => Run.stuck⟩

namespace Processor

/-- One step of the processor on top of the calls it can make. -/
def next (p : Processor σ) (c : Calls σ) : Calls σ :=
  ⟨p.processStep c, rewriteStep c, p.settleStep c⟩

def calls (p : Processor σ) (k : Nat) : Calls σ := ⟨p.process k, p.rewrite k, p.settle k⟩

theorem process_succ (p : Processor σ) (k : Nat) (n : Tree) :
    p.process (k + 1) n = p.processStep (p.calls k) n := rfl

/-- What one step keeps, all calls have. -/
theorem calls_induction (p : Processor σ) {M : Calls σ → Prop} (stuck : M Calls.stuck)
    (step : ∀ c, M c → M (p.next c)) (k : Nat) : M (p.calls k) := by
  induction k with
  | zero => exact stuck
  | succ k ih => exact step _ ih

/-- Two processors side by side, the second with at least as much allowance. -/
theorem calls_induction₂ (p q : Processor σ) {M : Calls σ → Calls σ → Prop}
    (stuck : ∀ l, M Calls.stuck (q.calls l))
    (step : ∀ k l, M (p.calls k) (q.calls l) → M (p.next (p.calls k)) (q.next (q.calls l)))
    {k l : Nat} (h : k ≤ l) : M (p.calls k) (q.calls l) := by
  induction k generalizing l with
  | zero => exact stuck l
  | succ k ih =>
    cases l with
    | zero => omega
    | succ l => exact step k l (ih (by omega))

end Processor

end TagDispatch
