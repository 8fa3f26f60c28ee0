import TagDispatch.Proofs.Request
import TagDispatch.Proofs.Step

/-!
What a run can do to a session. An effect relates the session before a run, the journal of the
run and the session after it. An effect that holds of all that the processor records and of all
that attached code can ask for, one thing after the other, holds of every call.
-/

namespace TagDispatch

variable {σ α β : Type}

/-- The session before, the journal, the session after. -/
abbrev Effect (σ : Type) := Session σ → List (Step σ) → Session σ → Prop

def Run.Has (x : Run σ α) (E : Effect σ) : Prop :=
  ∀ s o, x s = some o → E s o.journal o.session

/-- The steps that a processor can record in the session `s`. -/
inductive Processor.Records (p : Processor σ) (s : Session σ) : Step σ → Prop
  | log (entry : LogEntry) : p.Records s (.log entry)
  | pass (n : Tree) (outside : s.context.isEmpty = true) (some : p.registry.hasRewriters = true) :
      p.Records s (.pass n)
  | called (n : Tree) : p.Records s (.called n s)
  | answered (r : Reply) : p.Records s (.answered r)
  | handler (tag : Option String) (n : Tree) : p.Records s (.invoked .handler tag n s)
  | rewriter (n : Tree) (w : Rewriter σ)
      (found : n.tagName?.bind p.registry.rewriters.find? = some w) :
      p.Records s (.invoked .rewriter n.tagName? n s)
  | recovering (rest snapshot : Tree) (e : ProcessError) :
      p.Records s (.recovering rest snapshot e s)
  | rewriting (n : Tree) : p.Records s (.rewriting n s)
  | rewrote (r : Except ProcessError Tree) : p.Records s (.rewrote r)

/-- The attached code makes no requests but those of `P`, and the effect holds of each thing that
can then happen in a run. -/
structure Processor.Allows (p : Processor σ) (P : Request → Prop) (E : Effect σ) : Prop where
  asks : p.registry.OnlyAsks P
  refl (s : Session σ) : E s [] s
  trans {s t u : Session σ} {j j' : List (Step σ)} : E s j t → E t j' u → E s (j ++ j') u
  state (s : Session σ) (a : σ) : P .setState → E s [] { s with state := a }
  env (s : Session σ) (e : Environment Element) : P .setEnv → E s [] { s with env := e }
  config (s : Session σ) (o : Setting) :
    P (.configure o) → E s [] { s with config := s.config.set o }
  record {s : Session σ} {e : Step σ} : p.Records s e → E s [e] s
  nested {s t : Session σ} {label : String} {j : List (Step σ)} :
    E (s.enter label) j t → E s j t.exit

structure Calls.Have (c : Calls σ) (E : Effect σ) : Prop where
  process (n : Tree) : (c.process n).Has E
  rewrite (n : Tree) : (c.rewrite n).Has E
  settle (label : String) (rounds : Nat) (n : Tree) : (c.settle label rounds n).Has E

namespace Processor.Allows

variable {p : Processor σ} {P : Request → Prop} {E : Effect σ} {c : Calls σ}

/-! ### Composing runs -/

theorem pure (h : p.Allows P E) (a : α) : (Pure.pure a : Run σ α).Has E := by
  intro s o ho
  cases ho
  exact h.refl s

theorem bind (h : p.Allows P E) {x : Run σ α} {f : α → Run σ β} (hx : x.Has E)
    (hf : ∀ a, (f a).Has E) : (x >>= f).Has E := by
  intro s o ho
  obtain ⟨a, b, ha, hb, rfl⟩ := Run.bind_eq_some.1 ho
  exact h.trans (hx s a ha) (hf a.value a.session b hb)

theorem get (h : p.Allows P E) : (Run.get : Run σ (Session σ)).Has E := by
  intro s o ho
  cases ho
  exact h.refl s

theorem modify {g : Session σ → Session σ} (hg : ∀ s, E s [] (g s)) : (Run.modify g).Has E := by
  intro s o ho
  cases ho
  exact hg s

theorem report (h : p.Allows P E) (m : Message) : (Run.report m : Run σ Unit).Has E := by
  intro s o ho
  cases ho
  exact h.record (.log _)

/-- A journal of log entries alone. -/
theorem logs (h : p.Allows P E) (s : Session σ) {j : List (Step σ)}
    (hj : ∀ e ∈ j, ∃ entry, e = .log entry) : E s j s := by
  induction j with
  | nil => exact h.refl s
  | cons e j ih =>
    obtain ⟨entry, rfl⟩ := hj e (by simp)
    exact h.trans (h.record (.log entry)) (ih fun e he => hj e (by simp [he]))

/-! ### Attached code -/

theorem code (h : p.Allows P E) (hc : c.Have E) (x : Code σ α) (hx : x.Only P) :
    (x.run p.profile c).Has E := by
  induction x with
  | done a => exact h.pure a
  | diverge => intro s o ho; cases ho
  | process n k ih => exact h.bind (hc.process n) fun r => ih r (hx.2 r)
  | rewrite n k ih => exact h.bind (hc.rewrite n) fun r => ih r (hx.2 r)
  | getConfig k ih => exact h.bind h.get fun s => ih s.config (hx.2 _)
  | configure o k ih => exact h.bind (modify fun s => h.config s o hx.1) fun _ => ih hx.2
  | getState k ih => exact h.bind h.get fun s => ih s.state (hx.2 _)
  | setState a k ih => exact h.bind (modify fun s => h.state s a hx.1) fun _ => ih hx.2
  | getEnv k ih => exact h.bind h.get fun s => ih s.env (hx.2 _)
  | setEnv e k ih => exact h.bind (modify fun s => h.env s e hx.1) fun _ => ih hx.2
  | getContext k ih => exact h.bind h.get fun s => ih s.context (hx.2 _)
  | getKind k ih => exact ih p.kind (hx.2 _)
  | getCatalogue k ih => exact ih p.registry.catalogue (hx.2 _)

/-! ### Dispatch -/

theorem recover (h : p.Allows P E) (hc : c.Have E) (tag : Option String) (label : String)
    (snapshot : Option Tree) (r : Reply) : (p.recover c tag label snapshot r).Has E := by
  obtain ⟨result, rest⟩ := r
  cases result with
  | ok v => exact h.pure _
  | error e =>
    cases hr : p.recovery? tag with
    | none =>
      rw [recover_none p c label (.inl hr)]
      exact h.pure _
    | some hook =>
      cases snapshot with
      | none =>
        rw [recover_none p c label (.inr rfl)]
        exact h.pure _
      | some copy =>
        intro s o ho
        rw [recover_apply p c label hr] at ho
        obtain ⟨q, hq, rfl⟩ := Option.map_eq_some_iff.1 ho
        have hl := h.record (s := s) (.log (.event (.recovered label p.kind e)))
        have hm := h.record (s := s) (.recovering rest copy e)
        have hx := recovery_of_every h.asks hr rest copy e
        exact h.trans (h.trans hl hm) (h.code hc _ hx s q hq)

theorem finish (h : p.Allows P E) (label : String) (snapshot : Option Tree) (r : Reply) :
    (p.finish label snapshot r).Has E := by
  intro s o ho
  rw [finish_apply] at ho
  cases ho
  exact h.refl s

theorem invoke (h : p.Allows P E) (hc : c.Have E) (f : Handler σ) (hf : ∀ n, (f n).Only P)
    (isDefault : Bool) (tag : Option String) (label : String) (snapshot : Option Tree) (n : Tree) :
    (p.invoke c f isDefault tag label snapshot n).Has E := by
  intro s o ho
  rw [invoke_apply] at ho
  obtain ⟨q, hq, rfl⟩ := Option.map_eq_some_iff.1 ho
  have hw : E s (p.warning s.config isDefault label) s := h.logs s fun _ => warning_logs
  have hr := h.bind (h.code hc (f (handed s.config isDefault n)) (hf _))
    fun r => h.bind (h.recover hc tag label snapshot r) fun r => h.finish label snapshot r
  exact h.trans (h.trans hw (h.record (.handler tag _))) (hr s q hq)

theorem walkElements (h : p.Allows P E) (hc : c.Have E) (label : String) (es : List Element) :
    (Processor.walkElements c label es).Has E := by
  induction es with
  | nil => exact h.pure _
  | cons e es ih =>
    cases e with
    | atom a => exact h.bind ih fun r => h.pure _
    | node m =>
      refine h.bind (hc.process m) fun reply => ?_
      cases reply.result.bind (keepChild label) with
      | error err => exact h.pure _
      | ok child => exact h.bind ih fun r => h.pure _

theorem walk (h : p.Allows P E) (hc : c.Have E) (label : String) (snapshot : Option Tree)
    (n : Tree) : (p.walk c label snapshot n).Has E := by
  refine h.bind (h.walkElements hc label n.elements) fun r => ?_
  cases r.1 with
  | error e => exact h.pure _
  | ok es => exact h.bind h.get fun s => h.pure _

theorem route (h : p.Allows P E) (hc : c.Have E) (config : Config) (tag : Option String)
    (label : String) (snapshot : Option Tree) (n : Tree) :
    (p.route c config tag label snapshot n).Has E := by
  unfold Processor.route
  split
  · exact h.pure _
  · cases hr : p.resolve config tag with
    | some found =>
      exact h.invoke hc found.1 (handler_of_every h.asks hr) found.2 tag label snapshot n
    | none =>
      simp only
      split
      · exact h.pure _
      · exact h.walk hc label snapshot n

theorem dispatch (h : p.Allows P E) (hc : c.Have E) (n : Tree) : (p.dispatch c n).Has E := by
  intro s o ho
  rw [dispatch_apply] at ho
  obtain ⟨q, hq, rfl⟩ := Option.map_eq_some_iff.1 ho
  have hb : E s (traceBefore s.config n) s := h.logs s fun _ => traceBefore_logs
  have ha : E q.session (traceAfter s.config n q.value) q.session :=
    h.logs q.session fun _ => traceAfter_logs
  exact h.trans (h.trans hb (h.route hc _ _ _ _ _ s q hq)) ha

theorem enter (h : p.Allows P E) (hc : c.Have E) (n : Tree) : (p.enter c n).Has E := by
  intro s o ho
  rw [enter_apply] at ho
  obtain ⟨q, hq, rfl⟩ := Option.map_eq_some_iff.1 ho
  have hl := h.record (s := s)
    (.log (.span "process" (.nodeDispatched n.label s.context.length)))
  have hd := h.nested (h.dispatch hc n (s.enter n.label) q hq)
  exact h.trans (h.trans (h.trans hl (h.record (.called n))) hd) (h.record (.answered q.value))

theorem prepare (h : p.Allows P E) (hc : c.Have E) (n : Tree) : (p.prepare c n).Has E := by
  intro s o ho
  cases hp : s.context.isEmpty && p.registry.hasRewriters with
  | false =>
    rw [prepare_inside p c n hp] at ho
    cases ho
    exact h.refl s
  | true =>
    rw [prepare_outside p c n hp] at ho
    obtain ⟨q, hq, rfl⟩ := Option.map_eq_some_iff.1 ho
    obtain ⟨outside, some⟩ := Bool.and_eq_true_iff.1 hp
    exact h.trans (h.record (.pass n outside some)) (hc.rewrite n s q hq)

theorem processStep (h : p.Allows P E) (hc : c.Have E) (n : Tree) : (p.processStep c n).Has E := by
  intro s o ho
  rw [processStep_apply] at ho
  refine h.bind (h.prepare hc n) (fun r => ?_) s o ho
  cases r with
  | error e => exact h.pure _
  | ok m => exact h.enter hc m

/-! ### Rewriting -/

theorem rewriteElements (h : p.Allows P E) (hc : c.Have E) (es : List Element) :
    (Processor.rewriteElements c es).Has E := by
  induction es with
  | nil => exact h.pure _
  | cons e es ih =>
    cases e with
    | atom a => exact h.bind ih fun r => h.pure _
    | node m =>
      refine h.bind (hc.rewrite m) fun r => ?_
      cases r with
      | error err => exact h.pure _
      | ok m => exact h.bind ih fun r => h.pure _

theorem rewriteStep (h : p.Allows P E) (hc : c.Have E) (n : Tree) :
    (Processor.rewriteStep c n).Has E := by
  intro s o ho
  rw [rewriteStep_apply] at ho
  obtain ⟨q, hq, hm⟩ := Option.bind_eq_some_iff.1 ho
  obtain ⟨u, hu, rfl⟩ := Option.map_eq_some_iff.1 hm
  have hn := h.nested (h.rewriteElements hc n.elements (s.enter n.label) q hq)
  have hs : (afterChildren c n q.value).Has E := by
    cases q.value with
    | error e => exact h.pure _
    | ok es => exact hc.settle _ _ _
  exact h.trans (h.record (.rewriting n))
    (h.trans hn (h.trans (hs q.session.exit u hu) (h.record (.rewrote u.value))))

theorem settleStep (h : p.Allows P E) (hc : c.Have E) (label : String) (rounds : Nat) (n : Tree) :
    (p.settleStep c label rounds n).Has E := by
  cases hw : n.tagName?.bind p.registry.rewriters.find? with
  | none =>
    rw [settleStep_none p c label rounds hw]
    exact h.pure _
  | some w =>
    intro s o ho
    rw [settleStep_some p c label rounds hw] at ho
    obtain ⟨q, hq, rfl⟩ := Option.map_eq_some_iff.1 ho
    refine h.trans (h.record (.rewriter n w hw)) (?_)
    refine h.bind (h.code hc (w n) (rewriter_of_every h.asks hw n)) (fun r => ?_) s q hq
    cases r with
    | error e => exact h.pure _
    | ok m =>
      refine h.bind (h.report _) fun _ => ?_
      split
      · exact h.pure _
      · refine h.bind h.get fun s => ?_
        split
        · exact h.pure _
        · exact hc.settle label (rounds + 1) m

/-! ### Every call -/

/-- What one step keeps a whole run keeps, whatever the attached code does. -/
theorem calls (h : p.Allows P E) (k : Nat) : (p.calls k).Have E := by
  refine p.calls_induction (M := (·.Have E)) ?_ (fun c hc => ?_) k
  · constructor <;> intros <;> intro s o ho <;> cases ho
  · exact ⟨h.processStep hc, h.rewriteStep hc, h.settleStep hc⟩

theorem processElement (h : p.Allows P E) (k : Nat) (e : Element) :
    (p.processElement k e).Has E := by
  cases e with
  | atom a => exact h.pure _
  | node n => exact h.bind ((h.calls k).process n) fun r => h.pure _

theorem processOption (h : p.Allows P E) (k : Nat) (n : Option Tree) :
    (p.processOption k n).Has E := by
  cases n with
  | none => exact h.pure _
  | some n => exact h.bind ((h.calls k).process n) fun r => h.pure _

end Processor.Allows

end TagDispatch
