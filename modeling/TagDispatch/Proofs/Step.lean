import TagDispatch.Proofs.Registry
import TagDispatch.Proofs.Run

/-!
One step of the processor as an equation in its session: what it records, which calls it makes
and what it passes on. Later proofs go by these equations and leave the definitions folded.
-/

namespace TagDispatch

variable {σ : Type}

namespace Processor

/-- The copy of a node that is kept while it is dispatched. -/
def snapshot (p : Processor σ) (config : Config) (n : Tree) : Option Tree :=
  if p.wantsSnapshot config n.tagName? then some n else none

/-- The node as a handler gets it. -/
def handed (config : Config) (isDefault : Bool) (n : Tree) : Tree :=
  if config.autoShiftTag && !isDefault then n.shift.2 else n

/-- The report that a node is served by default. -/
def warning (p : Processor σ) (config : Config) (isDefault : Bool) (label : String) :
    List (Step σ) :=
  if isDefault && config.warnOnDefault then
    [.log (.event (.defaultHandlerUsed label p.kind))] else []

/-- The trace of a node before it is dispatched. -/
def traceBefore (config : Config) (n : Tree) : List (Step σ) :=
  if isTraced config n.tagName? n.render then
    [.log (.event (.traceMatched n.label .before n.render))] else []

/-- The trace of what came out of a node. -/
def traceAfter (config : Config) (n : Tree) (r : Reply) : List (Step σ) :=
  match r.result with
  | .error _ => []
  | .ok v =>
    if isTraced config n.tagName? n.render then
      [.log (.event (.traceMatched n.label .after v.render))] else []

theorem warning_logs {p : Processor σ} {config : Config} {isDefault : Bool} {label : String}
    {e : Step σ} (h : e ∈ p.warning config isDefault label) : ∃ entry, e = .log entry := by
  unfold warning at h
  split at h
  · exact ⟨_, List.mem_singleton.1 h⟩
  · cases h

theorem traceBefore_logs {config : Config} {n : Tree} {e : Step σ}
    (h : e ∈ traceBefore config n) : ∃ entry, e = .log entry := by
  unfold traceBefore at h
  split at h
  · exact ⟨_, List.mem_singleton.1 h⟩
  · cases h

theorem traceAfter_logs {config : Config} {n : Tree} {r : Reply} {e : Step σ}
    (h : e ∈ traceAfter config n r) : ∃ entry, e = .log entry := by
  unfold traceAfter at h
  split at h
  · cases h
  · split at h
    · exact ⟨_, List.mem_singleton.1 h⟩
    · cases h

section every

variable {p : Processor σ} {H : Handler σ → Prop} {W : Rewriter σ → Prop} {R : Recovery σ → Prop}

/-- The handler that serves a tag has what all handlers of the registry have. -/
theorem handler_of_every (h : p.registry.Every H W R) {config : Config} {tag : Option String}
    {f : Handler σ} {isDefault : Bool} (found : p.resolve config tag = some (f, isDefault)) :
    H f := by
  unfold resolve at found
  split at found
  · next f' own =>
    cases found
    obtain ⟨key, mem⟩ := Table.mem_of_bind_find? own
    exact h.handlers key f mem
  · obtain ⟨f', default, same⟩ := Option.map_eq_some_iff.1 found
    cases same
    obtain ⟨key, mem⟩ := Table.mem_of_bind_find? default
    exact h.handlers key f mem

theorem rewriter_of_every (h : p.registry.Every H W R) {tag : Option String} {w : Rewriter σ}
    (found : tag.bind p.registry.rewriters.find? = some w) : W w := by
  obtain ⟨key, mem⟩ := Table.mem_of_bind_find? found
  exact h.rewriters key w mem

theorem recovery_of_every (h : p.registry.Every H W R) {tag : Option String} {hook : Recovery σ}
    (found : p.recovery? tag = some hook) : R hook := by
  obtain ⟨key, mem⟩ := Table.mem_of_bind_find? found
  exact h.recoveries key hook mem

end every

/-- What a handler is followed by: recovery, then the checks. -/
def settleHandler (p : Processor σ) (c : Calls σ) (tag : Option String) (label : String)
    (snapshot : Option Tree) (r : Reply) : Run σ Reply :=
  p.recover c tag label snapshot r >>= p.finish label snapshot

theorem invoke_apply (p : Processor σ) (c : Calls σ) (h : Handler σ) (isDefault : Bool)
    (tag : Option String) (label : String) (snapshot : Option Tree) (n : Tree) (s : Session σ) :
    p.invoke c h isDefault tag label snapshot n s =
      (((h (handed s.config isDefault n)).run p.profile c >>=
          p.settleHandler c tag label snapshot) s).map
        (·.after (p.warning s.config isDefault label ++
          [.invoked .handler tag (handed s.config isDefault n) s])) := by
  unfold invoke
  rw [Run.get_bind]
  cases hw : isDefault && s.config.warnOnDefault with
  | false =>
    simp only [Bool.false_eq_true, ↓reduceIte, warning, hw, List.nil_append]
    exact Run.record_bind _ _ _
  | true =>
    simp only [↓reduceIte, warning, hw]
    refine (Run.report_bind _ _ _).trans ?_
    rw [Run.record_bind, Option.map_map]
    rfl

theorem recover_apply (p : Processor σ) (c : Calls σ) {tag : Option String} (label : String)
    {hook : Recovery σ} (h : p.recovery? tag = some hook) (snapshot rest : Tree)
    (e : ProcessError) (s : Session σ) :
    p.recover c tag label (some snapshot) ⟨.error e, rest⟩ s =
      ((hook rest snapshot e).run p.profile c s).map
        (·.after [.log (.event (.recovered label p.kind e)), .recovering rest snapshot e s]) := by
  unfold recover
  simp only [h, Run.report_bind, Run.get_bind, Run.record_bind, Option.map_map]
  rfl

/-- Without a hook or without a snapshot nothing is recovered. -/
theorem recover_none (p : Processor σ) (c : Calls σ) {tag : Option String} (label : String)
    {snapshot : Option Tree} (h : p.recovery? tag = none ∨ snapshot = none) (r : Reply) :
    p.recover c tag label snapshot r = pure r := by
  unfold recover
  split
  · next hook copy hh =>
    rcases h with h | h
    · rw [h] at hh
      cases hh
    · cases h
  · rfl

theorem finish_apply (p : Processor σ) (label : String) (snapshot : Option Tree) (r : Reply)
    (s : Session σ) :
    p.finish label snapshot r s =
      some ⟨⟨r.result.bind (p.checkHandled s.config label snapshot · r.rest), r.rest⟩, s, []⟩ := by
  obtain ⟨result, rest⟩ := r
  cases result with
  | error e => rfl
  | ok v => rfl

theorem dispatch_apply (p : Processor σ) (c : Calls σ) (n : Tree) (s : Session σ) :
    p.dispatch c n s =
      (p.route c s.config n.tagName? n.label (p.snapshot s.config n)
          (n.setFields (fieldsFor s.config n.tagName?)) s).map fun o =>
        ⟨o.value, o.session,
          traceBefore s.config n ++ o.journal ++ traceAfter s.config n o.value⟩ := by
  unfold dispatch
  rw [Run.get_bind]
  cases ht : isTraced s.config n.tagName? n.render with
  | false =>
    simp only [Bool.false_eq_true, ↓reduceIte, traceBefore, ht, List.nil_append]
    refine Run.bind_eq_map s fun r t => ?_
    cases hr : r.result <;> simp [traceAfter, hr, ht]
  | true =>
    simp only [↓reduceIte, traceBefore, ht]
    refine (Run.report_bind _ _ _).trans ?_
    rw [Run.bind_eq_map (g := traceAfter s.config n), Option.map_map]
    · rfl
    · intro r t
      cases hr : r.result <;> simp [traceAfter, hr, ht, Outcome.after]

theorem enter_apply (p : Processor σ) (c : Calls σ) (n : Tree) (s : Session σ) :
    p.enter c n s = (p.dispatch c n (s.enter n.label)).map fun o =>
      ⟨o.value, o.session.exit,
        [.log (.span "process" (.nodeDispatched n.label s.context.length)), .called n s] ++
          o.journal ++ [.answered o.value]⟩ := by
  unfold enter
  simp only [Run.get_bind, Run.record_bind, Run.modify_bind]
  rw [Run.bind_apply]
  cases p.dispatch c n (s.enter n.label) <;> rfl

/-- What a call goes on to dispatch: its node, or from outside what the rewriting pass makes of
it. -/
def prepare (p : Processor σ) (c : Calls σ) (n : Tree) : Run σ (Except ProcessError Tree) := do
  let s ← Run.get
  if s.context.isEmpty && p.registry.hasRewriters then
    Run.record (.pass n)
    c.rewrite n
  else pure (.ok n)

/-- How a call goes on when its node is ready. -/
def afterPass (p : Processor σ) (c : Calls σ) (n : Tree) :
    Except ProcessError Tree → Run σ Reply
  | .error e => pure ⟨.error e, n⟩
  | .ok m => p.enter c m

theorem prepare_outside (p : Processor σ) (c : Calls σ) (n : Tree) {s : Session σ}
    (h : (s.context.isEmpty && p.registry.hasRewriters) = true) :
    p.prepare c n s = (c.rewrite n s).map (·.after [.pass n]) := by
  unfold prepare
  simp only [Run.get_bind, h, ↓reduceIte, Run.record_bind]

theorem prepare_inside (p : Processor σ) (c : Calls σ) (n : Tree) {s : Session σ}
    (h : (s.context.isEmpty && p.registry.hasRewriters) = false) :
    p.prepare c n s = some ⟨.ok n, s, []⟩ := by
  unfold prepare
  simp only [Run.get_bind, h, Bool.false_eq_true, ↓reduceIte, Run.pure_apply]

/-- Without rewriters there is no pass. -/
theorem prepare_unrewritten {p : Processor σ} (h : p.registry.rewriters = ∅) (c : Calls σ)
    (n : Tree) (s : Session σ) : p.prepare c n s = some ⟨.ok n, s, []⟩ := by
  refine prepare_inside p c n ?_
  rw [Registry.hasRewriters, h]
  exact Bool.and_false _

theorem processStep_apply (p : Processor σ) (c : Calls σ) (n : Tree) (s : Session σ) :
    p.processStep c n s = (p.prepare c n >>= p.afterPass c n) s := by
  unfold processStep
  rw [Run.get_bind, Run.bind_apply]
  cases h : s.context.isEmpty && p.registry.hasRewriters with
  | false =>
    rw [prepare_inside p c n h]
    simp only [Bool.false_eq_true, ↓reduceIte, Option.bind_some, afterPass]
    cases p.enter c n s <;> rfl
  | true =>
    rw [prepare_outside p c n h]
    simp only [↓reduceIte, Run.record_bind]
    rw [Run.bind_apply]
    cases c.rewrite n s with
    | none => rfl
    | some o =>
      simp only [Option.map_some, Option.bind_some, Option.map_map]
      cases ho : o.value <;> simp only [Outcome.after, ho] <;> rfl

theorem processStep_ready {p : Processor σ} {c : Calls σ} {n m : Tree} {s t : Session σ}
    {j : List (Step σ)} (h : p.prepare c n s = some ⟨.ok m, t, j⟩) :
    p.processStep c n s = (p.enter c m t).map (·.after j) := by
  rw [processStep_apply, Run.bind_apply, h]
  rfl

/-- A call whose node is ready goes on to dispatch it. -/
theorem process_ready {p : Processor σ} {k : Nat} {n m : Tree} {s t : Session σ}
    {j : List (Step σ)} (h : p.prepare (p.calls k) n s = some ⟨.ok m, t, j⟩) :
    p.process (k + 1) n s = (p.enter (p.calls k) m t).map (·.after j) :=
  processStep_ready h

theorem processStep_unready {p : Processor σ} {c : Calls σ} {n : Tree} {e : ProcessError}
    {s t : Session σ} {j : List (Step σ)} (h : p.prepare c n s = some ⟨.error e, t, j⟩) :
    p.processStep c n s = some ⟨⟨.error e, n⟩, t, j⟩ := by
  rw [processStep_apply, Run.bind_apply, h]
  simp [afterPass, Outcome.after]

/-- How rewriting a node goes on after its children. -/
def afterChildren (c : Calls σ) (n : Tree) :
    Except ProcessError (List Element) → Run σ (Except ProcessError Tree)
  | .error e => pure (.error e)
  | .ok es => c.settle n.label 0 ⟨es, [], n.line⟩

theorem rewriteStep_apply (c : Calls σ) (n : Tree) (s : Session σ) :
    rewriteStep c n s =
      (rewriteElements c n.elements (s.enter n.label)).bind fun o =>
        (afterChildren c n o.value o.session.exit).map fun q =>
          ⟨q.value, q.session,
            .rewriting n s :: (o.journal ++ (q.journal ++ [.rewrote q.value]))⟩ := by
  unfold rewriteStep
  simp only [Run.get_bind, Run.record_bind, Run.modify_bind]
  rw [Run.bind_apply]
  cases rewriteElements c n.elements (s.enter n.label) with
  | none => rfl
  | some o =>
    simp only [Option.bind_some, Run.modify_bind]
    cases o.value with
    | error e => rfl
    | ok es =>
      simp only [afterChildren]
      rw [Run.bind_apply]
      cases c.settle n.label 0 ⟨es, [], n.line⟩ o.session.exit with
      | none => rfl
      | some q => rfl

/-- How a round goes on after its rewriter. -/
def afterRewriter (c : Calls σ) (label : String) (rounds : Nat) (tag : Option String) :
    Except ProcessError Tree → Run σ (Except ProcessError Tree)
  | .error e => pure (.error e)
  | .ok m => do
    Run.report (.rewritten (tag.getD "") m.label)
    if m.tagName? = tag then pure (.ok m)
    else do
      let s ← Run.get
      if s.config.maxRewriteRounds ≤ rounds + 1 then pure (.error (.diverged label (rounds + 1)))
      else c.settle label (rounds + 1) m

/-- After a rewriter that gave `m`: the tag has stayed, or the cap is reached, or there is another
round. -/
theorem afterRewriter_ok (c : Calls σ) (label : String) (rounds : Nat) (tag : Option String)
    (m : Tree) (t : Session σ) :
    afterRewriter c label rounds tag (.ok m) t =
      (if m.tagName? = tag then some ⟨.ok m, t, []⟩
        else if t.config.maxRewriteRounds ≤ rounds + 1 then
          some ⟨.error (.diverged label (rounds + 1)), t, []⟩
        else c.settle label (rounds + 1) m t).map
        (·.after [.log (.event (.rewritten (tag.getD "") m.label))]) := by
  refine (Run.report_bind _ _ _).trans (congrArg (Option.map _) ?_)
  split
  · rfl
  · rw [Run.get_bind]
    split <;> rfl

theorem settleStep_none (p : Processor σ) (c : Calls σ) (label : String) (rounds : Nat) {n : Tree}
    (h : n.tagName?.bind p.registry.rewriters.find? = none) :
    p.settleStep c label rounds n = pure (.ok n) := by
  unfold settleStep
  simp only [h]

theorem settleStep_some (p : Processor σ) (c : Calls σ) (label : String) (rounds : Nat) {n : Tree}
    {w : Rewriter σ} (h : n.tagName?.bind p.registry.rewriters.find? = some w) (s : Session σ) :
    p.settleStep c label rounds n s =
      (((w n).run p.profile c >>= afterRewriter c label rounds n.tagName?) s).map
        (·.after [.invoked .rewriter n.tagName? n s]) := by
  unfold settleStep
  simp only [h, Run.get_bind, Run.record_bind]
  rw [Run.bind_apply, Run.bind_apply]
  cases (w n).run p.profile c s with
  | none => rfl
  | some o => cases ho : o.value <;> simp [afterRewriter, ho]

end Processor

end TagDispatch
