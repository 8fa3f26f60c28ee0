import TagDispatch.Proofs.CodeErrors
import TagDispatch.Proofs.ScriptErrors

/-!
Errors come through. An error that is raised anywhere in a run, however deep, is what the whole
run returns, provided that there are no recovery hooks and that attached code passes on the errors
of the calls it makes. After the error nothing is dispatched, rewritten or started any more: the
calls it passes through end one after the other, each with that error.
-/

namespace TagDispatch

variable {σ : Type}

namespace Processor

/-! ### Where errors arise -/

/-- The call `A` from `s` itself comes to the error `q.value`, in `q.session` and after
`q.journal`. Whether a handler or a rewriter that returns an error has made it or passes it on is
left open. One failure does not count as an error: when a walk has rebuilt a node and the node does
not take the old tag, the walker throws that result away and keeps the node as it was built. -/
inductive Faults (p : Processor σ) (c : Calls σ) :
    Call → Session σ → Outcome σ ProcessError → Prop
  | refused {n m : Tree} {s u : Session σ} {i : List (Step σ)} {e : ProcessError}
      (ready : p.prepare c n s = some ⟨.ok m, u, i⟩)
      (served : p.service u.config m = .refused e) :
      Faults p c (.process n) s ⟨e, u.enter m.label, i ++ opening m u⟩
  | handler {n m rest : Tree} {s u t : Session σ} {i j : List (Step σ)} {f : Handler σ}
      {isDefault : Bool} {e : ProcessError}
      (ready : p.prepare c n s = some ⟨.ok m, u, i⟩)
      (served : p.service u.config m = .handler f isDefault)
      (failed : (f (given u.config isDefault m)).run p.profile c (u.enter m.label) =
        some ⟨⟨.error e, rest⟩, t, j⟩) :
      Faults p c (.process n) s ⟨e, t, i ++ (opening m u ++ (p.start isDefault m u ++ j))⟩
  | handled {n m rest : Tree} {s u t : Session σ} {i j : List (Step σ)} {f : Handler σ}
      {isDefault : Bool} {v : Element} {e : ProcessError}
      (ready : p.prepare c n s = some ⟨.ok m, u, i⟩)
      (served : p.service u.config m = .handler f isDefault)
      (returned : (f (given u.config isDefault m)).run p.profile c (u.enter m.label) =
        some ⟨⟨.ok v, rest⟩, t, j⟩)
      (failed : p.checkHandled t.config m.label (p.snapshot u.config m) v rest = .error e) :
      Faults p c (.process n) s ⟨e, t, i ++ (opening m u ++ (p.start isDefault m u ++ j))⟩
  | child {n m child rest : Tree} {s u t t' : Session σ} {i j j' : List (Step σ)}
      {front back vs left : List Element} {v : Element} {e : ProcessError}
      (ready : p.prepare c n s = some ⟨.ok m, u, i⟩)
      (served : p.service u.config m = .walker)
      (split : m.elements = front ++ .node child :: back)
      (before : walkElements c m.label front (u.enter m.label) = some ⟨(.ok vs, left), t, j⟩)
      (returned : c.process child t = some ⟨⟨.ok v, rest⟩, t', j'⟩)
      (failed : keepChild m.label v = .error e) :
      Faults p c (.process n) s ⟨e, t', i ++ (opening m u ++ (j ++ j'))⟩
  | walked {n m : Tree} {s u t : Session σ} {i j : List (Step σ)} {vs left : List Element}
      {e : ProcessError}
      (ready : p.prepare c n s = some ⟨.ok m, u, i⟩)
      (served : p.service u.config m = .walker)
      (walked : walkElements c m.label m.elements (u.enter m.label) =
        some ⟨(.ok vs, left), t, j⟩)
      (failed : p.checkType t.config m.label (p.snapshot u.config m)
        (.node (retag (installed u.config m) ⟨vs, [], m.line⟩)) = .error e) :
      Faults p c (.process n) s ⟨e, t, i ++ (opening m u ++ j)⟩
  | rewriter {label : String} {rounds : Nat} {n : Tree} {s t : Session σ} {j : List (Step σ)}
      {w : Rewriter σ} {e : ProcessError}
      (found : n.tagName?.bind p.registry.rewriters.find? = some w)
      (failed : (w n).run p.profile c s = some ⟨.error e, t, j⟩) :
      Faults p c (.settle label rounds n) s ⟨e, t, .invoked .rewriter n.tagName? n s :: j⟩
  | diverged {label : String} {rounds : Nat} {n m : Tree} {s t : Session σ} {j : List (Step σ)}
      {w : Rewriter σ}
      (found : n.tagName?.bind p.registry.rewriters.find? = some w)
      (rewritten : (w n).run p.profile c s = some ⟨.ok m, t, j⟩) (changed : m.tagName? ≠ n.tagName?)
      (capped : t.config.maxRewriteRounds ≤ rounds + 1) :
      Faults p c (.settle label rounds n) s ⟨.diverged label (rounds + 1), t,
        .invoked .rewriter n.tagName? n s ::
          (j ++ [.log (.event (.rewritten (n.tagName?.getD "") m.label))])⟩

/-- Somewhere in the call `A` from `s`, at whatever depth, an error arises. -/
def Raises (p : Processor σ) (k : Nat) (A : Call) (s : Session σ) (q : Outcome σ ProcessError) :
    Prop :=
  ∃ l B t j r, p.Reaches k A s (l + 1) B t j ∧ p.Faults (p.calls l) B t r ∧ q = r.after j

/-! ### One step of the way out -/

variable {p : Processor σ} {c : Calls σ} {U : Request → Prop}

theorem recovery?_none (h : p.registry.Propagates U) (tag : Option String) :
    p.recovery? tag = none := by
  cases hr : p.recovery? tag with
  | none => rfl
  | some hook =>
    exact (recovery_of_every h hr).elim

theorem handler_propagates (h : p.registry.Propagates U) {config : Config} {n : Tree}
    {f : Handler σ} {isDefault : Bool} (hs : p.service config n = .handler f isDefault)
    (m : Tree) : (f m).Propagates U Reply.failure? :=
  handler_of_every h (resolve_of_service hs) m

theorem rewriter_propagates (h : p.registry.Propagates U) {tag : Option String} {w : Rewriter σ}
    (hw : tag.bind p.registry.rewriters.find? = some w) (m : Tree) :
    (w m).Propagates U failure? :=
  rewriter_of_every h hw m

/-- Without hooks a handler is followed by the checks only. -/
theorem enter_handled (h : p.registry.Propagates U) {m rest : Tree} {u t : Session σ}
    {f : Handler σ} {isDefault : Bool} {r : Except ProcessError Element} {j : List (Step σ)}
    (served : p.service u.config m = .handler f isDefault)
    (returned : (f (given u.config isDefault m)).run p.profile c (u.enter m.label) =
      some ⟨⟨r, rest⟩, t, j⟩) :
    p.enter c m u = some (entered m u
      ⟨⟨r.bind (p.checkHandled t.config m.label (p.snapshot u.config m) · rest), rest⟩, t,
        p.start isDefault m u ++ j⟩) :=
  enter_unrecovered served (recovery?_none h m.tagName?) returned

/-- A dispatched node for which there is an error makes the call fail. -/
theorem process_fails {n m rest : Tree} {s u t : Session σ} {i j tail : List (Step σ)}
    {q : Outcome σ ProcessError}
    (ready : p.prepare c n s = some ⟨.ok m, u, i⟩)
    (failed : p.enter c m u = some (entered m u ⟨⟨.error q.value, rest⟩, t, j⟩))
    (hj : i ++ (opening m u ++ j) = q.journal ++ tail)
    (htail : ∀ e ∈ tail, e.Carries q.value) (hs : q.session.Unwound U t) :
    (p.next c).Fails U (.process n) s q := by
  refine ⟨t.exit, tail ++ [.answered ⟨.error q.value, rest⟩], ?_,
    Step.carries_concat htail (.answered rest), hs.exit⟩
  have step : (p.next c).process n s = _ := processStep_ready ready
  rw [failed, Option.map_some] at step
  rw [Calls.verdict_process step, ← List.append_assoc q.journal, ← hj]
  simp [Outcome.map, Outcome.after, entered, closing_error, Reply.failure?, failure?]

theorem rewrite_fails {n : Tree} {s u : Session σ} {j tail : List (Step σ)}
    {r : Outcome σ (Except ProcessError (List Element))} {q : Outcome σ ProcessError}
    (children : rewriteElements c n.elements (s.enter n.label) = some r)
    (failed : afterChildren c n r.value r.session.exit = some ⟨.error q.value, u, j⟩)
    (hj : .rewriting n s :: (r.journal ++ j) = q.journal ++ tail)
    (htail : ∀ e ∈ tail, e.Carries q.value) (hs : q.session.Unwound U u) :
    (p.next c).Fails U (.rewrite n) s q := by
  refine ⟨u, tail ++ [.rewrote (.error q.value)], ?_, Step.carries_concat htail .rewrote, hs⟩
  have step : (p.next c).rewrite n s = _ := rewriteStep_apply c n s
  rw [children, Option.bind_some, failed, Option.map_some] at step
  rw [Calls.verdict_rewrite step, ← List.append_assoc q.journal, ← hj]
  simp [Outcome.map, failure?]

theorem settle_fails {label : String} {rounds : Nat} {n : Tree} {s u : Session σ}
    {j tail : List (Step σ)} {w : Rewriter σ} {r : Outcome σ (Except ProcessError Tree)}
    {q : Outcome σ ProcessError}
    (found : n.tagName?.bind p.registry.rewriters.find? = some w)
    (ran : (w n).run p.profile c s = some r)
    (failed : afterRewriter c label rounds n.tagName? r.value r.session =
      some ⟨.error q.value, u, j⟩)
    (hj : .invoked .rewriter n.tagName? n s :: (r.journal ++ j) = q.journal ++ tail)
    (htail : ∀ e ∈ tail, e.Carries q.value) (hs : q.session.Unwound U u) :
    (p.next c).Fails U (.settle label rounds n) s q := by
  refine ⟨u, tail, ?_, htail, hs⟩
  have step : (p.next c).settle label rounds n s = _ := settleStep_some p c label rounds found s
  rw [Run.bind_apply, ran, Option.bind_some, failed, Option.map_some] at step
  rw [Calls.verdict_settle step, ← hj]
  simp [Outcome.map, Outcome.after, failure?]

/-- A call in which an error arises fails with it. -/
theorem Faults.fails (h : p.registry.Propagates U) {A : Call} {s : Session σ}
    {q : Outcome σ ProcessError} (hf : p.Faults c A s q) : (p.next c).Fails U A s q := by
  have none_left (e : ProcessError) : ∀ x ∈ ([] : List (Step σ)), x.Carries e :=
    fun x hx => by cases hx
  cases hf with
  | refused ready served =>
    exact process_fails ready (enter_refused served c) (List.append_assoc ..).symm
      (none_left _) (.refl _)
  | handler ready served failed =>
    exact process_fails ready (enter_handled h served failed) (List.append_nil _).symm
      (none_left _) (.refl _)
  | @handled n m rest _ u t i j f isDefault v e ready served returned failed =>
    have he := enter_handled h served returned
    rw [Except.bind, failed] at he
    exact process_fails ready he (List.append_nil _).symm (none_left _) (.refl _)
  | @child n m child rest _ u t t' i j j' front back vs left v e ready served split before
      returned failed =>
    have hc : walkChild c m.label child t = some ⟨.error e, t', j'⟩ := by
      rw [walkChild_apply, returned, ← failed]
      rfl
    rw [walkElements_eq] at before
    have he := enter_walker served c
    rw [walk_apply, show (installed u.config m).elements = _ from split, walkElements_eq,
      eachNode_failed before hc] at he
    exact process_fails ready he (List.append_nil _).symm (none_left _) (.refl _)
  | @walked n m _ u t i j vs left e ready served walked failed =>
    have he := enter_walker served c
    rw [walk_apply, show (installed u.config m).elements = m.elements from rfl, walked,
      Option.map_some, Option.map_some] at he
    simp only [Except.bind] at he
    rw [show (installed u.config m).line = m.line from rfl, failed] at he
    exact process_fails ready he (List.append_nil _).symm (none_left _) (.refl _)
  | rewriter found failed =>
    exact settle_fails found failed rfl (by simp) (none_left _) (.refl _)
  | diverged found rewritten changed capped =>
    refine settle_fails found rewritten ?_ (List.append_nil _).symm (none_left _) (.refl _)
    rw [afterRewriter_ok, if_neg changed, if_pos capped]
    rfl

/-- A call fails if a call fails that it asks for. A handler hears of the failed call and ends with
its error, and the checks let errors through. -/
theorem Asks.fails (h : p.registry.Propagates U) (hU : ¬ U .process ∧ ¬ U .rewrite) {A B : Call}
    {s t : Session σ} {j : List (Step σ)} {q : Outcome σ ProcessError} (ha : p.Asks c A s B t j)
    (hf : c.Fails U B t q) : (p.next c).Fails U A s (q.after j) := by
  have ⟨v, tail, hv, htail, hs⟩ := hf
  cases ha with
  | @pass n _ outside =>
    have hr : c.rewrite n s = some ⟨.error q.value, v, q.journal ++ tail⟩ :=
      eq_error_of_map_failure hv
    refine ⟨v, tail, ?_, htail, hs⟩
    have pass : p.prepare c n s = some ⟨.error q.value, v, .pass n :: (q.journal ++ tail)⟩ := by
      rw [prepare_outside p c n outside, hr]
      rfl
    have step : (p.next c).process n s = _ := processStep_unready pass
    rw [Calls.verdict_process step]
    rfl
  | @handler n m _ u _ i j f isDefault y B ready served leads asks =>
    obtain ⟨⟨r, rest⟩, w, left, hr, he, hleft, hw⟩ :=
      (handler_propagates h served _).run hU leads asks hf
    rw [show r = .error q.value from eq_error_of_failure he] at hr
    refine process_fails ready (enter_handled h served hr) ?_ hleft hw
    simp [Outcome.after]
  | recovery ready served failed found leads asks =>
    rw [recovery?_none h] at found
    cases found
  | @child n m child _ u _ i j front back vs left ready served split before =>
    obtain ⟨rest, hr⟩ := Calls.process_of_verdict hv
    have hc : walkChild c m.label child t = some ⟨.error q.value, v, q.journal ++ tail⟩ := by
      rw [walkChild_apply, hr]
      rfl
    rw [walkElements_eq] at before
    have he := enter_walker served c
    rw [walk_apply, show (installed u.config m).elements = _ from split, walkElements_eq,
      eachNode_failed before hc] at he
    refine process_fails ready he ?_ htail hs
    simp [Outcome.after]
  | @element n child _ _ j front back vs split before =>
    have hr : c.rewrite child t = some ⟨.error q.value, v, q.journal ++ tail⟩ :=
      eq_error_of_map_failure hv
    obtain ⟨left, before⟩ := rewriteElements_some.1 before
    have children := rewriteElements_some.2 ⟨_, eachNode_failed before hr back⟩
    rw [← split] at children
    refine rewrite_fails children rfl ?_ htail (U := U) hs.exit
    simp [Outcome.after]
  | chain children =>
    refine rewrite_fails children (eq_error_of_map_failure hv) ?_ htail hs
    simp [Outcome.after]
  | rewriter found leads asks =>
    obtain ⟨r, w, left, hr, he, hleft, hw⟩ :=
      (rewriter_propagates h found _).run hU leads asks hf
    rw [eq_error_of_failure he] at hr
    refine settle_fails found hr rfl ?_ hleft hw
    simp [Outcome.after]
  | @round label rounds n m _ _ j w found rewritten changed below =>
    have next := afterRewriter_ok c label rounds n.tagName? m t
    rw [if_neg changed, if_neg (Nat.not_le_of_lt below), eq_error_of_map_failure hv] at next
    refine settle_fails found rewritten next ?_ htail hs
    simp [Outcome.after]

/-- An error comes through from wherever it arises. -/
theorem Raises.fails (h : p.registry.Propagates U) (hU : ¬ U .process ∧ ¬ U .rewrite) {k : Nat}
    {A : Call} {s : Session σ} {q : Outcome σ ProcessError} (hr : p.Raises k A s q) :
    (p.calls k).Fails U A s q := by
  obtain ⟨l, B, t, j, r, reaches, faults, rfl⟩ := hr
  generalize hl : l + 1 = l' at reaches
  induction reaches with
  | here k A s =>
    subst hl
    exact faults.fails h
  | next first rest ih =>
    have fails := first.fails h hU (ih faults hl)
    simp only [Outcome.after, ← List.append_assoc] at fails
    exact fails

/-! ### Where an error comes from -/

/-- An error that a call returns has arisen in it, or in a call that it asked for. -/
def Blamed (p : Processor σ) (c : Calls σ) (A : Call) (s : Session σ) (e : ProcessError) : Prop :=
  (∃ q, p.Faults c A s q ∧ q.value = e) ∨
    ∃ B t j u i, p.Asks c A s B t j ∧ c.verdict B t = some ⟨some e, u, i⟩

theorem enter_blamed (h : p.registry.Propagates U) {n m : Tree} {s u : Session σ}
    {i : List (Step σ)} {e : ProcessError} {o : Outcome σ Reply}
    (ready : p.prepare c n s = some ⟨.ok m, u, i⟩) (ho : p.enter c m u = some o)
    (he : o.value.result = .error e) : p.Blamed c (.process n) s e := by
  cases served : p.service u.config m with
  | refused err =>
    rw [enter_refused served] at ho
    cases ho
    cases he
    exact .inl ⟨_, .refused ready served, rfl⟩
  | handler f isDefault =>
    cases hr : (f (given u.config isDefault m)).run p.profile c (u.enter m.label) with
    | none =>
      rw [enter_handler served, Run.bind_apply, hr] at ho
      cases ho
    | some a =>
      obtain ⟨⟨r, rest⟩, t, j⟩ := a
      rw [enter_handled h served hr] at ho
      cases ho
      cases r with
      | error err =>
        cases he
        exact .inl ⟨_, .handler ready served hr, rfl⟩
      | ok v => exact .inl ⟨_, .handled ready served hr he, rfl⟩
  | walker =>
    rw [enter_walker served, walk_apply, Option.map_map] at ho
    obtain ⟨⟨⟨r, left⟩, t, j⟩, hw, rfl⟩ := Option.map_eq_some_iff.1 ho
    cases r with
    | ok vs => exact .inl ⟨_, .walked ready served hw he, rfl⟩
    | error err =>
      cases he
      rw [walkElements_eq] at hw
      obtain ⟨front, child, back, vs, left, t', i', j', split, before, hc⟩ :=
        exists_eachNode_failed hw
      rw [← walkElements_eq] at before
      obtain ⟨⟨⟨r, rest⟩, v, k⟩, hp, hk⟩ := Option.map_eq_some_iff.1 hc
      cases r with
      | ok v =>
        simp only [Outcome.map, Except.bind, Outcome.mk.injEq] at hk
        exact .inl ⟨_, .child ready served split before hp hk.1, rfl⟩
      | error err =>
        cases hk
        exact .inr ⟨_, _, _, _, _, .child ready served split before, Calls.verdict_process hp⟩

theorem blamed (h : p.registry.Propagates U) {A : Call} {s u : Session σ} {e : ProcessError}
    {j : List (Step σ)} (hv : (p.next c).verdict A s = some ⟨some e, u, j⟩) :
    p.Blamed c A s e := by
  cases A with
  | process n =>
    obtain ⟨rest, hp⟩ := Calls.process_of_verdict hv
    change p.processStep c n s = _ at hp
    cases ready : p.prepare c n s with
    | none =>
      rw [processStep_apply, Run.bind_apply, ready] at hp
      cases hp
    | some a =>
      obtain ⟨r, v, i⟩ := a
      cases r with
      | error err =>
        rw [processStep_unready ready] at hp
        cases hp
        cases outside : s.context.isEmpty && p.registry.hasRewriters with
        | false =>
          rw [prepare_inside p c n outside] at ready
          cases ready
        | true =>
          rw [prepare_outside p c n outside] at ready
          obtain ⟨⟨r, v, i⟩, hr, ha⟩ := Option.map_eq_some_iff.1 ready
          cases ha
          exact .inr ⟨_, _, _, _, _, .pass outside, Calls.verdict_rewrite hr⟩
      | ok m =>
        rw [processStep_ready ready] at hp
        obtain ⟨o, ho, ha⟩ := Option.map_eq_some_iff.1 hp
        exact enter_blamed h ready ho (congrArg (·.value.result) ha)
  | rewrite n =>
    have hr : rewriteStep c n s = _ := eq_error_of_map_failure hv
    rw [rewriteStep_apply] at hr
    obtain ⟨⟨r, t, i⟩, hc, ha⟩ := Option.bind_eq_some_iff.1 hr
    obtain ⟨⟨r', t', i'⟩, hs, ha⟩ := Option.map_eq_some_iff.1 ha
    cases ha
    cases r with
    | ok es => exact .inr ⟨_, _, _, _, _, .chain hc, Calls.verdict_settle hs⟩
    | error err =>
      cases hs
      obtain ⟨left, hc⟩ := rewriteElements_some.1 hc
      obtain ⟨front, child, back, vs, left, t', i', j', split, before, hc⟩ :=
        exists_eachNode_failed hc
      have before := rewriteElements_some.2 ⟨left, before⟩
      exact .inr ⟨_, _, _, _, _, .element split before, Calls.verdict_rewrite hc⟩
  | settle label rounds n =>
    have hr : p.settleStep c label rounds n s = _ := eq_error_of_map_failure hv
    cases found : n.tagName?.bind p.registry.rewriters.find? with
    | none =>
      rw [settleStep_none p c label rounds found] at hr
      cases hr
    | some w =>
      rw [settleStep_some p c label rounds found] at hr
      obtain ⟨q, hq, ha⟩ := Option.map_eq_some_iff.1 hr
      obtain ⟨⟨r, t, i⟩, b, ran, hb, rfl⟩ := Run.bind_eq_some.1 hq
      cases r with
      | error err =>
        cases hb
        cases ha
        exact .inl ⟨_, .rewriter found ran, rfl⟩
      | ok m =>
        rw [afterRewriter_ok] at hb
        obtain ⟨⟨r', t', i'⟩, hn, rfl⟩ := Option.map_eq_some_iff.1 hb
        cases ha
        by_cases stayed : m.tagName? = n.tagName?
        · rw [if_pos stayed] at hn
          cases hn
        rw [if_neg stayed] at hn
        by_cases capped : t.config.maxRewriteRounds ≤ rounds + 1
        · rw [if_pos capped] at hn
          cases hn
          exact .inl ⟨_, .diverged found ran stayed capped, rfl⟩
        · rw [if_neg capped] at hn
          exact .inr ⟨_, _, _, _, _, .round found ran stayed (Nat.lt_of_not_le capped),
            Calls.verdict_settle hn⟩

/-- A call returns no error that has not arisen somewhere. -/
theorem raises_of_verdict (h : p.registry.Propagates U) {k : Nat} {A : Call} {s u : Session σ}
    {e : ProcessError} {j : List (Step σ)}
    (hv : (p.calls k).verdict A s = some ⟨some e, u, j⟩) : ∃ q, p.Raises k A s q ∧ q.value = e := by
  induction k generalizing A s u j with
  | zero =>
    cases A with
    | process n => cases hv
    | rewrite n => cases hv
    | settle label rounds n => cases hv
  | succ k ih =>
    rcases blamed (p := p) (c := p.calls k) h hv with ⟨q, hq, rfl⟩ | ⟨B, t, i, v, j, asks, hB⟩
    · exact ⟨q, ⟨k, A, s, [], q, .here _ A s, hq, rfl⟩, rfl⟩
    · obtain ⟨_, ⟨l, C, w, i', r, reaches, faults, rfl⟩, rfl⟩ := ih hB
      exact ⟨_, ⟨l, C, w, _, r, .next asks reaches, faults, rfl⟩, rfl⟩

/-! ### What a call that succeeds has dispatched -/

/-- A node that is not refused has a tag that is not excluded, and if the processor is strict, a
handler of its own or the default one. -/
theorem served_of_not_refused {config : Config} {n : Tree} (h : ∀ e, ¬ p.Refuses config n e) :
    (∀ tag, n.tagName? = some tag → config.excludedTags.contains tag = false) ∧
      (config.strict = true → ∃ tag, (n.tagName? = some tag ∨ config.defaultHandler = some tag) ∧
        p.registry.handlers.contains tag = true) := by
  have admitted (tag : String) (tagged : n.tagName? = some tag) :
      config.excludedTags.contains tag = false := by
    cases listed : config.excludedTags.contains tag with
    | true => exact absurd (.excluded tagged listed) (h _)
    | false => rfl
  refine ⟨admitted, fun strict => Classical.byContradiction fun unserved => ?_⟩
  have missing (tag : String) (serves : n.tagName? = some tag ∨ config.defaultHandler = some tag) :
      p.registry.handlers.find? tag = none := by
    cases found : p.registry.handlers.find? tag with
    | none => rfl
    | some f => exact absurd ⟨tag, serves, by rw [Table.contains, found]; rfl⟩ unserved
  exact h _ (.unknown admitted (fun tag own => missing tag (.inl own))
    (fun tag standIn => missing tag (.inr standIn)) strict)

/-- A call in which a refused node was dispatched has that error arise. -/
theorem raises_of_called {k : Nat} {A : Call} {s u : Session σ} {m : Tree} {e : ProcessError}
    {o : Outcome σ (Option ProcessError)} (ho : (p.calls k).verdict A s = some o)
    (called : .called m u ∈ o.journal) (refused : p.service u.config m = .refused e) :
    ∃ q, p.Raises k A s q ∧ q.value = e := by
  obtain ⟨l, B, t, j, reaches, own⟩ := reached_of_mem ho called
  cases own with
  | called ready => exact ⟨_, ⟨l, _, t, j, _, reaches, .refused ready refused, rfl⟩, rfl⟩

/-- No error is swallowed. Without recovery hooks, and if attached code passes on the errors of the
calls it makes, an error that arises anywhere is what the call returns, and after it there is
nothing but the ends of the calls around it; no other error is returned. So a call that succeeds
has dispatched no node with an excluded tag and, while strict, none without a handler. -/
theorem no_error_swallowed (h : p.registry.Propagates U) (hU : ¬ U .process ∧ ¬ U .rewrite)
    (k : Nat) (n : Tree) (s : Session σ) :
    (∀ e t j, p.Raises k (.process n) s ⟨e, t, j⟩ →
      ∃ rest u tail, p.process k n s = some ⟨⟨.error e, rest⟩, u, j ++ tail⟩ ∧
        (∀ x ∈ tail, x.Carries e) ∧ t.Unwound U u) ∧
    (∀ o, p.process k n s = some o →
      (∀ e, o.value.result = .error e → ∃ t j, p.Raises k (.process n) s ⟨e, t, j⟩) ∧
      ∀ v, o.value.result = .ok v → ∀ m u, .called m u ∈ o.journal →
        (∀ tag, m.tagName? = some tag → u.config.excludedTags.contains tag = false) ∧
          (u.config.strict = true →
            ∃ tag, (m.tagName? = some tag ∨ u.config.defaultHandler = some tag) ∧
              p.registry.handlers.contains tag = true)) := by
  have returns {q : Outcome σ ProcessError} (hq : p.Raises k (.process n) s q) :
      ∃ rest u tail, p.process k n s = some ⟨⟨.error q.value, rest⟩, u, q.journal ++ tail⟩ ∧
        (∀ x ∈ tail, x.Carries q.value) ∧ q.session.Unwound U u := by
    obtain ⟨u, tail, hv, htail⟩ := hq.fails h hU
    obtain ⟨rest, hp⟩ := Calls.process_of_verdict hv
    exact ⟨rest, u, tail, hp, htail⟩
  refine ⟨fun e t j hq => returns hq, fun o ho => ⟨fun e he => ?_, fun v hv m u called => ?_⟩⟩
  · have hv := Calls.verdict_process (c := p.calls k) ho
    rw [Outcome.map, Reply.failure?, he] at hv
    obtain ⟨⟨e, t, j⟩, hq, rfl⟩ := raises_of_verdict h hv
    exact ⟨t, j, hq⟩
  · refine served_of_not_refused fun e refused => ?_
    obtain ⟨q, hq, -⟩ := raises_of_called (Calls.verdict_process (c := p.calls k) ho) called
      (service_refused_iff.2 refused)
    obtain ⟨rest, u, tail, hp, -⟩ := returns hq
    cases ho.symm.trans hp
    cases hv

end Processor

/-- Lists have their elements processed in a scope, an older tag for them is rewritten, and one tag
always fails. -/
def failingProcessor : Processor Notes :=
  ⟨"Test", .ofList [.handler "list" (Script.instrs [.shift, .scope [.processRest]]).handler,
    .handler "bad" (Script.instrs [.note "bad", .fail "bad" "on purpose"]).handler,
    .rewriter "old" (Script.instrs [.setTag (.symbol "list"), .clone]).rewriter]⟩

def failingTree : Tree :=
  .ofElements [.atom (.symbol "wrap"), .node (.ofElements [.atom (.symbol "old"),
    .node (.tagged (.symbol "bad")), .node (.tagged (.symbol "list"))])]

/-- The error comes out of a scope, a handler and a walk, and leaves the scope behind it. -/
theorem no_error_swallowed_nested :
    ∃ e t j rest u tail, failingProcessor.Raises 8 (.process failingTree)
        { config := {}, state := [] } ⟨e, t, j⟩ ∧
      failingProcessor.process 8 failingTree { config := {}, state := [] } =
        some ⟨⟨.error e, rest⟩, u, j ++ tail⟩ ∧
      e.kindName = "HandlerFailed" ∧ (∀ x ∈ tail, x.Carries e) ∧ u.state = t.state ∧
      u.config = t.config := by
  have hp : failingProcessor.registry.Propagates Request.LeavesScope := by
    refine Registry.propagates_ofList fun r hr => ?_
    simp only [List.mem_cons, List.not_mem_nil, or_false] at hr
    rcases hr with rfl | rfl | rfl
    · exact .handler "list" _ rfl
    · exact .handler "bad" _ rfl
    · exact .rewriter "old" _ rfl
  have run : (failingProcessor.process 8 failingTree { config := {}, state := [] }).map
      (·.value.failure?.map ProcessError.kindName) = some (some "HandlerFailed") := by
    decide +kernel
  obtain ⟨o, ho, hf⟩ := Option.map_eq_some_iff.1 run
  obtain ⟨e, he, hk⟩ := Option.map_eq_some_iff.1 hf
  obtain ⟨raised, returned⟩ := failingProcessor.no_error_swallowed hp Request.leavesScope_calls 8
    failingTree { config := {}, state := [] }
  obtain ⟨t, j, hr⟩ := (returned o ho).1 e (eq_error_of_failure he)
  obtain ⟨rest, u, tail, hq, htail, hu⟩ := raised e t j hr
  exact ⟨e, t, j, rest, u, tail, hr, hq, hk, htail, hu.state id, hu.config fun _ => id⟩

end TagDispatch
