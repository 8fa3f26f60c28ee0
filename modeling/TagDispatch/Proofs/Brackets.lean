import TagDispatch.Proofs.Nesting

/-!
Journals as bracketed words. All that is recorded of a call stands between the step that begins it
and the step that ends it, and what a call records between the calls inside it is of a few kinds
only. So a journal tells which step belongs to which call.
-/

namespace TagDispatch

variable {σ α : Type}

/-! ### Bracketed words -/

/-- Who records a step: code that makes calls, a dispatched node, or a chain of rewriters. -/
inductive Place where
  | code
  | node
  | chain

/-- The steps that are recorded at a place itself, and not by calls made there. -/
inductive Place.Admits : Place → Step σ → Prop
  | pass (place : Place) (n : Tree) : place.Admits (.pass n)
  | handler (tag : Option String) (n : Tree) (s : Session σ) :
      Place.node.Admits (.invoked .handler tag n s)
  | recovering (rest copy : Tree) (e : ProcessError) (s : Session σ) :
      Place.node.Admits (.recovering rest copy e s)
  | defaultHandlerUsed (tag kind : String) :
      Place.node.Admits (.log (.event (.defaultHandlerUsed tag kind)))
  | recovered (tag kind : String) (e : ProcessError) :
      Place.node.Admits (.log (.event (.recovered tag kind e)))
  | rewriter (tag : Option String) (n : Tree) (s : Session σ) :
      Place.chain.Admits (.invoked .rewriter tag n s)
  | rewritten (source target : String) :
      Place.chain.Admits (.log (.event (.rewritten source target)))

/-- Steps that are recorded at a place, and between them dispatched and rewritten nodes, each with
all that is inside it. -/
inductive Bracketed : Place → List (Step σ) → Prop
  | nil (place : Place) : Bracketed place []
  | step {place : Place} {e : Step σ} {j : List (Step σ)} (admitted : place.Admits e)
      (rest : Bracketed place j) : Bracketed place (e :: j)
  | dispatched {place : Place} {i j : List (Step σ)} (m : Tree) (u : Session σ) (r : Reply)
      (inside : Bracketed .node i) (rest : Bracketed place j) :
      Bracketed place (Processor.opening m u ++ (i ++ (Processor.closing u.config m r ++ j)))
  | rewritten {place : Place} {i j : List (Step σ)} (n : Tree) (s : Session σ)
      (r : Except ProcessError Tree) (inside : Bracketed .chain i) (rest : Bracketed place j) :
      Bracketed place (.rewriting n s :: (i ++ .rewrote r :: j))

namespace Bracketed

variable {place : Place} {i j : List (Step σ)}

theorem append (hi : Bracketed place i) (hj : Bracketed place j) : Bracketed place (i ++ j) := by
  induction hi with
  | nil place => exact hj
  | step admitted rest ih => exact .step admitted (ih hj)
  | dispatched m u r inside rest _ ih =>
    simp only [List.append_assoc]
    exact .dispatched m u r inside (ih hj)
  | rewritten n s r inside rest _ ih =>
    rw [List.cons_append, List.append_assoc]
    exact .rewritten n s r inside (ih hj)

/-- What code records may be recorded anywhere. -/
theorem anywhere (h : Bracketed .code i) (place : Place) : Bracketed place i := by
  generalize here : Place.code = origin at h
  induction h with
  | nil => exact .nil place
  | step admitted rest ih =>
    subst here
    cases admitted with
    | pass _ n => exact .step (.pass place n) (ih rfl)
  | dispatched m u r inside rest _ ih => exact .dispatched m u r inside (ih here)
  | rewritten n s r inside rest _ ih => exact .rewritten n s r inside (ih here)

theorem single {e : Step σ} (admitted : place.Admits e) : Bracketed place [e] :=
  .step admitted (.nil place)

end Bracketed

/-! ### The journals of calls -/

/-- The place of what a call records outside all brackets. -/
def Call.place : Call → Place
  | .settle _ _ _ => .chain
  | _ => .code

/-- All journals of calls are bracketed. -/
def Calls.Bracket (c : Calls σ) : Prop :=
  ∀ A s q, c.verdict A s = some q → Bracketed A.place q.journal

theorem Code.bracketed {self : Profile} {c : Calls σ} (hc : c.Bracket) {x : Code σ α}
    {s : Session σ} {o : Outcome σ α} (run : x.run self c s = some o) :
    Bracketed .code o.journal := by
  have leads := Code.leads_of_run run
  generalize Code.done o.value = y at leads
  generalize o.session = t at leads
  generalize o.journal = j at leads
  clear run
  induction leads with
  | here x s => exact .nil _
  | @next x _ _ _ _ _ _ _ first rest ih =>
    refine .append ?_ ih
    rcases Code.advance_journal first with rfl | ⟨A, q, asks, hq, rfl⟩
    · exact .nil _
    · have place : A.place = .code := by
        cases x <;> cases asks <;> rfl
      exact place ▸ hc A _ q hq

namespace Processor

variable {p : Processor σ} {c : Calls σ}

theorem eachNode_bracketed {f : Tree → Run σ (Except ProcessError Tree)}
    (hf : ∀ n s q, f n s = some q → Bracketed .code q.journal) {es : List Element} {s : Session σ}
    {o : Outcome σ (Except ProcessError (List Element) × List Element)}
    (run : eachNode f es s = some o) : Bracketed .code o.journal := by
  induction es generalizing s o with
  | nil =>
    cases run
    exact .nil _
  | cons e es ih =>
    cases e with
    | atom a =>
      rw [eachNode_atom] at run
      obtain ⟨q, hq, rfl⟩ := Option.map_eq_some_iff.1 run
      have inner : Bracketed .code q.journal := ih hq
      exact inner
    | node m =>
      rw [eachNode_node] at run
      obtain ⟨⟨r, t, j⟩, hq, run⟩ := Option.bind_eq_some_iff.1 run
      have first : Bracketed .code j := hf m s _ hq
      cases r with
      | error e =>
        cases run
        exact first
      | ok m =>
        obtain ⟨b, hb, rfl⟩ := Option.map_eq_some_iff.1 run
        exact first.append (ih hb)

theorem rewriteElements_bracketed (hc : c.Bracket) {es : List Element} {s u : Session σ}
    {r : Except ProcessError (List Element)} {i : List (Step σ)}
    (run : rewriteElements c es s = some ⟨r, u, i⟩) : Bracketed .code i := by
  obtain ⟨_, hb⟩ := rewriteElements_some.1 run
  exact eachNode_bracketed (fun m t b h => hc _ t _ (Calls.verdict_rewrite h)) hb

/-- The elements of a rewritten node come first, then its chain. -/
theorem rewriteStep_bracketed (hc : c.Bracket) {n : Tree} {s : Session σ}
    {o : Outcome σ (Except ProcessError Tree)} (run : rewriteStep c n s = some o) :
    ∃ i, Bracketed .chain i ∧ o.journal = .rewriting n s :: (i ++ [.rewrote o.value]) := by
  rw [rewriteStep_apply] at run
  obtain ⟨⟨r, u, i⟩, children, run⟩ := Option.bind_eq_some_iff.1 run
  obtain ⟨q, hq, rfl⟩ := Option.map_eq_some_iff.1 run
  have elements := rewriteElements_bracketed hc children
  have chain : Bracketed .chain q.journal := by
    cases r with
    | error e =>
      cases hq
      exact .nil _
    | ok es => exact hc _ _ _ (Calls.verdict_settle hq)
  exact ⟨i ++ q.journal, (elements.anywhere .chain).append chain, by simp⟩

theorem afterRewriter_bracketed (hc : c.Bracket) {label : String} {rounds : Nat}
    {tag : Option String} {r : Except ProcessError Tree} {s : Session σ}
    {o : Outcome σ (Except ProcessError Tree)}
    (run : afterRewriter c label rounds tag r s = some o) : Bracketed .chain o.journal := by
  cases r with
  | error e =>
    cases run
    exact .nil _
  | ok m =>
    rw [afterRewriter_ok] at run
    obtain ⟨q, hq, rfl⟩ := Option.map_eq_some_iff.1 run
    refine .step (.rewritten _ _) ?_
    split at hq
    · cases hq
      exact .nil _
    · split at hq
      · cases hq
        exact .nil _
      · exact hc _ _ _ (Calls.verdict_settle hq)

theorem settleStep_bracketed (hc : c.Bracket) {label : String} {rounds : Nat} {n : Tree}
    {s : Session σ} {o : Outcome σ (Except ProcessError Tree)}
    (run : p.settleStep c label rounds n s = some o) : Bracketed .chain o.journal := by
  cases found : n.tagName?.bind p.registry.rewriters.find? with
  | none =>
    rw [settleStep_none p c label rounds found] at run
    cases run
    exact .nil _
  | some w =>
    rw [settleStep_some p c label rounds found] at run
    obtain ⟨q, hq, rfl⟩ := Option.map_eq_some_iff.1 run
    obtain ⟨a, b, ha, hb, rfl⟩ := Run.bind_eq_some.1 hq
    exact .step (.rewriter _ n s) (((Code.bracketed hc ha).anywhere .chain).append
      (afterRewriter_bracketed hc hb))

/-- The pass of a call from outside, if there is one. -/
theorem prepare_bracketed (hc : c.Bracket) {n : Tree} {s : Session σ}
    {o : Outcome σ (Except ProcessError Tree)} (run : p.prepare c n s = some o) :
    Bracketed .code o.journal := by
  cases outside : s.context.isEmpty && p.registry.hasRewriters with
  | false =>
    rw [prepare_inside p c n outside] at run
    cases run
    exact .nil _
  | true =>
    rw [prepare_outside p c n outside] at run
    obtain ⟨q, hq, rfl⟩ := Option.map_eq_some_iff.1 run
    exact .step (.pass .code n) (hc _ s _ (Calls.verdict_rewrite hq))

/-- What follows a handler writes nothing down, or it is the hook for the tag of its node. -/
theorem settled_cases {config : Config} {m : Tree} {r : Reply} {v : Session σ}
    {b : Outcome σ Reply}
    (run : p.settleHandler c m.tagName? m.label (p.snapshot config m) r v = some b) :
    b.journal = [] ∨ ∃ e hook x, r.result = .error e ∧ p.recovery? m.tagName? = some hook ∧
      (hook r.rest m e).run p.profile c v = some x ∧
      b.journal = .log (.event (.recovered m.label p.kind e)) :: .recovering r.rest m e v ::
        x.journal := by
  obtain ⟨x, y, hx, hy, rfl⟩ := Run.bind_eq_some.1 run
  rw [finish_apply] at hy
  cases hy
  simp only [Outcome.after, List.append_nil]
  obtain ⟨result, rest⟩ := r
  cases result with
  | ok value =>
    cases hx
    exact .inl rfl
  | error e =>
    cases found : p.recovery? m.tagName? with
    | none =>
      rw [recover_none p c m.label (.inl found)] at hx
      cases hx
      exact .inl rfl
    | some hook =>
      rw [snapshot_of_recovery found, recover_apply p c m.label found] at hx
      obtain ⟨q, hq, rfl⟩ := Option.map_eq_some_iff.1 hx
      exact .inr ⟨e, hook, q, rfl, rfl, hq, rfl⟩

theorem start_bracketed (p : Processor σ) (isDefault : Bool) (m : Tree) (u : Session σ) :
    Bracketed .node (p.start isDefault m u) := by
  unfold start warning
  split
  · exact .step (.defaultHandlerUsed _ _) (.single (.handler _ _ _))
  · exact .single (.handler _ _ _)

theorem walk_bracketed (hc : c.Bracket) {label : String} {copy : Option Tree} {n : Tree}
    {s : Session σ} {q : Outcome σ Reply} (run : p.walk c label copy n s = some q) :
    Bracketed .code q.journal := by
  rw [walk_apply] at run
  obtain ⟨r, hr, rfl⟩ := Option.map_eq_some_iff.1 run
  rw [walkElements_eq] at hr
  refine eachNode_bracketed (fun child t b hb => ?_) hr
  obtain ⟨a, ha, rfl⟩ := Option.map_eq_some_iff.1 hb
  exact hc _ t _ (Calls.verdict_process ha)

/-- What is recorded of a dispatched node between its first steps and its last ones. -/
theorem enter_bracketed (hc : c.Bracket) {m : Tree} {u : Session σ} {o : Outcome σ Reply}
    (run : p.enter c m u = some o) : ∃ q, Bracketed .node q.journal ∧ o = entered m u q := by
  cases served : p.service u.config m with
  | refused e =>
    rw [enter_refused served] at run
    cases run
    exact ⟨_, .nil _, rfl⟩
  | walker =>
    rw [enter_walker served] at run
    obtain ⟨q, hq, rfl⟩ := Option.map_eq_some_iff.1 run
    exact ⟨q, (walk_bracketed hc hq).anywhere .node, rfl⟩
  | handler f isDefault =>
    rw [enter_handler served] at run
    obtain ⟨q, hq, rfl⟩ := Option.map_eq_some_iff.1 run
    obtain ⟨a, b, ha, hb, rfl⟩ := Run.bind_eq_some.1 hq
    have handled := (p.start_bracketed isDefault m u).append ((Code.bracketed hc ha).anywhere .node)
    have settled : Bracketed .node b.journal := by
      rcases settled_cases hb with quiet | ⟨e, hook, x, -, -, hx, journal⟩
      · rw [quiet]
        exact .nil _
      · rw [journal]
        exact .step (.recovered _ _ e) (.step (.recovering _ _ e _)
          ((Code.bracketed hc hx).anywhere .node))
    have all := handled.append settled
    rw [List.append_assoc] at all
    exact ⟨_, all, rfl⟩

theorem entered_bracketed (hc : c.Bracket) {m : Tree} {u : Session σ} {q : Outcome σ Reply}
    (run : p.enter c m u = some (entered m u q)) : Bracketed .node q.journal := by
  obtain ⟨q', inside, same⟩ := enter_bracketed hc run
  have value := congrArg Outcome.value same
  change q.value = q'.value at value
  have journal := congrArg Outcome.journal same
  simp only [entered, value, List.append_cancel_left_eq, List.append_cancel_right_eq] at journal
  exact journal ▸ inside

theorem processStep_bracketed (hc : c.Bracket) {n : Tree} {s : Session σ} {o : Outcome σ Reply}
    (run : p.processStep c n s = some o) : Bracketed .code o.journal := by
  rw [processStep_apply] at run
  obtain ⟨⟨r, u, i⟩, b, ready, after, rfl⟩ := Run.bind_eq_some.1 run
  refine (prepare_bracketed hc ready).append ?_
  cases r with
  | error e =>
    cases after
    exact .nil _
  | ok m =>
    obtain ⟨q, inside, rfl⟩ := enter_bracketed hc after
    have whole := Bracketed.dispatched m u q.value inside (.nil .code)
    rw [List.append_nil] at whole
    exact whole

/-- In any run the journals of calls are closed in themselves. -/
theorem calls_bracket (p : Processor σ) (k : Nat) : (p.calls k).Bracket := by
  refine p.calls_induction (M := Calls.Bracket) (fun A s q run => ?_) (fun c hc A s q run => ?_) k
  · cases A <;> cases run
  · cases A with
    | process n =>
      obtain ⟨o, ho, rfl⟩ := Option.map_eq_some_iff.1 run
      exact processStep_bracketed (p := p) hc ho
    | rewrite n =>
      obtain ⟨o, ho, rfl⟩ := Option.map_eq_some_iff.1 run
      obtain ⟨i, inside, journal⟩ := rewriteStep_bracketed hc ho
      change Bracketed .code o.journal
      rw [journal]
      exact .rewritten n s o.value inside (.nil .code)
    | settle label rounds n =>
      obtain ⟨o, ho, rfl⟩ := Option.map_eq_some_iff.1 run
      exact settleStep_bracketed (p := p) hc ho

end Processor

/-! ### Steps of the outermost calls -/

/-- How many calls are open after a step, if `d` are open before it. -/
def Step.openAfter (d : Nat) : Step σ → Nat
  | .called _ _ => d + 1
  | .rewriting _ _ => d + 1
  | .answered _ => d - 1
  | .rewrote _ => d - 1
  | _ => d

theorem openAfter_logs {i : List (Step σ)} (h : ∀ e ∈ i, ∃ entry, e = .log entry) (d : Nat) :
    i.foldl Step.openAfter d = d := by
  induction i with
  | nil => rfl
  | cons e i ih =>
    obtain ⟨entry, rfl⟩ := h e (List.mem_cons_self ..)
    exact ih fun e he => h e (List.mem_cons_of_mem _ he)

theorem openAfter_opening (m : Tree) (u : Session σ) (d : Nat) :
    (Processor.opening m u).foldl Step.openAfter d = d + 1 := by
  rw [Processor.opening, List.foldl_append]
  exact openAfter_logs (fun _ => Processor.traceBefore_logs) (d + 1)

theorem openAfter_closing (config : Config) (m : Tree) (r : Reply) (d : Nat) :
    (Processor.closing config m r : List (Step σ)).foldl Step.openAfter d = d - 1 := by
  rw [Processor.closing, List.foldl_append, openAfter_logs fun _ => Processor.traceAfter_logs]
  rfl

/-- Bracketed words close what they open. -/
theorem Bracketed.openAfter {place : Place} {i : List (Step σ)} (h : Bracketed place i) (d : Nat) :
    i.foldl Step.openAfter d = d := by
  induction h generalizing d with
  | nil place => rfl
  | step admitted rest ih =>
    cases admitted <;> exact ih d
  | dispatched m u r inside rest inner ih =>
    rw [List.foldl_append, openAfter_opening, List.foldl_append, inner, List.foldl_append,
      openAfter_closing]
    exact ih d
  | rewritten n s r inside rest inner ih =>
    rw [List.foldl_cons, List.foldl_append, inner]
    exact ih d

/-- The steps of a kind that belong to the outermost calls of a journal themselves, and not to calls
inside these. At its start `d` calls are open. -/
def ownSteps (kind : Step σ → Bool) (d : Nat) : List (Step σ) → List (Step σ)
  | [] => []
  | e :: j => (if d = 1 ∧ kind e then [e] else []) ++ ownSteps kind (e.openAfter d) j

/-- No step of the kind begins or ends a call. -/
structure Step.Single (kind : Step σ → Bool) : Prop where
  span (name : String) (m : Message) : kind (.log (.span name m)) = false
  called (n : Tree) (s : Session σ) : kind (.called n s) = false
  answered (r : Reply) : kind (.answered r) = false
  rewriting (n : Tree) (s : Session σ) : kind (.rewriting n s) = false
  rewrote (r : Except ProcessError Tree) : kind (.rewrote r) = false

section ownSteps

variable {kind : Step σ → Bool} {d : Nat}

theorem ownSteps_append (d : Nat) (i j : List (Step σ)) : ownSteps kind d (i ++ j) =
    ownSteps kind d i ++ ownSteps kind (i.foldl Step.openAfter d) j := by
  induction i generalizing d with
  | nil => rfl
  | cons e i ih =>
    rw [List.cons_append, ownSteps, ih, ownSteps, List.foldl_cons, List.append_assoc]

theorem ownSteps_other {e : Step σ} (other : d ≠ 1 ∨ kind e = false) (j : List (Step σ)) :
    ownSteps kind d (e :: j) = ownSteps kind (e.openAfter d) j := by
  rw [ownSteps, if_neg, List.nil_append]
  rintro ⟨rfl, is⟩
  rcases other with other | other
  · exact other rfl
  · rw [other] at is
    cases is

theorem ownSteps_logs (foreign : d ≠ 1 ∨ ∀ entry, kind (.log entry) = false) {i : List (Step σ)}
    (h : ∀ e ∈ i, ∃ entry, e = .log entry) : ownSteps kind d i = [] := by
  induction i with
  | nil => rfl
  | cons e i ih =>
    obtain ⟨entry, rfl⟩ := h e (List.mem_cons_self ..)
    rw [ownSteps_other (foreign.imp_right (· entry))]
    exact ih fun e he => h e (List.mem_cons_of_mem _ he)

theorem ownSteps_opening (single : Step.Single kind)
    (foreign : d + 1 ≠ 1 ∨ ∀ entry, kind (.log entry) = false) (m : Tree) (u : Session σ) :
    ownSteps kind d (Processor.opening m u) = [] := by
  rw [Processor.opening, List.cons_append, ownSteps_other (.inr (single.span _ _)),
    List.cons_append, ownSteps_other (.inr (single.called m u))]
  exact ownSteps_logs foreign fun _ => Processor.traceBefore_logs

theorem ownSteps_closing (single : Step.Single kind)
    (foreign : d ≠ 1 ∨ ∀ entry, kind (.log entry) = false) (config : Config) (m : Tree)
    (r : Reply) : ownSteps kind d (Processor.closing config m r) = [] := by
  rw [Processor.closing, ownSteps_append, ownSteps_logs foreign fun _ => Processor.traceAfter_logs,
    openAfter_logs fun _ => Processor.traceAfter_logs, ownSteps_other (.inr (single.answered r))]
  rfl

/-- In a bracketed part nothing belongs to the outermost call if some call is open at its start,
unless steps of the kind may stand in this part itself: inside the calls of the part at least two
are open. -/
theorem Bracketed.ownSteps_eq_nil (single : Step.Single kind) {place : Place} {i : List (Step σ)}
    (h : Bracketed place i) (isOpen : 1 ≤ d)
    (foreign : d = 1 → ∀ e, place.Admits e → kind e = false) : ownSteps kind d i = [] := by
  induction h generalizing d with
  | nil place => rfl
  | @step place e j admitted rest ih =>
    have level : e.openAfter d = d := by cases admitted <;> rfl
    rw [ownSteps_other, level]
    · exact ih isOpen foreign
    · by_cases outer : d = 1
      · exact .inr (foreign outer e admitted)
      · exact .inl outer
  | dispatched m u r inside rest inner ih =>
    have deeper : d + 1 ≠ 1 := by omega
    rw [ownSteps_append, ownSteps_opening single (.inl deeper), openAfter_opening,
      ownSteps_append, inner (by omega) (fun outer => absurd outer deeper), inside.openAfter,
      ownSteps_append, ownSteps_closing single (.inl deeper), openAfter_closing]
    exact ih isOpen foreign
  | rewritten n s r inside rest inner ih =>
    have deeper : d + 1 ≠ 1 := by omega
    rw [ownSteps_other (.inr (single.rewriting n s))]
    change ownSteps kind (d + 1) _ = _
    rw [ownSteps_append, inner (by omega) (fun outer => absurd outer deeper), inside.openAfter,
      List.nil_append, ownSteps_other (.inl deeper)]
    exact ih isOpen foreign

/-- Such a part can be left out. -/
theorem Bracketed.skip (single : Step.Single kind) {place : Place} {i : List (Step σ)}
    (h : Bracketed place i) (isOpen : 1 ≤ d)
    (foreign : d = 1 → ∀ e, place.Admits e → kind e = false) (j : List (Step σ)) :
    ownSteps kind d (i ++ j) = ownSteps kind d j := by
  rw [ownSteps_append, h.ownSteps_eq_nil single isOpen foreign, h.openAfter, List.nil_append]

/-- What code records belongs to the calls that it makes, except for the passes that these start. -/
theorem Code.ownSteps_skip (single : Step.Single kind) (foreign : ∀ n, kind (.pass n) = false)
    {self : Profile} {c : Calls σ} (hc : c.Bracket) {x : Code σ α} {s : Session σ}
    {o : Outcome σ α} (run : x.run self c s = some o) (j : List (Step σ)) :
    ownSteps kind 1 (o.journal ++ j) = ownSteps kind 1 j := by
  refine (Code.bracketed hc run).skip single (Nat.le_refl 1) (fun _ e admitted => ?_) j
  cases admitted with
  | pass _ n => exact foreign n

/-- Where log entries do not count, a dispatched node has the steps at its level for its own. -/
theorem Processor.ownSteps_entered (single : Step.Single kind)
    (silent : ∀ entry, kind (.log entry) = false) {m : Tree} {u : Session σ} {q : Outcome σ Reply}
    (inside : Bracketed .node q.journal) :
    ownSteps kind 0 (entered m u q).journal = ownSteps kind 1 q.journal := by
  rw [entered, ownSteps_append, ownSteps_opening single (.inr silent), openAfter_opening,
    ownSteps_append, inside.openAfter, ownSteps_closing single (.inr silent), List.append_nil,
    List.nil_append]

/-- To a node that is rewritten belongs only what its chain records. -/
theorem Processor.ownSteps_rewrite (single : Step.Single kind)
    (foreign : ∀ e, Place.chain.Admits e → kind e = false) {p : Processor σ} {k : Nat} {n : Tree}
    {s : Session σ} {o : Outcome σ (Except ProcessError Tree)} (run : p.rewrite k n s = some o) :
    ownSteps kind 0 o.journal = [] := by
  cases k with
  | zero => cases run
  | succ k =>
    obtain ⟨i, inside, journal⟩ := rewriteStep_bracketed (p.calls_bracket k) run
    rw [journal, ownSteps_other (.inl Nat.zero_ne_one)]
    change ownSteps kind 1 _ = _
    rw [ownSteps_append, inside.ownSteps_eq_nil single (Nat.le_refl 1) fun _ => foreign,
      inside.openAfter, List.nil_append, ownSteps_other (.inr (single.rewrote _))]
    rfl

theorem Processor.ownSteps_prepare (single : Step.Single kind)
    (foreign : ∀ e, Place.chain.Admits e → kind e = false) {p : Processor σ} {k : Nat} {n : Tree}
    {s : Session σ} {o : Outcome σ (Except ProcessError Tree)}
    (run : p.prepare (p.calls k) n s = some o) : ownSteps kind 0 o.journal = [] := by
  cases outside : s.context.isEmpty && p.registry.hasRewriters with
  | false =>
    rw [prepare_inside p _ n outside] at run
    cases run
    rfl
  | true =>
    rw [prepare_outside p _ n outside] at run
    obtain ⟨q, hq, rfl⟩ := Option.map_eq_some_iff.1 run
    have rewritten : ownSteps kind 0 q.journal = [] := ownSteps_rewrite single foreign hq
    change ownSteps kind 0 (.pass n :: q.journal) = []
    rw [ownSteps_other (.inl Nat.zero_ne_one)]
    exact rewritten

/-- What comes before dispatch can be left out. -/
theorem Processor.ownSteps_skip_prepare (single : Step.Single kind)
    (foreign : ∀ e, Place.chain.Admits e → kind e = false) {p : Processor σ} {k : Nat} {n : Tree}
    {s : Session σ} {o : Outcome σ (Except ProcessError Tree)}
    (run : p.prepare (p.calls k) n s = some o) (j : List (Step σ)) :
    ownSteps kind 0 (o.journal ++ j) = ownSteps kind 0 j := by
  rw [ownSteps_append, ownSteps_prepare single foreign run,
    (prepare_bracketed (p.calls_bracket k) run).openAfter, List.nil_append]

end ownSteps

end TagDispatch
