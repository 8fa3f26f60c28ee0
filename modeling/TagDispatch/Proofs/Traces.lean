import TagDispatch.Proofs.Brackets

/-!
Trace events come in pairs. A call whose node is traced reports it before it is dispatched; if the
call has a result, it reports that too, as the last thing before it answers. Whether it does so is
decided once, when the node is dispatched, and no change of the configuration on the way makes a
difference. So trace events open and close along the calls that are active.
-/

namespace TagDispatch

variable {σ : Type}

/-! ### The events of one call -/

def Step.isTrace : Step σ → Bool
  | .log (.event (.traceMatched _ _ _)) => true
  | _ => false

def original (tag text : String) : Step σ := .log (.event (.traceMatched tag .before text))

def processed (tag text : String) : Step σ := .log (.event (.traceMatched tag .after text))

/-- The trace events of a call that traces: one for its node, and one for its result if it has
one. -/
def tracePair (tag text : String) : Except ProcessError Element → List (Step σ)
  | .error _ => [original tag text]
  | .ok v => [original tag text, processed tag v.render]

theorem isTrace_single : Step.Single (Step.isTrace (σ := σ)) :=
  ⟨fun _ _ => rfl, fun _ _ => rfl, fun _ => rfl, fun _ _ => rfl, fun _ => rfl⟩

/-- Nobody traces but calls that dispatch a node, and these do so at their start and end. -/
theorem Place.Admits.isTrace {place : Place} {e : Step σ} (h : place.Admits e) :
    e.isTrace = false := by
  cases h <;> rfl

namespace Processor

variable {p : Processor σ}

theorem ownTraces_entered {m : Tree} {u : Session σ} {q : Outcome σ Reply}
    (inside : Bracketed .node q.journal) :
    ownSteps Step.isTrace 0 (entered m u q).journal =
      if isTraced u.config m.tagName? m.render then tracePair m.label m.render q.value.result
      else [] := by
  have before : ownSteps Step.isTrace 0 (opening m u) = traceBefore u.config m := by
    unfold opening traceBefore
    split <;> rfl
  have after : ownSteps Step.isTrace 1 (closing u.config m q.value : List (Step σ)) =
      traceAfter u.config m q.value := by
    unfold closing traceAfter
    split
    · rfl
    · split <;> rfl
  rw [entered, ownSteps_append, before, openAfter_opening, ownSteps_append,
    inside.ownSteps_eq_nil isTrace_single (Nat.le_refl 1) fun _ _ => Place.Admits.isTrace,
    inside.openAfter, after]
  unfold traceBefore traceAfter
  cases q.value.result <;> split <;> rfl

end Processor

/-! ### Watching a journal -/

/-- What an active call has traced: nothing, its node, or its result as well. -/
inductive Tracing where
  | untraced
  | opened (tag : String)
  | closed
  deriving DecidableEq

namespace Tracing

/-- A node is traced once, and a result only after the node and with the same tag. -/
def trace? (tag : String) : Stage → Tracing → Option Tracing
  | .before, .untraced => some (.opened tag)
  | .after, .opened tag' => if tag = tag' then some .closed else none
  | _, _ => none

/-- Whether a call may answer: what it has traced is left open exactly if it fails. -/
def answers (r : Reply) : Tracing → Bool
  | .untraced => true
  | .opened _ => !r.result.isOk
  | .closed => r.result.isOk

/-- Watches the active calls, the innermost one first. A trace event counts as one of the innermost
call, and a call that has traced its result must do nothing else before it answers. -/
def watch (active : List Tracing) : Step σ → Option (List Tracing)
  | .answered r =>
    match active with
    | [] => none
    | call :: outer => if call.answers r then some outer else none
  | .log (.event (.traceMatched tag stage _)) =>
    match active with
    | [] => none
    | call :: outer => (call.trace? tag stage).map (· :: outer)
  | .called _ _ => if active.head? = some .closed then none else some (.untraced :: active)
  | _ => if active.head? = some .closed then none else some active

/-- A call that has just dispatched its node. -/
def ofNode (config : Config) (m : Tree) : Tracing :=
  if Processor.isTraced config m.tagName? m.render then .opened m.label else .untraced

theorem ofNode_ne_closed (config : Config) (m : Tree) (active : List Tracing) :
    (ofNode config m :: active).head? ≠ some .closed := by
  unfold ofNode
  split <;> nofun

theorem watch_admitted {place : Place} {e : Step σ} (h : place.Admits e) {active : List Tracing}
    (goesOn : active.head? ≠ some .closed) : watch active e = some active := by
  cases h <;> exact if_neg goesOn

theorem watch_opening (m : Tree) (u : Session σ) {active : List Tracing}
    (goesOn : active.head? ≠ some .closed) :
    (Processor.opening m u).foldlM watch active = some (ofNode u.config m :: active) := by
  have span : watch active (.log (.span "process" (.nodeDispatched m.label u.context.length)) :
      Step σ) = some active := if_neg goesOn
  have called : watch active (.called m u) = some (.untraced :: active) := if_neg goesOn
  rw [Processor.opening, List.cons_append, List.foldlM_cons, span]
  change ([Step.called m u] ++ Processor.traceBefore u.config m).foldlM watch active = _
  rw [List.cons_append, List.foldlM_cons, called]
  unfold Processor.traceBefore ofNode
  split <;> rfl

theorem watch_closing (config : Config) (m : Tree) (r : Reply) (active : List Tracing) :
    (Processor.closing config m r : List (Step σ)).foldlM watch (ofNode config m :: active) =
      some active := by
  obtain ⟨result, rest⟩ := r
  unfold Processor.closing Processor.traceAfter ofNode
  cases result with
  | error e => split <;> rfl
  | ok v =>
    split
    · have same : watch (.opened m.label :: active)
          (.log (.event (.traceMatched m.label .after v.render)) : Step σ) =
            some (.closed :: active) := by
        simp [watch, trace?]
      simp only [List.cons_append, List.foldlM_cons, same]
      rfl
    · rfl

end Tracing

/-- The calls in a bracketed part all come to their end there. While the inside of a call is
watched, the call itself comes first, and it is not closed yet. -/
theorem Bracketed.watched {place : Place} {j : List (Step σ)} (h : Bracketed place j)
    {active : List Tracing} (goesOn : active.head? ≠ some .closed) :
    j.foldlM Tracing.watch active = some active := by
  induction h generalizing active with
  | nil place => rfl
  | step admitted rest ih =>
    rw [List.foldlM_cons, Tracing.watch_admitted admitted goesOn]
    exact ih goesOn
  | dispatched m u r inside rest inner ih =>
    rw [List.foldlM_append, Tracing.watch_opening m u goesOn, Option.bind_eq_bind,
      Option.bind_some, List.foldlM_append, inner (Tracing.ofNode_ne_closed u.config m active),
      Option.bind_eq_bind, Option.bind_some, List.foldlM_append, Tracing.watch_closing]
    exact ih goesOn
  | @rewritten place i j n s r inside rest inner ih =>
    have opens : Tracing.watch active (.rewriting n s) = some active := if_neg goesOn
    have closes : Tracing.watch active (.rewrote r : Step σ) = some active := if_neg goesOn
    rw [List.foldlM_cons, opens, Option.bind_eq_bind, Option.bind_some, List.foldlM_append,
      inner goesOn, Option.bind_eq_bind, Option.bind_some, List.foldlM_cons, closes]
    exact ih goesOn

/-! ### Pairs -/

/-- The trace events of a journal are nested like the calls in it. -/
structure PairedTraces (j : List (Step σ)) : Prop where
  accepted : j.foldlM Tracing.watch [] = some []
  /-- A result is traced by the innermost active call. What it closes is open and has the same tag,
  and the call then answers with a result. -/
  closes (before after : List (Step σ)) (tag text : String) :
    j = before ++ processed tag text :: after →
      (∃ outer, before.foldlM Tracing.watch [] = some (.opened tag :: outer)) ∧
      ∃ r v rest, after = .answered r :: rest ∧ r.result = .ok v
  /-- A call that answers leaves its node open if it fails, and has closed it if not. -/
  leaves (before after : List (Step σ)) (r : Reply) : j = before ++ .answered r :: after →
    ∃ call outer, before.foldlM Tracing.watch [] = some (call :: outer) ∧
      (∀ tag, call = .opened tag → ∃ e, r.result = .error e) ∧
      (call = .closed → ∃ v, r.result = .ok v)

namespace Tracing

variable {active active' : List Tracing}

theorem answers_opened {r : Reply} {tag : String} (h : (opened tag).answers r = true) :
    ∃ e, r.result = .error e := by
  rw [answers] at h
  cases failed : r.result with
  | error e => exact ⟨e, rfl⟩
  | ok v =>
    rw [failed] at h
    cases h

theorem answers_closed {r : Reply} (h : closed.answers r = true) : ∃ v, r.result = .ok v := by
  rw [answers] at h
  cases ok : r.result with
  | ok v => exact ⟨v, rfl⟩
  | error e =>
    rw [ok] at h
    cases h

theorem watch_processed {tag text : String}
    (h : watch active (processed tag text : Step σ) = some active') :
    ∃ outer, active = .opened tag :: outer ∧ active' = .closed :: outer := by
  cases active with
  | nil => cases h
  | cons call outer =>
    obtain ⟨closing, traced, rfl⟩ := Option.map_eq_some_iff.1 h
    cases call with
    | opened tag' =>
      rw [trace?] at traced
      split at traced
      · next same =>
        cases traced
        exact ⟨outer, same ▸ rfl, rfl⟩
      · cases traced
    | _ => cases traced

theorem watch_answered {r : Reply} (h : watch active (.answered r : Step σ) = some active') :
    ∃ call, active = call :: active' ∧ call.answers r = true := by
  cases active with
  | nil => cases h
  | cons call outer =>
    rw [watch] at h
    split at h
    · next may =>
      cases h
      exact ⟨call, rfl, may⟩
    · cases h

/-- Nothing but an answer follows the trace of a result. -/
theorem watch_closed {e : Step σ} {outer : List Tracing}
    (h : watch (.closed :: outer) e = some active') : ∃ r v, e = .answered r ∧ r.result = .ok v := by
  cases e with
  | answered r =>
    obtain ⟨call, same, may⟩ := watch_answered h
    cases same
    obtain ⟨v, ok⟩ := answers_closed may
    exact ⟨r, v, rfl, ok⟩
  | log entry =>
    cases entry with
    | span name m => simp [watch] at h
    | event m =>
      cases m with
      | traceMatched tag stage text => cases stage <;> cases h
      | _ => simp [watch] at h
  | _ => simp [watch] at h

theorem watch_split {before after : List (Step σ)} {e : Step σ}
    (h : (before ++ e :: after).foldlM watch [] = some []) :
    ∃ active active', before.foldlM watch [] = some active ∧ watch active e = some active' ∧
      after.foldlM watch active' = some [] := by
  rw [List.foldlM_append] at h
  obtain ⟨active, front, h⟩ := Option.bind_eq_some_iff.1 h
  rw [List.foldlM_cons] at h
  obtain ⟨active', here, back⟩ := Option.bind_eq_some_iff.1 h
  exact ⟨active, active', front, here, back⟩

end Tracing

theorem Bracketed.pairedTraces {place : Place} {j : List (Step σ)} (h : Bracketed place j) :
    PairedTraces j := by
  have accepted : j.foldlM Tracing.watch [] = some [] := h.watched nofun
  refine ⟨accepted, fun before after tag text split => ?_, fun before after r split => ?_⟩
  · rw [split] at accepted
    obtain ⟨active, active', front, here, back⟩ := Tracing.watch_split accepted
    obtain ⟨outer, rfl, rfl⟩ := Tracing.watch_processed here
    refine ⟨⟨outer, front⟩, ?_⟩
    cases after with
    | nil => cases back
    | cons e rest =>
      rw [List.foldlM_cons] at back
      obtain ⟨next, answer, -⟩ := Option.bind_eq_some_iff.1 back
      obtain ⟨r, v, rfl, ok⟩ := Tracing.watch_closed answer
      exact ⟨r, v, rest, rfl, ok⟩
  · rw [split] at accepted
    obtain ⟨active, active', front, here, -⟩ := Tracing.watch_split accepted
    obtain ⟨call, rfl, may⟩ := Tracing.watch_answered here
    refine ⟨call, active', front, ?_, ?_⟩
    · rintro tag rfl
      exact Tracing.answers_opened may
    · rintro rfl
      exact Tracing.answers_closed may

namespace Processor

/-- Traces come in pairs. In any run, what is traced is nested like the calls: each result that is
traced closes the node of the innermost active call, which answers with it at once, and the nodes
that are left open are those of calls that fail. A call that does not get to dispatch a node fails
and traces nothing. One that dispatches `m` in `u` traces both or nothing if it has a result, as the
configuration of `u` says, and then the trace of the result is its last event; if it fails it traces
the node only. -/
theorem traces_pair_up (p : Processor σ) (k : Nat) (n : Tree) (s : Session σ) :
    (∀ o, p.process k n s = some o → PairedTraces o.journal) ∧
    (∀ o, p.rewrite k n s = some o → PairedTraces o.journal) ∧
    (∀ e u i o, p.prepare (p.calls k) n s = some ⟨.error e, u, i⟩ →
      p.process (k + 1) n s = some o →
      o.value.result = .error e ∧ ownSteps Step.isTrace 0 o.journal = []) ∧
    ∀ m u i o, p.prepare (p.calls k) n s = some ⟨.ok m, u, i⟩ → p.process (k + 1) n s = some o →
      ownSteps Step.isTrace 0 o.journal =
        (if isTraced u.config m.tagName? m.render then tracePair m.label m.render o.value.result
        else []) ∧
      ∀ v, o.value.result = .ok v → isTraced u.config m.tagName? m.render = true →
        ∃ j, o.journal = j ++ [processed m.label v.render, .answered o.value] := by
  have bracket := p.calls_bracket k
  refine ⟨fun o run => ?_, fun o run => ?_, fun e u i o ready run => ?_,
    fun m u i o ready run => ?_⟩
  · exact (bracket _ s _ (Calls.verdict_process run)).pairedTraces
  · exact (bracket _ s _ (Calls.verdict_rewrite run)).pairedTraces
  · rw [process_succ, processStep_unready ready] at run
    cases run
    exact ⟨rfl, ownSteps_prepare isTrace_single (fun _ => Place.Admits.isTrace) ready⟩
  · rw [process_ready ready] at run
    obtain ⟨b, entry, rfl⟩ := Option.map_eq_some_iff.1 run
    obtain ⟨q, inside, rfl⟩ := enter_bracketed bracket entry
    constructor
    · exact (ownSteps_skip_prepare isTrace_single (fun _ => Place.Admits.isTrace) ready _).trans
        (ownTraces_entered inside)
    · intro v ok traced
      replace ok : q.value.result = .ok v := ok
      refine ⟨i ++ (opening m u ++ q.journal), ?_⟩
      simp [Outcome.after, entered, closing, traceAfter, ok, traced, processed]

end Processor

/-- The handler of `outer` has another node processed, does not mind that this fails, and stops all
tracing. -/
def tracingProcessor : Processor Unit :=
  ⟨"Test", .ofList [
    .handler "outer" fun n => .process (.tagged (.symbol "inner")) fun _ =>
      .configure (.debugTrace ∅) (.done ⟨.ok (.node n), .ofElements []⟩),
    .handler "inner" fun n => .done ⟨.error (.handlerFailed "inner" "broken"), n⟩]⟩

/-- All nodes with the two tags are traced. -/
def tracingSession : Session Unit :=
  { config := { debugTrace := Table.ofList [("outer", ⟨"", fun _ => true⟩),
      ("inner", ⟨"", fun _ => true⟩)] }, state := () }

def tracedTree : Tree := .tagged (.symbol "outer")

/-- The inner call fails and leaves its node open; the outer one closes its own. -/
theorem traces_pair_up_caught :
    ∃ o v j, tracingProcessor.process 3 tracedTree tracingSession = some o ∧
      (o.journal.filter Step.isTrace).length = 3 ∧ PairedTraces o.journal ∧
      ownSteps Step.isTrace 0 o.journal =
        [original "outer" tracedTree.render, processed "outer" v] ∧
      o.journal = j ++ [processed "outer" v, .answered o.value] := by
  have run : (tracingProcessor.process 3 tracedTree tracingSession).map
      (fun o => ((o.journal.filter Step.isTrace).length, o.value.result.isOk)) =
        some (3, true) := by
    decide +kernel
  obtain ⟨o, ho, what⟩ := Option.map_eq_some_iff.1 run
  obtain ⟨count, ok⟩ := Prod.mk.injEq .. ▸ what
  obtain ⟨paired, -⟩ := tracingProcessor.traces_pair_up 3 tracedTree tracingSession
  obtain ⟨-, -, -, own⟩ := tracingProcessor.traces_pair_up 2 tracedTree tracingSession
  obtain ⟨pair, last⟩ := own tracedTree tracingSession [] o rfl ho
  cases result : o.value.result with
  | error e =>
    rw [result] at ok
    cases ok
  | ok v =>
    have traced : Processor.isTraced tracingSession.config tracedTree.tagName?
        tracedTree.render = true := by decide +kernel
    obtain ⟨j, journal⟩ := last v result traced
    rw [if_pos traced, result] at pair
    exact ⟨o, v.render, j, ho, count, paired o ho, pair, journal⟩

end TagDispatch
