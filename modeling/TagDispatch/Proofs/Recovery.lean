import TagDispatch.Proofs.Brackets
import TagDispatch.Script.Exec

/-!
When recovery hooks run. The hook for the tag of a dispatched node runs if the handler that serves
the node fails, and then once: on what the handler has left of the node, with a copy of the node as
it was dispatched, and in the session that the handler has left. It runs in no other case. A
journal tells which call ran a hook: calls open and close in it like brackets.
-/

namespace TagDispatch

variable {σ : Type}

/-! ### The hooks of the outermost calls -/

def Step.isRecovering : Step σ → Bool
  | .recovering _ _ _ _ => true
  | _ => false

/-- Hooks run at nodes. -/
theorem Place.Admits.isRecovering {place : Place} {e : Step σ} (h : place.Admits e)
    (other : place ≠ .node) : e.isRecovering = false := by
  cases h <;> first | rfl | exact absurd rfl other

theorem isRecovering_single : Step.Single (Step.isRecovering (σ := σ)) :=
  ⟨fun _ _ => rfl, fun _ _ => rfl, fun _ => rfl, fun _ _ => rfl, fun _ => rfl⟩

namespace Processor

variable {p : Processor σ} {c : Calls σ} {k : Nat}

/-! ### A dispatched node -/

/-- The call for `n` from `s` dispatches `m` in `u`, and the handler that serves it, its own or the
default one, fails with `e`. It leaves `rest` of the node and the session `v`. -/
structure HandlerFails (p : Processor σ) (c : Calls σ) (n : Tree) (s : Session σ) (m : Tree)
    (u : Session σ) (rest : Tree) (e : ProcessError) (v : Session σ) : Prop where
  dispatched : ∃ i, p.prepare c n s = some ⟨.ok m, u, i⟩
  failed : ∃ f isDefault j, p.service u.config m = .handler f isDefault ∧
    (f (given u.config isDefault m)).run p.profile c (u.enter m.label) =
      some ⟨⟨.error e, rest⟩, v, j⟩

/-- A handler runs no hook of its own node. -/
theorem recoveries_handled {f : Handler σ} {isDefault : Bool} {m : Tree} {u : Session σ}
    {a : Outcome σ Reply} (run : (f (given u.config isDefault m)).run p.profile (p.calls k)
      (u.enter m.label) = some a) (j : List (Step σ)) :
    ownSteps Step.isRecovering 1 (p.start isDefault m u ++ (a.journal ++ j)) =
      ownSteps Step.isRecovering 1 j := by
  have quiet : ownSteps Step.isRecovering 1 (p.warning u.config isDefault m.label) = [] :=
    ownSteps_logs (.inr fun _ => rfl) fun _ => warning_logs
  have level : (p.warning u.config isDefault m.label).foldl Step.openAfter 1 = 1 :=
    openAfter_logs (fun _ => warning_logs) 1
  rw [start, List.append_assoc, ownSteps_append, quiet, level]
  exact Code.ownSteps_skip isRecovering_single (fun _ => rfl) (p.calls_bracket k) run j

/-- The only hook that can run at the level of a dispatched node is the one for a handler that
failed. -/
theorem recoveries_unrecovered {n m : Tree} {s u : Session σ} {i : List (Step σ)}
    {o : Outcome σ Reply} (ready : p.prepare (p.calls k) n s = some ⟨.ok m, u, i⟩)
    (run : p.enter (p.calls k) m u = some o)
    (unrecovered : ∀ rest e v, p.HandlerFails (p.calls k) n s m u rest e v →
      p.recovery? m.tagName? = none) :
    ownSteps Step.isRecovering 0 o.journal = [] := by
  have bracket := p.calls_bracket k
  have inner : ∃ q, o = entered m u q ∧ ownSteps Step.isRecovering 1 q.journal = [] := by
    cases served : p.service u.config m with
    | refused e =>
      rw [enter_refused served] at run
      cases run
      exact ⟨_, rfl, rfl⟩
    | walker =>
      rw [enter_walker served] at run
      obtain ⟨q, hq, rfl⟩ := Option.map_eq_some_iff.1 run
      exact ⟨q, rfl, (walk_bracketed bracket hq).ownSteps_eq_nil isRecovering_single
        (Nat.le_refl 1) fun _ _ admitted => admitted.isRecovering nofun⟩
    | handler f isDefault =>
      rw [enter_handler served] at run
      obtain ⟨q, hq, rfl⟩ := Option.map_eq_some_iff.1 run
      obtain ⟨⟨⟨result, rest⟩, v, j⟩, b, ha, hb, rfl⟩ := Run.bind_eq_some.1 hq
      refine ⟨_, rfl, (recoveries_handled ha b.journal).trans ?_⟩
      rcases settled_cases hb with quiet | ⟨e, hook, x, failed, found, -, -⟩
      · rw [quiet]
        rfl
      · cases failed
        rw [unrecovered rest e v ⟨⟨i, ready⟩, f, isDefault, j, served, ha⟩] at found
        cases found
  obtain ⟨q, rfl, quiet⟩ := inner
  rw [ownSteps_entered isRecovering_single (fun _ => rfl) (entered_bracketed bracket run), quiet]

/-! ### When hooks run -/

/-- The reply of a node whose hook has answered: it is checked like that of a handler, in the
configuration that the hook has left. -/
def checkedReply (p : Processor σ) (m : Tree) (o : Outcome σ Reply) : Reply :=
  ⟨o.value.result.bind (p.checkHandled o.session.config m.label (some m) · o.value.rest),
    o.value.rest⟩

theorem enter_recovered {m rest : Tree} {u v : Session σ} {f : Handler σ} {isDefault : Bool}
    {j : List (Step σ)} {e : ProcessError} {hook : Recovery σ}
    (served : p.service u.config m = .handler f isDefault)
    (failed : (f (given u.config isDefault m)).run p.profile c (u.enter m.label) =
      some ⟨⟨.error e, rest⟩, v, j⟩)
    (found : p.recovery? m.tagName? = some hook) :
    p.enter c m u = ((hook rest m e).run p.profile c v).map fun o =>
      entered m u ⟨p.checkedReply m o, o.session,
        (p.start isDefault m u ++ j ++ [.log (.event (.recovered m.label p.kind e))]) ++
          .recovering rest m e v :: o.journal⟩ := by
  rw [enter_handler served, Run.bind_apply, failed, Option.bind_some]
  simp only [settleHandler]
  rw [Run.bind_apply, snapshot_of_recovery found, recover_apply p c m.label found]
  cases (hook rest m e).run p.profile c v with
  | none => rfl
  | some o =>
    simp only [Option.map_some, Option.bind_some, finish_apply]
    simp [Outcome.after, checkedReply]

/-- Before and after the hook of a node there are only hooks of calls inside the node. -/
theorem recoveries_recovered {m rest : Tree} {u v : Session σ} {f : Handler σ} {isDefault : Bool}
    {j : List (Step σ)} {e : ProcessError} {hook : Recovery σ} {o : Outcome σ Reply}
    (served : p.service u.config m = .handler f isDefault)
    (failed : (f (given u.config isDefault m)).run p.profile (p.calls k) (u.enter m.label) =
      some ⟨⟨.error e, rest⟩, v, j⟩)
    (found : p.recovery? m.tagName? = some hook) (run : p.enter (p.calls k) m u = some o) :
    ownSteps Step.isRecovering 0 o.journal = [.recovering rest m e v] := by
  have bracket := p.calls_bracket k
  have whole := run
  rw [enter_recovered served failed found] at whole
  obtain ⟨x, hx, rfl⟩ := Option.map_eq_some_iff.1 whole
  have after : ownSteps Step.isRecovering 1 x.journal = [] :=
    (Code.bracketed bracket hx).ownSteps_eq_nil isRecovering_single (Nat.le_refl 1)
      fun _ _ admitted => admitted.isRecovering nofun
  rw [ownSteps_entered isRecovering_single (fun _ => rfl) (entered_bracketed bracket run)]
  simp only [List.append_assoc]
  rw [recoveries_handled failed]
  exact congrArg (.recovering rest m e v :: ·) after

/-- Hooks answer for the handlers that fail, and for nothing else. If the handler that serves the
node of a call fails and there is a hook for the tag, then a copy of the node was kept, and the call
goes on as the hook does: with what is left of the node, the copy, the error and the session that
the handler has left, and this is the only run of a hook that belongs to the node. In all other
cases no run of a hook belongs to it. -/
theorem recovery_answers_failed_handlers (p : Processor σ) (k : Nat) (n : Tree) (s : Session σ) :
    (∀ m u rest e v hook, p.HandlerFails (p.calls k) n s m u rest e v →
      p.recovery? m.tagName? = some hook →
      p.snapshot u.config m = some m ∧
      (∃ before, p.process (k + 1) n s = ((hook rest m e).run p.profile (p.calls k) v).map fun o =>
        ⟨p.checkedReply m o, o.session.exit, before ++ .recovering rest m e v ::
          (o.journal ++ closing u.config m (p.checkedReply m o))⟩) ∧
      ∀ o, p.process (k + 1) n s = some o →
        ownSteps Step.isRecovering 0 o.journal = [.recovering rest m e v]) ∧
    ((∀ m u rest e v, p.HandlerFails (p.calls k) n s m u rest e v →
        p.recovery? m.tagName? = none) →
      ∀ o, p.process (k + 1) n s = some o → ownSteps Step.isRecovering 0 o.journal = []) := by
  have quiet {o : Outcome σ (Except ProcessError Tree)}
      (ready : p.prepare (p.calls k) n s = some o) (j : List (Step σ)) :
      ownSteps Step.isRecovering 0 (o.journal ++ j) = ownSteps Step.isRecovering 0 j :=
    ownSteps_skip_prepare isRecovering_single (fun _ admitted => admitted.isRecovering nofun)
      ready j
  constructor
  · rintro m u rest e v hook ⟨⟨i, ready⟩, f, isDefault, j, served, failed⟩ found
    have run := process_ready ready
    refine ⟨snapshot_of_recovery found, ⟨i ++ opening m u ++ (p.start isDefault m u ++ j ++
      [.log (.event (.recovered m.label p.kind e))]), ?_⟩, fun o ho => ?_⟩
    · rw [run, enter_recovered served failed found, Option.map_map]
      congr 1
      funext o
      simp [entered, Outcome.after]
    · obtain ⟨b, hb, rfl⟩ := Option.map_eq_some_iff.1 (run.symm.trans ho)
      exact (quiet ready b.journal).trans (recoveries_recovered served failed found hb)
  · intro unrecovered o ho
    rw [process_succ, processStep_apply] at ho
    obtain ⟨⟨r, u, i⟩, b, ready, after, rfl⟩ := Run.bind_eq_some.1 ho
    refine (quiet ready b.journal).trans ?_
    cases r with
    | error e =>
      cases after
      rfl
    | ok m => exact recoveries_unrecovered ready after (unrecovered m u)

end Processor

/-- The default handler has its last element processed, changes the configuration and fails. Nodes
with the tag `call` have a hook. -/
def savingProcessor : Processor Notes :=
  ⟨"Test", .ofList [
    .handler "any" (Script.instrs [.shift, .ifLen 1 [.shift, .process] [],
      .setConfig [.captureSnapshot false, .warnOnDefault false], .note "handled",
      .fail "any" "broken"]).handler,
    .recovery "call" (Script.instrs [.note "saved"]).recovery]⟩

/-- A call inside a call. -/
def nestedCall : Tree :=
  .ofElements [.atom (.symbol "call"), .node (.ofElements [.atom (.symbol "call")])]

def savingSession : Session Notes :=
  { config := Config.interpreter.withDefaultHandler "any", state := [] }

theorem recovery_answers_failed_handlers_nested :
    ∃ o rest e v, savingProcessor.process 3 nestedCall savingSession = some o ∧
      o.session.state = ["handled", "saved", "handled", "saved"] ∧
      (o.journal.filter Step.isRecovering).length = 2 ∧
      ownSteps Step.isRecovering 0 o.journal = [.recovering rest nestedCall e v] ∧
      rest.render = "s()" ∧ v.state = ["handled", "saved", "handled"] := by
  have run : (savingProcessor.process 3 nestedCall savingSession).map
      (fun o => (o.session.state, (o.journal.filter Step.isRecovering).length)) =
        some (["handled", "saved", "handled", "saved"], 2) := by
    decide +kernel
  obtain ⟨o, ho, saved⟩ := Option.map_eq_some_iff.1 run
  obtain ⟨state, count⟩ := Prod.mk.injEq .. ▸ saved
  obtain ⟨f, served⟩ : ∃ f, savingProcessor.service savingSession.config nestedCall =
      .handler f true := ⟨_, rfl⟩
  have handled : ((f (Processor.given savingSession.config true nestedCall)).run
      savingProcessor.profile (savingProcessor.calls 2) (savingSession.enter nestedCall.label)).map
        (fun a => (a.value.failure?.isSome, a.value.rest.render, a.session.state)) =
          some (true, "s()", ["handled", "saved", "handled"]) := by
    cases served
    decide +kernel
  obtain ⟨⟨⟨result, rest⟩, v, j⟩, ha, left⟩ := Option.map_eq_some_iff.1 handled
  simp only [Prod.mk.injEq] at left
  obtain ⟨failed, text, notes⟩ := left
  cases result with
  | ok value => cases failed
  | error e =>
    have fails : savingProcessor.HandlerFails (savingProcessor.calls 2) nestedCall savingSession
        nestedCall savingSession rest e v := ⟨⟨[], rfl⟩, f, true, j, served, ha⟩
    obtain ⟨-, -, once⟩ := (savingProcessor.recovery_answers_failed_handlers 2 nestedCall
      savingSession).1 _ _ rest e v _ fails rfl
    exact ⟨o, rest, e, v, ho, state, count, once o ho, text, notes⟩

end TagDispatch
