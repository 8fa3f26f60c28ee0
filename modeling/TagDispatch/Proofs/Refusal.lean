import TagDispatch.Proofs.Contract
import TagDispatch.Proofs.Nesting
import TagDispatch.Proofs.TwoPhase
import TagDispatch.Script.Exec

/-!
Calls that fail before anything is consumed. If the rewriting pass fails, the caller's node stays
as it was. If the node is refused, nothing runs for it: it keeps its elements and its line, and the
session is the one in which it was dispatched.
-/

namespace TagDispatch

variable {σ : Type}

namespace Processor

variable {p : Processor σ}

/-! ### Before dispatch -/

/-- What a call goes on to dispatch does not depend on its allowance. -/
theorem prepared_of_process {k : Nat} {n : Tree} {s u : Session σ}
    {a : Except ProcessError Tree} {o : Outcome σ Reply}
    (prepared : ComesTo (fun k => p.prepare (p.calls k) n) s a u) (run : p.process k n s = some o) :
    ∃ l j, p.prepare (p.calls l) n s = some ⟨a, u, j⟩ ∧
      p.processStep (p.calls l) n s = some o := by
  cases k with
  | zero => cases run
  | succ l =>
    rw [process_succ] at run
    have step := run
    rw [processStep_apply] at step
    obtain ⟨⟨b, v, j⟩, q, ready, -, -⟩ := Run.bind_eq_some.1 step
    obtain ⟨rfl, rfl⟩ := ComesTo.unique (p.prepare_lasting n) prepared ⟨l, j, ready⟩
    exact ⟨l, j, ready, run⟩

/-- From outside the pass decides what is dispatched, and without a pass it is the node itself. -/
theorem dispatches_iff {n m : Tree} {s u : Session σ} :
    p.Dispatches n s m u ↔
      if s.context.isEmpty && p.registry.hasRewriters then ComesTo (p.rewrite · n) s (.ok m) u
      else m = n ∧ u = s := by
  unfold Dispatches
  cases outside : s.context.isEmpty && p.registry.hasRewriters with
  | true => exact ComesTo.after fun k => p.prepare_outside (p.calls k) n outside
  | false =>
    constructor
    · rintro ⟨k, j, ready⟩
      change p.prepare (p.calls k) n s = _ at ready
      rw [prepare_inside p _ n outside] at ready
      cases ready
      exact ⟨rfl, rfl⟩
    · rintro ⟨rfl, rfl⟩
      exact ⟨0, [], p.prepare_inside (p.calls 0) m outside⟩

/-- How a call for a refused node is answered: all that changes is the field names of the node. -/
def refusal (config : Config) (n : Tree) (e : ProcessError) : Reply :=
  ⟨.error e, ⟨n.elements, fieldsFor config n.tagName?, n.line⟩⟩

theorem enter_of_refuses {n : Tree} {s : Session σ} {e : ProcessError}
    (refuses : p.Refuses s.config n e) (c : Calls σ) :
    p.enter c n s = some ⟨refusal s.config n e, s,
      opening n s ++ [.answered (refusal s.config n e)]⟩ :=
  enter_refused (service_refused_iff.2 refuses) c

/-- A refused node inside a call is answered as soon as it has been dispatched. -/
theorem refused_at_once {k : Nat} {n m : Tree} {s u : Session σ} {e : ProcessError}
    {o : Outcome σ Reply} (run : p.process k n s = some o) (called : .called m u ∈ o.journal)
    (refuses : p.Refuses u.config m e) :
    ∃ before after, o.journal =
      before ++ (opening m u ++ .answered (refusal u.config m e) :: after) := by
  have ended := Calls.verdict_process (c := p.calls k) run
  obtain ⟨l, B, t, j, reaches, own⟩ := reached_of_mem ended called
  obtain ⟨q, hq, after, journal⟩ := reaches.answered ended
  cases own with
  | @called _ _ _ _ i ready =>
    obtain ⟨r, hr, inner⟩ := enter_of_verdict ready hq
    rw [enter_of_refuses refuses] at hr
    cases hr
    refine ⟨j ++ i, after, ?_⟩
    rw [show o.journal = _ from journal.symm, inner]
    simp

/-- Calls that fail early leave their input as it was. If the tree cannot be rewritten, the call
fails with that error and the node is not touched: its journal is that of the pass. If what is
dispatched is refused, the call ends in the session and with the node that were there, with nothing
recorded in between. The same goes for every refused node that is dispatched inside a call. -/
theorem early_failure_keeps_input (p : Processor σ) (n : Tree) (s : Session σ) :
    (∀ e t, (s.context.isEmpty && p.registry.hasRewriters) = true →
      ComesTo (p.rewrite · n) s (.error e) t →
      ComesTo (p.process · n) s ⟨.error e, n⟩ t ∧
      ∀ k o, p.process k n s = some o → ∃ l j, p.rewrite l n s = some ⟨.error e, t, j⟩ ∧
        o = ⟨⟨.error e, n⟩, t, .pass n :: j⟩) ∧
    (∀ m u, p.Dispatches n s m u ↔
      if s.context.isEmpty && p.registry.hasRewriters then ComesTo (p.rewrite · n) s (.ok m) u
      else m = n ∧ u = s) ∧
    (∀ m u e, p.Dispatches n s m u → p.Refuses u.config m e →
      ComesTo (p.process · n) s (refusal u.config m e) u ∧
      ∀ k o, p.process k n s = some o →
        ∃ l j, p.prepare (p.calls l) n s = some ⟨.ok m, u, j⟩ ∧
          o = ⟨refusal u.config m e, u,
            j ++ (opening m u ++ [.answered (refusal u.config m e)])⟩) ∧
    ∀ k o m u e, p.process k n s = some o → .called m u ∈ o.journal → p.Refuses u.config m e →
      ∃ before after, o.journal =
        before ++ (opening m u ++ .answered (refusal u.config m e) :: after) := by
  refine ⟨fun e t outside failed => ?_, fun m u => dispatches_iff,
    fun m u e dispatched refuses => ?_,
    fun k o m u e run called refuses => refused_at_once run called refuses⟩
  · have prepared : ComesTo (fun k => p.prepare (p.calls k) n) s (.error e) t :=
      (ComesTo.after fun k => p.prepare_outside (p.calls k) n outside).2 failed
    refine ⟨comesTo_process.2 ⟨_, t, prepared, 0, [], rfl⟩, fun k o run => ?_⟩
    obtain ⟨l, j, ready, step⟩ := prepared_of_process prepared run
    rw [processStep_unready ready] at step
    rw [prepare_outside p _ n outside] at ready
    obtain ⟨⟨r, v, i⟩, hq, he⟩ := Option.map_eq_some_iff.1 ready
    cases he
    cases step
    exact ⟨l, i, hq, rfl⟩
  · refine ⟨comesTo_process.2 ⟨_, u, dispatched, 0, _, enter_of_refuses refuses _⟩,
      fun k o run => ?_⟩
    obtain ⟨l, j, ready, step⟩ := prepared_of_process dispatched run
    rw [processStep_ready ready, enter_of_refuses refuses] at step
    cases step
    exact ⟨l, j, ready, rfl⟩

end Processor

/-- An older tag is rewritten to one that may be excluded, and one tag cannot be rewritten. -/
def renamingProcessor : Processor Notes :=
  ⟨"Test", .ofList [
    .rewriter "old" (Script.instrs [.note "renamed", .setTag (.symbol "new")]).rewriter,
    .rewriter "bad" (Script.instrs [.note "broken", .fail "bad" "on purpose"]).rewriter]⟩

def renamingSession : Session Notes :=
  { config := ({} : Config).withExcluded "new", state := [] }

/-- A node with a field name and a line. -/
def linedTree (tag child : String) : Tree :=
  ⟨[.atom (.symbol tag), .node (.ofElements [.atom (.symbol child)])], ["child"], some 3⟩

/-- The pass goes well, and what it leaves is refused; or it fails in the middle of the tree. -/
theorem early_failure_keeps_input_after_renaming :
    (∃ e m t, ComesTo (renamingProcessor.process · (linedTree "old" "leaf")) renamingSession
        (Processor.refusal t.config m e) t ∧ m.render = "s(:new, s(:leaf))" ∧ m.line = some 3 ∧
      t.state = ["renamed"]) ∧
    ∃ e t, ComesTo (renamingProcessor.process · (linedTree "old" "bad")) renamingSession
        ⟨.error e, linedTree "old" "bad"⟩ t ∧ t.state = ["broken"] := by
  constructor
  · have run : (renamingProcessor.rewrite 4 (linedTree "old" "leaf") renamingSession).map
        (fun o => (o.value.toOption.map Node.render, o.session.state)) =
          some (some "s(:new, s(:leaf))", ["renamed"]) := by
      decide +kernel
    have banned : (renamingProcessor.rewrite 4 (linedTree "old" "leaf") renamingSession).map
        (fun o => (o.value.toOption.map fun m => (m.tagName?, m.line),
          o.session.config.excludedTags.contains "new")) =
          some (some (some "new", some 3), true) := by
      decide +kernel
    obtain ⟨⟨value, t, j⟩, ho, found⟩ := Option.map_eq_some_iff.1 run
    rw [ho] at banned
    cases value with
    | error e => cases found
    | ok m =>
      simp only [Option.map_some, Except.toOption, Option.some.injEq, Prod.mk.injEq] at found banned
      obtain ⟨⟨tagged, line⟩, listed⟩ := banned
      have kept := renamingProcessor.early_failure_keeps_input (linedTree "old" "leaf")
        renamingSession
      have dispatched :
          renamingProcessor.Dispatches (linedTree "old" "leaf") renamingSession m t :=
        (kept.2.1 m t).2 ⟨4, j, ho⟩
      exact ⟨_, m, t, (kept.2.2.1 m t _ dispatched (.excluded tagged listed)).1, found.1, line,
        found.2⟩
  · have run : (renamingProcessor.rewrite 4 (linedTree "old" "bad") renamingSession).map
        (fun o => ((failure? o.value).isSome, o.session.state)) = some (true, ["broken"]) := by
      decide +kernel
    obtain ⟨⟨value, t, j⟩, ho, found⟩ := Option.map_eq_some_iff.1 run
    simp only [Prod.mk.injEq] at found
    cases value with
    | ok m => cases found.1
    | error e =>
      have kept := renamingProcessor.early_failure_keeps_input (linedTree "old" "bad")
        renamingSession
      exact ⟨e, t, (kept.1 e t rfl ⟨4, j, ho⟩).1, found.2⟩

end TagDispatch
