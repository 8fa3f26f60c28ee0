import TagDispatch.Proofs.Effect

/-!
The context is a stack: every call puts its labels on and takes them off again, on success and on
every failure, whatever the attached code does in between.
-/

namespace TagDispatch

variable {σ : Type}

/-- The context is what it was. -/
def sameContext : Effect σ := fun s _ t => t.context = s.context

namespace Processor

theorem allows_sameContext (p : Processor σ) : p.Allows (fun _ => True) sameContext where
  asks := p.registry.onlyAsks_of_all fun _ => trivial
  refl _ := rfl
  trans h h' := Eq.trans h' h
  state _ _ _ := rfl
  env _ _ _ := rfl
  config _ _ _ := rfl
  record _ := rfl
  nested h := congrArg List.tail h

theorem calls_keep_context (p : Processor σ) (k : Nat) : (p.calls k).Have sameContext :=
  p.allows_sameContext.calls k

/-- Whatever is called, from inside or from outside, and however it ends, the context afterwards
is the context before; from outside, where it is empty, it is empty again. -/
theorem context_restored (p : Processor σ) (k : Nat) (s : Session σ) :
    (∀ n o, p.process k n s = some o → o.session.context = s.context) ∧
    (∀ n o, p.processOption k n s = some o → o.session.context = s.context) ∧
    (∀ e o, p.processElement k e s = some o → o.session.context = s.context) ∧
    (∀ n o, p.rewrite k n s = some o → o.session.context = s.context) := by
  refine ⟨fun n o ho => ?_, fun n o ho => ?_, fun e o ho => ?_, fun n o ho => ?_⟩
  · exact (p.calls_keep_context k).process n s o ho
  · exact p.allows_sameContext.processOption k n s o ho
  · exact p.allows_sameContext.processElement k e s o ho
  · exact (p.calls_keep_context k).rewrite n s o ho

end Processor

/-- Rewrites its node and processes another, changes the configuration, processes again and
fails. -/
def breaking : Handler Unit := fun n =>
  .rewrite n fun _ => .process (.tagged (.symbol "leaf")) fun r =>
    .configure (.strict true) (.process (.tagged (.symbol "leaf")) fun _ =>
      .done ⟨.error (.handlerFailed "break" "on purpose"), r.rest⟩)

def breakingProcessor : Processor Unit :=
  ⟨"Test", .ofList [.handler "break" breaking, .rewriter "leaf" fun n => .done (.ok n)]⟩

/-- A node around another one that fails. -/
def breakingTree : Tree :=
  .ofElements [.atom (.symbol "wrap"), .node (.tagged (.symbol "break"))]

theorem context_restored_after_failure :
    ∃ o, breakingProcessor.process 4 breakingTree
        { config := {}, state := (), context := ["outer"] } = some o ∧
      o.value.result.isOk = false ∧ o.session.config.strict = true ∧
      o.session.context = ["outer"] := by
  have h : (breakingProcessor.process 4 breakingTree
      { config := {}, state := (), context := ["outer"] }).map
        (fun o => (o.value.result.isOk, o.session.config.strict)) = some (false, true) := by
    decide +kernel
  obtain ⟨o, ho, hv⟩ := Option.map_eq_some_iff.1 h
  obtain ⟨hr, hs⟩ := Prod.mk.injEq .. ▸ hv
  exact ⟨o, ho, hr, hs, (breakingProcessor.context_restored 4 _).1 _ o ho⟩

end TagDispatch
