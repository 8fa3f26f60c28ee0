import TagDispatch.Proofs.Lockstep
import TagDispatch.Proofs.Registry
import TagDispatch.Proofs.Scripts

/-!
Traces, warnings and copies in errors are for the reader of a log. If the attached code does not
look at them either, then they change nothing: two runs whose configurations differ in nothing
else come to the same, but for the copies that their errors carry.
-/

namespace TagDispatch

variable {σ α β : Type}

/-- The error, without the copy of a node that it may carry. -/
def ProcessError.withoutSnapshot : ProcessError → ProcessError
  | resultMismatch tag kind expected actual _ => resultMismatch tag kind expected actual none
  | incomplete tag kind remaining _ => incomplete tag kind remaining none
  | e => e

theorem ProcessError.message_withoutSnapshot (e : ProcessError) :
    e.withoutSnapshot.message = e.message := by
  cases e <;> rfl

theorem ProcessError.kindName_withoutSnapshot (e : ProcessError) :
    e.withoutSnapshot.kindName = e.kindName := by
  cases e <;> rfl

def withoutSnapshots (r : Except ProcessError α) : Except ProcessError α :=
  r.mapError ProcessError.withoutSnapshot

def Reply.withoutSnapshot (r : Reply) : Reply := { r with result := withoutSnapshots r.result }

def Session.quiet (s : Session σ) : Session σ := { s with config := s.config.quiet }

/-- What is left of an outcome without diagnostics: a part of the value, and the session. -/
def Outcome.shown (f : α → β) (o : Outcome σ α) : β × Session σ := (f o.value, o.session.quiet)

/-- Setting an option means the same to configurations that differ in diagnostics only. -/
theorem Config.quiet_set (c : Config) (o : Setting) : (c.quiet.set o).quiet = (c.set o).quiet := by
  cases o <;> rfl

/-- Neither diagnostic options nor copies in errors are seen. -/
def View.blind : View where
  error e e' := e.withoutSnapshot = e'.withoutSnapshot
  config c d := c.quiet = d.quiet
  context := Eq
  rewrites := True
  inspects := True
  silent := True

namespace View

theorem blind_legible : View.blind.Legible where
  error_refl _ := rfl
  message {e e'} h := by
    rw [← e.message_withoutSnapshot, ← e'.message_withoutSnapshot, h]
  kindName {e e'} h := by
    rw [← e.kindName_withoutSnapshot, ← e'.kindName_withoutSnapshot, h]
  context h := h
  rewrites := trivial

theorem blind_blind : View.blind.Blind := ⟨trivial, fun _ _ _ _ _ _ => rfl, fun _ _ _ _ _ => rfl⟩

theorem blind_result {r r' : Except ProcessError α} (h : View.blind.Result r r') :
    withoutSnapshots r = withoutSnapshots r' := by
  cases h with
  | ok a => rfl
  | error he => exact congrArg Except.error he

theorem blind_reply {r r' : Reply} (h : r.Alike View.blind r') :
    r.withoutSnapshot = r'.withoutSnapshot := by
  rw [Reply.withoutSnapshot, Reply.withoutSnapshot, blind_result h.result, h.rest]

theorem blind_session {s t : Session σ} (h : s.Alike View.blind t) : s.quiet = t.quiet := by
  have hc : s.config.quiet = t.config.quiet := h.config
  have hx : s.context = t.context := h.context
  rw [Session.quiet, Session.quiet, hc, h.state, h.env, hx]

/-- Runs that follow each other show the same. -/
theorem blind_follows {Q : α → α → Prop} {f : α → β} (hf : ∀ a b, Q a b → f a = f b)
    {x y : Run σ α} {s t : Session σ} (h : View.blind.Follows Q x y s t)
    (h' : View.blind.Follows Q y x t s) :
    (x s).map (Outcome.shown f) = (y t).map (Outcome.shown f) := by
  refine View.follows_map h (fun o' hy => ?_) fun o o' hq hs _ => ?_
  · obtain ⟨o, ho, _⟩ := h' o' hy
    exact ⟨o, ho⟩
  · rw [Outcome.shown, Outcome.shown, hf _ _ hq, blind_session hs]

end View

/-! ### Code that does not look -/

/-- The code goes on in the same way, whatever the diagnostic options are and whichever copies
the errors carry that it gets to see. -/
def Registry.Blind (r : Registry σ) : Prop :=
  r.Every (fun h => ∀ n, (h n).Alike View.blind (Reply.Alike View.blind) (h n))
    (fun w => ∀ n, (w n).Alike View.blind View.blind.Result (w n))
    (fun w => ∀ rest copy e e', e.withoutSnapshot = e'.withoutSnapshot →
      (w rest copy e).Alike View.blind (Reply.Alike View.blind) (w rest copy e'))

/-- A registration of a script that does not look at copies. -/
inductive Registration.Unlooking : Registration Notes → Prop
  | handler (tag : String) (x : Script) (hx : x.looksAtCopy = false) :
      Unlooking (.handler tag x.handler)
  | rewriter (tag : String) (x : Script) (hx : x.looksAtCopy = false) :
      Unlooking (.rewriter tag x.rewriter)
  | recovery (tag : String) (x : Script) (hx : x.looksAtCopy = false) :
      Unlooking (.recovery tag x.recovery)

theorem Registry.blind_ofList {es : List (Registration Notes)} (h : ∀ e ∈ es, e.Unlooking) :
    (Registry.ofList es).Blind := by
  refine Registry.every_ofList fun e he => ?_
  cases h e he with
  | handler tag x hx => exact x.handler_alike View.blind_legible hx
  | rewriter tag x hx => exact x.rewriter_alike View.blind_legible hx
  | recovery tag x hx =>
    exact fun rest copy _ _ => x.recovery_alike View.blind_legible hx rest copy

namespace Processor

theorem lockstep_blind {p : Processor σ} (h : p.registry.Blind) : Lockstep View.blind p p where
  kind := rfl
  catalogue _ := rfl
  error_refl _ := rfl
  quiet h := h
  set {c d} o h := by
    change (c.set o).quiet = (d.set o).quiet
    rw [← c.quiet_set, ← d.quiet_set, show c.quiet = d.quiet from h]
  blind _ := .inr View.blind_blind
  enter label h := congrArg (label :: ·) h
  pass h := by rw [show _ = _ from h]
  rewrites _ _ := trivial
  handlers := Table.find?_rel h.handlers
  recoveries := Table.find?_rel h.recoveries
  rewriters tag _ := Table.find?_rel h.rewriters tag

/-- Diagnostic options do not change what a call comes to: with the same allowance, both runs
end or neither does, with the same values, the same errors but for their copies, and the same
sessions but for the options themselves. -/
theorem diagnostics_change_nothing (p : Processor σ) (hp : p.registry.Blind) (k : Nat) (n : Tree)
    (s : Session σ) (d : Config) (hd : d.quiet = s.config.quiet) :
    (p.process k n { s with config := d }).map (Outcome.shown Reply.withoutSnapshot) =
      (p.process k n s).map (Outcome.shown Reply.withoutSnapshot) ∧
    (p.rewrite k n { s with config := d }).map (Outcome.shown withoutSnapshots) =
      (p.rewrite k n s).map (Outcome.shown withoutSnapshots) := by
  have hc := (lockstep_blind hp).calls (Nat.le_refl k)
  have hs : Session.Alike View.blind { s with config := d } s := ⟨hd, rfl, rfl, rfl⟩
  have hs' : Session.Alike View.blind s { s with config := d } := ⟨hd.symm, rfl, rfl, rfl⟩
  constructor
  · exact View.blind_follows (fun _ _ h => View.blind_reply h) (hc.process n hs) (hc.process n hs')
  · exact View.blind_follows (fun _ _ h => View.blind_result h) (hc.rewrite trivial n hs)
      (hc.rewrite trivial n hs')

end Processor

/-- A handler whose result is no node, and one that ends its own trace and processes its child, with
a hook that passes errors on. -/
def passingProcessor : Processor Notes :=
  ⟨"Test", .ofList [.handler "leaf" (Script.instrs []).handler,
    .handler "pass" (Script.instrs [.setConfig [.debugTraceOf "pass" none], .shift, .shift,
      .process]).handler,
    .recovery "pass" (Script.instrs [.raise]).recovery]⟩

def passingTree : Tree := .ofElements [.atom (.symbol "pass"), .node (.tagged (.symbol "leaf"))]

/-- Everything is reported. -/
def loudConfig : Config :=
  { debugTrace := Table.ofList [("pass", ⟨"", fun _ => true⟩)], captureSnapshot := true }

def Reply.copy? (r : Reply) : Option Tree :=
  match r.result with
  | .error e => e.snapshot?
  | .ok _ => none

/-- The child's error comes back through the hook the same on both sides, though only one of the
two carries a copy of the child. -/
theorem diagnostics_change_nothing_mismatch :
    ∃ o o', passingProcessor.process 2 passingTree { config := loudConfig, state := [] } = some o ∧
      passingProcessor.process 2 passingTree { config := {}, state := [] } = some o' ∧
      o.value.withoutSnapshot = o'.value.withoutSnapshot ∧ o.session.quiet = o'.session.quiet ∧
      o.value.copy?.isSome = true ∧ o'.value.copy?.isSome = false := by
  have hb : passingProcessor.registry.Blind := by
    refine Registry.blind_ofList fun e he => ?_
    simp only [List.mem_cons, List.not_mem_nil, or_false] at he
    rcases he with rfl | rfl | rfl
    · exact .handler "leaf" _ rfl
    · exact .handler "pass" _ rfl
    · exact .recovery "pass" _ rfl
  have hloud : (passingProcessor.process 2 passingTree
      { config := loudConfig, state := [] }).map (·.value.copy?.isSome) = some true := by
    decide +kernel
  have hquiet : (passingProcessor.process 2 passingTree
      { config := {}, state := [] }).map (·.value.copy?.isSome) = some false := by
    decide +kernel
  obtain ⟨o, ho, hs⟩ := Option.map_eq_some_iff.1 hloud
  obtain ⟨o', ho', hs'⟩ := Option.map_eq_some_iff.1 hquiet
  have h := (passingProcessor.diagnostics_change_nothing hb 2 passingTree
    { config := {}, state := [] } loudConfig rfl).1
  rw [ho, ho', Option.map_some, Option.map_some] at h
  have h := Prod.ext_iff.1 (Option.some.inj h)
  exact ⟨o, o', ho, ho', h.1, h.2, hs, hs'⟩

end TagDispatch
