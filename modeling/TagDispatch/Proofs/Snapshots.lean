import TagDispatch.Proofs.Recovery
import TagDispatch.Proofs.Walker

/-!
The copies of nodes in errors about results. Whether a copy is kept is decided when the node is
dispatched, before any code runs for it, and the copy is the node as it was then. The code may
change the options on which this depends; the error that the call then ends with carries the copy
all the same, or none.
-/

namespace TagDispatch

variable {σ : Type}

/-- What a call finds wrong with the result of its node: its type, or that something of the node is
left. -/
def ProcessError.AboutResult : ProcessError → Prop
  | .resultMismatch _ _ _ _ _ => True
  | .incomplete _ _ _ _ => True
  | _ => False

namespace Processor

/-! ### Which copies are kept -/

/-- There is a reason to keep a copy of the node: the option is on, or its tag is traced or has a
recovery hook. -/
inductive Captures (p : Processor σ) (config : Config) (n : Tree) : Prop
  | always (on : config.captureSnapshot = true)
  | traced {tag : String} (tagged : n.tagName? = some tag)
      (listed : config.debugTrace.contains tag = true)
  | recoverable {tag : String} (tagged : n.tagName? = some tag)
      (hooked : p.registry.recoveries.contains tag = true)

variable {p : Processor σ} {c : Calls σ} {m : Tree} {u : Session σ}

theorem wantsSnapshot_iff {config : Config} {n : Tree} :
    p.wantsSnapshot config n.tagName? = true ↔ p.Captures config n := by
  unfold wantsSnapshot recovery?
  constructor
  · intro wanted
    rcases Bool.or_eq_true_iff.1 wanted with wanted | hooked
    · rcases Bool.or_eq_true_iff.1 wanted with on | listed
      · exact .always on
      · cases tagged : n.tagName? with
        | none =>
          rw [tagged] at listed
          cases listed
        | some tag =>
          rw [tagged] at listed
          exact .traced tagged listed
    · cases tagged : n.tagName? with
      | none =>
        rw [tagged] at hooked
        cases hooked
      | some tag =>
        rw [tagged] at hooked
        exact .recoverable tagged hooked
  · intro captures
    cases captures with
    | always on => simp [on]
    | traced tagged listed =>
      have found : (config.debugTrace.find? _).isSome = true := listed
      simp [tagged, found]
    | recoverable tagged hooked =>
      have found : (p.registry.recoveries.find? _).isSome = true := hooked
      simp [tagged, found]

theorem snapshot_eq_some_iff {config : Config} {n copy : Tree} :
    p.snapshot config n = some copy ↔ copy = n ∧ p.Captures config n := by
  rw [snapshot, ← wantsSnapshot_iff]
  constructor
  · intro kept
    split at kept
    · next wanted =>
      cases kept
      exact ⟨rfl, wanted⟩
    · cases kept
  · rintro ⟨rfl, wanted⟩
    rw [if_pos wanted]

/-! ### The checks -/

/-- An error about the result of the node `m`, dispatched in the session `u`, of which the call
leaves `rest`. -/
structure Faithful (p : Processor σ) (u : Session σ) (m : Tree) (rest : Tree) (e : ProcessError) :
    Prop where
  about : e.AboutResult
  snapshot (copy : Tree) : e.snapshot? = some copy ↔ copy = m ∧ p.Captures u.config m
  remaining (label kind : String) (left : Tree) (copy : Option Tree) :
    e = .incomplete label kind left copy → left = rest

/-- A value goes through the checks as it is, or it is refused with such an error. -/
inductive Checked (p : Processor σ) (u : Session σ) (m : Tree) (rest : Tree) (v : Element) :
    Except ProcessError Element → Prop
  | accepted : Checked p u m rest v (.ok v)
  | refused {e : ProcessError} (faithful : p.Faithful u m rest e) : Checked p u m rest v (.error e)

theorem checkType_checked (u : Session σ) (m rest : Tree) (config : Config) (label : String)
    (v : Element) :
    p.Checked u m rest v (p.checkType config label (p.snapshot u.config m) v) := by
  unfold checkType
  split
  · exact .accepted
  · exact .refused ⟨trivial, fun _ => snapshot_eq_some_iff, nofun⟩

theorem checkHandled_checked (u : Session σ) (m rest : Tree) (config : Config) (label : String)
    (v : Element) :
    p.Checked u m rest v (p.checkHandled config label (p.snapshot u.config m) v rest) := by
  have typed := checkType_checked (p := p) u m rest config label v
  unfold checkHandled
  generalize p.checkType config label (p.snapshot u.config m) v = r at typed
  cases typed with
  | refused faithful => exact .refused faithful
  | accepted =>
    simp only
    split
    · refine .refused ⟨trivial, fun _ => snapshot_eq_some_iff, fun _ _ left _ same => ?_⟩
      cases same
      rfl
    · exact .accepted

/-! ### Where an error comes from -/

/-- The code that serves the node `m`, dispatched in `u`, ends with the value `v`. It leaves `rest`
of the node, and the session `t`. -/
inductive Yields (p : Processor σ) (c : Calls σ) (m : Tree) (u : Session σ) :
    Element → Tree → Session σ → Prop
  | handler {f : Handler σ} {isDefault : Bool} {v : Element} {rest : Tree} {t : Session σ}
      {j : List (Step σ)} (served : p.service u.config m = .handler f isDefault)
      (returned : (f (given u.config isDefault m)).run p.profile c (u.enter m.label) =
        some ⟨⟨.ok v, rest⟩, t, j⟩) : Yields p c m u v rest t
  | recovery {f : Handler σ} {isDefault : Bool} {e : ProcessError} {left : Tree} {w : Session σ}
      {i : List (Step σ)} {hook : Recovery σ} {v : Element} {rest : Tree} {t : Session σ}
      {j : List (Step σ)} (served : p.service u.config m = .handler f isDefault)
      (failed : (f (given u.config isDefault m)).run p.profile c (u.enter m.label) =
        some ⟨⟨.error e, left⟩, w, i⟩)
      (found : p.recovery? m.tagName? = some hook)
      (recovered : (hook left m e).run p.profile c w = some ⟨⟨.ok v, rest⟩, t, j⟩) :
      Yields p c m u v rest t
  | walker {vs : List Element} {t : Session σ} {j : List (Step σ)}
      (unserved : p.Unserved u.config m)
      (rebuilt : Rebuilt c m.elements (u.enter m.label) vs t j) :
      Yields p c m u (.node ⟨vs, [], m.line⟩) (unreached u m []) t

/-- The code that serves the node `m`, dispatched in `u`, ends with the error `e`, or the walk over
it breaks off at a nested node that ended with it. -/
inductive Inherits (p : Processor σ) (c : Calls σ) (m : Tree) (u : Session σ) :
    ProcessError → Prop
  | handler {f : Handler σ} {isDefault : Bool} {e : ProcessError} {rest : Tree} {t : Session σ}
      {j : List (Step σ)} (served : p.service u.config m = .handler f isDefault)
      (failed : (f (given u.config isDefault m)).run p.profile c (u.enter m.label) =
        some ⟨⟨.error e, rest⟩, t, j⟩)
      (unrecovered : p.recovery? m.tagName? = none) : Inherits p c m u e
  | recovery {f : Handler σ} {isDefault : Bool} {cause e : ProcessError} {left rest : Tree}
      {w t : Session σ} {i j : List (Step σ)} {hook : Recovery σ}
      (served : p.service u.config m = .handler f isDefault)
      (failed : (f (given u.config isDefault m)).run p.profile c (u.enter m.label) =
        some ⟨⟨.error cause, left⟩, w, i⟩)
      (found : p.recovery? m.tagName? = some hook)
      (unsaved : (hook left m cause).run p.profile c w = some ⟨⟨.error e, rest⟩, t, j⟩) :
      Inherits p c m u e
  | child {front back vs : List Element} {child rest : Tree} {t w : Session σ}
      {i j : List (Step σ)} {e : ProcessError} (unserved : p.Unserved u.config m)
      (split : m.elements = front ++ .node child :: back)
      (before : Rebuilt c front (u.enter m.label) vs t i)
      (failed : c.process child t = some ⟨⟨.error e, rest⟩, w, j⟩) : Inherits p c m u e

/-- A call whose code has come to a value ends by checking it, with the copy that was kept at
dispatch, also after a hook. -/
theorem Yields.checked {v : Element} {rest : Tree} {t : Session σ} (h : p.Yields c m u v rest t) :
    ∃ o, p.enter c m u = some o ∧ o.value.rest = rest ∧
      p.Checked u m rest v o.value.result := by
  cases h with
  | handler served returned =>
    exact ⟨_, enter_returned served returned, rfl, checkHandled_checked u m rest _ _ v⟩
  | recovery served failed found recovered =>
    have run := enter_recovered served failed found
    rw [recovered] at run
    have checked := checkHandled_checked (p := p) u m rest t.config m.label v
    rw [snapshot_of_recovery found] at checked
    exact ⟨_, run, rfl, checked⟩
  | walker unserved rebuilt =>
    exact ⟨_, enter_rebuilt unserved rebuilt, rfl, checkType_checked u m _ _ _ _⟩

/-- An error about a result is the call's own, or it has come from the code that it ran. Of the ways
in which a walk breaks off, only a failed child brings such an error. -/
theorem yields_or_inherits {o : Outcome σ Reply} {e : ProcessError} (run : p.enter c m u = some o)
    (failed : o.value.result = .error e) (about : e.AboutResult) :
    (∃ v rest t, p.Yields c m u v rest t) ∨ p.Inherits c m u e := by
  cases served : p.service u.config m with
  | refused err =>
    rw [enter_refused served] at run
    cases run
    cases failed
    cases service_refused_iff.1 served <;> exact about.elim
  | handler f isDefault =>
    cases ran : (f (given u.config isDefault m)).run p.profile c (u.enter m.label) with
    | none =>
      rw [enter_handler served, Run.bind_apply, ran] at run
      cases run
    | some a =>
      obtain ⟨⟨r, left⟩, w, i⟩ := a
      cases r with
      | ok v => exact .inl ⟨v, left, w, .handler served ran⟩
      | error cause =>
        cases found : p.recovery? m.tagName? with
        | none =>
          rw [enter_unrecovered served found ran] at run
          cases run
          cases failed
          exact .inr (.handler served ran found)
        | some hook =>
          rw [enter_recovered served ran found] at run
          obtain ⟨⟨⟨r, rest⟩, t, j⟩, hooked, rfl⟩ := Option.map_eq_some_iff.1 run
          cases r with
          | ok v => exact .inl ⟨v, rest, t, .recovery served ran found hooked⟩
          | error err =>
            cases failed
            exact .inr (.recovery served ran found hooked)
  | walker =>
    have unserved := service_walker_iff.1 served
    rcases walk_cases unserved run with ⟨vs, t, j, rebuilt⟩ | ⟨err, left, t, j, broken⟩
    · exact .inl ⟨_, _, t, .walker unserved rebuilt⟩
    · rw [enter_broken unserved broken] at run
      cases run
      cases failed
      generalize split : m.elements = es at broken
      cases broken with
      | intro before processed spoiled =>
        cases spoiled with
        | failed e => exact .inr (.child unserved split before processed)
        | atom a => exact about.elim
        | untagged headless => exact about.elim

/-- Copies in errors are faithful. If the code that serves a dispatched node comes to a value and
the call still fails, then its error carries a copy exactly if there was a reason for one when the
node was dispatched, whatever the code has done to the options since; the copy is the node as it was
dispatched; and if something of the node is left, the error shows what the call leaves of it. An
error about a result that a call ends with otherwise is not its own: it has come from its code. -/
theorem snapshots_are_faithful (p : Processor σ) (k : Nat) (n m : Tree) (s u : Session σ)
    (i : List (Step σ)) (ready : p.prepare (p.calls k) n s = some ⟨.ok m, u, i⟩) :
    (∀ v rest t, p.Yields (p.calls k) m u v rest t →
      ∃ o, p.process (k + 1) n s = some o ∧ o.value.rest = rest ∧
        (o.value.result = .ok v ∨ ∃ e, o.value.result = .error e ∧ e.AboutResult ∧
          (∀ copy, e.snapshot? = some copy ↔ copy = m ∧ p.Captures u.config m) ∧
          ∀ label kind left copy, e = .incomplete label kind left copy → left = o.value.rest)) ∧
    ∀ o e, p.process (k + 1) n s = some o → o.value.result = .error e → e.AboutResult →
      (∃ v rest t, p.Yields (p.calls k) m u v rest t) ∨ p.Inherits (p.calls k) m u e := by
  have run := process_ready ready
  constructor
  · rintro v rest t yields
    obtain ⟨o, entered, rfl, checked⟩ := yields.checked
    refine ⟨o.after i, by rw [run, entered]; rfl, rfl, ?_⟩
    generalize result : o.value.result = r at checked
    cases checked with
    | accepted => exact .inl result
    | @refused e faithful =>
      exact .inr ⟨e, result, faithful.about, faithful.snapshot, faithful.remaining⟩
  · intro o e ho failed about
    obtain ⟨q, entered, rfl⟩ := Option.map_eq_some_iff.1 (run.symm.trans ho)
    exact yields_or_inherits entered failed about

end Processor

/-- Turns the option for copies over, and leaves its node as it gets it. -/
def flipping : Handler Unit := fun n =>
  .getConfig fun config => .configure (.captureSnapshot !config.captureSnapshot)
    (.done ⟨.ok (.node .empty), n⟩)

def flippingProcessor : Processor Unit := ⟨"Test", .ofList [.handler "flip" flipping]⟩

def flippingSession (capture : Bool) : Session Unit :=
  { config := { captureSnapshot := capture, autoShiftTag := true,
                fieldAccessors := .ofList [("flip", ["first"])] }, state := () }

def flippingTree : Tree :=
  ⟨[.atom (.symbol "flip"), .node ⟨[.atom (.int 3)], ["inner"], some 9⟩], ["outer"], some 8⟩

/-- What counts is the option as it was before the handler ran, and the node as it was before its
field names were replaced and its tag was taken off. -/
theorem snapshots_are_faithful_flipped :
    (∃ o, flippingProcessor.process 1 flippingTree (flippingSession true) = some o ∧
      o.session.config.captureSnapshot = false ∧ ∃ e, o.value.result = .error e ∧
        e.snapshot? = some flippingTree) ∧
    ∃ o, flippingProcessor.process 1 flippingTree (flippingSession false) = some o ∧
      o.session.config.captureSnapshot = true ∧ ∃ e, o.value.result = .error e ∧
        e.snapshot? = none := by
  have ends (capture : Bool) : ∃ o e,
      flippingProcessor.process 1 flippingTree (flippingSession capture) = some o ∧
      o.session.config.captureSnapshot = !capture ∧ o.value.result = .error e ∧
      ∀ copy, e.snapshot? = some copy ↔
        copy = flippingTree ∧ flippingProcessor.Captures (flippingSession capture).config
          flippingTree := by
    have ran : (flippingProcessor.process 1 flippingTree (flippingSession capture)).map
        (fun o => (o.value.result.isOk, o.session.config.captureSnapshot)) =
          some (false, !capture) := by
      cases capture <;> decide +kernel
    obtain ⟨o, ho, -, checked⟩ := (flippingProcessor.snapshots_are_faithful 0 flippingTree
      flippingTree (flippingSession capture) (flippingSession capture) [] rfl).1 (.node .empty) _ _
        (.handler rfl rfl)
    rw [ho] at ran
    simp only [Option.map_some, Option.some.injEq, Prod.mk.injEq] at ran
    obtain ⟨failed, flipped⟩ := ran
    rcases checked with ok | ⟨e, error, -, copies, -⟩
    · rw [ok] at failed
      cases failed
    · exact ⟨o, e, ho, flipped, error, copies⟩
  constructor
  · obtain ⟨o, e, ho, flipped, error, copies⟩ := ends true
    exact ⟨o, ho, flipped, e, error, (copies _).2 ⟨rfl, .always rfl⟩⟩
  · obtain ⟨o, e, ho, flipped, error, copies⟩ := ends false
    refine ⟨o, ho, flipped, e, error, ?_⟩
    have unwanted : ¬ flippingProcessor.Captures (flippingSession false).config flippingTree := by
      rw [← Processor.wantsSnapshot_iff]
      decide +kernel
    exact Option.eq_none_iff_forall_not_mem.2 fun copy kept => unwanted ((copies copy).1 kept).2

end TagDispatch
