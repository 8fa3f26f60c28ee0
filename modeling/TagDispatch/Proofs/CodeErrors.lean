import TagDispatch.Proofs.Nesting
import TagDispatch.Proofs.Request

/-!
Code that passes errors on: whenever a call fails that it makes, it ends with that error and makes
no call any more.
-/

namespace TagDispatch

variable {σ α : Type}

/-- The code ends, and only with values in `Q`. -/
def Code.Ends (Q : α → Prop) : Code σ α → Prop
  | .done a => Q a
  | .diverge => False
  | .process _ k => ∀ r, (k r).Ends Q
  | .rewrite _ k => ∀ r, (k r).Ends Q
  | .getConfig k => ∀ c, (k c).Ends Q
  | .configure _ k => k.Ends Q
  | .getState k => ∀ a, (k a).Ends Q
  | .setState _ k => k.Ends Q
  | .getEnv k => ∀ e, (k e).Ends Q
  | .setEnv _ k => k.Ends Q
  | .getContext k => ∀ x, (k x).Ends Q
  | .getKind k => ∀ kind, (k kind).Ends Q
  | .getCatalogue k => ∀ c, (k c).Ends Q

/-- The code ends with the error `e`, and makes only requests of `U` until then. -/
structure Code.PassesOn (U : Request → Prop) (err : α → Option ProcessError) (e : ProcessError)
    (x : Code σ α) : Prop where
  only : x.Only U
  ends : x.Ends (err · = some e)

/-- Whenever a call fails that the code makes, the code passes its error on. -/
def Code.Propagates (U : Request → Prop) (err : α → Option ProcessError) : Code σ α → Prop
  | .done _ => True
  | .diverge => True
  | .process _ k => ∀ r, (∀ e, r.failure? = some e → (k r).PassesOn U err e) ∧
      (r.failure? = none → (k r).Propagates U err)
  | .rewrite _ k => ∀ r, (∀ e, failure? r = some e → (k r).PassesOn U err e) ∧
      (failure? r = none → (k r).Propagates U err)
  | .getConfig k => ∀ c, (k c).Propagates U err
  | .configure _ k => k.Propagates U err
  | .getState k => ∀ a, (k a).Propagates U err
  | .setState _ k => k.Propagates U err
  | .getEnv k => ∀ e, (k e).Propagates U err
  | .setEnv _ k => k.Propagates U err
  | .getContext k => ∀ x, (k x).Propagates U err
  | .getKind k => ∀ kind, (k kind).Propagates U err
  | .getCatalogue k => ∀ c, (k c).Propagates U err

/-- Handlers and rewriters pass on the errors of the calls they make, with requests of `U` only,
and there are no recovery hooks. -/
def Registry.Propagates (r : Registry σ) (U : Request → Prop) : Prop :=
  r.Every (fun h => ∀ n, (h n).Propagates U Reply.failure?)
    (fun w => ∀ n, (w n).Propagates U failure?) (fun _ => False)

/-- What passing an error on with requests of `U` leaves as it was. -/
structure Session.Unwound (U : Request → Prop) (s t : Session σ) : Prop where
  config : (∀ o, ¬ U (.configure o)) → t.config = s.config
  state : ¬ U .setState → t.state = s.state
  env : ¬ U .setEnv → t.env = s.env

namespace Session.Unwound

variable {U : Request → Prop} {s t u : Session σ}

theorem refl (s : Session σ) : s.Unwound U s := ⟨fun _ => rfl, fun _ => rfl, fun _ => rfl⟩

theorem trans (h : s.Unwound U t) (h' : t.Unwound U u) : s.Unwound U u :=
  ⟨fun hu => (h'.config hu).trans (h.config hu), fun hu => (h'.state hu).trans (h.state hu),
    fun hu => (h'.env hu).trans (h.env hu)⟩

theorem exit (h : s.Unwound U t) : s.Unwound U t.exit := ⟨h.config, h.state, h.env⟩

end Session.Unwound

/-- A call ends with the error `e`. -/
inductive Step.Carries (e : ProcessError) : Step σ → Prop
  | answered (rest : Tree) : Step.Carries e (.answered ⟨.error e, rest⟩)
  | rewrote : Step.Carries e (.rewrote (.error e))

theorem Step.carries_concat {e : ProcessError} {tail : List (Step σ)} {x : Step σ}
    (h : ∀ y ∈ tail, y.Carries e) (hx : x.Carries e) : ∀ y ∈ tail ++ [x], y.Carries e := by
  intro y hy
  rcases List.mem_append.1 hy with hy | hy
  · exact h y hy
  · rw [List.mem_singleton.1 hy]
    exact hx

/-- The call `A` from `s` ends with the error `q.value`. It was there in `q.session`, after
`q.journal`, and has only been passed on since. -/
def Calls.Fails (c : Calls σ) (U : Request → Prop) (A : Call) (s : Session σ)
    (q : Outcome σ ProcessError) : Prop :=
  ∃ u tail, c.verdict A s = some ⟨some q.value, u, q.journal ++ tail⟩ ∧
    (∀ x ∈ tail, x.Carries q.value) ∧ q.session.Unwound U u

namespace Code

variable {U : Request → Prop} {err : α → Option ProcessError} {self : Profile} {c : Calls σ}

/-- Passing on an error takes no call, so it works out whatever calls do. -/
theorem PassesOn.run {e : ProcessError} {x : Code σ α} (h : x.PassesOn U err e)
    (hU : ¬ U .process ∧ ¬ U .rewrite) (self : Profile) (c : Calls σ) (s : Session σ) :
    ∃ a t, x.run self c s = some ⟨a, t, []⟩ ∧ err a = some e ∧ s.Unwound U t := by
  obtain ⟨only, ends⟩ := h
  induction x generalizing s with
  | done a => exact ⟨a, s, rfl, ends, .refl s⟩
  | diverge => exact ends.elim
  | process n k ih => exact absurd only.1 hU.1
  | rewrite n k ih => exact absurd only.1 hU.2
  | getConfig k ih =>
    obtain ⟨a, t, hr, ha⟩ := ih s.config s (only.2 _) (ends _)
    exact ⟨a, t, by rw [Code.run, Run.get_bind]; exact hr, ha⟩
  | configure o k ih =>
    obtain ⟨a, t, hr, ha, hs⟩ := ih { s with config := s.config.set o } only.2 ends
    refine ⟨a, t, by rw [Code.run, Run.modify_bind]; exact hr, ha, ?_⟩
    exact ⟨fun hu => absurd only.1 (hu o), hs.state, hs.env⟩
  | getState k ih =>
    obtain ⟨a, t, hr, ha⟩ := ih s.state s (only.2 _) (ends _)
    exact ⟨a, t, by rw [Code.run, Run.get_bind]; exact hr, ha⟩
  | setState b k ih =>
    obtain ⟨a, t, hr, ha, hs⟩ := ih { s with state := b } only.2 ends
    refine ⟨a, t, by rw [Code.run, Run.modify_bind]; exact hr, ha, ?_⟩
    exact ⟨hs.config, fun hu => absurd only.1 hu, hs.env⟩
  | getEnv k ih =>
    obtain ⟨a, t, hr, ha⟩ := ih s.env s (only.2 _) (ends _)
    exact ⟨a, t, by rw [Code.run, Run.get_bind]; exact hr, ha⟩
  | setEnv b k ih =>
    obtain ⟨a, t, hr, ha, hs⟩ := ih { s with env := b } only.2 ends
    refine ⟨a, t, by rw [Code.run, Run.modify_bind]; exact hr, ha, ?_⟩
    exact ⟨hs.config, hs.state, fun hu => absurd only.1 hu⟩
  | getContext k ih =>
    obtain ⟨a, t, hr, ha⟩ := ih s.context s (only.2 _) (ends _)
    exact ⟨a, t, by rw [Code.run, Run.get_bind]; exact hr, ha⟩
  | getKind k ih => exact ih self.kind s (only.2 _) (ends _)
  | getCatalogue k ih => exact ih self.catalogue s (only.2 _) (ends _)

/-- Code that passes one error on makes no call, so there is no other to pass on. -/
theorem PassesOn.propagates {e : ProcessError} {x : Code σ α} (h : x.PassesOn U err e)
    (hU : ¬ U .process ∧ ¬ U .rewrite) : x.Propagates U err := by
  obtain ⟨only, ends⟩ := h
  induction x with
  | done a => trivial
  | diverge => trivial
  | process n k ih => exact absurd only.1 hU.1
  | rewrite n k ih => exact absurd only.1 hU.2
  | getConfig k ih => exact fun c => ih c (only.2 c) (ends c)
  | configure o k ih => exact ih only.2 ends
  | getState k ih => exact fun a => ih a (only.2 a) (ends a)
  | setState a k ih => exact ih only.2 ends
  | getEnv k ih => exact fun e => ih e (only.2 e) (ends e)
  | setEnv a k ih => exact ih only.2 ends
  | getContext k ih => exact fun x => ih x (only.2 x) (ends x)
  | getKind k ih => exact fun kind => ih kind (only.2 kind) (ends kind)
  | getCatalogue k ih => exact fun c => ih c (only.2 c) (ends c)

theorem Propagates.advance (hU : ¬ U .process ∧ ¬ U .rewrite) {x y : Code σ α} {s t : Session σ}
    {j : List (Step σ)} (h : x.Propagates U err) (ha : x.advance self c s = some ⟨y, t, j⟩) :
    y.Propagates U err := by
  cases x with
  | done a => cases ha
  | diverge => cases ha
  | process n k =>
    obtain ⟨o, -, he⟩ := Option.map_eq_some_iff.1 ha
    cases he
    cases hf : o.value.failure? with
    | none => exact (h o.value).2 hf
    | some e => exact ((h o.value).1 e hf).propagates hU
  | rewrite n k =>
    obtain ⟨o, -, he⟩ := Option.map_eq_some_iff.1 ha
    cases he
    cases hf : failure? o.value with
    | none => exact (h o.value).2 hf
    | some e => exact ((h o.value).1 e hf).propagates hU
  | getConfig k => cases ha; exact h _
  | configure o k => cases ha; exact h
  | getState k => cases ha; exact h _
  | setState a k => cases ha; exact h
  | getEnv k => cases ha; exact h _
  | setEnv a k => cases ha; exact h
  | getContext k => cases ha; exact h _
  | getKind k => cases ha; exact h _
  | getCatalogue k => cases ha; exact h _

theorem Propagates.leads (hU : ¬ U .process ∧ ¬ U .rewrite) {x y : Code σ α} {s t : Session σ}
    {j : List (Step σ)} (hx : x.Propagates U err) (hl : x.Leads self c s y t j) :
    y.Propagates U err := by
  induction hl with
  | here x s => exact hx
  | next first rest ih => exact ih (hx.advance hU first)

/-- If a call fails that the code makes on its way, then the code ends with that error. -/
theorem Propagates.run (hU : ¬ U .process ∧ ¬ U .rewrite) {x y : Code σ α} {s t : Session σ}
    {j : List (Step σ)} {A : Call} {q : Outcome σ ProcessError} (hx : x.Propagates U err)
    (hl : x.Leads self c s y t j) (hy : y.call? = some A) (hf : c.Fails U A t q) :
    ∃ a v tail, x.run self c s = some ⟨a, v, j ++ q.journal ++ tail⟩ ∧ err a = some q.value ∧
      (∀ e ∈ tail, e.Carries q.value) ∧ q.session.Unwound U v := by
  have hp := hx.leads hU hl
  obtain ⟨u, tail, hv, htail, hs⟩ := hf
  rw [run_of_leads hl]
  cases y with
  | process n k =>
    cases hy
    obtain ⟨o, ho, he⟩ := Option.map_eq_some_iff.1 hv
    obtain ⟨r, v, i⟩ := o
    simp only [Outcome.map, Outcome.mk.injEq] at he
    obtain ⟨hr, rfl, rfl⟩ := he
    obtain ⟨a, w, ha, herr, hw⟩ := ((hp r).1 q.value hr).run hU self c v
    refine ⟨a, w, tail, ?_, herr, htail, hs.trans hw⟩
    rw [Code.run, Run.bind_apply, ho, Option.bind_some, ha]
    simp [Outcome.after]
  | rewrite n k =>
    cases hy
    obtain ⟨o, ho, he⟩ := Option.map_eq_some_iff.1 hv
    obtain ⟨r, v, i⟩ := o
    simp only [Outcome.map, Outcome.mk.injEq] at he
    obtain ⟨hr, rfl, rfl⟩ := he
    obtain ⟨a, w, ha, herr, hw⟩ := ((hp r).1 q.value hr).run hU self c v
    refine ⟨a, w, tail, ?_, herr, htail, hs.trans hw⟩
    rw [Code.run, Run.bind_apply, ho, Option.bind_some, ha]
    simp [Outcome.after]
  | _ => cases hy

/-! ### Code in sequence -/

variable {β : Type} {err' : β → Option ProcessError}

theorem Ends.bind {Q : α → Prop} {R : β → Prop} {x : Code σ α} {k : α → Code σ β}
    (h : x.Ends Q) (hk : ∀ a, Q a → (k a).Ends R) : (x.bind k).Ends R := by
  induction x with
  | done a => exact hk a h
  | diverge => exact h
  | process n l ih => exact fun r => ih r (h r)
  | rewrite n l ih => exact fun r => ih r (h r)
  | getConfig l ih => exact fun r => ih r (h r)
  | configure o l ih => exact ih h
  | getState l ih => exact fun r => ih r (h r)
  | setState o l ih => exact ih h
  | getEnv l ih => exact fun r => ih r (h r)
  | setEnv o l ih => exact ih h
  | getContext l ih => exact fun r => ih r (h r)
  | getKind l ih => exact fun r => ih r (h r)
  | getCatalogue l ih => exact fun r => ih r (h r)

/-- What follows counts only for the values that the code can end with. -/
theorem Only.bind {Q : α → Prop} {x : Code σ α} {k : α → Code σ β} (h : x.Only U)
    (ends : x.Ends Q) (hk : ∀ a, Q a → (k a).Only U) : (x.bind k).Only U := by
  induction x with
  | done a => exact hk a ends
  | diverge => trivial
  | process n l ih => exact ⟨h.1, fun r => ih r (h.2 r) (ends r)⟩
  | rewrite n l ih => exact ⟨h.1, fun r => ih r (h.2 r) (ends r)⟩
  | getConfig l ih => exact ⟨h.1, fun r => ih r (h.2 r) (ends r)⟩
  | configure o l ih => exact ⟨h.1, ih h.2 ends⟩
  | getState l ih => exact ⟨h.1, fun r => ih r (h.2 r) (ends r)⟩
  | setState o l ih => exact ⟨h.1, ih h.2 ends⟩
  | getEnv l ih => exact ⟨h.1, fun r => ih r (h.2 r) (ends r)⟩
  | setEnv o l ih => exact ⟨h.1, ih h.2 ends⟩
  | getContext l ih => exact ⟨h.1, fun r => ih r (h.2 r) (ends r)⟩
  | getKind l ih => exact ⟨h.1, fun r => ih r (h.2 r) (ends r)⟩
  | getCatalogue l ih => exact ⟨h.1, fun r => ih r (h.2 r) (ends r)⟩

theorem PassesOn.done {e : ProcessError} {a : α} (h : err a = some e) :
    (.done a : Code σ α).PassesOn U err e :=
  ⟨trivial, h⟩

theorem PassesOn.bind {e : ProcessError} {x : Code σ α} {k : α → Code σ β}
    (h : x.PassesOn U err e) (hk : ∀ a, err a = some e → (k a).PassesOn U err' e) :
    (x.bind k).PassesOn U err' e :=
  ⟨h.only.bind h.ends fun a ha => (hk a ha).only, h.ends.bind fun a ha => (hk a ha).ends⟩

/-- Two parts pass errors on if the second also passes on those that the first ends with. -/
theorem Propagates.bind (hU : ¬ U .process ∧ ¬ U .rewrite) {x : Code σ α} {k : α → Code σ β}
    (h : x.Propagates U err) (hk : ∀ a, err a = none → (k a).Propagates U err')
    (he : ∀ a e, err a = some e → (k a).PassesOn U err' e) : (x.bind k).Propagates U err' := by
  have passed {y : Code σ α} {e : ProcessError} (hy : y.PassesOn U err e) :
      (y.bind k).PassesOn U err' e := hy.bind fun a ha => he a e ha
  induction x with
  | done a =>
    cases ha : err a with
    | none => exact hk a ha
    | some e => exact (he a e ha).propagates hU
  | diverge => trivial
  | process n l ih =>
    exact fun r => ⟨fun e hr => passed ((h r).1 e hr), fun hr => ih r ((h r).2 hr)⟩
  | rewrite n l ih =>
    exact fun r => ⟨fun e hr => passed ((h r).1 e hr), fun hr => ih r ((h r).2 hr)⟩
  | getConfig l ih => exact fun r => ih r (h r)
  | configure o l ih => exact ih h
  | getState l ih => exact fun r => ih r (h r)
  | setState o l ih => exact ih h
  | getEnv l ih => exact fun r => ih r (h r)
  | setEnv o l ih => exact ih h
  | getContext l ih => exact fun r => ih r (h r)
  | getKind l ih => exact fun r => ih r (h r)
  | getCatalogue l ih => exact fun r => ih r (h r)

end Code

end TagDispatch
