import TagDispatch.Proofs.Service

/-!
Calls inside calls. A call of the processor asks for further calls, each in a session of its own
and after a journal of its own, whether or not it comes to an end itself. Everything in the journal
of a call that has ended was recorded by the call itself or by one that it asked for.
-/

namespace TagDispatch

variable {σ α : Type}

/-- What can be called: the three functions that the knot is tied over. -/
inductive Call where
  | process (n : Tree)
  | rewrite (n : Tree)
  | settle (label : String) (rounds : Nat) (n : Tree)

/-- The error of a failed call. -/
def failure? {α : Type} : Except ProcessError α → Option ProcessError
  | .error e => some e
  | .ok _ => none

def Reply.failure? (r : Reply) : Option ProcessError := TagDispatch.failure? r.result

/-- How a call ends: with which error, if any. -/
def Calls.verdict (c : Calls σ) (A : Call) (s : Session σ) :
    Option (Outcome σ (Option ProcessError)) :=
  match A with
  | .process n => (c.process n s).map (.map Reply.failure?)
  | .rewrite n => (c.rewrite n s).map (.map failure?)
  | .settle label rounds n => (c.settle label rounds n s).map (.map failure?)

theorem Calls.verdict_process {c : Calls σ} {n : Tree} {s : Session σ} {o : Outcome σ Reply}
    (h : c.process n s = some o) : c.verdict (.process n) s = some (o.map Reply.failure?) := by
  rw [verdict, h]
  rfl

theorem Calls.verdict_rewrite {c : Calls σ} {n : Tree} {s : Session σ}
    {o : Outcome σ (Except ProcessError Tree)} (h : c.rewrite n s = some o) :
    c.verdict (.rewrite n) s = some (o.map failure?) := by
  rw [verdict, h]
  rfl

theorem Calls.verdict_settle {c : Calls σ} {label : String} {rounds : Nat} {n : Tree}
    {s : Session σ} {o : Outcome σ (Except ProcessError Tree)}
    (h : c.settle label rounds n s = some o) :
    c.verdict (.settle label rounds n) s = some (o.map failure?) := by
  rw [verdict, h]
  rfl

/-- A value whose error is known is that error. -/
theorem eq_error_of_failure {r : Except ProcessError α} {e : ProcessError}
    (h : failure? r = some e) : r = .error e := by
  cases r with
  | ok a => cases h
  | error e' =>
    cases h
    rfl

theorem eq_error_of_map_failure {x : Option (Outcome σ (Except ProcessError α))}
    {e : ProcessError} {u : Session σ} {j : List (Step σ)}
    (h : x.map (Outcome.map failure?) = some ⟨some e, u, j⟩) : x = some ⟨.error e, u, j⟩ := by
  obtain ⟨⟨r, v, i⟩, rfl, he⟩ := Option.map_eq_some_iff.1 h
  simp only [Outcome.map, Outcome.mk.injEq] at he
  obtain ⟨hr, rfl, rfl⟩ := he
  rw [eq_error_of_failure hr]

theorem Calls.process_of_verdict {c : Calls σ} {n : Tree} {s u : Session σ} {e : ProcessError}
    {j : List (Step σ)} (h : c.verdict (.process n) s = some ⟨some e, u, j⟩) :
    ∃ rest, c.process n s = some ⟨⟨.error e, rest⟩, u, j⟩ := by
  obtain ⟨⟨⟨r, rest⟩, v, i⟩, ho, he⟩ := Option.map_eq_some_iff.1 h
  simp only [Outcome.map, Outcome.mk.injEq] at he
  obtain ⟨hr, rfl, rfl⟩ := he
  rw [show r = .error e from eq_error_of_failure hr] at ho
  exact ⟨rest, ho⟩

/-! ### Attached code on its way -/

namespace Code

/-- Answers the first request of the code. What is left of the code is the value. -/
def advance (self : Profile) (c : Calls σ) (x : Code σ α) (s : Session σ) :
    Option (Outcome σ (Code σ α)) :=
  match x with
  | .done _ => none
  | .diverge => none
  | .process n k => (c.process n s).map (.map k)
  | .rewrite n k => (c.rewrite n s).map (.map k)
  | .getConfig k => some ⟨k s.config, s, []⟩
  | .configure o k => some ⟨k, { s with config := s.config.set o }, []⟩
  | .getState k => some ⟨k s.state, s, []⟩
  | .setState a k => some ⟨k, { s with state := a }, []⟩
  | .getEnv k => some ⟨k s.env, s, []⟩
  | .setEnv e k => some ⟨k, { s with env := e }, []⟩
  | .getContext k => some ⟨k s.context, s, []⟩
  | .getKind k => some ⟨k self.kind, s, []⟩
  | .getCatalogue k => some ⟨k self.catalogue, s, []⟩

/-- After some requests, the code `x` from `s` has come to `y` in `t`. -/
inductive Leads (self : Profile) (c : Calls σ) :
    Code σ α → Session σ → Code σ α → Session σ → List (Step σ) → Prop
  | here (x : Code σ α) (s : Session σ) : Leads self c x s x s []
  | next {x y z : Code σ α} {s t u : Session σ} {i j : List (Step σ)}
      (first : x.advance self c s = some ⟨y, t, i⟩) (rest : Leads self c y t z u j) :
      Leads self c x s z u (i ++ j)

theorem Leads.silent {self : Profile} {c : Calls σ} {x y z : Code σ α} {s t u : Session σ}
    {j : List (Step σ)} (first : x.advance self c s = some ⟨y, t, []⟩)
    (rest : y.Leads self c t z u j) : x.Leads self c s z u j :=
  .next first rest

/-- The call that the code makes next. -/
def call? : Code σ α → Option Call
  | .process n _ => some (.process n)
  | .rewrite n _ => some (.rewrite n)
  | _ => none

theorem run_of_advance {self : Profile} {c : Calls σ} {x y : Code σ α} {s t : Session σ}
    {j : List (Step σ)} (h : x.advance self c s = some ⟨y, t, j⟩) :
    x.run self c s = (y.run self c t).map (·.after j) := by
  have silent {y : Code σ α} {t : Session σ} :
      y.run self c t = (y.run self c t).map (·.after []) := by
    cases y.run self c t <;> rfl
  cases x with
  | done a => cases h
  | diverge => cases h
  | process n k =>
    obtain ⟨o, ho, he⟩ := Option.map_eq_some_iff.1 h
    cases he
    rw [run, Run.bind_apply, ho]
    rfl
  | rewrite n k =>
    obtain ⟨o, ho, he⟩ := Option.map_eq_some_iff.1 h
    cases he
    rw [run, Run.bind_apply, ho]
    rfl
  | getConfig k => cases h; rw [run, Run.get_bind]; exact silent
  | configure o k => cases h; rw [run, Run.modify_bind]; exact silent
  | getState k => cases h; rw [run, Run.get_bind]; exact silent
  | setState a k => cases h; rw [run, Run.modify_bind]; exact silent
  | getEnv k => cases h; rw [run, Run.get_bind]; exact silent
  | setEnv e k => cases h; rw [run, Run.modify_bind]; exact silent
  | getContext k => cases h; rw [run, Run.get_bind]; exact silent
  | getKind k => cases h; rw [run]; exact silent
  | getCatalogue k => cases h; rw [run]; exact silent

theorem run_of_leads {self : Profile} {c : Calls σ} {x y : Code σ α} {s t : Session σ}
    {j : List (Step σ)} (h : x.Leads self c s y t j) :
    x.run self c s = (y.run self c t).map (·.after j) := by
  induction h with
  | here x s => cases x.run self c s <;> rfl
  | next first rest ih =>
    rw [run_of_advance first, ih, Option.map_map]
    congr 1
    funext o
    simp [Outcome.after]

/-- Code that ends leads to its end. -/
theorem leads_of_run {self : Profile} {c : Calls σ} {x : Code σ α} {s : Session σ}
    {o : Outcome σ α} (h : x.run self c s = some o) :
    x.Leads self c s (.done o.value) o.session o.journal := by
  induction x generalizing s o with
  | done a => cases h; exact .here _ s
  | diverge => cases h
  | process n k ih =>
    obtain ⟨a, b, ha, hb, rfl⟩ := Run.bind_eq_some.1 h
    exact .next (by rw [advance, ha]; rfl) (ih a.value hb)
  | rewrite n k ih =>
    obtain ⟨a, b, ha, hb, rfl⟩ := Run.bind_eq_some.1 h
    exact .next (by rw [advance, ha]; rfl) (ih a.value hb)
  | getConfig k ih => rw [run, Run.get_bind] at h; exact .silent rfl (ih _ h)
  | configure r k ih => rw [run, Run.modify_bind] at h; exact .silent rfl (ih h)
  | getState k ih => rw [run, Run.get_bind] at h; exact .silent rfl (ih _ h)
  | setState a k ih => rw [run, Run.modify_bind] at h; exact .silent rfl (ih h)
  | getEnv k ih => rw [run, Run.get_bind] at h; exact .silent rfl (ih _ h)
  | setEnv r k ih => rw [run, Run.modify_bind] at h; exact .silent rfl (ih h)
  | getContext k ih => rw [run, Run.get_bind] at h; exact .silent rfl (ih _ h)
  | getKind k ih => exact .silent rfl (ih self.kind h)
  | getCatalogue k ih => exact .silent rfl (ih self.catalogue h)

theorem advance_bind {β : Type} {self : Profile} {c : Calls σ} {x y : Code σ α} {s t : Session σ}
    {j : List (Step σ)} (h : x.advance self c s = some ⟨y, t, j⟩) (f : α → Code σ β) :
    (x.bind f).advance self c s = some ⟨y.bind f, t, j⟩ := by
  cases x with
  | done a => cases h
  | diverge => cases h
  | process n k =>
    obtain ⟨o, ho, he⟩ := Option.map_eq_some_iff.1 h
    cases he
    rw [bind, advance, ho]
    rfl
  | rewrite n k =>
    obtain ⟨o, ho, he⟩ := Option.map_eq_some_iff.1 h
    cases he
    rw [bind, advance, ho]
    rfl
  | _ => cases h; rfl

theorem Leads.bind {β : Type} {self : Profile} {c : Calls σ} {x y : Code σ α} {s t : Session σ}
    {j : List (Step σ)} (h : x.Leads self c s y t j) (f : α → Code σ β) :
    (x.bind f).Leads self c s (y.bind f) t j := by
  induction h with
  | here x s => exact .here _ s
  | next first rest ih => exact .next (advance_bind first f) ih

/-- Code after other code that has ended. -/
theorem run_bind {β : Type} {self : Profile} {c : Calls σ} {x : Code σ α} {s t : Session σ} {a : α}
    {j : List (Step σ)} (h : x.run self c s = some ⟨a, t, j⟩) (f : α → Code σ β) :
    (x.bind f).run self c s = ((f a).run self c t).map (·.after j) :=
  run_of_leads ((leads_of_run h).bind f)

/-- Only calls write something down. -/
theorem advance_journal {self : Profile} {c : Calls σ} {x y : Code σ α} {s t : Session σ}
    {i : List (Step σ)} (h : x.advance self c s = some ⟨y, t, i⟩) :
    i = [] ∨ ∃ A q, x.call? = some A ∧ c.verdict A s = some q ∧ q.journal = i := by
  cases x with
  | done a => cases h
  | diverge => cases h
  | process n k =>
    obtain ⟨o, ho, he⟩ := Option.map_eq_some_iff.1 h
    cases he
    exact .inr ⟨.process n, o.map Reply.failure?, rfl, Calls.verdict_process ho, rfl⟩
  | rewrite n k =>
    obtain ⟨o, ho, he⟩ := Option.map_eq_some_iff.1 h
    cases he
    exact .inr ⟨.rewrite n, o.map failure?, rfl, Calls.verdict_rewrite ho, rfl⟩
  | _ => cases h; exact .inl rfl

/-- Code that has ended got an answer to each call that it made. -/
theorem call_answered {self : Profile} {c : Calls σ} {x y : Code σ α} {s t : Session σ}
    {j : List (Step σ)} {A : Call} {o : Outcome σ α} (h : x.run self c s = some o)
    (hl : x.Leads self c s y t j) (hy : y.call? = some A) :
    ∃ q, c.verdict A t = some q ∧ j ++ q.journal <+: o.journal := by
  obtain ⟨b, hb, rfl⟩ := Option.map_eq_some_iff.1 ((run_of_leads hl).symm.trans h)
  simp only [Outcome.after, List.prefix_append_right_inj]
  cases y with
  | process n k =>
    cases hy
    obtain ⟨a, b, ha, -, rfl⟩ := Run.bind_eq_some.1 hb
    exact ⟨_, Calls.verdict_process ha, List.prefix_append _ _⟩
  | rewrite n k =>
    cases hy
    obtain ⟨a, b, ha, -, rfl⟩ := Run.bind_eq_some.1 hb
    exact ⟨_, Calls.verdict_rewrite ha, List.prefix_append _ _⟩
  | _ => cases hy

/-- All that code writes into the journal comes from the calls it makes. -/
theorem call_of_mem {self : Profile} {c : Calls σ} {x : Code σ α} {s : Session σ}
    {o : Outcome σ α} {e : Step σ} (h : x.run self c s = some o) (he : e ∈ o.journal) :
    ∃ y t j A q, x.Leads self c s y t j ∧ y.call? = some A ∧ c.verdict A t = some q ∧
      e ∈ q.journal := by
  have mem {x y : Code σ α} {s t : Session σ} {j : List (Step σ)} (hl : x.Leads self c s y t j)
      (he : e ∈ j) : ∃ y t j A q, x.Leads self c s y t j ∧ y.call? = some A ∧
        c.verdict A t = some q ∧ e ∈ q.journal := by
    induction hl with
    | here x s => cases he
    | next first rest ih =>
      rcases List.mem_append.1 he with he | he
      · rcases advance_journal first with rfl | ⟨A, q, hA, hq, rfl⟩
        · cases he
        · exact ⟨_, _, [], A, q, .here _ _, hA, hq, he⟩
      · obtain ⟨y, t, j, A, q, hl, hq⟩ := ih he
        exact ⟨y, t, _, A, q, .next first hl, hq⟩
  exact mem (leads_of_run h) he

end Code

/-! ### What calls ask for -/

namespace Processor

/-- The call `A` from `s` comes to ask for the call `B` in `t`, after the journal `j`. -/
inductive Asks (p : Processor σ) (c : Calls σ) :
    Call → Session σ → Call → Session σ → List (Step σ) → Prop
  | pass {n : Tree} {s : Session σ}
      (outside : (s.context.isEmpty && p.registry.hasRewriters) = true) :
      Asks p c (.process n) s (.rewrite n) s [.pass n]
  | handler {n m : Tree} {s u t : Session σ} {i j : List (Step σ)} {f : Handler σ}
      {isDefault : Bool} {y : Code σ Reply} {B : Call}
      (ready : p.prepare c n s = some ⟨.ok m, u, i⟩)
      (served : p.service u.config m = .handler f isDefault)
      (leads : (f (given u.config isDefault m)).Leads p.profile c (u.enter m.label) y t j)
      (asks : y.call? = some B) :
      Asks p c (.process n) s B t (i ++ (opening m u ++ (p.start isDefault m u ++ j)))
  | recovery {n m rest : Tree} {s u v t : Session σ} {i j k : List (Step σ)} {f : Handler σ}
      {isDefault : Bool} {e : ProcessError} {hook : Recovery σ} {y : Code σ Reply} {B : Call}
      (ready : p.prepare c n s = some ⟨.ok m, u, i⟩)
      (served : p.service u.config m = .handler f isDefault)
      (failed : (f (given u.config isDefault m)).run p.profile c (u.enter m.label) =
        some ⟨⟨.error e, rest⟩, v, j⟩)
      (found : p.recovery? m.tagName? = some hook)
      (leads : (hook rest m e).Leads p.profile c v y t k)
      (asks : y.call? = some B) :
      Asks p c (.process n) s B t (i ++ (opening m u ++ (p.start isDefault m u ++
        (j ++ (.log (.event (.recovered m.label p.kind e)) :: .recovering rest m e v :: k)))))
  | child {n m child : Tree} {s u t : Session σ} {i j : List (Step σ)}
      {front back vs left : List Element}
      (ready : p.prepare c n s = some ⟨.ok m, u, i⟩)
      (served : p.service u.config m = .walker)
      (split : m.elements = front ++ .node child :: back)
      (before : walkElements c m.label front (u.enter m.label) = some ⟨(.ok vs, left), t, j⟩) :
      Asks p c (.process n) s (.process child) t (i ++ (opening m u ++ j))
  | element {n child : Tree} {s t : Session σ} {j : List (Step σ)} {front back vs : List Element}
      (split : n.elements = front ++ .node child :: back)
      (before : rewriteElements c front (s.enter n.label) = some ⟨.ok vs, t, j⟩) :
      Asks p c (.rewrite n) s (.rewrite child) t (.rewriting n s :: j)
  | chain {n : Tree} {s t : Session σ} {j : List (Step σ)} {es : List Element}
      (children : rewriteElements c n.elements (s.enter n.label) = some ⟨.ok es, t, j⟩) :
      Asks p c (.rewrite n) s (.settle n.label 0 ⟨es, [], n.line⟩) t.exit (.rewriting n s :: j)
  | rewriter {label : String} {rounds : Nat} {n : Tree} {s t : Session σ} {j : List (Step σ)}
      {w : Rewriter σ} {y : Code σ (Except ProcessError Tree)} {B : Call}
      (found : n.tagName?.bind p.registry.rewriters.find? = some w)
      (leads : (w n).Leads p.profile c s y t j) (asks : y.call? = some B) :
      Asks p c (.settle label rounds n) s B t (.invoked .rewriter n.tagName? n s :: j)
  | round {label : String} {rounds : Nat} {n m : Tree} {s t : Session σ} {j : List (Step σ)}
      {w : Rewriter σ} (found : n.tagName?.bind p.registry.rewriters.find? = some w)
      (rewritten : (w n).run p.profile c s = some ⟨.ok m, t, j⟩) (changed : m.tagName? ≠ n.tagName?)
      (below : rounds + 1 < t.config.maxRewriteRounds) :
      Asks p c (.settle label rounds n) s (.settle label (rounds + 1) m) t
        (.invoked .rewriter n.tagName? n s ::
          (j ++ [.log (.event (.rewritten (n.tagName?.getD "") m.label))]))

/-- What the call `A` from `s` records itself. -/
inductive Own (p : Processor σ) (c : Calls σ) : Call → Session σ → Step σ → Prop
  | log (A : Call) (s : Session σ) (entry : LogEntry) : Own p c A s (.log entry)
  | pass {n : Tree} {s : Session σ}
      (outside : (s.context.isEmpty && p.registry.hasRewriters) = true) :
      Own p c (.process n) s (.pass n)
  | called {n m : Tree} {s u : Session σ} {i : List (Step σ)}
      (ready : p.prepare c n s = some ⟨.ok m, u, i⟩) : Own p c (.process n) s (.called m u)
  | handler {n m : Tree} {s u : Session σ} {i : List (Step σ)} {f : Handler σ} {isDefault : Bool}
      (ready : p.prepare c n s = some ⟨.ok m, u, i⟩)
      (served : p.service u.config m = .handler f isDefault) :
      Own p c (.process n) s
        (.invoked .handler m.tagName? (given u.config isDefault m) (u.enter m.label))
  | recovering {n m rest : Tree} {s u v : Session σ} {i j : List (Step σ)} {f : Handler σ}
      {isDefault : Bool} {e : ProcessError} {hook : Recovery σ}
      (ready : p.prepare c n s = some ⟨.ok m, u, i⟩)
      (served : p.service u.config m = .handler f isDefault)
      (failed : (f (given u.config isDefault m)).run p.profile c (u.enter m.label) =
        some ⟨⟨.error e, rest⟩, v, j⟩)
      (found : p.recovery? m.tagName? = some hook) :
      Own p c (.process n) s (.recovering rest m e v)
  | answered (n : Tree) (s : Session σ) (r : Reply) : Own p c (.process n) s (.answered r)
  | rewriting (n : Tree) (s : Session σ) : Own p c (.rewrite n) s (.rewriting n s)
  | rewrote (n : Tree) (s : Session σ) (r : Except ProcessError Tree) :
      Own p c (.rewrite n) s (.rewrote r)
  | rewriter {label : String} {rounds : Nat} {n : Tree} {s : Session σ} {w : Rewriter σ}
      (found : n.tagName?.bind p.registry.rewriters.find? = some w) :
      Own p c (.settle label rounds n) s (.invoked .rewriter n.tagName? n s)

/-- A step in the journal of the call `A` from `s`: its own, or that of a call it asked for. -/
def Accounted (p : Processor σ) (c : Calls σ) (A : Call) (s : Session σ) (e : Step σ) : Prop :=
  p.Own c A s e ∨ ∃ B t j q, p.Asks c A s B t j ∧ c.verdict B t = some q ∧ e ∈ q.journal

/-- A step in the journal of the call for `n` from `s` while `m` is dispatched in `u`: its own, or
that of a call it asked for after it had dispatched `m`. -/
def Served (p : Processor σ) (c : Calls σ) (n : Tree) (s : Session σ) (m : Tree) (u : Session σ)
    (e : Step σ) : Prop :=
  p.Own c (.process n) s e ∨ ∃ B t j q, p.Asks c (.process n) s B t j ∧ .called m u ∈ j ∧
    c.verdict B t = some q ∧ e ∈ q.journal

variable {p : Processor σ} {c : Calls σ}

/-- A hook for the tag is reason enough to keep a copy. -/
theorem snapshot_of_recovery {config : Config} {n : Tree} {hook : Recovery σ}
    (h : p.recovery? n.tagName? = some hook) : p.snapshot config n = some n := by
  simp [snapshot, wantsSnapshot, h]

/-! ### Where the journal comes from -/

theorem Served.accounted {n m : Tree} {s u : Session σ} {e : Step σ} (h : p.Served c n s m u e) :
    p.Accounted c (.process n) s e := by
  rcases h with own | ⟨B, t, j, q, asks, -, answered, mem⟩
  · exact .inl own
  · exact .inr ⟨B, t, j, q, asks, answered, mem⟩

theorem mem_opening (m : Tree) (u : Session σ) (i j : List (Step σ)) :
    .called m u ∈ i ++ (opening m u ++ j) := by
  simp [opening]

theorem opening_accounted {n m : Tree} {s u : Session σ} {i : List (Step σ)} {e : Step σ}
    (ready : p.prepare c n s = some ⟨.ok m, u, i⟩) (he : e ∈ opening m u) :
    p.Served c n s m u e := by
  simp only [opening, List.cons_append, List.nil_append, List.mem_cons] at he
  rcases he with rfl | rfl | he
  · exact .inl (.log _ s _)
  · exact .inl (.called ready)
  · obtain ⟨entry, rfl⟩ := traceBefore_logs he
    exact .inl (.log _ s entry)

theorem closing_accounted {n m : Tree} {s u : Session σ} {config : Config} {r : Reply} {e : Step σ}
    (he : e ∈ closing config m r) : p.Served c n s m u e := by
  rcases List.mem_append.1 he with he | he
  · obtain ⟨entry, rfl⟩ := traceAfter_logs he
    exact .inl (.log _ s entry)
  · rw [List.mem_singleton.1 he]
    exact .inl (.answered n s r)

theorem settled_accounted {n m : Tree} {s u : Session σ} {i : List (Step σ)} {e : Step σ}
    {f : Handler σ} {isDefault : Bool} {a b : Outcome σ Reply}
    (ready : p.prepare c n s = some ⟨.ok m, u, i⟩)
    (served : p.service u.config m = .handler f isDefault)
    (ha : (f (given u.config isDefault m)).run p.profile c (u.enter m.label) = some a)
    (hb : p.settleHandler c m.tagName? m.label (p.snapshot u.config m) a.value a.session = some b)
    (he : e ∈ b.journal) : p.Served c n s m u e := by
  obtain ⟨x, y, hx, hy, rfl⟩ := Run.bind_eq_some.1 hb
  rw [finish_apply] at hy
  cases hy
  replace he : e ∈ x.journal := by simpa [Outcome.after] using he
  obtain ⟨⟨result, rest⟩, v, j⟩ := a
  cases result with
  | ok v =>
    cases hx
    cases he
  | error err =>
    cases hr : p.recovery? m.tagName? with
    | none =>
      rw [recover_none p c m.label (.inl hr)] at hx
      cases hx
      cases he
    | some hook =>
      rw [snapshot_of_recovery hr, recover_apply p c m.label hr] at hx
      obtain ⟨q, hq, rfl⟩ := Option.map_eq_some_iff.1 hx
      simp only [Outcome.after, List.cons_append, List.nil_append, List.mem_cons] at he
      rcases he with rfl | rfl | he
      · exact .inl (.log _ s _)
      · exact .inl (.recovering ready served ha hr)
      · obtain ⟨y, t, k, A, r, hl, hy, hr', he⟩ := Code.call_of_mem hq he
        exact .inr ⟨A, t, _, r, .recovery ready served ha hr hl hy, mem_opening m u _ _, hr', he⟩

theorem enter_accounted {n m : Tree} {s u : Session σ} {i : List (Step σ)} {e : Step σ}
    {o : Outcome σ Reply} (ready : p.prepare c n s = some ⟨.ok m, u, i⟩)
    (ho : p.enter c m u = some o) (he : e ∈ o.journal) : p.Served c n s m u e := by
  have framed {q : Outcome σ Reply} (he : e ∈ (entered m u q).journal)
      (hq : e ∈ q.journal → p.Served c n s m u e) : p.Served c n s m u e := by
    rcases List.mem_append.1 he with he | he
    · exact opening_accounted ready he
    · rcases List.mem_append.1 he with he | he
      · exact hq he
      · exact closing_accounted he
  cases hs : p.service u.config m with
  | refused err =>
    rw [enter_refused hs] at ho
    cases ho
    exact framed he fun he => by cases he
  | handler f isDefault =>
    rw [enter_handler hs] at ho
    obtain ⟨q, hq, rfl⟩ := Option.map_eq_some_iff.1 ho
    refine framed he fun he => ?_
    rcases List.mem_append.1 he with he | he
    · rcases List.mem_append.1 he with he | he
      · obtain ⟨entry, rfl⟩ := warning_logs he
        exact .inl (.log _ s entry)
      · rw [List.mem_singleton.1 he]
        exact .inl (.handler ready hs)
    · obtain ⟨a, b, ha, hb, rfl⟩ := Run.bind_eq_some.1 hq
      rcases List.mem_append.1 he with he | he
      · obtain ⟨y, t, j, A, r, hl, hy, hr, he⟩ := Code.call_of_mem ha he
        exact .inr ⟨A, t, _, r, .handler ready hs hl hy, mem_opening m u _ _, hr, he⟩
      · exact settled_accounted ready hs ha hb he
  | walker =>
    rw [enter_walker hs, walk_apply] at ho
    obtain ⟨q, hq, rfl⟩ := Option.map_eq_some_iff.1 ho
    refine framed he fun he => ?_
    obtain ⟨r, hr, rfl⟩ := Option.map_eq_some_iff.1 hq
    rw [walkElements_eq] at hr
    obtain ⟨front, child, back, vs, left, t, j, q, split, before, hc, he⟩ := eachNode_mem hr he
    rw [← walkElements_eq] at before
    obtain ⟨q, hq, rfl⟩ := Option.map_eq_some_iff.1 hc
    exact .inr ⟨_, t, _, _, .child ready hs split before, mem_opening m u _ _,
      Calls.verdict_process hq, he⟩

theorem prepare_accounted {n : Tree} {s : Session σ} {e : Step σ}
    {o : Outcome σ (Except ProcessError Tree)} (ho : p.prepare c n s = some o)
    (he : e ∈ o.journal) : p.Accounted c (.process n) s e := by
  cases hp : s.context.isEmpty && p.registry.hasRewriters with
  | false =>
    rw [prepare_inside p c n hp] at ho
    cases ho
    cases he
  | true =>
    rw [prepare_outside p c n hp] at ho
    obtain ⟨q, hq, rfl⟩ := Option.map_eq_some_iff.1 ho
    rcases List.mem_cons.1 he with rfl | he
    · exact .inl (.pass hp)
    · exact .inr ⟨_, s, _, _, .pass hp, Calls.verdict_rewrite hq, he⟩

theorem rewriteStep_accounted {n : Tree} {s : Session σ} {e : Step σ}
    {o : Outcome σ (Except ProcessError Tree)} (ho : rewriteStep c n s = some o)
    (he : e ∈ o.journal) : p.Accounted c (.rewrite n) s e := by
  rw [rewriteStep_apply] at ho
  obtain ⟨⟨r, u, i⟩, ha, hm⟩ := Option.bind_eq_some_iff.1 ho
  obtain ⟨q, hq, rfl⟩ := Option.map_eq_some_iff.1 hm
  simp only [List.mem_cons, List.mem_append, List.not_mem_nil, or_false] at he
  rcases he with rfl | hi | hj | rfl
  · exact .inl (.rewriting n s)
  · obtain ⟨_, hb⟩ := rewriteElements_some.1 ha
    obtain ⟨front, child, back, vs, left, t, j, r, split, before, hr, hj⟩ := eachNode_mem hb hi
    have before := rewriteElements_some.2 ⟨left, before⟩
    exact .inr ⟨_, t, _, _, .element split before, Calls.verdict_rewrite hr, hj⟩
  · cases r with
    | error err =>
      cases hq
      cases hj
    | ok es => exact .inr ⟨_, _, _, _, .chain ha, Calls.verdict_settle hq, hj⟩
  · exact .inl (.rewrote n s q.value)

theorem afterRewriter_accounted {label : String} {rounds : Nat} {n : Tree} {s t : Session σ}
    {j : List (Step σ)} {r : Except ProcessError Tree} {w : Rewriter σ} {e : Step σ}
    {o : Outcome σ (Except ProcessError Tree)}
    (found : n.tagName?.bind p.registry.rewriters.find? = some w)
    (ran : (w n).run p.profile c s = some ⟨r, t, j⟩)
    (ho : afterRewriter c label rounds n.tagName? r t = some o) (he : e ∈ o.journal) :
    p.Accounted c (.settle label rounds n) s e := by
  cases r with
  | error err =>
    cases ho
    cases he
  | ok m =>
    rw [afterRewriter_ok] at ho
    obtain ⟨q, hq, rfl⟩ := Option.map_eq_some_iff.1 ho
    simp only [Outcome.after, List.mem_append, List.mem_singleton] at he
    rcases he with rfl | hj
    · exact .inl (.log _ s _)
    by_cases stayed : m.tagName? = n.tagName?
    · rw [if_pos stayed] at hq
      cases hq
      cases hj
    rw [if_neg stayed] at hq
    by_cases capped : t.config.maxRewriteRounds ≤ rounds + 1
    · rw [if_pos capped] at hq
      cases hq
      cases hj
    rw [if_neg capped] at hq
    exact .inr ⟨_, _, _, _, .round found ran stayed (Nat.lt_of_not_le capped),
      Calls.verdict_settle hq, hj⟩

theorem settleStep_accounted {label : String} {rounds : Nat} {n : Tree} {s : Session σ}
    {e : Step σ} {o : Outcome σ (Except ProcessError Tree)}
    (ho : p.settleStep c label rounds n s = some o) (he : e ∈ o.journal) :
    p.Accounted c (.settle label rounds n) s e := by
  cases hw : n.tagName?.bind p.registry.rewriters.find? with
  | none =>
    rw [settleStep_none p c label rounds hw] at ho
    cases ho
    cases he
  | some w =>
    rw [settleStep_some p c label rounds hw] at ho
    obtain ⟨q, hq, rfl⟩ := Option.map_eq_some_iff.1 ho
    obtain ⟨⟨r, t, j⟩, b, ha, hb, rfl⟩ := Run.bind_eq_some.1 hq
    simp only [Outcome.after, List.mem_append, List.mem_singleton] at he
    rcases he with rfl | hj | hj
    · exact .inl (.rewriter hw)
    · obtain ⟨y, t, j, A, r, hl, hy, hr, hj⟩ := Code.call_of_mem ha hj
      exact .inr ⟨A, t, _, r, .rewriter hw hl hy, hr, hj⟩
    · exact afterRewriter_accounted hw ha hb hj

/-- Every step in the journal of a call has its place. -/
theorem accounted {A : Call} {s : Session σ} {o : Outcome σ (Option ProcessError)} {e : Step σ}
    (ho : (p.next c).verdict A s = some o) (he : e ∈ o.journal) : p.Accounted c A s e := by
  cases A with
  | process n =>
    obtain ⟨q, hq, rfl⟩ := Option.map_eq_some_iff.1 ho
    change p.processStep c n s = some q at hq
    rw [processStep_apply] at hq
    obtain ⟨⟨r, u, i⟩, b, ha, hb, rfl⟩ := Run.bind_eq_some.1 hq
    simp only [Outcome.map, Outcome.after, List.mem_append] at he
    rcases he with hi | hj
    · exact prepare_accounted ha hi
    · cases r with
      | error err =>
        cases hb
        cases hj
      | ok m => exact (enter_accounted ha hb hj).accounted
  | rewrite n =>
    obtain ⟨q, hq, rfl⟩ := Option.map_eq_some_iff.1 ho
    exact rewriteStep_accounted hq he
  | settle label rounds n =>
    obtain ⟨q, hq, rfl⟩ := Option.map_eq_some_iff.1 ho
    exact settleStep_accounted hq he

/-! ### Calls that have ended -/

/-- A dispatched node is done with when the call ends; its part of the journal comes last. -/
theorem enter_of_verdict {n m : Tree} {s u : Session σ} {i : List (Step σ)}
    {o : Outcome σ (Option ProcessError)} (ready : p.prepare c n s = some ⟨.ok m, u, i⟩)
    (ho : (p.next c).verdict (.process n) s = some o) :
    ∃ q, p.enter c m u = some q ∧ o.journal = i ++ q.journal := by
  obtain ⟨a, ha, rfl⟩ := Option.map_eq_some_iff.1 ho
  change p.processStep c n s = some a at ha
  rw [processStep_ready ready] at ha
  obtain ⟨q, hq, rfl⟩ := Option.map_eq_some_iff.1 ha
  exact ⟨q, hq, rfl⟩

/-- A rewritten node comes after its children. -/
theorem children_of_verdict {n : Tree} {s : Session σ} {o : Outcome σ (Option ProcessError)}
    (ho : (p.next c).verdict (.rewrite n) s = some o) :
    ∃ a, rewriteElements c n.elements (s.enter n.label) = some a ∧
      .rewriting n s :: a.journal <+: o.journal := by
  obtain ⟨q, hq, rfl⟩ := Option.map_eq_some_iff.1 ho
  change rewriteStep c n s = some q at hq
  rw [rewriteStep_apply] at hq
  obtain ⟨a, ha, hm⟩ := Option.bind_eq_some_iff.1 hq
  obtain ⟨b, -, rfl⟩ := Option.map_eq_some_iff.1 hm
  refine ⟨a, ha, ?_⟩
  simp only [Outcome.map, List.prefix_cons_inj]
  exact List.prefix_append _ _

theorem eachNode_answered {f : Tree → Run σ (Except ProcessError Tree)}
    {front back vs left : List Element} {child : Tree} {s t : Session σ} {j : List (Step σ)}
    {o : Outcome σ (Except ProcessError (List Element) × List Element)}
    (before : eachNode f front s = some ⟨(.ok vs, left), t, j⟩)
    (ho : eachNode f (front ++ .node child :: back) s = some o) :
    ∃ q, f child t = some q ∧ j ++ q.journal <+: o.journal := by
  rw [eachNode_append before, eachNode_node] at ho
  obtain ⟨a, ha, rfl⟩ := Option.map_eq_some_iff.1 ho
  obtain ⟨q, hq, ha⟩ := Option.bind_eq_some_iff.1 ha
  refine ⟨q, hq, ?_⟩
  simp only [List.prefix_append_right_inj]
  cases hk : q.value with
  | error e =>
    simp only [hk] at ha
    cases ha
    exact List.prefix_rfl
  | ok m =>
    simp only [hk] at ha
    obtain ⟨b, -, rfl⟩ := Option.map_eq_some_iff.1 ha
    exact List.prefix_append _ _

/-- So is a rewritten node with its rewriter. -/
theorem rewriter_of_verdict {label : String} {rounds : Nat} {n : Tree} {s : Session σ}
    {w : Rewriter σ} {o : Outcome σ (Option ProcessError)}
    (found : n.tagName?.bind p.registry.rewriters.find? = some w)
    (ho : (p.next c).verdict (.settle label rounds n) s = some o) :
    ∃ a b, (w n).run p.profile c s = some a ∧
      afterRewriter c label rounds n.tagName? a.value a.session = some b ∧
      o.journal = .invoked .rewriter n.tagName? n s :: (a.journal ++ b.journal) := by
  obtain ⟨q, hq, rfl⟩ := Option.map_eq_some_iff.1 ho
  change p.settleStep c label rounds n s = some q at hq
  rw [settleStep_some p c label rounds found] at hq
  obtain ⟨r, hr, rfl⟩ := Option.map_eq_some_iff.1 hq
  obtain ⟨a, b, ha, hb, rfl⟩ := Run.bind_eq_some.1 hr
  exact ⟨a, b, ha, hb, rfl⟩

/-- A call that has ended got an answer to each call that it asked for. -/
theorem Asks.answered {A B : Call} {s t : Session σ} {j : List (Step σ)}
    {o : Outcome σ (Option ProcessError)} (h : p.Asks c A s B t j)
    (ho : (p.next c).verdict A s = some o) :
    ∃ q, c.verdict B t = some q ∧ j ++ q.journal <+: o.journal := by
  cases h with
  | @pass n _ outside =>
    obtain ⟨a, ha, rfl⟩ := Option.map_eq_some_iff.1 ho
    change p.processStep c n s = some a at ha
    rw [processStep_apply] at ha
    obtain ⟨x, y, hx, -, rfl⟩ := Run.bind_eq_some.1 ha
    rw [prepare_outside p c n outside] at hx
    obtain ⟨q, hq, rfl⟩ := Option.map_eq_some_iff.1 hx
    exact ⟨_, Calls.verdict_rewrite hq, List.prefix_append _ _⟩
  | handler ready served leads asks =>
    obtain ⟨q, hq, hj⟩ := enter_of_verdict ready ho
    rw [enter_handler served] at hq
    obtain ⟨r, hr, rfl⟩ := Option.map_eq_some_iff.1 hq
    obtain ⟨x, y, hx, -, rfl⟩ := Run.bind_eq_some.1 hr
    obtain ⟨q, hv, hx⟩ := Code.call_answered hx leads asks
    refine ⟨q, hv, ?_⟩
    rw [hj]
    simp only [entered, Outcome.after, List.append_assoc, List.prefix_append_right_inj]
    exact hx.trans (List.prefix_append _ _)
  | recovery ready served failed found leads asks =>
    obtain ⟨q, hq, hj⟩ := enter_of_verdict ready ho
    rw [enter_handler served] at hq
    obtain ⟨r, hr, rfl⟩ := Option.map_eq_some_iff.1 hq
    obtain ⟨x, y, hx, hy, rfl⟩ := Run.bind_eq_some.1 hr
    cases hx.symm.trans failed
    obtain ⟨z, w, hz, -, rfl⟩ := Run.bind_eq_some.1 hy
    rw [snapshot_of_recovery found, recover_apply p c _ found] at hz
    obtain ⟨a, ha, rfl⟩ := Option.map_eq_some_iff.1 hz
    obtain ⟨q, hv, ha⟩ := Code.call_answered ha leads asks
    refine ⟨q, hv, ?_⟩
    rw [hj]
    simp only [entered, Outcome.after, List.append_assoc, List.prefix_append_right_inj,
      List.cons_append, List.nil_append, List.prefix_cons_inj]
    exact ha.trans (List.prefix_append _ _)
  | child ready served split before =>
    obtain ⟨q, hq, hj⟩ := enter_of_verdict ready ho
    rw [enter_walker served, walk_apply] at hq
    obtain ⟨r, hr, rfl⟩ := Option.map_eq_some_iff.1 hq
    obtain ⟨x, hx, rfl⟩ := Option.map_eq_some_iff.1 hr
    rw [show (installed _ _).elements = _ from split, walkElements_eq] at hx
    rw [walkElements_eq] at before
    obtain ⟨a, ha, hx⟩ := eachNode_answered before hx
    obtain ⟨b, hb, rfl⟩ := Option.map_eq_some_iff.1 ha
    refine ⟨_, Calls.verdict_process hb, ?_⟩
    rw [hj]
    simp only [entered, List.append_assoc, List.prefix_append_right_inj]
    exact hx.trans (List.prefix_append _ _)
  | element split before =>
    obtain ⟨a, ha, hj⟩ := children_of_verdict ho
    rw [split, rewriteElements_eq] at ha
    obtain ⟨x, hx, rfl⟩ := Option.map_eq_some_iff.1 ha
    obtain ⟨left, before⟩ := rewriteElements_some.1 before
    obtain ⟨b, hb, hx⟩ := eachNode_answered before hx
    exact ⟨_, Calls.verdict_rewrite hb, ((List.prefix_cons_inj _).2 hx).trans hj⟩
  | chain children =>
    obtain ⟨q, hq, rfl⟩ := Option.map_eq_some_iff.1 ho
    change rewriteStep c _ s = some q at hq
    rw [rewriteStep_apply, children, Option.bind_some] at hq
    obtain ⟨b, hb, rfl⟩ := Option.map_eq_some_iff.1 hq
    refine ⟨_, Calls.verdict_settle hb, ?_⟩
    simp only [Outcome.map, List.cons_append, List.prefix_cons_inj, List.prefix_append_right_inj]
    exact List.prefix_append _ _
  | rewriter found leads asks =>
    obtain ⟨a, b, ha, -, hj⟩ := rewriter_of_verdict found ho
    obtain ⟨q, hv, ha⟩ := Code.call_answered ha leads asks
    refine ⟨q, hv, ?_⟩
    rw [hj, List.cons_append, List.prefix_cons_inj]
    exact ha.trans (List.prefix_append _ _)
  | round found rewritten changed below =>
    obtain ⟨a, b, ha, hb, hj⟩ := rewriter_of_verdict found ho
    cases ha.symm.trans rewritten
    rw [afterRewriter_ok, if_neg changed, if_neg (Nat.not_le_of_lt below)] at hb
    obtain ⟨q, hq, rfl⟩ := Option.map_eq_some_iff.1 hb
    refine ⟨_, Calls.verdict_settle hq, ?_⟩
    rw [hj]
    simp [Outcome.after, Outcome.map]

/-! ### Calls at any depth -/

/-- With the allowance `k`, the call `A` from `s` comes to the call `B` in `t` inside it, which
then has the allowance `l`. -/
inductive Reaches (p : Processor σ) :
    Nat → Call → Session σ → Nat → Call → Session σ → List (Step σ) → Prop
  | here (k : Nat) (A : Call) (s : Session σ) : Reaches p k A s k A s []
  | next {k l : Nat} {A B C : Call} {s t u : Session σ} {i j : List (Step σ)}
      (first : p.Asks (p.calls k) A s B t i) (rest : Reaches p k B t l C u j) :
      Reaches p (k + 1) A s l C u (i ++ j)

/-- Whatever a call reaches has ended when it ends. -/
theorem Reaches.answered {k l : Nat} {A B : Call} {s t : Session σ} {j : List (Step σ)}
    {o : Outcome σ (Option ProcessError)} (h : p.Reaches k A s l B t j)
    (ho : (p.calls k).verdict A s = some o) :
    ∃ q, (p.calls l).verdict B t = some q ∧ j ++ q.journal <+: o.journal := by
  induction h generalizing o with
  | here k A s => exact ⟨o, ho, List.prefix_rfl⟩
  | next first rest ih =>
    obtain ⟨q, hq, hi⟩ := first.answered ho
    obtain ⟨r, hr, hj⟩ := ih hq
    refine ⟨r, hr, List.IsPrefix.trans ?_ hi⟩
    rw [List.append_assoc, List.prefix_append_right_inj]
    exact hj

/-- Every step in a journal was recorded by a call that was reached. -/
theorem reached_of_mem {k : Nat} {A : Call} {s : Session σ} {o : Outcome σ (Option ProcessError)}
    {e : Step σ} (ho : (p.calls k).verdict A s = some o) (he : e ∈ o.journal) :
    ∃ l B t j, p.Reaches k A s (l + 1) B t j ∧ p.Own (p.calls l) B t e := by
  induction k generalizing A s o with
  | zero =>
    cases A with
    | process n => cases ho
    | rewrite n => cases ho
    | settle label rounds n => cases ho
  | succ k ih =>
    rcases accounted (p := p) (c := p.calls k) ho he with own | ⟨B, t, j, q, asks, hq, he⟩
    · exact ⟨k, A, s, [], .here _ A s, own⟩
    · obtain ⟨l, C, u, i, reaches, own⟩ := ih hq he
      exact ⟨l, C, u, j ++ i, .next asks reaches, own⟩

end Processor

end TagDispatch
