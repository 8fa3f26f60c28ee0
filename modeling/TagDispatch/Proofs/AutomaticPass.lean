import TagDispatch.Proofs.Context
import TagDispatch.Proofs.Nesting
import TagDispatch.Script.Exec

/-!
Where automatic rewriting passes start. A call takes itself to come from outside if no node is
open around it. That is so for the calls of whoever uses the processor, but also for those of the
rewriters of a root, which run when the root has been closed again. These calls start passes of
their own; those of handlers, of recovery hooks and of the rewriters of nested nodes never do.
-/

namespace TagDispatch

variable {σ α : Type}

/-! ### The context of calls -/

theorem Code.advance_context {self : Profile} {c : Calls σ} (hc : c.Have sameContext)
    {x y : Code σ α} {s t : Session σ} {j : List (Step σ)}
    (h : x.advance self c s = some ⟨y, t, j⟩) : t.context = s.context := by
  cases x with
  | done a => cases h
  | diverge => cases h
  | process n k =>
    obtain ⟨o, ho, he⟩ := Option.map_eq_some_iff.1 h
    cases he
    exact hc.process n s o ho
  | rewrite n k =>
    obtain ⟨o, ho, he⟩ := Option.map_eq_some_iff.1 h
    cases he
    exact hc.rewrite n s o ho
  | _ => cases h; rfl

/-- Code makes all its calls in the context in which it runs. -/
theorem Code.Leads.context {self : Profile} {c : Calls σ} (hc : c.Have sameContext)
    {x y : Code σ α} {s t : Session σ} {j : List (Step σ)} (h : x.Leads self c s y t j) :
    t.context = s.context := by
  induction h with
  | here x s => rfl
  | next first rest ih => exact ih.trans (Code.advance_context hc first)

namespace Processor

/-- Code that the call `A` from `s` runs in the given role issues the call `B` in `t`, after the
journal `j`. -/
inductive Issues (p : Processor σ) (c : Calls σ) :
    Role → Call → Session σ → Call → Session σ → List (Step σ) → Prop
  | handler {n m : Tree} {s u t : Session σ} {i j : List (Step σ)} {f : Handler σ}
      {isDefault : Bool} {y : Code σ Reply} {B : Call}
      (ready : p.prepare c n s = some ⟨.ok m, u, i⟩)
      (served : p.service u.config m = .handler f isDefault)
      (leads : (f (given u.config isDefault m)).Leads p.profile c (u.enter m.label) y t j)
      (asks : y.call? = some B) :
      Issues p c .handler (.process n) s B t (i ++ (opening m u ++ (p.start isDefault m u ++ j)))
  | recovery {n m rest : Tree} {s u v t : Session σ} {i j k : List (Step σ)} {f : Handler σ}
      {isDefault : Bool} {e : ProcessError} {hook : Recovery σ} {y : Code σ Reply} {B : Call}
      (ready : p.prepare c n s = some ⟨.ok m, u, i⟩)
      (served : p.service u.config m = .handler f isDefault)
      (failed : (f (given u.config isDefault m)).run p.profile c (u.enter m.label) =
        some ⟨⟨.error e, rest⟩, v, j⟩)
      (found : p.recovery? m.tagName? = some hook)
      (leads : (hook rest m e).Leads p.profile c v y t k)
      (asks : y.call? = some B) :
      Issues p c .recovery (.process n) s B t (i ++ (opening m u ++ (p.start isDefault m u ++
        (j ++ (.log (.event (.recovered m.label p.kind e)) :: .recovering rest m e v :: k)))))
  | rewriter {label : String} {rounds : Nat} {n : Tree} {s t : Session σ} {j : List (Step σ)}
      {w : Rewriter σ} {y : Code σ (Except ProcessError Tree)} {B : Call}
      (found : n.tagName?.bind p.registry.rewriters.find? = some w)
      (leads : (w n).Leads p.profile c s y t j) (asks : y.call? = some B) :
      Issues p c .rewriter (.settle label rounds n) s B t (.invoked .rewriter n.tagName? n s :: j)

/-- The call `A` from `s` comes to `B` in `t` without going into a node: by the pass over a tree,
the chain of its root, the next round of that, or a call of the root's rewriter. -/
inductive Outer (p : Processor σ) (c : Calls σ) :
    Call → Session σ → Call → Session σ → List (Step σ) → Prop
  | pass {n : Tree} {s : Session σ}
      (outside : (s.context.isEmpty && p.registry.hasRewriters) = true) :
      Outer p c (.process n) s (.rewrite n) s [.pass n]
  | chain {n : Tree} {s t : Session σ} {j : List (Step σ)} {es : List Element}
      (children : rewriteElements c n.elements (s.enter n.label) = some ⟨.ok es, t, j⟩) :
      Outer p c (.rewrite n) s (.settle n.label 0 ⟨es, [], n.line⟩) t.exit (.rewriting n s :: j)
  | round {label : String} {rounds : Nat} {n m : Tree} {s t : Session σ} {j : List (Step σ)}
      {w : Rewriter σ} (found : n.tagName?.bind p.registry.rewriters.find? = some w)
      (rewritten : (w n).run p.profile c s = some ⟨.ok m, t, j⟩) (changed : m.tagName? ≠ n.tagName?)
      (below : rounds + 1 < t.config.maxRewriteRounds) :
      Outer p c (.settle label rounds n) s (.settle label (rounds + 1) m) t
        (.invoked .rewriter n.tagName? n s ::
          (j ++ [.log (.event (.rewritten (n.tagName?.getD "") m.label))]))
  | rewriter {A B : Call} {s t : Session σ} {j : List (Step σ)}
      (issued : p.Issues c .rewriter A s B t j) : Outer p c A s B t j

/-- The call `A` from `s` has opened the node `m`, and from inside it `B` is asked for in `t`: by
its handler or recovery hook, by the walker, or because its elements are rewritten before it is. -/
inductive Inside (p : Processor σ) (c : Calls σ) (m : Tree) :
    Call → Session σ → Call → Session σ → List (Step σ) → Prop
  | code {n : Tree} {s u t : Session σ} {i j : List (Step σ)} {role : Role} {B : Call}
      (ready : p.prepare c n s = some ⟨.ok m, u, i⟩)
      (issued : p.Issues c role (.process n) s B t j) : Inside p c m (.process n) s B t j
  | walker {n child : Tree} {s u t : Session σ} {i j : List (Step σ)}
      {front back vs left : List Element}
      (ready : p.prepare c n s = some ⟨.ok m, u, i⟩)
      (served : p.service u.config m = .walker)
      (split : m.elements = front ++ .node child :: back)
      (before : walkElements c m.label front (u.enter m.label) = some ⟨(.ok vs, left), t, j⟩) :
      Inside p c m (.process n) s (.process child) t (i ++ (opening m u ++ j))
  | element {child : Tree} {s t : Session σ} {j : List (Step σ)} {front back vs : List Element}
      (split : m.elements = front ++ .node child :: back)
      (before : rewriteElements c front (s.enter m.label) = some ⟨.ok vs, t, j⟩) :
      Inside p c m (.rewrite m) s (.rewrite child) t (.rewriting m s :: j)

/-- The call `B` is reached from `A` without going into a node. -/
inductive AtRoot (p : Processor σ) :
    Nat → Call → Session σ → Nat → Call → Session σ → List (Step σ) → Prop
  | here (k : Nat) (A : Call) (s : Session σ) : AtRoot p k A s k A s []
  | next {k l : Nat} {A B C : Call} {s t u : Session σ} {i j : List (Step σ)}
      (first : p.Outer (p.calls k) A s B t i) (rest : AtRoot p k B t l C u j) :
      AtRoot p (k + 1) A s l C u (i ++ j)

variable {p : Processor σ}

theorem prepare_context {k : Nat} {n m : Tree} {s u : Session σ} {i : List (Step σ)}
    (ready : p.prepare (p.calls k) n s = some ⟨.ok m, u, i⟩) : u.context = s.context :=
  p.allows_sameContext.prepare (p.calls_keep_context k) n s _ ready

theorem hasRewriters_of_found {tag : Option String} {w : Rewriter σ}
    (found : tag.bind p.registry.rewriters.find? = some w) : p.registry.hasRewriters = true := by
  obtain ⟨key, hmem⟩ := Table.mem_of_bind_find? found
  rw [Registry.hasRewriters, Table.isEmpty, Bool.not_eq_true', List.isEmpty_eq_false_iff]
  exact List.ne_nil_of_mem hmem

/-- An open node has its label on the context. -/
theorem Inside.context {k : Nat} {m : Tree} {A B : Call} {s t : Session σ} {j : List (Step σ)}
    (h : p.Inside (p.calls k) m A s B t j) : t.context = m.label :: s.context := by
  have hc := p.calls_keep_context k
  cases h with
  | code ready issued =>
    rw [← prepare_context ready]
    cases issued with
    | handler ready' served leads asks =>
      cases ready.symm.trans ready'
      exact leads.context hc
    | recovery ready' served failed found leads asks =>
      cases ready.symm.trans ready'
      exact (leads.context hc).trans
        (p.allows_sameContext.code hc _ (Code.only_of_all (fun _ => trivial) _) _ _ failed)
  | walker ready served split before =>
    rw [← prepare_context ready]
    exact p.allows_sameContext.walkElements hc m.label _ _ _ before
  | element split before => exact p.allows_sameContext.rewriteElements hc _ _ _ before

/-- Handlers and recovery hooks run inside a node, and rewriters where their node stands. -/
theorem Issues.context {k : Nat} {role : Role} {A B : Call} {s t : Session σ} {j : List (Step σ)}
    (h : p.Issues (p.calls k) role A s B t j) :
    (role = .rewriter ∧ t.context = s.context ∧ p.registry.hasRewriters = true) ∨
      (role ≠ .rewriter ∧ ∃ label, t.context = label :: s.context) := by
  cases h with
  | handler ready served leads asks =>
    exact .inr ⟨nofun, _, (Inside.code ready (.handler ready served leads asks)).context⟩
  | recovery ready served failed found leads asks =>
    exact .inr ⟨nofun, _,
      (Inside.code ready (.recovery ready served failed found leads asks)).context⟩
  | rewriter found leads asks =>
    exact .inl ⟨rfl, leads.context (p.calls_keep_context k), hasRewriters_of_found found⟩

theorem Outer.context {k : Nat} {A B : Call} {s t : Session σ} {j : List (Step σ)}
    (h : p.Outer (p.calls k) A s B t j) : t.context = s.context := by
  have hc := p.calls_keep_context k
  cases h with
  | pass outside => rfl
  | chain children =>
    have inside := p.allows_sameContext.rewriteElements hc _ _ _ children
    exact congrArg List.tail inside
  | round found rewritten changed below =>
    exact p.allows_sameContext.code hc _ (Code.only_of_all (fun _ => trivial) _) _ _ rewritten
  | rewriter issued =>
    rcases issued.context with ⟨-, same, -⟩ | ⟨other, -⟩
    · exact same
    · exact absurd rfl other

/-- Every call that is asked for is made inside a node that was opened for it, or outside. -/
theorem Asks.outer_or_inside {c : Calls σ} {A B : Call} {s t : Session σ} {j : List (Step σ)}
    (h : p.Asks c A s B t j) : p.Outer c A s B t j ∨ ∃ m, p.Inside c m A s B t j := by
  cases h with
  | pass outside => exact .inl (.pass outside)
  | handler ready served leads asks =>
    exact .inr ⟨_, .code ready (.handler ready served leads asks)⟩
  | recovery ready served failed found leads asks =>
    exact .inr ⟨_, .code ready (.recovery ready served failed found leads asks)⟩
  | child ready served split before => exact .inr ⟨_, .walker ready served split before⟩
  | element split before => exact .inr ⟨_, .element split before⟩
  | chain children => exact .inl (.chain children)
  | rewriter found leads asks => exact .inl (.rewriter (.rewriter found leads asks))
  | round found rewritten changed below => exact .inl (.round found rewritten changed below)

/-- A call either stays outside or is made under one more label. -/
theorem Asks.outer_or_inner {k : Nat} {A B : Call} {s t : Session σ} {j : List (Step σ)}
    (h : p.Asks (p.calls k) A s B t j) :
    p.Outer (p.calls k) A s B t j ∨ ∃ label, t.context = label :: s.context := by
  rcases h.outer_or_inside with outer | ⟨m, inside⟩
  · exact .inl outer
  · exact .inr ⟨m.label, inside.context⟩

/-! ### Calls at any depth -/

theorem Reaches.context {k l : Nat} {A B : Call} {s t : Session σ} {j : List (Step σ)}
    (h : p.Reaches k A s l B t j) : ∃ labels, t.context = labels ++ s.context := by
  induction h with
  | here k A s => exact ⟨[], rfl⟩
  | next first rest ih =>
    obtain ⟨labels, ih⟩ := ih
    rcases first.outer_or_inner with outer | ⟨label, inside⟩
    · exact ⟨labels, ih.trans (congrArg (labels ++ ·) outer.context)⟩
    · exact ⟨labels ++ [label], by simp [ih, inside]⟩

/-- Back in the same context means that no node was gone into: a label that is put on stays on for
all calls inside. -/
theorem Reaches.atRoot {k l : Nat} {A B : Call} {s t : Session σ} {j : List (Step σ)}
    (h : p.Reaches k A s l B t j) (same : t.context = s.context) : p.AtRoot k A s l B t j := by
  induction h with
  | here k A s => exact .here k A s
  | next first rest ih =>
    rcases first.outer_or_inner with outer | ⟨label, inside⟩
    · exact .next outer (ih (same.trans outer.context.symm))
    · obtain ⟨labels, deeper⟩ := rest.context
      have length := congrArg List.length (deeper.symm.trans same)
      simp only [inside, List.length_append, List.length_cons] at length
      omega

theorem AtRoot.context {k l : Nat} {A B : Call} {s t : Session σ} {j : List (Step σ)}
    (h : p.AtRoot k A s l B t j) : t.context = s.context := by
  induction h with
  | here k A s => rfl
  | next first rest ih => exact ih.trans first.context

/-- A call that is reached is the first one, or was asked for by another that is reached. -/
theorem Reaches.last {k l : Nat} {A B : Call} {s t : Session σ} {j : List (Step σ)}
    (h : p.Reaches k A s l B t j) :
    (k = l ∧ A = B ∧ s = t) ∨
      ∃ C u i i', p.Reaches k A s (l + 1) C u i ∧ p.Asks (p.calls l) C u B t i' := by
  induction h with
  | here k A s => exact .inl ⟨rfl, rfl, rfl⟩
  | @next k l A B C s t u i j first rest ih =>
    right
    rcases ih with ⟨rfl, rfl, rfl⟩ | ⟨D, v, i', i'', reaches, asks⟩
    · exact ⟨A, s, _, _, .here _ A s, first⟩
    · exact ⟨D, v, _, _, .next first reaches, asks⟩

/-! ### Where passes start -/

/-- What a call writes down first tells whether it starts a pass. -/
theorem starts_pass_iff {k : Nat} {n : Tree} {s : Session σ} {o : Outcome σ Reply}
    (run : p.process k n s = some o) : (∃ rest, o.journal = .pass n :: rest) ↔
      s.context = [] ∧ p.registry.hasRewriters = true := by
  cases k with
  | zero => cases run
  | succ k =>
    rw [process_succ, processStep_apply] at run
    obtain ⟨a, b, ready, after, rfl⟩ := Run.bind_eq_some.1 run
    rw [← List.isEmpty_iff, ← Bool.and_eq_true_iff]
    cases outside : s.context.isEmpty && p.registry.hasRewriters with
    | true =>
      rw [prepare_outside p _ n outside] at ready
      obtain ⟨q, -, rfl⟩ := Option.map_eq_some_iff.1 ready
      exact ⟨fun _ => rfl, fun _ => ⟨_, rfl⟩⟩
    | false =>
      rw [prepare_inside p _ n outside] at ready
      cases ready
      change p.enter (p.calls k) n s = some b at after
      rw [enter_apply] at after
      obtain ⟨q, -, rfl⟩ := Option.map_eq_some_iff.1 after
      constructor
      · rintro ⟨rest, he⟩
        cases he
      · intro he
        cases he

/-- Inside a node no pass starts. -/
def noPassInside : Effect σ := fun s j t =>
  t.context = s.context ∧ (s.context ≠ [] → ∀ m, .pass m ∉ j)

theorem allows_noPassInside (p : Processor σ) : p.Allows (fun _ => True) noPassInside where
  asks := p.registry.onlyAsks_of_all fun _ => trivial
  refl _ := ⟨rfl, fun _ => by simp⟩
  trans h h' := by
    refine ⟨h'.1.trans h.1, fun inside m hm => ?_⟩
    rcases List.mem_append.1 hm with hm | hm
    · exact h.2 inside m hm
    · exact h'.2 (h.1 ▸ inside) m hm
  state _ _ _ := ⟨rfl, fun _ => by simp⟩
  env _ _ _ := ⟨rfl, fun _ => by simp⟩
  config _ _ _ := ⟨rfl, fun _ => by simp⟩
  record h := by
    refine ⟨rfl, fun inside m hm => ?_⟩
    obtain rfl := List.mem_singleton.1 hm
    cases h with
    | pass _ outside _ => exact inside (List.isEmpty_iff.1 outside)
  nested h := ⟨congrArg List.tail h.1, fun _ => h.2 (List.cons_ne_nil _ _)⟩

/-- Once a node is dispatched no pass starts until its call ends. -/
theorem enter_starts_no_pass {k : Nat} {n m : Tree} {s : Session σ} {o : Outcome σ Reply}
    (run : p.enter (p.calls k) n s = some o) : .pass m ∉ o.journal := by
  have allows := p.allows_noPassInside
  rw [enter_apply] at run
  obtain ⟨q, hq, rfl⟩ := Option.map_eq_some_iff.1 run
  have inside := (allows.dispatch (allows.calls k) n _ q hq).2 (List.cons_ne_nil _ _) m
  simp [inside]

/-- A pass that starts while a tree is rewritten from outside is that of a call which a rewriter of
a root has issued. -/
theorem pass_issued {k : Nat} {n m : Tree} {s : Session σ} (outside : s.context = [])
    {q : Outcome σ (Except ProcessError Tree)} (run : p.rewrite k n s = some q)
    (pass : .pass m ∈ q.journal) :
    ∃ l A t i u j, p.AtRoot k (.rewrite n) s (l + 1) A t i ∧
      p.Issues (p.calls l) .rewriter A t (.process m) u j := by
  obtain ⟨l, B, u, j, reaches, own⟩ :=
    reached_of_mem (Calls.verdict_rewrite (c := p.calls k) run) pass
  cases own with
  | pass outside' =>
    have empty : u.context = [] := List.isEmpty_iff.1 (Bool.and_eq_true_iff.1 outside').1
    rcases reaches.last with ⟨-, first, -⟩ | ⟨C, t, i, i', reaches, asks⟩
    · cases first
    · rcases asks.outer_or_inner with outer | ⟨label, inside⟩
      · have same : t.context = s.context := by rw [← outer.context, empty, outside]
        cases outer with
        | rewriter issued => exact ⟨_, C, t, i, u, i', reaches.atRoot same, issued⟩
      · rw [empty] at inside
        cases inside

/-- The call `A` from `s` has the tree `x` rewritten in `t`: in its own automatic pass, or because
code that it runs has asked for that. -/
inductive StartsRewriting (p : Processor σ) (c : Calls σ) :
    Call → Session σ → Tree → Session σ → Prop
  | pass {x : Tree} {s : Session σ}
      (outside : (s.context.isEmpty && p.registry.hasRewriters) = true) :
      StartsRewriting p c (.process x) s x s
  | request {role : Role} {A : Call} {s t : Session σ} {x : Tree} {j : List (Step σ)}
      (issued : p.Issues c role A s (.rewrite x) t j) : StartsRewriting p c A s x t

/-- Code can ask for nodes to be processed and for trees to be rewritten. -/
theorem Issues.call {c : Calls σ} {role : Role} {A B : Call} {s t : Session σ} {j : List (Step σ)}
    (h : p.Issues c role A s B t j) : (∃ m, B = .process m) ∨ ∃ x, B = .rewrite x := by
  have call {α : Type} {y : Code σ α} (asks : y.call? = some B) :
      (∃ m, B = .process m) ∨ ∃ x, B = .rewrite x := by
    cases y with
    | process m k => exact .inl ⟨m, (Option.some.inj asks).symm⟩
    | rewrite x k => exact .inr ⟨x, (Option.some.inj asks).symm⟩
    | _ => cases asks
  cases h with
  | handler _ _ _ asks => exact call asks
  | recovery _ _ _ _ _ asks => exact call asks
  | rewriter _ _ asks => exact call asks

theorem Issues.asks {c : Calls σ} {role : Role} {A B : Call} {s t : Session σ} {j : List (Step σ)}
    (h : p.Issues c role A s B t j) : p.Asks c A s B t j := by
  cases h with
  | handler ready served leads asks => exact .handler ready served leads asks
  | recovery ready served failed found leads asks =>
    exact .recovery ready served failed found leads asks
  | rewriter found leads asks => exact .rewriter found leads asks

/-- A call that has ended is done with the trees it had rewritten. -/
theorem StartsRewriting.answered {k : Nat} {A : Call} {s u : Session σ} {x : Tree}
    {o : Outcome σ (Option ProcessError)} (h : p.StartsRewriting (p.calls k) A s x u)
    (ho : (p.calls (k + 1)).verdict A s = some o) : ∃ q, p.rewrite k x u = some q := by
  have rewritten {j : List (Step σ)} (asks : p.Asks (p.calls k) A s (.rewrite x) u j) :
      ∃ q, p.rewrite k x u = some q := by
    obtain ⟨q, hq, -⟩ := asks.answered ho
    obtain ⟨q, hq, -⟩ := Option.map_eq_some_iff.1 hq
    exact ⟨q, hq⟩
  cases h with
  | pass outside => exact rewritten (.pass outside)
  | request issued => exact rewritten issued.asks

/-- On the way from the call `A` to the call `C` a tree starts to be rewritten. -/
def Through (p : Processor σ) (k : Nat) (A : Call) (s : Session σ) (l : Nat) (C : Call)
    (v : Session σ) : Prop :=
  ∃ l' B t i x u j, p.Reaches k A s (l' + 1) B t i ∧ p.StartsRewriting (p.calls l') B t x u ∧
    p.Reaches l' (.rewrite x) u l C v j

theorem Through.next {k l : Nat} {A B C : Call} {s t v : Session σ} {i : List (Step σ)}
    (first : p.Asks (p.calls k) A s B t i) (h : p.Through k B t l C v) :
    p.Through (k + 1) A s l C v := by
  obtain ⟨l', D, t', j, x, u, j', reaches, starts, inner⟩ := h
  exact ⟨l', D, t', i ++ j, x, u, j', .next first reaches, starts, inner⟩

/-- A rewriter is only ever come to through a tree that starts to be rewritten. -/
theorem Reaches.through {k l : Nat} {n y : Tree} {s v : Session σ} {label : String} {rounds : Nat}
    {j : List (Step σ)} (h : p.Reaches k (.process n) s l (.settle label rounds y) v j) :
    p.Through k (.process n) s l (.settle label rounds y) v := by
  generalize hA : Call.process n = A at h
  generalize hC : Call.settle label rounds y = C at h
  induction h generalizing n with
  | here k A s =>
    rw [← hA] at hC
    cases hC
  | @next k l A B C s t v i j first rest ih =>
    subst hA hC
    have issues {role : Role} (issued : p.Issues (p.calls k) role (.process n) s B t i) :
        p.Through (k + 1) (.process n) s l (.settle label rounds y) v := by
      rcases issued.call with ⟨m, rfl⟩ | ⟨x, rfl⟩
      · exact (ih rfl rfl).next first
      · exact ⟨k, _, s, [], x, t, j, .here _ _ s, .request issued, rest⟩
    cases first with
    | pass outside => exact ⟨k, _, s, [], n, s, j, .here _ _ s, .pass outside, rest⟩
    | handler ready served leads asks => exact issues (.handler ready served leads asks)
    | recovery ready served failed found leads asks =>
      exact issues (.recovery ready served failed found leads asks)
    | child ready served split before => exact (ih rfl rfl).next (.child ready served split before)

/-- The journal of a call from outside: the pass, and then the dispatch, in which no pass
starts. -/
theorem journal_outside {k : Nat} {n : Tree} {s : Session σ} {o : Outcome σ Reply}
    (outside : (s.context.isEmpty && p.registry.hasRewriters) = true)
    (run : p.process (k + 1) n s = some o) :
    ∃ q dispatch, p.rewrite k n s = some q ∧ o.journal = .pass n :: (q.journal ++ dispatch) ∧
      ∀ m, .pass m ∉ dispatch := by
  rw [process_succ, processStep_apply] at run
  obtain ⟨a, b, ready, after, rfl⟩ := Run.bind_eq_some.1 run
  rw [prepare_outside p _ n outside] at ready
  obtain ⟨⟨r, t, j⟩, hq, rfl⟩ := Option.map_eq_some_iff.1 ready
  refine ⟨⟨r, t, j⟩, b.journal, hq, rfl, fun m => ?_⟩
  cases r with
  | error e =>
    cases after
    exact List.not_mem_nil
  | ok m' => exact enter_starts_no_pass after

/-- A call that code issues starts a pass exactly if a rewriter issues it at the root. -/
theorem Issues.starts_pass_iff {k l : Nat} {role : Role} {A D : Call} {s t u : Session σ}
    {i j : List (Step σ)} {m : Tree} {q : Outcome σ Reply} (outside : s.context = [])
    (reaches : p.Reaches k D s (l + 1) A t i)
    (issued : p.Issues (p.calls l) role A t (.process m) u j) (run : p.process l m u = some q) :
    (∃ rest, q.journal = .pass m :: rest) ↔
      role = .rewriter ∧ p.AtRoot k D s (l + 1) A t i := by
  rw [Processor.starts_pass_iff run]
  rcases issued.context with ⟨rfl, same, present⟩ | ⟨other, label, inside⟩
  · rw [same]
    constructor
    · rintro ⟨empty, -⟩
      exact ⟨rfl, reaches.atRoot (empty.trans outside.symm)⟩
    · rintro ⟨-, atRoot⟩
      exact ⟨atRoot.context.trans outside, present⟩
  · rw [inside]
    constructor
    · rintro ⟨empty, -⟩
      cases empty
    · rintro ⟨rewriter, -⟩
      exact absurd rewriter other

/-- The passes after the first one of a call from outside are those of calls which a rewriter of a
root has issued. -/
theorem later_pass_issued {k : Nat} {n m : Tree} {s : Session σ} {o : Outcome σ Reply}
    {rest : List (Step σ)} (run : p.process k n s = some o) (first : o.journal = .pass n :: rest)
    (pass : .pass m ∈ rest) :
    ∃ l A t i u j, p.AtRoot k (.process n) s (l + 1) A t i ∧
      p.Issues (p.calls l) .rewriter A t (.process m) u j := by
  obtain ⟨outside, present⟩ := (starts_pass_iff run).1 ⟨rest, first⟩
  have starts : (s.context.isEmpty && p.registry.hasRewriters) = true := by
    rw [outside, present]
    rfl
  cases k with
  | zero => cases run
  | succ k =>
    obtain ⟨q, dispatch, rewritten, journal, quiet⟩ := journal_outside starts run
    rw [first, List.cons.injEq] at journal
    rw [journal.2] at pass
    rcases List.mem_append.1 pass with pass | pass
    · obtain ⟨l, A, t, i, u, j, atRoot, issued⟩ := pass_issued outside rewritten pass
      exact ⟨l, A, t, _, u, j, .next (.pass starts) atRoot, issued⟩
    · exact absurd pass (quiet m)

/-- Whenever a rewriter runs, a tree is being rewritten in a pass or because code has asked for
that. -/
theorem rewriter_started {k : Nat} {n y : Tree} {s v : Session σ} {tag : Option String}
    {o : Outcome σ Reply} (run : p.process k n s = some o)
    (invoked : .invoked .rewriter tag y v ∈ o.journal) :
    ∃ l A t i x u q, p.Reaches k (.process n) s (l + 1) A t i ∧
      p.StartsRewriting (p.calls l) A t x u ∧ p.rewrite l x u = some q ∧
      .invoked .rewriter tag y v ∈ q.journal := by
  have ended := Calls.verdict_process (c := p.calls k) run
  obtain ⟨l, B, t, j, reaches, own⟩ := reached_of_mem ended invoked
  cases own with
  | rewriter found =>
    obtain ⟨l', A, t, i, x, u, i', before, starts, inner⟩ := reaches.through
    obtain ⟨a, ha, -⟩ := before.answered ended
    obtain ⟨q, hq⟩ := starts.answered ha
    obtain ⟨b, hb, within⟩ := inner.answered (Calls.verdict_rewrite (c := p.calls l') hq)
    obtain ⟨ran, after, -, -, journal⟩ := rewriter_of_verdict found hb
    refine ⟨l', A, t, i, x, u, q, before, starts, hq, within.subset ?_⟩
    rw [journal]
    exact List.mem_append_right _ (List.mem_cons_self ..)

/-- Where automatic passes start in a call from outside. The call itself starts one if there are
rewriters. A call that code issues starts one exactly if the code is that of a rewriter and no node
has been gone into on the way there, and no others are ever started. Rewriters run in such passes
and where code asks for a tree to be rewritten, and nowhere else. -/
theorem passes_start_at_roots (p : Processor σ) (k : Nat) (n : Tree) (s : Session σ)
    (outside : s.context = []) :
    (∀ role l A t i m u j q, p.Reaches k (.process n) s (l + 1) A t i →
      p.Issues (p.calls l) role A t (.process m) u j → p.process l m u = some q →
      ((∃ rest, q.journal = .pass m :: rest) ↔
        role = .rewriter ∧ p.AtRoot k (.process n) s (l + 1) A t i)) ∧
    ∀ o, p.process k n s = some o →
      ((∃ rest, o.journal = .pass n :: rest) ↔ p.registry.hasRewriters = true) ∧
      (∀ m rest, o.journal = .pass n :: rest → .pass m ∈ rest →
        ∃ l A t i u j, p.AtRoot k (.process n) s (l + 1) A t i ∧
          p.Issues (p.calls l) .rewriter A t (.process m) u j) ∧
      ∀ tag y v, .invoked .rewriter tag y v ∈ o.journal →
        ∃ l A t i x u q, p.Reaches k (.process n) s (l + 1) A t i ∧
          p.StartsRewriting (p.calls l) A t x u ∧ p.rewrite l x u = some q ∧
          .invoked .rewriter tag y v ∈ q.journal := by
  refine ⟨fun role l A t i m u j q reaches issued run => issued.starts_pass_iff outside reaches run,
    fun o run => ⟨?_, fun m rest first pass => later_pass_issued run first pass,
      fun tag y v invoked => rewriter_started run invoked⟩⟩
  rw [starts_pass_iff run]
  exact and_iff_right outside

end Processor

/-- The tree whose pass starts here. -/
def Step.passed? : Step σ → Option String
  | .pass n => some n.render
  | _ => none

theorem Step.eq_pass_of_passed? {e : Step σ} {text : String} (h : e.passed? = some text) :
    ∃ n, e = .pass n ∧ n.render = text := by
  cases e with
  | pass n => exact ⟨n, rfl, Option.some.inj h⟩
  | _ => cases h

/-- Before it gives its node another tag, the rewriter of `sugar` has an `old` node processed. -/
def consultingProcessor : Processor Notes :=
  ⟨"Test", .ofList [
    .rewriter "sugar" (Script.instrs [.push (.node (.ofElements [.atom (.symbol "old")])), .process,
      .pop, .setTag (.symbol "plain")]).rewriter,
    .rewriter "old" (Script.instrs [.note "old rewritten"]).rewriter]⟩

def sugarTree : Tree := .ofElements [.atom (.symbol "sugar")]

def emptyNotes : Session Notes := { config := {}, state := [] }

theorem consultingProcessor_passes :
    (consultingProcessor.process 6 sugarTree emptyNotes).map
      (·.journal.filterMap Step.passed?) = some ["s(:sugar)", "s(:old)"] := by
  decide +kernel

theorem passes_start_at_roots_consulted :
    ∃ o m l A t i u j, consultingProcessor.process 6 sugarTree emptyNotes = some o ∧
      .pass m ∈ o.journal ∧ m.render = "s(:old)" ∧
      consultingProcessor.AtRoot 6 (.process sugarTree) emptyNotes (l + 1) A t i ∧
      consultingProcessor.Issues (consultingProcessor.calls l) .rewriter A t (.process m) u j := by
  obtain ⟨o, ho, passes⟩ := Option.map_eq_some_iff.1 consultingProcessor_passes
  obtain ⟨own, others, -⟩ :=
    (consultingProcessor.passes_start_at_roots 6 sugarTree emptyNotes rfl).2 o ho
  obtain ⟨rest, first⟩ := own.2 rfl
  rw [first, List.filterMap_cons_some (show Step.passed? (.pass sugarTree) = some _ from rfl),
    List.cons.injEq] at passes
  obtain ⟨e, he, passed⟩ := List.mem_filterMap.1 (passes.2 ▸ List.mem_singleton_self _)
  obtain ⟨m, rfl, text⟩ := Step.eq_pass_of_passed? passed
  obtain ⟨l, A, t, i, u, j, atRoot, issued⟩ := others m rest first he
  exact ⟨o, m, l, A, t, i, u, j, ho, first ▸ List.mem_cons_of_mem _ he, text, atRoot, issued⟩

/-- A call from outside may start more than one pass. -/
theorem root_rewriter_starts_another_pass :
    ¬ ∀ (p : Processor Notes) (k : Nat) (n : Tree) (s : Session Notes) (o : Outcome Notes Reply),
      s.context = [] → p.process k n s = some o →
        (o.journal.filterMap Step.passed?).length ≤ 1 := by
  intro hall
  obtain ⟨o, ho, passes⟩ := Option.map_eq_some_iff.1 consultingProcessor_passes
  have once := hall consultingProcessor 6 sugarTree emptyNotes o rfl ho
  rw [passes] at once
  exact absurd once (by decide)

end TagDispatch
