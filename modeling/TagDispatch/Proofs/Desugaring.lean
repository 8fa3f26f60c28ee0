import TagDispatch.Proofs.Chain
import TagDispatch.Proofs.Service
import TagDispatch.Proofs.Untouched

/-!
Rewriting is complete. If every rewriter changes the tag of its node and leaves nothing inside it
that could be rewritten, then a tree that has been rewritten holds no node that could be rewritten,
at any depth.
-/

namespace TagDispatch

variable {σ : Type}

namespace Processor

/-- Given a node with nothing inside it that could be rewritten, a rewriter that succeeds gives a
node of another tag, again with nothing inside it that could be rewritten. -/
def Desugars (p : Processor σ) : Prop :=
  ∀ n w, n.tagName?.bind p.registry.rewriters.find? = some w → p.Passes n.descendants →
    ∀ s m t, p.Rewrites w n s (.ok m) t → p.Passes m.descendants ∧ m.tagName? ≠ n.tagName?

variable {p : Processor σ}

theorem passes_cons {m : Tree} {nodes : List Tree} : p.Passes (m :: nodes) ↔
    m.tagName?.bind p.registry.rewriters.find? = none ∧ p.Passes nodes :=
  List.forall_mem_cons

theorem passes_append {nodes nodes' : List Tree} :
    p.Passes (nodes ++ nodes') ↔ p.Passes nodes ∧ p.Passes nodes' :=
  List.forall_mem_append

/-- Elements of which each node has become one with nothing to rewrite. -/
theorem eachNode_passes {f : Tree → Run σ (Except ProcessError Tree)} {es vs left : List Element}
    {s t : Session σ} {j : List (Step σ)}
    (hf : ∀ m s r t j, f m s = some ⟨.ok r, t, j⟩ → p.Passes (r :: r.descendants))
    (h : eachNode f es s = some ⟨(.ok vs, left), t, j⟩) : p.Passes (Element.listNodes vs) := by
  induction es generalizing s vs j with
  | nil =>
    cases h
    exact fun m hm => by cases hm
  | cons e es ih =>
    cases e with
    | atom a =>
      rw [eachNode_atom] at h
      obtain ⟨⟨⟨r, left'⟩, u, i⟩, rest, he⟩ := Option.map_eq_some_iff.1 h
      cases r with
      | error err => cases he
      | ok ws =>
        cases he
        have inner : p.Passes (Element.listNodes ws) := ih rest
        exact inner
    | node m =>
      rw [eachNode_node] at h
      obtain ⟨⟨r, u, i⟩, first, h⟩ := Option.bind_eq_some_iff.1 h
      cases r with
      | error err => cases h
      | ok m' =>
        obtain ⟨⟨⟨r, left'⟩, u', i'⟩, rest, he⟩ := Option.map_eq_some_iff.1 h
        cases r with
        | error err => cases he
        | ok ws =>
          cases he
          exact passes_append.2 ⟨hf m _ m' u i first, ih rest⟩

/-- The chain of a node ends where no rewriter is left: one that succeeds has changed the tag, so
that the chain goes on. -/
theorem Desugars.settle (h : p.Desugars) {k : Nat} {label : String} {rounds : Nat} {n r : Tree}
    {s t : Session σ} {j : List (Step σ)} (inside : p.Passes n.descendants)
    (run : p.settle k label rounds n s = some ⟨.ok r, t, j⟩) : p.Passes (r :: r.descendants) := by
  induction k generalizing rounds n s j with
  | zero => cases run
  | succ k ih =>
    change p.settleStep (p.calls k) label rounds n s = _ at run
    cases found : n.tagName?.bind p.registry.rewriters.find? with
    | none =>
      rw [settleStep_none p _ label rounds found] at run
      cases run
      exact passes_cons.2 ⟨found, inside⟩
    | some w =>
      rw [settleStep_some p _ label rounds found] at run
      obtain ⟨q, hq, he⟩ := Option.map_eq_some_iff.1 run
      obtain ⟨⟨a, u, i⟩, b, ran, after, rfl⟩ := Run.bind_eq_some.1 hq
      cases a with
      | error err =>
        cases after
        cases he
      | ok m =>
        obtain ⟨inside', changed⟩ := h n w found inside s m u ⟨k, i, ran⟩
        rw [afterRewriter_ok, if_neg changed] at after
        obtain ⟨⟨b', v, i'⟩, next, rfl⟩ := Option.map_eq_some_iff.1 after
        cases he
        split at next
        · cases next
        · exact ih inside' next

theorem Desugars.rewrite (h : p.Desugars) {k : Nat} {n r : Tree} {s t : Session σ}
    {j : List (Step σ)} (run : p.rewrite k n s = some ⟨.ok r, t, j⟩) :
    p.Passes (r :: r.descendants) := by
  induction k generalizing n r s t j with
  | zero => cases run
  | succ k ih =>
    change rewriteStep (p.calls k) n s = _ at run
    rw [rewriteStep_apply] at run
    obtain ⟨⟨es, u, i⟩, children, hm⟩ := Option.bind_eq_some_iff.1 run
    obtain ⟨⟨q, v, i'⟩, hq, he⟩ := Option.map_eq_some_iff.1 hm
    cases he
    cases es with
    | error err => cases hq
    | ok es =>
      obtain ⟨left, children⟩ := rewriteElements_some.1 children
      have inside : p.Passes (Element.listNodes es) :=
        eachNode_passes (fun m s r t j hr => ih hr) children
      exact h.settle (n := ⟨es, [], n.line⟩) inside hq

/-- If each rewriter changes the tag of its node and leaves nothing to rewrite inside it, then in a
tree that has been rewritten no node, neither the root nor a nested one, has a tag with a
rewriter. -/
theorem rewriting_is_complete (p : Processor σ) (h : p.Desugars) (n r : Tree) (s t : Session σ)
    (rewritten : ComesTo (p.rewrite · n) s (.ok r) t) :
    ∀ m ∈ r :: r.descendants, m.tagName?.bind p.registry.rewriters.find? = none := by
  obtain ⟨k, j, run⟩ := rewritten
  exact h.rewrite run

end Processor

/-! ### A desugaring processor -/

theorem Element.listNodes_append (es es' : List Element) :
    Element.listNodes (es ++ es') = Element.listNodes es ++ Element.listNodes es' := by
  induction es with
  | nil => rfl
  | cons e es ih =>
    rw [List.cons_append, Element.listNodes, Element.listNodes, ih, List.append_assoc]

theorem Processor.passes_body {p : Processor σ} {n : Tree} (h : p.Passes n.descendants) :
    p.Passes (Element.listNodes n.body) := by
  have split : n.elements = n.elements.take 1 ++ n.body := (List.take_append_drop 1 _).symm
  rw [Node.descendants, split, Element.listNodes_append] at h
  exact (Processor.passes_append.1 h).2

/-- Puts the first element after the tag under a `not`. -/
def negatedAs (tag : String) : Rewriter Unit := fun n =>
  .done (.ok ⟨[.atom (.symbol tag), .node (.ofElements (.atom (.symbol "not") :: n.body.take 1))] ++
    n.body.drop 1, n.fields, n.line⟩)

/-- An older tag for `unless`, and `unless` as a negated `if`. -/
def negatingProcessor : Processor Unit :=
  ⟨"Test", .ofList [.rewriter "without" (retaggedTo "unless"), .rewriter "unless" (negatedAs "if")]⟩

theorem negatingProcessor_desugars : negatingProcessor.Desugars := by
  rintro n w found inside s m t ⟨k, j, run⟩
  obtain ⟨tag, tagged, found⟩ := Option.bind_eq_some_iff.1 found
  have entry : (tag, w) ∈ [("unless", negatedAs "if"), ("without", retaggedTo "unless")] :=
    Table.mem_of_find? found
  have body := Processor.passes_body inside
  rcases List.mem_pair.1 entry with he | he
  · cases he
    cases run
    refine ⟨Processor.passes_cons.2 ⟨rfl, ?_⟩, ?_⟩
    · rw [← List.take_append_drop 1 n.body, Element.listNodes_append] at body
      exact body
    · rw [tagged]
      exact fun h => absurd (Option.some.inj h) (by decide)
  · cases he
    cases run
    refine ⟨body, ?_⟩
    rw [tagged]
    exact fun h => absurd (Option.some.inj h) (by decide)

/-- An `unless` inside the condition of another, which goes by its older tag. -/
def negatedTree : Tree :=
  .ofElements [.atom (.symbol "without"),
    .node (.ofElements [.atom (.symbol "unless"), .atom (.symbol "x"), .atom (.symbol "y")]),
    .atom (.symbol "z")]

theorem rewriting_is_complete_nested :
    ∃ r t, ComesTo (negatingProcessor.rewrite · negatedTree) { config := {}, state := () }
        (.ok r) t ∧
      r.render = "s(:if, s(:not, s(:if, s(:not, :x), :y)), :z)" ∧
      ∀ m ∈ r :: r.descendants,
        m.tagName?.bind negatingProcessor.registry.rewriters.find? = none := by
  have run : (negatingProcessor.rewrite 5 negatedTree { config := {}, state := () }).map
      (·.value.toOption.map Node.render) =
        some (some "s(:if, s(:not, s(:if, s(:not, :x), :y)), :z)") := by
    decide +kernel
  obtain ⟨⟨value, t, j⟩, ho, hv⟩ := Option.map_eq_some_iff.1 run
  cases value with
  | error e => cases hv
  | ok r =>
    have rewritten : ComesTo (negatingProcessor.rewrite · negatedTree) { config := {}, state := () }
        (.ok r) t := ⟨5, j, ho⟩
    exact ⟨r, t, rewritten, Option.some.inj hv, negatingProcessor.rewriting_is_complete
      negatingProcessor_desugars negatedTree r _ t rewritten⟩

end TagDispatch
