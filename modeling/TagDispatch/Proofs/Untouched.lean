import TagDispatch.Proofs.Paths
import TagDispatch.Proofs.Run
import TagDispatch.Proofs.Step
import TagDispatch.Tree.Walk

/-!
Rewriting where there is nothing to rewrite: the tree comes back as it was, but for its field
names. Nothing runs and nothing is reported on the way.
-/

namespace TagDispatch

variable {σ : Type}

/-- The step only tells where the rewriting of a node begins or ends. -/
def Step.MarksRewriting : Step σ → Prop
  | .rewriting _ _ => True
  | .rewrote _ => True
  | _ => False

/-! ### Trees without field names -/

mutual

def Element.withoutFields : Element → Element
  | .atom a => .atom a
  | .node ⟨es, _, line⟩ => .node ⟨Element.listWithoutFields es, [], line⟩

def Element.listWithoutFields : List Element → List Element
  | [] => []
  | e :: es => e.withoutFields :: Element.listWithoutFields es

end

/-- No node of the tree has field names any more. -/
def Node.withoutFields (n : Tree) : Tree := ⟨Element.listWithoutFields n.elements, [], n.line⟩

theorem Node.tagName?_withoutFields (n : Tree) : n.withoutFields.tagName? = n.tagName? := by
  obtain ⟨es, fields, line⟩ := n
  cases es with
  | nil => rfl
  | cons e es => cases e <;> rfl

mutual

theorem Element.withoutFields_eq_self (e : Element) (h : ∀ m ∈ e.nodes, m.fields = []) :
    e.withoutFields = e := by
  cases e with
  | atom a => rfl
  | node n =>
    obtain ⟨es, fields, line⟩ := n
    have hf : fields = [] := h ⟨es, fields, line⟩ List.mem_cons_self
    have hes := Element.listWithoutFields_eq_self es fun m hm => h m (List.mem_cons_of_mem _ hm)
    rw [Element.withoutFields, hes, hf]

theorem Element.listWithoutFields_eq_self (es : List Element)
    (h : ∀ m ∈ Element.listNodes es, m.fields = []) : Element.listWithoutFields es = es := by
  cases es with
  | nil => rfl
  | cons e es =>
    rw [Element.listWithoutFields,
      Element.withoutFields_eq_self e fun m hm => h m (List.mem_append_left _ hm),
      Element.listWithoutFields_eq_self es fun m hm => h m (List.mem_append_right _ hm)]

end

theorem Node.withoutFields_eq_self {n : Tree} (h : ∀ m ∈ n :: n.descendants, m.fields = []) :
    n.withoutFields = n := by
  have hes := Element.listWithoutFields_eq_self n.elements fun m hm =>
    h m (List.mem_cons_of_mem _ hm)
  have hf : n.fields = [] := h n List.mem_cons_self
  obtain ⟨es, fields, line⟩ := n
  rw [Node.withoutFields, hes, ← hf]

/-! ### The elements of a tree by their paths -/

/-- The second element in the place of the first: the same atom, or a node of as many elements and
with the same line, but without field names. -/
inductive Element.Stripped : Element → Element → Prop
  | atom (a : Atom) : Element.Stripped (.atom a) (.atom a)
  | node {n m : Tree} (size : m.size = n.size) (line : m.line = n.line) (bare : m.fields = []) :
      Element.Stripped (.node n) (.node m)

theorem Element.listWithoutFields_eq_map (es : List Element) :
    Element.listWithoutFields es = es.map Element.withoutFields := by
  induction es with
  | nil => rfl
  | cons e es ih => rw [Element.listWithoutFields, ih, List.map_cons]

theorem Element.stripped_withoutFields (e : Element) : e.Stripped e.withoutFields := by
  cases e with
  | atom a => exact .atom a
  | node n =>
    refine .node ?_ rfl rfl
    simp [Node.size, Element.listWithoutFields_eq_map]

theorem Element.at?_withoutFields (e : Element) (path : List Nat) :
    e.withoutFields.at? path = (e.at? path).map Element.withoutFields :=
  Element.at?_map (fun a => ⟨a, rfl⟩)
    (fun n => ⟨n.withoutFields, rfl, Element.listWithoutFields_eq_map n.elements⟩) e path

/-- At every path there is what was there, stripped, or nothing if there was nothing. -/
theorem Node.stripped_at? (n : Tree) (path : List Nat) :
    Option.Rel Element.Stripped (n.at? path) (n.withoutFields.at? path) := by
  change Option.Rel _ _ ((Element.node n).withoutFields.at? path)
  rw [Element.at?_withoutFields, Node.at?]
  cases (Element.node n).at? path with
  | none => exact .none
  | some e => exact .some e.stripped_withoutFields

namespace Processor

/-! ### Rewriting -/

/-- There is no rewriter for any node of the tree. -/
def Passes (p : Processor σ) (nodes : List Tree) : Prop :=
  ∀ m ∈ nodes, m.tagName?.bind p.registry.rewriters.find? = none

theorem rewriteElements_untouched {p : Processor σ} {c : Calls σ} {k : Nat}
    (hc : ∀ n s, p.Passes (n :: n.descendants) → n.depth < k →
      ∃ j, c.rewrite n s = some ⟨.ok n.withoutFields, s, j⟩ ∧ ∀ e ∈ j, e.MarksRewriting)
    (es : List Element) (s : Session σ) (hes : p.Passes (Element.listNodes es))
    (hk : Element.listDepth es < k) :
    ∃ j, rewriteElements c es s = some ⟨.ok (Element.listWithoutFields es), s, j⟩ ∧
      ∀ e ∈ j, e.MarksRewriting := by
  induction es with
  | nil => exact ⟨[], rfl, by simp⟩
  | cons e es ih =>
    rw [Element.listDepth, Nat.max_lt] at hk
    obtain ⟨j, hj, marks⟩ := ih (fun m hm => hes m (List.mem_append_right _ hm)) hk.2
    cases e with
    | atom a =>
      refine ⟨j ++ [], Run.bind_eq_some.2 ⟨_, _, hj, rfl, rfl⟩, ?_⟩
      simpa using marks
    | node n =>
      obtain ⟨i, hi, first⟩ := hc n s (fun m hm => hes m (List.mem_append_left _ hm)) hk.1
      have hrest : (rewriteElements c es >>= fun r => pure (r.map (.node n.withoutFields :: ·))) s =
          some ⟨.ok (.node n.withoutFields :: Element.listWithoutFields es), s, j ++ []⟩ :=
        Run.bind_eq_some.2 ⟨_, _, hj, rfl, rfl⟩
      refine ⟨i ++ (j ++ []), Run.bind_eq_some.2 ⟨_, _, hi, hrest, rfl⟩, ?_⟩
      rw [List.append_nil]
      exact List.forall_mem_append.2 ⟨first, marks⟩

/-- A tree without anything to rewrite, rewritten with an allowance beyond its depth. That leaves
one for each node itself, after its children. -/
theorem rewrite_untouched (p : Processor σ) (k : Nat) (n : Tree) (s : Session σ)
    (hn : p.Passes (n :: n.descendants)) (hk : n.depth < k) :
    ∃ j, p.rewrite k n s = some ⟨.ok n.withoutFields, s, j⟩ ∧ ∀ e ∈ j, e.MarksRewriting := by
  induction k generalizing n s with
  | zero => omega
  | succ k ih =>
    have hd : 1 + Element.listDepth n.elements < k + 1 := hk
    obtain ⟨j, hj, marks⟩ := rewriteElements_untouched (c := p.calls k) ih n.elements
      (s.enter n.label) (fun m hm => hn m (List.mem_cons_of_mem _ hm)) (by omega)
    obtain ⟨l, rfl⟩ : ∃ l, k = l + 1 := ⟨k - 1, by omega⟩
    have htag : n.withoutFields.tagName?.bind p.registry.rewriters.find? = none := by
      rw [n.tagName?_withoutFields]
      exact hn n List.mem_cons_self
    have hsettle : p.settle (l + 1) n.label 0 n.withoutFields s =
        some ⟨.ok n.withoutFields, s, []⟩ :=
      congrFun (p.settleStep_none (p.calls l) n.label 0 htag) s
    refine ⟨.rewriting n s :: (j ++ ([] ++ [.rewrote (.ok n.withoutFields)])), ?_, ?_⟩
    · change rewriteStep (p.calls (l + 1)) n s = _
      rw [rewriteStep_apply, hj, Option.bind_some]
      change (p.settle (l + 1) n.label 0 n.withoutFields s).map _ = _
      rw [hsettle]
      rfl
    · refine List.forall_mem_cons.2 ⟨trivial, List.forall_mem_append.2 ⟨marks, ?_⟩⟩
      exact List.forall_mem_cons.2 ⟨trivial, by simp⟩

theorem logOf_marks {j : List (Step σ)} (h : ∀ e ∈ j, e.MarksRewriting) (limit : Nat) :
    logOf limit j = [] := by
  have silent : j.filterMap Step.entry? = [] := by
    rw [List.filterMap_eq_nil_iff]
    intro e he
    cases e with
    | log entry => exact (h _ he).elim
    | _ => rfl
  rw [logOf, silent]
  rfl

/-- Rewriting leaves alone what there is no rewriter for. If no node of a tree has a tag with a
rewriter, rewriting succeeds, runs no code and logs nothing, and the session stays as it was. At
every path the tree holds what it held, and no node has field names any more. -/
theorem rewriting_touches_nothing (p : Processor σ) (n : Tree) (s : Session σ)
    (h : p.Passes (n :: n.descendants)) (k : Nat) (hk : n.depth < k) :
    ∃ m j, p.rewrite k n s = some ⟨.ok m, s, j⟩ ∧
      (∀ path, Option.Rel Element.Stripped (n.at? path) (m.at? path)) ∧
      (∀ role tag x t, .invoked role tag x t ∉ j) ∧
      (∀ rest copy e t, .recovering rest copy e t ∉ j) ∧
      ∀ limit, logOf limit j = [] := by
  obtain ⟨j, run, marks⟩ := p.rewrite_untouched k n s h hk
  refine ⟨n.withoutFields, j, run, n.stripped_at?, fun role tag x t he => ?_,
    fun rest copy e t he => ?_, logOf_marks marks⟩
  · exact marks _ he
  · exact marks _ he

end Processor

/-- There is a rewriter, and it may not change a tag even once. -/
def idleProcessor : Processor Unit :=
  ⟨"Test", .ofList [.rewriter "old" fun n => .done (.ok { n with elements := [] })]⟩

def idleSession : Session Unit :=
  { config := { maxRewriteRounds := 0 }, state := (), context := ["outer"] }

/-- Field names and lines on two levels, a number that is not equal to itself, and an empty node. -/
def idleTree : Tree :=
  ⟨[.atom (.symbol "wrap"), .node ⟨[.atom (.symbol "leaf"),
    .atom (.float ⟨0x7ff8000000000001⟩)], ["value"], some 8⟩, .node .empty], ["first", "second"],
    some 7⟩

theorem rewriting_touches_nothing_idle :
    idleProcessor.registry.hasRewriters = true ∧
    ∃ m j, idleProcessor.rewrite 3 idleTree idleSession = some ⟨.ok m, idleSession, j⟩ ∧
      m.at? [1, 1] = some (.atom (.float ⟨0x7ff8000000000001⟩)) ∧ logOf 4 j = [] := by
  have passes : idleProcessor.Passes (idleTree :: idleTree.descendants) := by
    have none_found : (idleTree :: idleTree.descendants).all (fun m =>
        (m.tagName?.bind idleProcessor.registry.rewriters.find?).isNone) = true := by
      decide +kernel
    exact fun m hm => Option.isNone_iff_eq_none.1 (List.all_eq_true.1 none_found m hm)
  refine ⟨by decide +kernel, ?_⟩
  obtain ⟨m, j, run, same, -, -, silent⟩ :=
    idleProcessor.rewriting_touches_nothing idleTree idleSession passes 3 (by decide)
  refine ⟨m, j, run, ?_, silent 4⟩
  have found := same [1, 1]
  have there : idleTree.at? [1, 1] = some (.atom (.float ⟨0x7ff8000000000001⟩)) := rfl
  rw [there] at found
  generalize m.at? [1, 1] = kept at found ⊢
  cases found with
  | some stripped =>
    cases stripped
    rfl

end TagDispatch
