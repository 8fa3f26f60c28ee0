import TagDispatch.Proofs.Occurrences
import TagDispatch.Proofs.Walker

/-!
In which order nodes are dispatched where nobody handles any. The walker and the enumeration of a
tree's nodes are two walks of their own; the spans that the first one logs are the nodes that the
second one meets, each with its level, or a first part of these if the call fails.
-/

namespace TagDispatch

variable {σ α β : Type}

/-! ### Nodes and their levels -/

mutual

/-- The nodes of an element, each before those inside it, with their levels. The element itself is
on the level `d`. -/
def Element.outline (d : Nat) : Element → List (Tree × Nat)
  | .atom _ => []
  | .node ⟨es, fields, line⟩ => (⟨es, fields, line⟩, d) :: Element.listOutline (d + 1) es

def Element.listOutline (d : Nat) : List Element → List (Tree × Nat)
  | [] => []
  | e :: es => e.outline d ++ Element.listOutline d es

end

/-- The nodes of a tree in document order, with their levels; the root is on level 0. -/
def Node.outline (n : Tree) : List (Tree × Nat) := (Element.node n).outline 0

theorem Element.outline_node (d : Nat) (n : Tree) :
    (Element.node n).outline d = (n, d) :: Element.listOutline (d + 1) n.elements := rfl

mutual

/-- The level of a node is how many steps lead to it. -/
theorem Element.outline_eq_map (d : Nat) (e : Element) :
    e.outline d = (e.occurrences .outerFirst).map fun x => (x.node, d + x.path.length) := by
  cases e with
  | atom a => rfl
  | node n =>
    obtain ⟨es, fields, line⟩ := n
    rw [Element.outline, Element.listOutline_eq_map d 0 es]
    rfl

theorem Element.listOutline_eq_map (d i : Nat) (es : List Element) :
    Element.listOutline (d + 1) es =
      (Element.listOccurrences .outerFirst i es).map fun x => (x.node, d + x.path.length) := by
  cases es with
  | nil => rfl
  | cons e es =>
    rw [Element.listOutline, Element.outline_eq_map (d + 1) e,
      Element.listOutline_eq_map d (i + 1) es, Element.listOccurrences, List.map_append,
      List.map_map]
    refine congrArg (· ++ _) (List.map_congr_left fun x _ => ?_)
    simp only [Function.comp, Occurrence.under, List.length_cons, Nat.add_assoc, Nat.add_comm 1]

end

theorem Element.outline_map_fst (d : Nat) (e : Element) :
    (e.outline d).map Prod.fst = e.nodes := by
  rw [e.outline_eq_map, List.map_map, ← e.occurrences_map_node]
  rfl

theorem Element.length_outline (d : Nat) (e : Element) : (e.outline d).length = e.mass := by
  rw [← e.length_nodes, ← e.outline_map_fst d, List.length_map]

theorem Element.mem_outline (d : Nat) (e : Element) (m : Tree) (l : Nat) :
    (m, l) ∈ e.outline d ↔ ∃ path, l = d + path.length ∧ e.at? path = some (.node m) := by
  rw [e.outline_eq_map, List.mem_map]
  constructor
  · rintro ⟨⟨path, n⟩, found, same⟩
    cases same
    exact ⟨path, rfl, Element.mem_occurrences.1 found⟩
  · rintro ⟨path, rfl, there⟩
    exact ⟨⟨path, m⟩, Element.mem_occurrences.2 there, rfl⟩

/-! ### What a log shows of dispatched nodes -/

/-- The label and the depth in the span of a dispatched node. -/
def LogEntry.dispatch? : LogEntry → Option (String × Nat)
  | .span _ (.nodeDispatched tag depth) => some (tag, depth)
  | _ => none

/-- The dispatched nodes in the most verbose log. -/
def dispatches (j : List (Step σ)) : List (String × Nat) :=
  (logOf Level.trace.verbosity j).filterMap LogEntry.dispatch?

/-- What the spans of some nodes look like. -/
def shown (nodes : List (Tree × Nat)) : List (String × Nat) := nodes.map fun x => (x.1.label, x.2)

theorem dispatches_append (i j : List (Step σ)) :
    dispatches (i ++ j) = dispatches i ++ dispatches j := by
  simp only [dispatches, logOf, List.filterMap_append, List.filter_append]

/-- All of the whole, or at least a first part of it if there was an error. -/
def Shows (r : Except ProcessError α) (part whole : List (String × Nat)) : Prop :=
  part <+: whole ∧ (r.isOk = true → part = whole)

namespace Shows

variable {r : Except ProcessError α} {part whole part' whole' : List (String × Nat)}

theorem nothing (e : ProcessError) (whole : List (String × Nat)) :
    Shows (.error e : Except ProcessError α) [] whole := ⟨List.nil_prefix, nofun⟩

theorem bind (h : Shows r part whole) (f : α → Except ProcessError β) :
    Shows (r.bind f) part whole := by
  refine ⟨h.1, fun ok => h.2 ?_⟩
  cases r with
  | error e => cases ok
  | ok a => rfl

theorem cons (h : Shows r part whole) (x : String × Nat) : Shows r (x :: part) (x :: whole) :=
  ⟨List.prefix_cons_inj x |>.2 h.1, fun ok => congrArg (x :: ·) (h.2 ok)⟩

/-- After an error nothing more is shown. -/
theorem stop {e : ProcessError} (h : Shows (.error e : Except ProcessError α) part whole)
    (more : List (String × Nat)) :
    Shows (.error e : Except ProcessError β) part (whole ++ more) :=
  ⟨h.1.trans (List.prefix_append _ _), nofun⟩

theorem append {a : α} (first : Shows (.ok a : Except ProcessError α) part whole)
    {r : Except ProcessError β} (rest : Shows r part' whole') :
    Shows r (part ++ part') (whole ++ whole') := by
  rw [first.2 rfl]
  exact ⟨List.prefix_append_right_inj whole |>.2 rest.1, fun ok => congrArg (whole ++ ·) (rest.2 ok)⟩

end Shows

namespace Processor

theorem dispatches_opening (n : Tree) (s : Session σ) :
    dispatches (opening n s) = [(n.label, s.context.length)] := by
  rw [opening, dispatches_append]
  unfold traceBefore
  split <;> rfl

theorem dispatches_closing (config : Config) (n : Tree) (r : Reply) :
    dispatches (closing config n r : List (Step σ)) = [] := by
  rw [closing, dispatches_append]
  unfold traceAfter
  split
  · rfl
  · split <;> rfl

theorem dispatches_entered (n : Tree) (s : Session σ) (q : Outcome σ Reply) :
    dispatches (entered n s q).journal = (n.label, s.context.length) :: dispatches q.journal := by
  simp only [entered, dispatches_append, dispatches_opening, dispatches_closing, List.append_nil,
    List.singleton_append]

/-! ### The walk -/

theorem eachNode_shows {f : Tree → Run σ (Except ProcessError Tree)} {d : Nat} {es : List Element}
    {s : Session σ} (hf : ∀ m, .node m ∈ es → ∃ r j, f m s = some ⟨r, s, j⟩ ∧
      Shows r (dispatches j) (shown ((Element.node m).outline d))) :
    ∃ r left j, eachNode f es s = some ⟨(r, left), s, j⟩ ∧
      Shows r (dispatches j) (shown (Element.listOutline d es)) := by
  induction es with
  | nil => exact ⟨.ok [], [], [], rfl, List.prefix_rfl, fun _ => rfl⟩
  | cons e es ih =>
    obtain ⟨r, left, j, rest, shows⟩ := ih fun m hm => hf m (List.mem_cons_of_mem _ hm)
    cases e with
    | atom a =>
      refine ⟨r.map (.atom a :: ·), left, j, ?_, ?_⟩
      · rw [eachNode_atom, rest]
        rfl
      · have kept := shows.bind fun vs => .ok (.atom a :: vs)
        cases r <;> exact kept
    | node m =>
      obtain ⟨a, i, first, shown_first⟩ := hf m List.mem_cons_self
      rw [eachNode_node, first, Option.bind_some, Element.listOutline, shown, List.map_append]
      cases a with
      | error err => exact ⟨.error err, es, i, rfl, shown_first.stop _⟩
      | ok v =>
        refine ⟨r.map (.node v :: ·), left, i ++ j, ?_, ?_⟩
        · simp only [rest]
          rfl
        · rw [dispatches_append]
          have both := (shown_first.append shows).bind fun vs => .ok (.node v :: vs)
          cases r <;> exact both

/-- Nobody handles or rewrites anything, and that is no reason to refuse it. -/
structure Unattended (p : Processor σ) (config : Config) : Prop where
  handlers : p.registry.handlers = ∅
  rewriters : p.registry.rewriters = ∅
  lenient : config.strict = false

variable {p : Processor σ} {s : Session σ}

theorem Unattended.service (h : p.Unattended s.config) {n : Tree}
    (admitted : isExcluded s.config n.tagName? = false) : p.service s.config n = .walker := by
  have none_found (tag : String) : p.registry.handlers.find? tag = none := by
    rw [h.handlers]
    rfl
  exact service_walker_iff.2 ⟨isExcluded_eq_false_iff.1 admitted, fun tag _ => none_found tag,
    fun tag _ => none_found tag, h.lenient⟩

/-- A call in any context: its nodes are shown below the nodes of the context. -/
theorem Unattended.process_shows (h : p.Unattended s.config) (k : Nat) (n : Tree)
    (hk : n.depth ≤ k) :
    ∃ r j, p.process k n s = some ⟨r, s, j⟩ ∧
      Shows r.result (dispatches j) (shown ((Element.node n).outline s.context.length)) := by
  induction k generalizing n s with
  | zero => exact absurd hk (by simp [Node.depth])
  | succ k ih =>
    rw [process_ready (prepare_unrewritten h.rewriters _ n s), Element.outline_node, shown,
      List.map_cons]
    cases excluded : isExcluded s.config n.tagName? with
    | true =>
      have refused : p.service s.config n = .refused (.unsupported n.label) := by
        rw [Processor.service, if_pos excluded]
      rw [enter_refused refused]
      refine ⟨_, _, rfl, ?_⟩
      rw [List.nil_append, dispatches_entered]
      exact (Shows.nothing _ _).cons _
    | false =>
      have children : ∀ m, .node m ∈ n.elements → ∃ r j,
          walkChild (p.calls k) n.label m (s.enter n.label) = some ⟨r, s.enter n.label, j⟩ ∧
            Shows r (dispatches j) (shown ((Element.node m).outline (s.context.length + 1))) := by
        intro m hm
        have shallower : m.depth ≤ Element.listDepth n.elements := depth_le_listDepth hm
        rw [Node.depth] at hk
        obtain ⟨r, j, run, shows⟩ := ih (s := s.enter n.label) h m (by omega)
        refine ⟨_, j, ?_, shows.bind (keepChild n.label)⟩
        rw [walkChild_apply, show (p.calls k).process m _ = _ from run]
        rfl
      obtain ⟨r, left, j, walked, shows⟩ := eachNode_shows children
      rw [enter_walker (h.service excluded), walk_apply, walkElements_eq,
        show (installed s.config n).elements = n.elements from rfl, walked]
      refine ⟨_, _, rfl, ?_⟩
      rw [List.nil_append, dispatches_entered]
      exact (shows.bind _).cons _

/-- Where nobody handles or rewrites anything, a call from outside dispatches each node once and in
document order. If it succeeds, its spans are the root and the nested nodes, each before those
inside it, with their levels: as many as the tree has nodes. If it fails, they are a first part of
that. The level of a node is the length of the path to it. -/
theorem dispatched_in_document_order (p : Processor σ) (s : Session σ)
    (h : p.Unattended s.config) (outside : s.context = []) (n : Tree) (k : Nat)
    (hk : n.depth ≤ k) :
    (∃ r j, p.process k n s = some ⟨r, s, j⟩ ∧
      (∀ v, r.result = .ok v →
        dispatches j = shown n.outline ∧ (dispatches j).length = n.mass) ∧
      ∀ e, r.result = .error e → dispatches j <+: shown n.outline) ∧
    n.outline.map Prod.fst = n :: n.descendants ∧
    ∀ m d, (m, d) ∈ n.outline ↔ ∃ path, d = path.length ∧ n.at? path = some (.node m) := by
  refine ⟨?_, Element.outline_map_fst 0 (.node n), fun m d => ?_⟩
  · obtain ⟨r, j, run, part, all⟩ := h.process_shows k n hk
    rw [outside] at part all
    refine ⟨r, j, run, fun v ok => ?_, fun e _ => part⟩
    have whole := all (by rw [ok]; rfl)
    refine ⟨whole, ?_⟩
    rw [whole, shown, List.length_map]
    exact Element.length_outline 0 (.node n)
  · have level := Element.mem_outline 0 (.node n) m d
    simp only [Nat.zero_add] at level
    exact level

end Processor

/-- An empty node, a node that starts with another, and a node inside one with an excluded tag. -/
def outlinedTree : Tree :=
  .ofElements [.atom (.symbol "a"), .node .empty,
    .node (.ofElements [.atom (.int 1), .node (.tagged (.symbol "b"))]),
    .node (.ofElements [.atom (.symbol "c"), .node (.tagged (.symbol "d"))])]

def outlineSession (excluded : List String) : Session Unit :=
  { config := { excludedTags := .ofList excluded }, state := () }

/-- The whole outline, and a first part of it if `c` is refused. -/
theorem dispatched_in_document_order_refused :
    (∃ r j, (⟨"Test", ∅⟩ : Processor Unit).process 3 outlinedTree (outlineSession []) =
        some ⟨r, outlineSession [], j⟩ ∧ r.result.isOk = true ∧
      dispatches j = [("a", 0), ("nil", 1), ("nil", 1), ("b", 2), ("c", 1), ("d", 2)]) ∧
    ∃ r j, (⟨"Test", ∅⟩ : Processor Unit).process 3 outlinedTree (outlineSession ["c"]) =
        some ⟨r, outlineSession ["c"], j⟩ ∧ r.result.isOk = false ∧
      dispatches j <+: [("a", 0), ("nil", 1), ("nil", 1), ("b", 2), ("c", 1), ("d", 2)] := by
  have order (excluded : List String) := Processor.dispatched_in_document_order
    (⟨"Test", ∅⟩ : Processor Unit) (outlineSession excluded) ⟨rfl, rfl, rfl⟩ rfl outlinedTree 3
    (by decide)
  have passed : ((⟨"Test", ∅⟩ : Processor Unit).process 3 outlinedTree (outlineSession [])).map
      (·.value.result.isOk) = some true := by
    decide +kernel
  have refused : ((⟨"Test", ∅⟩ : Processor Unit).process 3 outlinedTree (outlineSession ["c"])).map
      (·.value.result.isOk) = some false := by
    decide +kernel
  constructor
  · obtain ⟨⟨⟨result, rest⟩, j, run, all, -⟩, -⟩ := order []
    rw [run] at passed
    cases result with
    | error e => cases passed
    | ok v => exact ⟨_, j, run, rfl, (all v rfl).1⟩
  · obtain ⟨⟨⟨result, rest⟩, j, run, -, part⟩, -⟩ := order ["c"]
    rw [run] at refused
    cases result with
    | error e => exact ⟨_, j, run, rfl, part e rfl⟩
    | ok v => cases refused

end TagDispatch
