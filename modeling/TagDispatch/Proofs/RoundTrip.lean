import TagDispatch.Proofs.Service
import TagDispatch.Proofs.Untouched

/-!
A tree that nobody handles is rebuilt as it was, but for its field names, unless something in it is
refused. What is refused is said of the tree alone, in the order in which a walk meets it: nodes
with an excluded tag when they are entered, and children that start with a node when they have been
walked.
-/

namespace TagDispatch

variable {σ α β : Type}

/-! ### What a walk refuses -/

/-- Element 0 is a node. -/
def Node.startsWithNode (n : Tree) : Bool := n.elements.head?.any Element.isNode

/-- What is wrong with a node when it is entered. -/
def entryViolations (config : Config) (n : Tree) : List ProcessError :=
  if n.tagName?.any config.excludedTags.contains then [.unsupported n.label] else []

/-- What is wrong with a child when it has been walked; `label` is that of the node around it. -/
def childViolations (label : String) (n : Tree) : List ProcessError :=
  if n.startsWithNode then [.malformed label (.untagged n.withoutFields)] else []

mutual

def Element.violations (config : Config) (label : String) : Element → List ProcessError
  | .atom _ => []
  | .node ⟨es, fields, line⟩ =>
    let n : Tree := ⟨es, fields, line⟩
    entryViolations config n ++ Element.listViolations config n.label es ++ childViolations label n

def Element.listViolations (config : Config) (label : String) : List Element → List ProcessError
  | [] => []
  | e :: es => e.violations config label ++ Element.listViolations config label es

end

/-- All that is wrong with a tree, in the order of a walk. -/
def Node.violations (config : Config) (n : Tree) : List ProcessError :=
  entryViolations config n ++ Element.listViolations config n.label n.elements

theorem Element.violations_node (config : Config) (label : String) (n : Tree) :
    (Element.node n).violations config label = n.violations config ++ childViolations label n :=
  rfl

/-- No node of the tree has an excluded tag, and no nested one starts with a node. -/
structure Node.Walkable (config : Config) (n : Tree) : Prop where
  supported : ∀ m ∈ n :: n.descendants, ∀ tag, m.tagName? = some tag →
    config.excludedTags.contains tag = false
  tagged : ∀ m ∈ n.descendants, m.startsWithNode = false

theorem entryViolations_eq_nil {config : Config} {n : Tree} :
    entryViolations config n = [] ↔
      ∀ tag, n.tagName? = some tag → config.excludedTags.contains tag = false := by
  rw [← Option.any_eq_false]
  simp [entryViolations]

theorem childViolations_eq_nil {label : String} {n : Tree} :
    childViolations label n = [] ↔ n.startsWithNode = false := by
  simp [childViolations]

mutual

theorem Element.violations_eq_nil (config : Config) (label : String) (e : Element) :
    e.violations config label = [] ↔ ∀ m ∈ e.nodes,
      (∀ tag, m.tagName? = some tag → config.excludedTags.contains tag = false) ∧
        m.startsWithNode = false := by
  cases e with
  | atom a => simp [Element.violations, Element.nodes]
  | node n =>
    obtain ⟨es, fields, line⟩ := n
    have inner := Element.listViolations_eq_nil config (Node.label ⟨es, fields, line⟩) es
    simp only [Element.violations, Element.nodes, List.append_eq_nil_iff, entryViolations_eq_nil,
      childViolations_eq_nil, inner, List.forall_mem_cons]
    exact and_right_comm

theorem Element.listViolations_eq_nil (config : Config) (label : String) (es : List Element) :
    Element.listViolations config label es = [] ↔ ∀ m ∈ Element.listNodes es,
      (∀ tag, m.tagName? = some tag → config.excludedTags.contains tag = false) ∧
        m.startsWithNode = false := by
  cases es with
  | nil => simp [Element.listViolations, Element.listNodes]
  | cons e es =>
    have first := Element.violations_eq_nil config label e
    have rest := Element.listViolations_eq_nil config label es
    simp only [Element.listViolations, Element.listNodes, List.append_eq_nil_iff, first, rest,
      List.forall_mem_append]

end

theorem Node.violations_eq_nil {config : Config} {n : Tree} :
    n.violations config = [] ↔ n.Walkable config := by
  rw [Node.violations, List.append_eq_nil_iff, entryViolations_eq_nil,
    Element.listViolations_eq_nil]
  constructor
  · rintro ⟨root, nested⟩
    exact ⟨List.forall_mem_cons.2 ⟨root, fun m hm => (nested m hm).1⟩, fun m hm => (nested m hm).2⟩
  · rintro ⟨supported, tagged⟩
    obtain ⟨root, nested⟩ := List.forall_mem_cons.1 supported
    exact ⟨root, fun m hm => ⟨nested m hm, tagged m hm⟩⟩

/-! ### The first of some errors -/

/-- The first of the errors, or `a` if there is none. -/
def firstOr : List ProcessError → α → Except ProcessError α
  | [], a => .ok a
  | e :: _, _ => .error e

theorem firstOr_bind (xs : List ProcessError) {a : α} {b : β} {f : α → Except _ β}
    (hf : f a = .ok b) : (firstOr xs a).bind f = firstOr xs b := by
  cases xs with
  | nil => exact hf
  | cons e xs => rfl

theorem firstOr_append_bind (xs ys : List ProcessError) (a : α) (b : β) {f : α → Except _ β}
    (hf : f a = firstOr ys b) : (firstOr xs a).bind f = firstOr (xs ++ ys) b := by
  cases xs with
  | nil => exact hf
  | cons e xs => rfl

theorem ResultType.accepts_node {t : ResultType} (h : t = .sexp ∨ t = .any) (n : Tree) :
    t.accepts (.node n) = true := by
  rcases h with rfl | rfl <;> rfl

namespace Processor

/-! ### The walk -/

theorem keepChild_withoutFields (label : String) (n : Tree) :
    keepChild label (.node n.withoutFields) =
      firstOr (childViolations label n) n.withoutFields := by
  obtain ⟨es, fields, line⟩ := n
  rcases es with _ | ⟨_ | m, es⟩ <;> rfl

/-- A rebuilt node has its tag already. -/
theorem retag_withoutFields (n : Tree) (fields : List String) :
    retag (n.setFields fields) n.withoutFields = n.withoutFields := by
  obtain ⟨es, _, line⟩ := n
  rcases es with _ | ⟨_ | m, es⟩ <;> rfl

theorem eachNode_firstOr {f : Tree → Run σ (Except ProcessError Tree)} {config : Config}
    {label : String} {es : List Element} {s : Session σ}
    (hf : ∀ m, .node m ∈ es → ∃ j, f m s =
      some ⟨firstOr ((Element.node m).violations config label) m.withoutFields, s, j⟩) :
    ∃ left j, eachNode f es s =
      some ⟨(firstOr (Element.listViolations config label es) (Element.listWithoutFields es), left),
        s, j⟩ ∧ (Element.listViolations config label es = [] → left = []) := by
  induction es with
  | nil => exact ⟨[], [], rfl, fun _ => rfl⟩
  | cons e es ih =>
    obtain ⟨left, j, rest, hl⟩ := ih fun m hm => hf m (List.mem_cons_of_mem _ hm)
    rw [Element.listViolations]
    cases e with
    | atom a =>
      refine ⟨left, j, ?_, hl⟩
      rw [eachNode_atom, rest]
      cases Element.listViolations config label es <;> rfl
    | node m =>
      obtain ⟨i, first⟩ := hf m List.mem_cons_self
      rw [eachNode_node, first, Option.bind_some]
      cases (Element.node m).violations config label with
      | cons err errs => exact ⟨es, i, rfl, fun h => by cases h⟩
      | nil =>
        refine ⟨left, i ++ j, ?_, hl⟩
        simp only [firstOr, rest, Option.map_some, List.nil_append]
        cases Element.listViolations config label es <;> rfl

theorem depth_le_listDepth {e : Element} {es : List Element} (h : e ∈ es) :
    e.depth ≤ Element.listDepth es := by
  induction es with
  | nil => cases h
  | cons x es ih =>
    rw [Element.listDepth]
    rcases List.mem_cons.1 h with rfl | h
    · omega
    · have := ih h
      omega

/-- Nobody handles or rewrites anything, and every node is as good as any other. -/
structure WalksAll (p : Processor σ) (config : Config) : Prop where
  handlers : p.registry.handlers = ∅
  rewriters : p.registry.rewriters = ∅
  lenient : config.strict = false
  expected : config.expected = .sexp ∨ config.expected = .any

variable {p : Processor σ} {s : Session σ}

theorem WalksAll.service (h : p.WalksAll s.config) {n : Tree}
    (hn : isExcluded s.config n.tagName? = false) : p.service s.config n = .walker := by
  have none_found (tag : Option String) : tag.bind p.registry.handlers.find? = none := by
    rw [h.handlers]
    cases tag <;> rfl
  simp [Processor.service, hn, resolve, none_found, h.lenient]

theorem WalksAll.checkType (h : p.WalksAll s.config) (label : String) (copy : Option Tree)
    (n : Tree) : p.checkType s.config label copy (.node n) = .ok (.node n) := by
  rw [Processor.checkType, if_pos (ResultType.accepts_node h.expected n)]

theorem WalksAll.rebuild (h : p.WalksAll s.config) (n : Tree) (errors : List ProcessError) :
    ((firstOr errors (Element.listWithoutFields n.elements)).bind fun es =>
      p.checkType (s.enter n.label).config n.label (p.snapshot s.config n)
        (.node (retag (installed s.config n) ⟨es, [], (installed s.config n).line⟩))) =
      firstOr errors (.node n.withoutFields) := by
  refine firstOr_bind errors ?_
  change p.checkType s.config n.label _ (.node (retag (installed s.config n) n.withoutFields)) = _
  rw [installed, retag_withoutFields, h.checkType]

/-- What processing comes to where all is walked, with an allowance of the depth of the tree. -/
theorem WalksAll.process (h : p.WalksAll s.config) (k : Nat) (n : Tree) (hk : n.depth ≤ k) :
    ∃ rest j, p.process k n s =
        some ⟨⟨firstOr (n.violations s.config) (.node n.withoutFields), rest⟩, s, j⟩ ∧
      (n.violations s.config = [] → rest.isEmpty = true) := by
  induction k generalizing n s with
  | zero => exact absurd hk (by simp [Node.depth])
  | succ k ih =>
    rw [process_ready (prepare_unrewritten h.rewriters _ n s), Node.violations, entryViolations,
      ← isExcluded_eq_any]
    cases hx : isExcluded s.config n.tagName? with
    | true =>
      have refused : p.service s.config n = .refused (.unsupported n.label) := by
        rw [Processor.service, if_pos hx]
      rw [enter_refused refused]
      exact ⟨_, _, rfl, fun clean => by cases clean⟩
    | false =>
      have children : ∀ m, .node m ∈ n.elements → ∃ j,
          walkChild (p.calls k) n.label m (s.enter n.label) =
            some ⟨firstOr ((Element.node m).violations s.config n.label) m.withoutFields,
              s.enter n.label, j⟩ := by
        intro m hm
        have hd : m.depth ≤ Element.listDepth n.elements := depth_le_listDepth hm
        rw [Node.depth] at hk
        obtain ⟨rest, j, run, -⟩ := ih (s := s.enter n.label) h m (by omega)
        refine ⟨j, ?_⟩
        rw [walkChild_apply, show (p.calls k).process m _ = _ from run, Element.violations_node]
        simp only [Option.map_some, Outcome.map]
        rw [firstOr_append_bind _ _ _ _ (keepChild_withoutFields n.label m)]
        rfl
      obtain ⟨left, j, walked, hl⟩ := eachNode_firstOr children
      rw [enter_walker (h.service hx), walk_apply, walkElements_eq,
        show (installed s.config n).elements = n.elements from rfl, walked]
      simp only [Option.map_some]
      rw [h.rebuild]
      refine ⟨_, _, rfl, fun clean => ?_⟩
      rw [hl clean]
      rfl

/-- A processor without handlers and rewriters gives every tree back as it is, but for its field
names, unless a node in it has an excluded tag or a nested node starts with a node; then it fails
with the first of these that a walk meets. It changes nothing else. -/
theorem unhandled_round_trip (p : Processor σ) (s : Session σ) (h : p.WalksAll s.config)
    (n : Tree) (k : Nat) (hk : n.depth ≤ k) :
    ∃ r j, p.process k n s = some ⟨r, s, j⟩ ∧
      ((∃ v, r.result = .ok v) ↔ n.Walkable s.config) ∧
      (n.Walkable s.config → r.result = .ok (.node n.withoutFields) ∧ r.rest.isEmpty = true) ∧
      (¬ n.Walkable s.config →
        ∃ e, (n.violations s.config).head? = some e ∧ r.result = .error e) := by
  obtain ⟨rest, j, run, hrest⟩ := h.process k n hk
  refine ⟨_, j, run, ?_⟩
  rw [← Node.violations_eq_nil]
  cases hv : n.violations s.config with
  | nil =>
    refine ⟨⟨fun _ => rfl, fun _ => ⟨_, rfl⟩⟩, fun _ => ⟨rfl, hrest hv⟩, fun refused => ?_⟩
    exact absurd rfl refused
  | cons e es =>
    refine ⟨⟨?_, nofun⟩, nofun, fun _ => ⟨e, rfl, rfl⟩⟩
    rintro ⟨v, ok⟩
    cases ok

end Processor

/-- A root that starts with a node, and a nested node with a line and a field name. -/
def keptTree : Tree :=
  ⟨[.node (.tagged (.symbol "head")), .node ⟨[.atom (.symbol "leaf"), .atom (.int 3)], ["value"],
    some 7⟩], [], some 6⟩

/-- A child that starts with a node, and after it one with an excluded tag. -/
def refusedTree : Tree :=
  .ofElements [.atom (.symbol "wrap"), .node (.ofElements [.node (.tagged (.symbol "head"))]),
    .node (.tagged (.symbol "bad"))]

def excludingSession : Session Unit :=
  { config := Config.withExcluded {} "bad", state := (), context := ["outer"] }

theorem unhandled_round_trip_both_ways :
    (∃ r j, (⟨"Test", ∅⟩ : Processor Unit).process 2 keptTree excludingSession =
        some ⟨r, excludingSession, j⟩ ∧
      r.result = .ok (.node ⟨[.node (.tagged (.symbol "head")),
        .node ⟨[.atom (.symbol "leaf"), .atom (.int 3)], [], some 7⟩], [], some 6⟩) ∧
      r.rest.isEmpty = true) ∧
    ∃ r j, (⟨"Test", ∅⟩ : Processor Unit).process 3 refusedTree excludingSession =
        some ⟨r, excludingSession, j⟩ ∧
      r.result = .error (.malformed "wrap" (.untagged
        (.ofElements [.node (.tagged (.symbol "head"))]))) := by
  have h : (⟨"Test", ∅⟩ : Processor Unit).WalksAll excludingSession.config :=
    ⟨rfl, rfl, rfl, .inl rfl⟩
  have kept : keptTree.Walkable excludingSession.config := Node.violations_eq_nil.1 rfl
  have refused : ¬ refusedTree.Walkable excludingSession.config := fun hw => by
    cases Node.violations_eq_nil.2 hw
  constructor
  · obtain ⟨r, j, run, -, ok, -⟩ := Processor.unhandled_round_trip _ _ h keptTree 2 (by decide)
    exact ⟨r, j, run, ok kept⟩
  · obtain ⟨r, j, run, -, -, failed⟩ :=
      Processor.unhandled_round_trip _ _ h refusedTree 3 (by decide)
    obtain ⟨e, first, he⟩ := failed refused
    cases first
    exact ⟨r, j, run, he⟩

end TagDispatch
