import TagDispatch.Proofs.Nesting
import TagDispatch.Proofs.RoundTrip
import TagDispatch.Proofs.Table

/-!
Processing with nothing but the dummy handler, which serves every node by default. The result is
said of the tree alone: every node stands under a new tag `dummy`, with all its elements, the old
tag among them. Options that could make a difference to a handler make none here.
-/

namespace TagDispatch

variable {σ : Type}

/-! ### Trees of dummies -/

mutual

/-- Every node under a new tag, without its line and its field names. -/
def Element.dummied : Element → Element
  | .atom a => .atom a
  | .node ⟨es, _, _⟩ => .node (.ofElements (.atom (.symbol "dummy") :: Element.listDummied es))

def Element.listDummied : List Element → List Element
  | [] => []
  | e :: es => e.dummied :: Element.listDummied es

end

def Node.dummied (n : Tree) : Tree :=
  .ofElements (.atom (.symbol "dummy") :: Element.listDummied n.elements)

mutual

theorem Element.mass_dummied (e : Element) : e.dummied.mass = e.mass := by
  cases e with
  | atom a => rfl
  | node n =>
    obtain ⟨es, fields, line⟩ := n
    have inner := Element.listMass_dummied es
    simp only [Element.dummied, Node.ofElements, Element.mass, Element.listMass]
    omega

theorem Element.listMass_dummied (es : List Element) :
    Element.listMass (Element.listDummied es) = Element.listMass es := by
  cases es with
  | nil => rfl
  | cons e es =>
    rw [Element.listDummied, Element.listMass, Element.mass_dummied e,
      Element.listMass_dummied es, Element.listMass]

end

mutual

theorem Element.depth_dummied (e : Element) : e.dummied.depth = e.depth := by
  cases e with
  | atom a => rfl
  | node n =>
    obtain ⟨es, fields, line⟩ := n
    have inner := Element.listDepth_dummied es
    simp only [Element.dummied, Node.ofElements, Element.depth, Element.listDepth]
    omega

theorem Element.listDepth_dummied (es : List Element) :
    Element.listDepth (Element.listDummied es) = Element.listDepth es := by
  cases es with
  | nil => rfl
  | cons e es =>
    rw [Element.listDummied, Element.listDepth, Element.depth_dummied e,
      Element.listDepth_dummied es, Element.listDepth]

end

/-- The nodes of an element are among those of a list with it. -/
theorem Element.mem_listNodes {n m : Tree} {es : List Element} (hn : .node n ∈ es)
    (hm : m ∈ n :: n.descendants) : m ∈ Element.listNodes es := by
  induction es with
  | nil => cases hn
  | cons e es ih =>
    rcases List.mem_cons.1 hn with rfl | hn
    · exact List.mem_append_left _ hm
    · exact List.mem_append_right _ (ih hn)

/-! ### The handler -/

namespace Code

/-- The handler goes through all elements of its node if each nested node becomes a dummy. -/
theorem processAll_dummied (self : Profile) {c : Calls σ} {es : List Element} {s : Session σ}
    (hc : ∀ m, .node m ∈ es →
      ∃ rest j, c.process m s = some ⟨⟨.ok (.node m.dummied), rest⟩, s, j⟩) :
    ∃ j, (processAll es).run self c s = some ⟨(.ok (Element.listDummied es), []), s, j⟩ := by
  induction es with
  | nil => exact ⟨[], rfl⟩
  | cons e es ih =>
    obtain ⟨j, tail⟩ := ih fun m hm => hc m (List.mem_cons_of_mem _ hm)
    have rest (v : Element) : ((processAll es).bind fun r => done (r.1.map (v :: ·), r.2)).run self
        c s = some ⟨(.ok (v :: Element.listDummied es), []), s, j ++ []⟩ := run_bind tail _
    cases e with
    | atom a => exact ⟨j ++ [], rest (.atom a)⟩
    | node m =>
      obtain ⟨left, i, first⟩ := hc m List.mem_cons_self
      exact ⟨i ++ (j ++ []), Run.bind_eq_some.2 ⟨_, _, first, rest (.node m.dummied), rfl⟩⟩

theorem dummy_dummied (self : Profile) {c : Calls σ} {n : Tree} {s : Session σ}
    (hc : ∀ m, .node m ∈ n.elements →
      ∃ rest j, c.process m s = some ⟨⟨.ok (.node m.dummied), rest⟩, s, j⟩) :
    ∃ j, (dummy n).run self c s =
      some ⟨⟨.ok (.node n.dummied), { n with elements := [] }⟩, s, j⟩ := by
  obtain ⟨j, all⟩ := processAll_dummied self hc
  exact ⟨j ++ [], run_bind all _⟩

end Code

/-! ### The processor -/

namespace Processor

/-- The only handler is the dummy handler, and it is the default; results may be nodes. Nothing is
said of the other options, nor of recovery hooks. -/
structure DummiesAll (p : Processor σ) (config : Config) : Prop where
  handlers : p.registry.handlers = .ofList [("dummy", Code.dummy)]
  rewriters : p.registry.rewriters = ∅
  standIn : config.defaultHandler = some "dummy"
  expected : config.expected = .sexp ∨ config.expected = .any

variable {p : Processor σ} {s : Session σ}

/-- Nodes with the tag `dummy` have the handler for their own, but it counts as the default one. -/
theorem DummiesAll.service (h : p.DummiesAll s.config) {n : Tree}
    (hn : isExcluded s.config n.tagName? = false) :
    p.service s.config n = .handler Code.dummy true := by
  have found (tag : String) : p.registry.handlers.find? tag =
      if tag = "dummy" then some Code.dummy else none := by
    rw [h.handlers]
    exact Table.find?_insert ∅ "dummy" tag Code.dummy
  have standIn : s.config.defaultHandler.bind p.registry.handlers.find? = some Code.dummy := by
    simp [h.standIn, found]
  have resolved : p.resolve s.config n.tagName? = some (Code.dummy, true) := by
    unfold resolve
    cases n.tagName? with
    | none => simp [standIn]
    | some tag =>
      by_cases own : tag = "dummy"
      · simp [found, own, h.standIn]
      · simp [found, own, h.standIn]
  simp [Processor.service, hn, resolved]

theorem DummiesAll.checkHandled (h : p.DummiesAll s.config) (label : String) (copy : Option Tree)
    (n rest : Tree) (consumed : rest.isEmpty = true) :
    p.checkHandled s.config label copy (.node n) rest = .ok (.node n) := by
  simp [Processor.checkHandled, checkType, ResultType.accepts_node h.expected n, consumed]

theorem DummiesAll.process (h : p.DummiesAll s.config) (k : Nat) (n : Tree)
    (supported : ∀ m ∈ n :: n.descendants, ∀ tag, m.tagName? = some tag →
      s.config.excludedTags.contains tag = false) (hk : n.depth ≤ k) :
    ∃ rest j, p.process k n s = some ⟨⟨.ok (.node n.dummied), rest⟩, s, j⟩ ∧
      rest.isEmpty = true := by
  induction k generalizing n s with
  | zero => exact absurd hk (by simp [Node.depth])
  | succ k ih =>
    have children : ∀ m, .node m ∈ n.elements → ∃ rest j, (p.calls k).process m
        (s.enter n.label) = some ⟨⟨.ok (.node m.dummied), rest⟩, s.enter n.label, j⟩ := by
      intro m hm
      have shallower : m.depth ≤ Element.listDepth n.elements := depth_le_listDepth hm
      rw [Node.depth] at hk
      obtain ⟨rest, j, run, -⟩ := ih (s := s.enter n.label) h m (fun x hx =>
        supported x (List.mem_cons_of_mem _ (Element.mem_listNodes hm hx))) (by omega)
      exact ⟨rest, j, run⟩
    have served := h.service (isExcluded_eq_false_iff.2 (supported n List.mem_cons_self))
    have elements : (given s.config true n).elements = n.elements := by
      simp [given, handed, installed, Node.setFields]
    obtain ⟨j, returned⟩ := Code.dummy_dummied p.profile (c := p.calls k)
      (n := given s.config true n) (elements ▸ children)
    have run := process_ready (prepare_unrewritten h.rewriters (p.calls k) n s)
    have same : (given s.config true n).dummied = n.dummied := by
      rw [Node.dummied, elements, Node.dummied]
    have checked := h.checkHandled n.label (p.snapshot s.config n) n.dummied
      { given s.config true n with elements := [] } rfl
    rw [enter_returned served returned, same, show p.checkHandled (s.enter n.label).config _ _ _ _ =
      _ from checked] at run
    exact ⟨_, _, run, rfl⟩

/-- Where the dummy handler is all there is, and the default, every tree without excluded tags
becomes the tree of its dummies and is consumed, and the session stays as it was. The new tree has
as many nodes and levels. Whether a node has a tag, or the tag `dummy` already, makes no
difference, and neither do the options for what handlers get and leave. -/
theorem dummies_at_every_level (p : Processor σ) (s : Session σ) (h : p.DummiesAll s.config)
    (n : Tree) (supported : ∀ m ∈ n :: n.descendants, ∀ tag, m.tagName? = some tag →
      s.config.excludedTags.contains tag = false) (k : Nat) (hk : n.depth ≤ k) :
    (∃ rest j, p.process k n s = some ⟨⟨.ok (.node n.dummied), rest⟩, s, j⟩ ∧
      rest.isEmpty = true) ∧
    n.dummied.mass = n.mass ∧ n.dummied.depth = n.depth := by
  refine ⟨h.process k n supported hk, ?_, ?_⟩
  · exact (Element.node n).mass_dummied
  · exact (Element.node n).depth_dummied

end Processor

def dummyProcessor : Processor Unit := ⟨"Test", .ofList [.handler "dummy" Code.dummy]⟩

/-- Every option that could matter is on. -/
def dummySession : Session Unit :=
  { config := { defaultHandler := some "dummy", autoShiftTag := true, strict := true,
                captureSnapshot := true, expected := .any,
                excludedTags := .ofList ["bad"], fieldAccessors := .ofList [("dummy", ["first"])] },
    state := () }

/-- Three nodes inside a dummy: an empty one, one that starts with a node, and another dummy. -/
def dummyTree : Tree :=
  ⟨[.atom (.symbol "dummy"), .node .empty, .node (.ofElements [.node (.tagged (.str "dummy"))]),
    .atom (.int 3)], ["old"], some 5⟩

theorem dummies_at_every_level_mixed :
    ∃ rest j, dummyProcessor.process 3 dummyTree dummySession = some ⟨⟨.ok (.node (.ofElements
        [.atom (.symbol "dummy"), .atom (.symbol "dummy"), .node (.tagged (.symbol "dummy")),
          .node (.ofElements [.atom (.symbol "dummy"), .node (.ofElements
            [.atom (.symbol "dummy"), .atom (.str "dummy")])]), .atom (.int 3)])), rest⟩,
        dummySession, j⟩ ∧ rest.isEmpty = true := by
  have h : dummyProcessor.DummiesAll dummySession.config := ⟨rfl, rfl, rfl, .inr rfl⟩
  have supported : (dummyTree :: dummyTree.descendants).all (fun m =>
      Processor.isExcluded dummySession.config m.tagName? == false) = true := by
    decide +kernel
  refine (dummyProcessor.dummies_at_every_level dummySession h dummyTree (fun m hm => ?_) 3
    (by decide)).1
  exact Processor.isExcluded_eq_false_iff.1 (eq_of_beq (List.all_eq_true.1 supported m hm))

end TagDispatch
