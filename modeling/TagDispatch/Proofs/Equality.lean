import TagDispatch.Proofs.Substitution

/-!
When two trees are equal. Equality goes down both trees side by side and compares numbers as
numbers; it finds exactly the trees that are the same once lines, field names and the signs of zeros
are left out and that have no NaN. Its laws follow from that.
-/

namespace TagDispatch

/-! ### Leaving out what is not compared -/

namespace Atom

/-- Both zeros are the one without a sign. -/
def unsigned : Atom → Atom
  | float x => if x.isZero then float ⟨0⟩ else float x
  | a => a

theorem unsigned_of_isZero {a : Atom} (h : a.isZero = true) : a.unsigned = float ⟨0⟩ := by
  cases a with
  | float x => exact if_pos h
  | _ => cases h

theorem unsigned_of_not_isZero {a : Atom} (h : a.isZero = false) : a.unsigned = a := by
  cases a with
  | float x => exact if_neg (ne_true_of_eq_false h)
  | _ => rfl

theorem isZero_unsigned (a : Atom) : a.unsigned.isZero = a.isZero := by
  cases h : a.isZero with
  | true =>
    rw [unsigned_of_isZero h]
    decide
  | false => rw [unsigned_of_not_isZero h, h]

theorem unsigned_eq_iff {a b : Atom} : a.unsigned = b.unsigned ↔ a.UpToSign b := by
  constructor
  · intro h
    have zeros : a.isZero = b.isZero := by rw [← isZero_unsigned, h, isZero_unsigned]
    cases hb : b.isZero with
    | true => exact .inr ⟨zeros.trans hb, hb⟩
    | false =>
      rw [unsigned_of_not_isZero (zeros.trans hb), unsigned_of_not_isZero hb] at h
      exact .inl h
  · rintro (rfl | ⟨ha, hb⟩)
    · rfl
    · rw [unsigned_of_isZero ha, unsigned_of_isZero hb]

theorem isNaN_of_isZero {a : Atom} (h : a.isZero = true) : a.isNaN = false := by
  cases a with
  | float x => exact Binary64.isNaN_of_isZero h
  | _ => rfl

theorem same_iff_unsigned {a b : Atom} :
    a.same b = true ↔ a.unsigned = b.unsigned ∧ a.isNaN = false ∧ b.isNaN = false := by
  rw [same_iff, unsigned_eq_iff]
  constructor
  · rintro (⟨rfl, number⟩ | ⟨ha, hb⟩)
    · exact ⟨.inl rfl, number, number⟩
    · exact ⟨.inr ⟨ha, hb⟩, isNaN_of_isZero ha, isNaN_of_isZero hb⟩
  · rintro ⟨same | zeros, number, -⟩
    · exact .inl ⟨same, number⟩
    · exact .inr zeros

end Atom

mutual

/-- The element without field names and lines, at every depth. -/
def Element.bare : Element → Element
  | .atom a => .atom a
  | .node ⟨es, _, _⟩ => .node (.ofElements (Element.listBare es))

def Element.listBare : List Element → List Element
  | [] => []
  | e :: es => e.bare :: Element.listBare es

end

def Node.bare (n : Tree) : Tree := .ofElements (Element.listBare n.elements)

/-- What is compared. -/
def Element.content (e : Element) : Element := e.bare.mapAtoms .unsigned

namespace Element

theorem listBare_eq_map (es : List Element) : listBare es = es.map bare := by
  induction es with
  | nil => rfl
  | cons e es ih => rw [listBare, ih, List.map_cons]

theorem bare_node (n : Tree) : (Element.node n).bare = .node (.ofElements (n.elements.map bare)) :=
  congrArg (fun es => Element.node (.ofElements es)) (listBare_eq_map n.elements)

theorem content_node (n : Tree) :
    (Element.node n).content = .node (.ofElements (n.elements.map content)) := by
  rw [content, bare_node, mapAtoms_node, Node.mapAtoms]
  exact congrArg (fun es => Element.node (.ofElements es)) List.map_map

theorem content_node_inj {m n : Tree} :
    (Element.node m).content = (Element.node n).content ↔
      m.elements.map content = n.elements.map content := by
  rw [content_node, content_node]
  refine ⟨fun h => ?_, fun h => by rw [h]⟩
  exact congrArg Node.elements (Element.node.inj h)

/-! ### Side by side -/

/-- No atom is a NaN. -/
def Numeric (e : Element) : Prop := e.AllAtoms (·.isNaN = false)

/-- One level, if equality is known inside the first list. -/
theorem sameList_iff_of_inside {es : List Element}
    (inside : ∀ e ∈ es, ∀ f, e.same f = true ↔ e.content = f.content ∧ e.Numeric ∧ f.Numeric)
    (fs : List Element) :
    sameList es fs = true ↔ es.map content = fs.map content ∧
      (∀ e ∈ es, e.Numeric) ∧ ∀ f ∈ fs, f.Numeric := by
  induction es generalizing fs with
  | nil => cases fs <;> simp [sameList]
  | cons e es ih =>
    cases fs with
    | nil => simp [sameList]
    | cons f fs =>
      obtain ⟨first, others⟩ := List.forall_mem_cons.1 inside
      simp only [sameList, Bool.and_eq_true, first f, ih others fs, List.map_cons,
        List.cons.injEq, List.forall_mem_cons]
      constructor
      · rintro ⟨⟨h, he, hf⟩, hs, hes, hfs⟩
        exact ⟨⟨h, hs⟩, ⟨he, hes⟩, hf, hfs⟩
      · rintro ⟨⟨h, hs⟩, ⟨he, hes⟩, hf, hfs⟩
        exact ⟨⟨h, he, hf⟩, hs, hes, hfs⟩

theorem same_iff (e f : Element) :
    e.same f = true ↔ e.content = f.content ∧ e.Numeric ∧ f.Numeric := by
  induction e using Element.nested generalizing f with
  | leaf a =>
    cases f with
    | atom b =>
      simp only [Numeric, allAtoms_atom]
      rw [Element.same, Atom.same_iff_unsigned]
      exact and_congr_left' ⟨congrArg Element.atom, Element.atom.inj⟩
    | node n => exact ⟨nofun, fun h => by rw [content_node] at h; cases h.1⟩
  | inner m ih =>
    cases f with
    | atom b => exact ⟨nofun, fun h => by rw [content_node] at h; cases h.1⟩
    | node n =>
      rw [content_node_inj]
      simp only [Numeric, allAtoms_node]
      exact sameList_iff_of_inside ih n.elements

/-! ### Lines and field names -/

/-- The second element in the place of the first: the same atom, or a node of as many elements, with
whatever line and field names. -/
inductive Renoted : Element → Element → Prop
  | atom (a : Atom) : Renoted (.atom a) (.atom a)
  | node {n m : Tree} (size : m.size = n.size) : Renoted (.node n) (.node m)

/-- The empty path gives a node of the same length, and the longer ones give what is in it. -/
theorem bare_eq_of_renoted {e f : Element}
    (h : ∀ path, Option.Rel Renoted (e.at? path) (f.at? path)) : e.bare = f.bare := by
  induction e using Element.nested generalizing f with
  | leaf a =>
    cases h [] with
    | some root =>
      cases root
      rfl
  | inner n ih =>
    cases h [] with
    | some root =>
      cases root with
      | @node _ m size =>
        rw [bare_node, bare_node]
        refine congrArg (fun es => Element.node (.ofElements es)) ?_
        refine List.ext_getElem ?_ fun i hi hi' => ?_
        · rw [List.length_map, List.length_map]
          exact size.symm
        rw [List.length_map] at hi hi'
        rw [List.getElem_map, List.getElem_map]
        refine ih _ (List.getElem_mem hi) fun path => ?_
        have below := h (i :: path)
        rw [at?_node_cons, at?_node_cons, List.getElem?_eq_getElem hi,
          List.getElem?_eq_getElem hi'] at below
        exact below

theorem renoted_bare (e : Element) : Renoted e e.bare := by
  cases e with
  | atom a => exact .atom a
  | node n =>
    rw [bare_node]
    exact .node (List.length_map _)

theorem at?_bare (e : Element) (path : List Nat) : e.bare.at? path = (e.at? path).map bare :=
  at?_map (fun a => ⟨a, rfl⟩) (fun n => ⟨n.bare, rfl, listBare_eq_map n.elements⟩) e path

theorem allAtoms_bare {P : Atom → Prop} {e : Element} : e.bare.AllAtoms P ↔ e.AllAtoms P := by
  refine forall_congr' fun path => forall_congr' fun a => imp_congr_left ?_
  rw [at?_bare, Option.map_eq_some_iff]
  constructor
  · rintro ⟨f, there, bare⟩
    cases f with
    | atom b => rwa [← bare]
    | node n => cases bare
  · exact fun there => ⟨.atom a, there, rfl⟩

end Element

namespace Node

theorem renoted_at?_bare (n : Tree) (path : List Nat) :
    Option.Rel Element.Renoted (n.at? path) (n.bare.at? path) := by
  change Option.Rel _ _ ((Element.node n).bare.at? path)
  rw [Element.at?_bare, Node.at?]
  cases (Element.node n).at? path with
  | none => exact .none
  | some e => exact .some e.renoted_bare

theorem allAtoms_bare {P : Atom → Prop} {n : Tree} : n.bare.AllAtoms P ↔ n.AllAtoms P :=
  Element.allAtoms_bare (e := .node n)

theorem content_node_eq (n : Tree) :
    (Element.node n).content = .node (n.bare.mapAtoms .unsigned) :=
  Element.mapAtoms_node .unsigned n.bare

theorem same_iff (m n : Tree) :
    m.same n = true ↔ m.bare.mapAtoms .unsigned = n.bare.mapAtoms .unsigned ∧
      m.AllAtoms (·.isNaN = false) ∧ n.AllAtoms (·.isNaN = false) := by
  have inside := Element.same_iff (.node m) (.node n)
  rw [content_node_eq, content_node_eq, Element.node.injEq] at inside
  exact inside

/-- Two trees are equal if and only if they are the same once all lines and field names are left out
and both zeros are one, and neither has a NaN at any depth. So equality is symmetric and transitive,
a tree is equal to itself if and only if it has no NaN, and other lines and field names, wherever
they are, change no answer. -/
theorem equality_is_structural :
    (∀ m n : Tree, m.same n = true ↔
      m.bare.mapAtoms .unsigned = n.bare.mapAtoms .unsigned ∧
        m.AllAtoms (·.isNaN = false) ∧ n.AllAtoms (·.isNaN = false)) ∧
    (∀ m n : Tree, m.same n = n.same m) ∧
    (∀ l m n : Tree, l.same m = true → m.same n = true → l.same n = true) ∧
    (∀ n : Tree, n.same n = true ↔ n.AllAtoms (·.isNaN = false)) ∧
    ∀ m m' n n' : Tree,
      (∀ path, Option.Rel Element.Renoted (m.at? path) (m'.at? path)) →
      (∀ path, Option.Rel Element.Renoted (n.at? path) (n'.at? path)) →
      m.same n = m'.same n' := by
  refine ⟨same_iff, fun m n => ?_, fun l m n => ?_, fun n => ?_, ?_⟩
  · rw [Bool.eq_iff_iff, same_iff, same_iff, eq_comm, and_comm (a := m.AllAtoms _)]
  · rw [same_iff, same_iff, same_iff]
    rintro ⟨first, hl, -⟩ ⟨second, -, hn⟩
    exact ⟨first.trans second, hl, hn⟩
  · rw [same_iff]
    exact ⟨fun h => h.2.1, fun h => ⟨rfl, h, h⟩⟩
  · intro m m' n n' hm hn
    have left : m.bare = m'.bare := Element.node.inj (Element.bare_eq_of_renoted hm)
    have right : n.bare = n'.bare := Element.node.inj (Element.bare_eq_of_renoted hn)
    rw [Bool.eq_iff_iff, same_iff, same_iff, ← allAtoms_bare, ← allAtoms_bare (n := n), left, right,
      allAtoms_bare, allAtoms_bare]

end Node

/-- Zeros of both signs under a line and field names. -/
def signedTree : Tree :=
  ⟨[.atom (.symbol "zeros"), .atom (.float ⟨0x8000000000000000⟩),
    .node ⟨[.atom (.float ⟨0⟩), .atom (.str "zeros")], ["x"], some 4⟩], ["first", "second"], some 3⟩

/-- A NaN two levels down. -/
def unequalTree : Tree :=
  .ofElements [.atom .nil, .node (.ofElements [.node (.ofElements
    [.atom (.float ⟨0x7ff8000000000001⟩)])])]

/-- The other zeros, and no line or field name left; and a tree that is not equal to itself. -/
theorem equality_is_structural_signs :
    let flipped := signedTree.replaceAtoms (.float ⟨0⟩) (.float ⟨0x8000000000000000⟩)
    signedTree.same flipped = true ∧ flipped.same signedTree.bare = true ∧
    signedTree.same signedTree.bare = true ∧ signedTree.bare.same flipped.bare = true ∧
    unequalTree.same unequalTree = false ∧ ¬ unequalTree.AllAtoms (·.isNaN = false) := by
  intro flipped
  obtain ⟨-, -, chain, itself, notes⟩ := Node.equality_is_structural
  have first : signedTree.same flipped = true := by decide +kernel
  have second : flipped.same signedTree.bare = true := by decide +kernel
  have never : unequalTree.same unequalTree = false := by decide +kernel
  refine ⟨first, second, chain _ _ _ first second, ?_, never, fun numeric => ?_⟩
  · rw [← notes _ _ _ _ signedTree.renoted_at?_bare flipped.renoted_at?_bare]
    exact first
  · rw [(itself unequalTree).2 numeric] at never
    cases never

end TagDispatch
