import TagDispatch.Proofs.Paths

/-!
Replacing one atom by another everywhere. The comparison is the one of numbers for numbers, neither
reflexive nor an identity: a NaN is never found, and both zeros are found by either. So each law has
a condition of its own.
-/

namespace TagDispatch

/-! ### Atoms that count as equal -/

namespace Atom

def isNaN : Atom → Bool
  | float x => x.isNaN
  | _ => false

def isZero : Atom → Bool
  | float x => x.isZero
  | _ => false

/-- The same atom, but for the sign of a zero. -/
def UpToSign (a b : Atom) : Prop := a = b ∨ a.isZero = true ∧ b.isZero = true

end Atom

theorem Binary64.isNaN_of_isZero {x : Binary64} (h : x.isZero = true) : x.isNaN = false := by
  simp only [Binary64.isZero, Bool.and_eq_true, beq_iff_eq] at h
  simp [Binary64.isNaN, h.1]

theorem Binary64.numEq_iff {x y : Binary64} :
    x.numEq y = true ↔ x = y ∧ x.isNaN = false ∨ x.isZero = true ∧ y.isZero = true := by
  have bits : x.bits = y.bits ↔ x = y := ⟨fun h => by cases x; cases y; cases h; rfl, congrArg _⟩
  simp only [Binary64.numEq, Bool.and_eq_true, Bool.or_eq_true, Bool.not_eq_true', beq_iff_eq, bits]
  constructor
  · rintro ⟨⟨hx, -⟩, same | zeros⟩
    · exact .inl ⟨same, hx⟩
    · exact .inr zeros
  · rintro (⟨rfl, hx⟩ | ⟨hx, hy⟩)
    · exact ⟨⟨hx, hx⟩, .inl rfl⟩
    · exact ⟨⟨isNaN_of_isZero hx, isNaN_of_isZero hy⟩, .inr ⟨hx, hy⟩⟩

namespace Atom

/-- Two atoms are equal if they are the same one and no NaN, or both a zero. -/
theorem same_iff {a b : Atom} :
    a.same b = true ↔ a = b ∧ a.isNaN = false ∨ a.isZero = true ∧ b.isZero = true := by
  cases a with
  | float x =>
    cases b with
    | float y => simpa [Atom.same, isNaN, isZero] using Binary64.numEq_iff
    | _ => simp [Atom.same, isZero]
  | _ => cases b <;> simp [Atom.same, isNaN, isZero]

/-! ### Replacing one atom -/

def replaced (old new a : Atom) : Atom := if a.same old then new else a

variable {old new a : Atom}

theorem replaced_of_same (h : a.same old = true) : replaced old new a = new := if_pos h

theorem replaced_of_not_same (h : a.same old = false) : replaced old new a = a :=
  if_neg (by rw [h]; exact Bool.false_ne_true)

theorem replaced_replaced (old new a : Atom) :
    replaced old new (replaced old new a) = replaced old new a := by
  cases h : a.same old with
  | false => rw [replaced_of_not_same h, replaced_of_not_same h]
  | true =>
    rw [replaced_of_same h, replaced]
    exact ite_self new

theorem same_replaced (different : new.same old = false) (a : Atom) :
    (replaced old new a).same old = false := by
  cases h : a.same old with
  | false => rwa [replaced_of_not_same h]
  | true => rwa [replaced_of_same h]

/-- Replacing a new atom next is replacing the old one by what comes next. -/
theorem replaced_of_fresh (found : new.same new = true) (fresh : a.same new = false)
    (next : Atom) : replaced new next (replaced old new a) = replaced old next a := by
  cases h : a.same old with
  | false => rw [replaced_of_not_same h, replaced_of_not_same h, replaced_of_not_same fresh]
  | true => rw [replaced_of_same h, replaced_of_same h, replaced_of_same found]

theorem upToSign_replaced_self (old a : Atom) : UpToSign a (replaced old old a) := by
  cases h : a.same old with
  | false => exact .inl (replaced_of_not_same h).symm
  | true =>
    rw [replaced_of_same h]
    exact (same_iff.1 h).imp And.left id

theorem replaced_self (h : ∀ x, old ≠ .float x) (a : Atom) : replaced old old a = a := by
  have signless : old.isZero = false := by
    cases old with
    | float x => exact absurd rfl (h x)
    | _ => rfl
  cases found : a.same old with
  | false => exact replaced_of_not_same found
  | true =>
    rcases same_iff.1 found with same | zeros
    · rw [replaced_of_same found, same.1]
    · rw [signless] at zeros
      cases zeros.2

end Atom

/-! ### Maps over the atoms of a tree -/

mutual

def Element.mapAtoms (f : Atom → Atom) : Element → Element
  | .atom a => .atom (f a)
  | .node ⟨es, fields, line⟩ => .node ⟨Element.listMapAtoms f es, fields, line⟩

def Element.listMapAtoms (f : Atom → Atom) : List Element → List Element
  | [] => []
  | e :: es => e.mapAtoms f :: Element.listMapAtoms f es

end

def Node.mapAtoms (f : Atom → Atom) (n : Tree) : Tree :=
  { n with elements := n.elements.map (Element.mapAtoms f) }

namespace Element

variable {f g : Atom → Atom}

theorem listMapAtoms_eq_map (f : Atom → Atom) (es : List Element) :
    listMapAtoms f es = es.map (mapAtoms f) := by
  induction es with
  | nil => rfl
  | cons e es ih => rw [listMapAtoms, ih, List.map_cons]

theorem mapAtoms_node (f : Atom → Atom) (n : Tree) :
    (Element.node n).mapAtoms f = .node (n.mapAtoms f) :=
  congrArg (fun es => Element.node { n with elements := es }) (listMapAtoms_eq_map f n.elements)

theorem mapAtoms_mapAtoms (f g : Atom → Atom) (e : Element) :
    (e.mapAtoms f).mapAtoms g = e.mapAtoms fun a => g (f a) := by
  induction e using Element.nested with
  | leaf a => rfl
  | inner n ih =>
    rw [mapAtoms_node, mapAtoms_node, mapAtoms_node, Node.mapAtoms, Node.mapAtoms, List.map_map]
    exact congrArg (fun es => Element.node { n with elements := es }) (List.map_congr_left ih)

/-- Only what becomes of the atoms of the tree matters. -/
theorem mapAtoms_congr {e : Element}
    (h : ∀ path a, e.at? path = some (.atom a) → f a = g a) : e.mapAtoms f = e.mapAtoms g := by
  induction e using Element.nested with
  | leaf a => exact congrArg Element.atom (h [] a rfl)
  | inner n ih =>
    rw [mapAtoms_node, mapAtoms_node]
    refine congrArg (fun es => Element.node { n with elements := es })
      (List.map_congr_left fun e he => ih e he fun path a there => ?_)
    obtain ⟨i, found⟩ := List.mem_iff_getElem?.1 he
    exact h (i :: path) a (at?_node_eq_some_iff.2 ⟨e, found, there⟩)

theorem mapAtoms_id (e : Element) : e.mapAtoms (fun a => a) = e := by
  induction e using Element.nested with
  | leaf a => rfl
  | inner n ih =>
    rw [mapAtoms_node]
    have same : n.elements.map (mapAtoms fun a => a) = n.elements :=
      (List.map_congr_left ih).trans (List.map_id' _)
    exact congrArg (fun es => Element.node { n with elements := es }) same

theorem at?_mapAtoms (f : Atom → Atom) (e : Element) (path : List Nat) :
    (e.mapAtoms f).at? path = (e.at? path).map (mapAtoms f) :=
  at?_map (fun a => ⟨f a, rfl⟩) (fun n => ⟨n.mapAtoms f, mapAtoms_node f n, rfl⟩) e path

theorem framed_mapAtoms {R : Atom → Atom → Prop} (h : ∀ a, R a (f a)) (e : Element) :
    Framed R e (e.mapAtoms f) := by
  cases e with
  | atom a => exact .atom (h a)
  | node n =>
    rw [mapAtoms_node]
    exact .node (List.length_map _) rfl rfl

mutual

theorem replaceAtoms_eq_mapAtoms (old new : Atom) (e : Element) :
    e.replaceAtoms old new = e.mapAtoms (.replaced old new) := by
  cases e with
  | atom a => rfl
  | node n =>
    obtain ⟨es, fields, line⟩ := n
    rw [replaceAtoms, replaceAtomsList_eq_listMapAtoms old new es, mapAtoms]

theorem replaceAtomsList_eq_listMapAtoms (old new : Atom) (es : List Element) :
    replaceAtomsList old new es = listMapAtoms (.replaced old new) es := by
  cases es with
  | nil => rfl
  | cons e es =>
    rw [replaceAtomsList, replaceAtoms_eq_mapAtoms old new e,
      replaceAtomsList_eq_listMapAtoms old new es, listMapAtoms]

end

end Element

namespace Node

theorem node_replaceAtoms (n : Tree) (old new : Atom) :
    Element.node (n.replaceAtoms old new) = (Element.node n).mapAtoms (.replaced old new) :=
  Element.replaceAtoms_eq_mapAtoms old new (.node n)

theorem node_replaceAtoms_twice (n : Tree) (a b c d : Atom) :
    Element.node ((n.replaceAtoms a b).replaceAtoms c d) =
      (Element.node n).mapAtoms fun x => .replaced c d (.replaced a b x) := by
  rw [node_replaceAtoms, node_replaceAtoms, Element.mapAtoms_mapAtoms]

/-- A map over the atoms shows in them and nowhere else. -/
theorem framed_at? {n m : Tree} {f : Atom → Atom} {R : Atom → Atom → Prop} (h : ∀ a, R a (f a))
    (mapped : Element.node m = (Element.node n).mapAtoms f) (path : List Nat) :
    Option.Rel (Element.Framed R) (n.at? path) (m.at? path) := by
  rw [Node.at?, Node.at?, mapped, Element.at?_mapAtoms]
  cases (Element.node n).at? path with
  | none => exact .none
  | some e => exact .some (e.framed_mapAtoms h)

/-- Replacing an atom changes the atoms equal to it and nothing else: at every path there is the
same atom, the new one if it was equal to the old one, or a node of the same length, line and field
names. Replacing it again changes nothing. No atom equal to the old one is left if the new one is
not. If the new one can be found and was nowhere in the tree, replacing it by the old one gives the
tree as it was, but for the signs of zeros if the old one is a number. -/
theorem replacing_is_pointwise (n : Tree) (old new : Atom) :
    (∀ path, Option.Rel (Element.Framed fun a b => b = if a.same old then new else a)
      (n.at? path) ((n.replaceAtoms old new).at? path)) ∧
    (n.replaceAtoms old new).replaceAtoms old new = n.replaceAtoms old new ∧
    (new.same old = false →
      ∀ path a, (n.replaceAtoms old new).at? path = some (.atom a) → a.same old = false) ∧
    (new.same new = true → (∀ path a, n.at? path = some (.atom a) → a.same new = false) →
      ((∀ x, old ≠ .float x) → (n.replaceAtoms old new).replaceAtoms new old = n) ∧
      ∀ path, Option.Rel (Element.Framed Atom.UpToSign) (n.at? path)
        (((n.replaceAtoms old new).replaceAtoms new old).at? path)) ∧
    ∀ a b : Atom, a.same b = true ↔
      a = b ∧ a.isNaN = false ∨ a.isZero = true ∧ b.isZero = true := by
  refine ⟨framed_at? (fun a => rfl) (n.node_replaceAtoms old new), ?_, ?_, ?_,
    fun a b => Atom.same_iff⟩
  · apply Element.node.inj
    rw [node_replaceAtoms_twice, funext (Atom.replaced_replaced old new), node_replaceAtoms]
  · intro different path a there
    have found : Option.Rel (Element.Framed fun _ b => b.same old = false) _ _ :=
      framed_at? (Atom.same_replaced different) (n.node_replaceAtoms old new) path
    rw [there] at found
    generalize n.at? path = before at found
    cases found with
    | some framed =>
      cases framed with
      | atom left => exact left
  · intro found fresh
    have restored : Element.node ((n.replaceAtoms old new).replaceAtoms new old) =
        (Element.node n).mapAtoms (.replaced old old) := by
      rw [node_replaceAtoms_twice]
      exact Element.mapAtoms_congr fun path a there =>
        Atom.replaced_of_fresh found (fresh path a there) old
    refine ⟨fun other => ?_, framed_at? (Atom.upToSign_replaced_self old) restored⟩
    apply Element.node.inj
    rw [restored, funext (Atom.replaced_self other), Element.mapAtoms_id]

end Node

/-- Both zeros, a NaN, and a symbol that is to become free. -/
def zeroTree : Tree :=
  .ofElements [.atom (.symbol "zero"), .atom (.float ⟨0⟩),
    .node ⟨[.atom (.float ⟨0x8000000000000000⟩), .atom (.float ⟨0x7ff8000000000001⟩)], ["x"],
      some 4⟩]

/-- There and back again by way of a symbol that no atom is equal to any more: from `nil` the same
tree, from a zero another sign at `[2, 0]`. -/
theorem replacing_is_pointwise_zeros :
    let zero : Atom := .symbol "zero"
    let n := zeroTree.replaceAtoms zero .nil
    (∀ path a, n.at? path = some (.atom a) → a.same zero = false) ∧
    (n.replaceAtoms .nil zero).replaceAtoms zero .nil = n ∧
    (∀ path, Option.Rel (Element.Framed Atom.UpToSign) (n.at? path)
      (((n.replaceAtoms (.float ⟨0⟩) zero).replaceAtoms zero (.float ⟨0⟩)).at? path)) ∧
    (((n.replaceAtoms (.float ⟨0⟩) zero).replaceAtoms zero (.float ⟨0⟩)).at? [2, 0]).bind
      Element.atom? = some (.float ⟨0⟩) := by
  intro zero n
  have fresh : ∀ path a, n.at? path = some (.atom a) → a.same zero = false :=
    (zeroTree.replacing_is_pointwise zero .nil).2.2.1 (by decide)
  have back (old : Atom) := (n.replacing_is_pointwise old zero).2.2.2.1 (by decide) fresh
  exact ⟨fresh, (back .nil).1 nofun, (back (.float ⟨0⟩)).2, by decide +kernel⟩

end TagDispatch
