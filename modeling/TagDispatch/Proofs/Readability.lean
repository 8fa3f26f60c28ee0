import TagDispatch.Proofs.Equality
import TagDispatch.Proofs.Spelling
import TagDispatch.Tree.Render

/-!
Reading a tree's text. Its first character tells what kind of element a text is of, and each element
ends where a comma or a parenthesis closes it, whatever its strings hold. So a text without decimal
fractions can be read in one way only, and two trees with one text are equal.
-/

namespace TagDispatch

/-! ### Where an element starts and ends -/

/-- What an element is closed by: the comma before the next one, or the end of the node. -/
def isMark (c : Char) : Bool := c == ',' || c == ')'

/-- A text that may stand after an element. -/
def Closing (r : List Char) : Prop := ∀ c, r.head? = some c → isMark c = true

/-- An atom that can be read back: no float, and no symbol with a mark in its name. -/
def Atom.Legible : Atom → Prop
  | .symbol name => ∀ c ∈ name.toList, isMark c = false
  | .float _ => False
  | _ => True

namespace Atom.Legible

variable {a : Atom}

theorem isNaN (h : a.Legible) : a.isNaN = false := by
  cases a with
  | float x => exact h.elim
  | _ => rfl

theorem unsigned (h : a.Legible) : a.unsigned = a := by
  cases a with
  | float x => exact h.elim
  | _ => rfl

end Atom.Legible

/-- The kind of element that starts with a character. -/
def kindOf? (c : Char) : Option String :=
  if isIntegral c then some "integer"
  else
    match c with
    | ':' => some "symbol"
    | '\"' => some "string"
    | 't' => some "bool"
    | 'f' => some "bool"
    | 'n' => some "nil"
    | 's' => some "sexp"
    | _ => none

theorem Atom.render_head {a : Atom} (legible : a.Legible) :
    ∃ c cs, a.render.toList = c :: cs ∧ kindOf? c = some a.typeName := by
  cases a with
  | symbol name => exact ⟨':', name.toList, String.toList_append, rfl⟩
  | str text => exact ⟨'\"', _, String.toList_ofList, rfl⟩
  | int i =>
    cases h : (writeInt i.toInt).toList with
    | nil => exact absurd h (writeInt_ne_nil _)
    | cons c cs =>
      refine ⟨c, cs, h, if_pos ?_⟩
      exact writeInt_integral i.toInt c (h ▸ List.mem_cons_self)
  | float x => exact legible.elim
  | bool b => cases b <;> exact ⟨_, _, rfl, rfl⟩
  | nil => exact ⟨_, _, rfl, rfl⟩

namespace Element

theorem toList_render_node (n : Tree) :
    (Element.node n).render.toList = 's' :: '(' :: (renderList n.elements).toList ++ [')'] := by
  obtain ⟨es, fields, line⟩ := n
  rw [render, String.toList_append, String.toList_append]
  rfl

theorem render_head {e : Element} (legible : e.AllAtoms Atom.Legible) :
    ∃ c cs, e.render.toList = c :: cs ∧ kindOf? c = some e.typeName := by
  cases e with
  | atom a => exact Atom.render_head (allAtoms_atom.1 legible)
  | node n => exact ⟨'s', _, toList_render_node n, rfl⟩

theorem typeName_eq_of_render {e f : Element} (he : e.AllAtoms Atom.Legible)
    (hf : f.AllAtoms Atom.Legible) {r s : List Char}
    (h : e.render.toList ++ r = f.render.toList ++ s) : e.typeName = f.typeName := by
  obtain ⟨c, cs, first, kind⟩ := render_head he
  obtain ⟨d, ds, first', kind'⟩ := render_head hf
  rw [first, first'] at h
  rw [(List.cons.inj h).1] at kind
  exact Option.some.inj (kind.symm.trans kind')

end Element

/-! ### Atoms -/

theorem isMark_of_isIntegral {c : Char} (h : isIntegral c = true) : isMark c = false := by
  cases mark : isMark c with
  | false => rfl
  | true =>
    simp only [isMark, Bool.or_eq_true, beq_iff_eq] at mark
    rcases mark with rfl | rfl <;> cases h

/-- Two runs of characters that a mark ends. -/
theorem append_inj_of_closing {u v r s : List Char} (hu : ∀ c ∈ u, isMark c = false)
    (hv : ∀ c ∈ v, isMark c = false) (hr : Closing r) (hs : Closing s) (h : u ++ r = v ++ s) :
    u = v ∧ r = s := by
  refine append_inj_of_run (p := (!isMark ·)) (fun c hc => ?_) (fun c hc => ?_) (fun c hc => ?_)
    (fun c hc => ?_) h
  · simp [hu c hc]
  · simp [hv c hc]
  · simp [hr c hc]
  · simp [hs c hc]

theorem Atom.render_append_inj {a b : Atom} (ha : a.Legible) (hb : b.Legible)
    (kind : a.typeName = b.typeName) {r s : List Char} (hr : Closing r) (hs : Closing s)
    (h : a.render.toList ++ r = b.render.toList ++ s) : a = b ∧ r = s := by
  cases a with
  | symbol name =>
    cases b with
    | symbol name' =>
      simp only [Atom.render, String.toList_append] at h
      obtain ⟨same, rest⟩ := append_inj_of_closing ha hb hr hs (List.cons.inj h).2
      exact ⟨congrArg Atom.symbol (String.toList_inj.1 same), rest⟩
    | _ => simp [typeName] at kind
  | str text =>
    cases b with
    | str text' =>
      obtain ⟨same, rest⟩ := Text.quote_append_inj h
      exact ⟨congrArg Atom.str same, rest⟩
    | _ => simp [typeName] at kind
  | int i =>
    cases b with
    | int j =>
      obtain ⟨same, rest⟩ := append_inj_of_closing
        (fun c hc => isMark_of_isIntegral (writeInt_integral _ c hc))
        (fun c hc => isMark_of_isIntegral (writeInt_integral _ c hc)) hr hs h
      exact ⟨congrArg Atom.int (Int64.toInt_inj.1 (writeInt_inj same)), rest⟩
    | _ => simp [typeName] at kind
  | float x => exact ha.elim
  | bool x =>
    cases b with
    | bool y =>
      cases x <;> cases y
      · exact ⟨rfl, List.append_cancel_left h⟩
      · exact absurd (List.cons.inj h).1 (by decide)
      · exact absurd (List.cons.inj h).1 (by decide)
      · exact ⟨rfl, List.append_cancel_left h⟩
    | _ => simp [typeName] at kind
  | nil =>
    cases b with
    | nil => exact ⟨rfl, List.append_cancel_left h⟩
    | _ => simp [typeName] at kind

namespace Element

/-! ### Nodes -/

/-- Whatever legible element has the text of this one, before whatever closes it, is the same but
for lines and field names. -/
def Readable (e : Element) : Prop :=
  ∀ {f : Element} {r s : List Char}, f.AllAtoms Atom.Legible → Closing r → Closing s →
    e.render.toList ++ r = f.render.toList ++ s → e.bare = f.bare ∧ r = s

/-- The text of the elements after the first. -/
def further : List Element → List Char
  | [] => []
  | e :: es => ',' :: ' ' :: (renderList (e :: es)).toList

theorem toList_renderList_cons (e : Element) (es : List Element) :
    (renderList (e :: es)).toList = e.render.toList ++ further es := by
  cases es with
  | nil => simp [renderList, further]
  | cons f es => simp [renderList, further]

theorem closing_further (es : List Element) (r : List Char) : Closing (further es ++ ')' :: r) := by
  intro c hc
  cases es <;> cases hc <;> rfl

/-- A mark follows each element, so it ends at the same place in both texts. -/
theorem further_append_inj {es fs : List Element} (inside : ∀ e ∈ es, e.Readable)
    (legible : ∀ f ∈ fs, f.AllAtoms Atom.Legible) {r s : List Char}
    (h : further es ++ ')' :: r = further fs ++ ')' :: s) :
    es.map bare = fs.map bare ∧ r = s := by
  induction es generalizing fs with
  | nil =>
    cases fs with
    | nil => exact ⟨rfl, (List.cons.inj h).2⟩
    | cons f fs => exact absurd (List.cons.inj h).1 (by decide)
  | cons e es ih =>
    cases fs with
    | nil => exact absurd (List.cons.inj h).1 (by decide)
    | cons f fs =>
      obtain ⟨first, inside⟩ := List.forall_mem_cons.1 inside
      obtain ⟨hf, legible⟩ := List.forall_mem_cons.1 legible
      have text : (renderList (e :: es)).toList ++ ')' :: r =
          (renderList (f :: fs)).toList ++ ')' :: s := (List.cons.inj (List.cons.inj h).2).2
      rw [toList_renderList_cons, toList_renderList_cons, List.append_assoc,
        List.append_assoc] at text
      obtain ⟨same, text⟩ := first hf (closing_further es r) (closing_further fs s) text
      obtain ⟨others, rest⟩ := ih inside legible text
      exact ⟨by rw [List.map_cons, List.map_cons, same, others], rest⟩

theorem renderList_cons_ne {e : Element} (legible : e.AllAtoms Atom.Legible) (es : List Element)
    (r s : List Char) : (renderList (e :: es)).toList ++ r ≠ ')' :: s := by
  obtain ⟨c, cs, first, kind⟩ := render_head legible
  rw [toList_renderList_cons, first]
  intro h
  rw [(List.cons.inj h).1] at kind
  cases kind

theorem renderList_append_inj {es fs : List Element} (inside : ∀ e ∈ es, e.Readable)
    (hes : ∀ e ∈ es, e.AllAtoms Atom.Legible) (hfs : ∀ f ∈ fs, f.AllAtoms Atom.Legible)
    {r s : List Char}
    (h : (renderList es).toList ++ ')' :: r = (renderList fs).toList ++ ')' :: s) :
    es.map bare = fs.map bare ∧ r = s := by
  cases es with
  | nil =>
    cases fs with
    | nil => exact ⟨rfl, (List.cons.inj h).2⟩
    | cons f fs => exact absurd h.symm (renderList_cons_ne (List.forall_mem_cons.1 hfs).1 fs _ _)
  | cons e es =>
    cases fs with
    | nil => exact absurd h (renderList_cons_ne (List.forall_mem_cons.1 hes).1 es _ _)
    | cons f fs => exact further_append_inj inside hfs (congrArg (',' :: ' ' :: ·) h)

theorem readable {e : Element} (legible : e.AllAtoms Atom.Legible) : e.Readable := by
  induction e using Element.nested with
  | leaf a =>
    intro f r s hf hr hs h
    have kind := typeName_eq_of_render legible hf h
    cases f with
    | atom b =>
      obtain ⟨rfl, rest⟩ := Atom.render_append_inj (allAtoms_atom.1 legible) (allAtoms_atom.1 hf)
        kind hr hs h
      exact ⟨rfl, rest⟩
    | node n => cases a <;> simp [typeName, Atom.typeName] at kind
  | inner m ih =>
    intro f r s hf hr hs h
    have kind := typeName_eq_of_render legible hf h
    cases f with
    | atom b => cases b <;> simp [typeName, Atom.typeName] at kind
    | node n =>
      have hm := allAtoms_node.1 legible
      have hn := allAtoms_node.1 hf
      simp only [toList_render_node, List.cons_append, List.append_assoc, List.cons.injEq,
        true_and, List.nil_append] at h
      obtain ⟨same, rest⟩ := renderList_append_inj (fun e he => ih e he (hm e he)) hm hn h
      exact ⟨by rw [bare_node, bare_node, same], rest⟩

/-! ### Trees with one text -/

theorem renderList_map_bare {es : List Element} (h : ∀ e ∈ es, e.bare.render = e.render) :
    renderList (es.map bare) = renderList es := by
  induction es with
  | nil => rfl
  | cons e es ih =>
    obtain ⟨first, others⟩ := List.forall_mem_cons.1 h
    cases es with
    | nil => exact first
    | cons f es =>
      change e.bare.render ++ ", " ++ renderList ((f :: es).map bare) = _
      rw [first, ih others]
      rfl

theorem render_bare (e : Element) : e.bare.render = e.render := by
  induction e using Element.nested with
  | leaf a => rfl
  | inner n ih =>
    rw [bare_node]
    exact congrArg ("s(" ++ · ++ ")") (renderList_map_bare ih)

theorem content_eq_bare {e : Element} (legible : e.AllAtoms Atom.Legible) : e.content = e.bare := by
  have unchanged : e.bare.mapAtoms .unsigned = e.bare.mapAtoms fun a => a :=
    mapAtoms_congr fun path a there => (allAtoms_bare.2 legible path a there).unsigned
  rw [content, unchanged, mapAtoms_id]

theorem same_iff_bare_eq {e f : Element} (he : e.AllAtoms Atom.Legible)
    (hf : f.AllAtoms Atom.Legible) : e.same f = true ↔ e.bare = f.bare := by
  rw [same_iff, content_eq_bare he, content_eq_bare hf]
  exact and_iff_left ⟨fun path a there => (he path a there).isNaN,
    fun path a there => (hf path a there).isNaN⟩

theorem render_eq_iff_bare_eq {e f : Element} (he : e.AllAtoms Atom.Legible)
    (hf : f.AllAtoms Atom.Legible) : e.render = f.render ↔ e.bare = f.bare := by
  constructor
  · intro h
    refine (readable he (r := []) (s := []) hf nofun nofun ?_).1
    rw [h]
  · intro h
    rw [← render_bare e, h, render_bare]

/-- The text determines the tree. Two elements without floats, and without commas and closing
parentheses in the names of their symbols, have the same text if and only if they are equal: the
same atoms in the same nodes at every depth, with whatever lines and field names. Strings may hold
anything, and symbols all other characters. -/
theorem rendering_determines_tree (e f : Element) (he : e.AllAtoms Atom.Legible)
    (hf : f.AllAtoms Atom.Legible) :
    (e.render = f.render ↔ e.bare = f.bare) ∧ (e.render = f.render ↔ e.same f = true) := by
  have texts := render_eq_iff_bare_eq he hf
  exact ⟨texts, texts.trans (same_iff_bare_eq he hf).symm⟩

end Element

/-- One string that holds what stands between two. -/
def joinedElement : Element :=
  .node ⟨[.atom (.symbol "(\""), .atom (.str "a\", \"b"), .atom (.str ")")], ["x"], some 2⟩

def splitElement : Element :=
  .node (.ofElements [.atom (.symbol "(\""), .atom (.str "a"), .atom (.str "b"), .atom (.str ")")])

theorem rendering_determines_tree_joined :
    joinedElement.AllAtoms Atom.Legible ∧ splitElement.AllAtoms Atom.Legible ∧
    joinedElement.render ≠ splitElement.render ∧
    joinedElement.render = joinedElement.bare.render := by
  have name : ∀ c ∈ "(\"".toList, isMark c = false := by simp [isMark]
  have joined : joinedElement.AllAtoms Atom.Legible := Element.allAtoms_node.2 <| by
    simpa [Element.allAtoms_atom, Atom.Legible] using name
  have split : splitElement.AllAtoms Atom.Legible := Element.allAtoms_node.2 <| by
    simpa [Node.ofElements, Element.allAtoms_atom, Atom.Legible] using name
  have apart := (Element.rendering_determines_tree _ _ joined split).2
  have noted := (Element.rendering_determines_tree _ _ joined (Element.allAtoms_bare.2 joined)).2
  refine ⟨joined, split, fun texts => ?_, noted.2 (by decide +kernel)⟩
  have different : joinedElement.same splitElement = false := by decide +kernel
  rw [apart.1 texts] at different
  cases different

end TagDispatch
