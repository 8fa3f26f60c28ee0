import TagDispatch.Proofs.FieldView

/-!
Taking a node apart from the front. Removals that want an element of one kind look at the front
first; what they do not want stays where it is. So in any sequence of removals and additions, failed
ones among them, each element is given back once or is still there, in the order in which it came.
-/

namespace TagDispatch

namespace Node

/-! ### Operations in place -/

/-- What is said of a front element that is of the other kind. -/
def unexpected : Element → TreeError
  | .atom a => .expectedNode a
  | .node m => .expectedAtom m

/-- What an operation answers: an element, or nothing, or why it was refused. -/
abbrev Answer := Except TreeError (Option Element)

/-- Takes the front element off if it is of the wanted kind. It is looked at before it is taken off
and once more afterwards: if the second look came out differently, it would be lost. -/
def takeFront (wanted : Element → Bool) (n : Tree) : Answer × Tree :=
  match n.elements.head? with
  | none => (.error .empty, n)
  | some e =>
    if wanted e then
      match n.shift.1.filter wanted with
      | some e => (.ok (some e), n.shift.2)
      | none => (.error .empty, n.shift.2)
    else (.error (unexpected e), n)

inductive Op where
  | shift
  | shiftNode
  | shiftAtom
  | push (e : Element)

def Op.run (n : Tree) : Op → Answer × Tree
  | .shift => (.ok n.shift.1, n.shift.2)
  | .shiftNode => n.takeFront (·.isNode)
  | .shiftAtom => n.takeFront (!·.isNode)
  | .push e => (.ok none, n.push e)

/-- All answers, and the node after all operations. A failure ends nothing. -/
def after (n : Tree) : List Op → List Answer × Tree
  | [] => ([], n)
  | op :: ops => ((op.run n).1 :: ((op.run n).2.after ops).1, ((op.run n).2.after ops).2)

/-- A removal that gives back what is left, done in place. -/
def inPlace {α : Type} (n : Tree) (wrap : α → Element) :
    Except TreeError (α × Tree) → Answer × Tree
  | .ok (a, rest) => (.ok (some (wrap a)), rest)
  | .error err => (.error err, n)

theorem run_shiftNode (n : Tree) : Op.shiftNode.run n = n.inPlace .node n.shiftNode := by
  obtain ⟨es, fields, line⟩ := n
  rcases es with _ | ⟨_ | m, es⟩ <;> rfl

theorem run_shiftAtom (n : Tree) : Op.shiftAtom.run n = n.inPlace .atom n.shiftAtom := by
  obtain ⟨es, fields, line⟩ := n
  rcases es with _ | ⟨_ | m, es⟩ <;> rfl

/-! ### One operation -/

/-- The ways a removal that wants elements of one kind can end. -/
inductive Takes (wanted : Element → Bool) (n : Tree) : Answer × Tree → Prop
  | empty (none_left : n.elements = []) : Takes wanted n (.error .empty, n)
  | refused {e : Element} {es : List Element} (front : n.elements = e :: es)
      (other : wanted e = false) : Takes wanted n (.error (unexpected e), n)
  | taken {e : Element} {es : List Element} (front : n.elements = e :: es)
      (fits : wanted e = true) : Takes wanted n (.ok (some e), { n with elements := es })

/-- The second look is at the same element. -/
theorem takes_takeFront (wanted : Element → Bool) (n : Tree) :
    Takes wanted n (n.takeFront wanted) := by
  obtain ⟨es, fields, line⟩ := n
  cases es with
  | nil => exact .empty rfl
  | cons e es =>
    cases fits : wanted e with
    | true =>
      have looked : Option.filter wanted (some e) = some e := Option.filter_some_pos fits
      have run : takeFront wanted ⟨e :: es, fields, line⟩ = (.ok (some e), ⟨es, fields, line⟩) := by
        simp [takeFront, shift, fits, looked]
      rw [run]
      exact .taken rfl fits
    | false =>
      have run : takeFront wanted ⟨e :: es, fields, line⟩ =
          (.error (unexpected e), ⟨e :: es, fields, line⟩) := by
        simp [takeFront, fits]
      rw [run]
      exact .refused rfl fits

theorem unexpected_inj {e f : Element} (h : unexpected e = unexpected f) : e = f := by
  cases e <;> cases f <;> cases h <;> rfl

theorem unexpected_ne_empty (e : Element) : unexpected e ≠ .empty := by
  cases e <;> exact nofun

/-- When a removal that wants elements of one kind succeeds, and how it fails. -/
structure Guarded (wanted : Element → Bool) (n : Tree) (r : Answer × Tree) : Prop where
  taken (e : Element) : r.1 = .ok (some e) ↔ n.elements.head? = some e ∧ wanted e = true
  empty : r.1 = .error .empty ↔ n.elements = []
  other (e : Element) : r.1 = .error (unexpected e) ↔
    n.elements.head? = some e ∧ wanted e = false
  unchanged (err : TreeError) : r.1 = .error err → r.2 = n

theorem Takes.guarded {wanted : Element → Bool} {n : Tree} {r : Answer × Tree}
    (h : Takes wanted n r) : Guarded wanted n r := by
  cases h with
  | empty none_left =>
    refine ⟨fun e => ?_, iff_of_true rfl none_left, fun e => ?_, fun _ _ => rfl⟩
    · simp [none_left]
    · simp [none_left, (unexpected_ne_empty e).symm]
  | @refused f es front other =>
    have head : n.elements.head? = some f := by rw [front, List.head?_cons]
    refine ⟨fun e => iff_of_false nofun ?_, ?_, fun e => ⟨fun h => ?_, ?_⟩, fun _ _ => rfl⟩
    · rintro ⟨here, fits⟩
      cases head.symm.trans here
      exact absurd fits (by simp [other])
    · simp [front, unexpected_ne_empty]
    · cases unexpected_inj (Except.error.inj h)
      exact ⟨head, other⟩
    · rintro ⟨here, -⟩
      cases head.symm.trans here
      rfl
  | @taken f es front fits =>
    have head : n.elements.head? = some f := by rw [front, List.head?_cons]
    refine ⟨fun e => ⟨fun h => ?_, ?_⟩, by simp [front], fun e => iff_of_false nofun ?_, nofun⟩
    · cases h
      exact ⟨head, fits⟩
    · rintro ⟨here, -⟩
      cases head.symm.trans here
      rfl
    · rintro ⟨here, other⟩
      cases head.symm.trans here
      exact absurd fits (by simp [other])

/-! ### Nothing is lost -/

/-- The element that was given back. -/
def removed? : Answer → Option Element
  | .ok e => e
  | .error _ => none

def Op.pushed? : Op → Option Element
  | .push e => some e
  | _ => none

/-- What is given back and what is left then, against what was there and what is added. -/
structure Conserves (n : Tree) (added : List Element) (removed : List Element) (rest : Tree) :
    Prop where
  elements : removed ++ rest.elements = n.elements ++ added
  line : rest.line = n.line
  fields : rest.fields = n.fields

theorem Takes.conserves {wanted : Element → Bool} {n : Tree} {r : Answer × Tree}
    (h : Takes wanted n r) : Conserves n [] (removed? r.1).toList r.2 := by
  cases h with
  | empty none_left => exact ⟨(List.append_nil _).symm, rfl, rfl⟩
  | refused front other => exact ⟨(List.append_nil _).symm, rfl, rfl⟩
  | taken front fits =>
    refine ⟨?_, rfl, rfl⟩
    rw [front, List.append_nil]
    rfl

theorem Op.conserves (n : Tree) (op : Op) :
    Conserves n op.pushed?.toList (removed? (op.run n).1).toList (op.run n).2 := by
  cases op with
  | shift =>
    obtain ⟨es, fields, line⟩ := n
    cases es with
    | nil => exact ⟨rfl, rfl, rfl⟩
    | cons e es => exact ⟨(List.append_nil _).symm, rfl, rfl⟩
  | shiftNode => exact (takes_takeFront _ n).conserves
  | shiftAtom => exact (takes_takeFront _ n).conserves
  | push e => exact ⟨rfl, rfl, rfl⟩

theorem Conserves.trans {n m rest : Tree} {added added' removed removed' : List Element}
    (first : Conserves n added removed m) (second : Conserves m added' removed' rest) :
    Conserves n (added ++ added') (removed ++ removed') rest where
  elements := by
    calc removed ++ removed' ++ rest.elements
        = removed ++ (removed' ++ rest.elements) := List.append_assoc ..
      _ = removed ++ m.elements ++ added' := by rw [second.elements, List.append_assoc]
      _ = n.elements ++ (added ++ added') := by rw [first.elements, List.append_assoc]
  line := second.line.trans first.line
  fields := second.fields.trans first.fields

theorem filterMap_cons_eq_append {α β : Type} (f : α → Option β) (a : α) (as : List α) :
    (a :: as).filterMap f = (f a).toList ++ as.filterMap f := by
  rw [List.filterMap_cons]
  cases f a <;> rfl

theorem after_conserves (n : Tree) (ops : List Op) :
    Conserves n (ops.filterMap Op.pushed?) ((n.after ops).1.filterMap removed?)
      (n.after ops).2 := by
  induction ops generalizing n with
  | nil => exact ⟨(List.append_nil _).symm, rfl, rfl⟩
  | cons op ops ih =>
    rw [after, filterMap_cons_eq_append, filterMap_cons_eq_append]
    exact (op.conserves n).trans (ih (op.run n).2)

/-! ### Instructions -/

/-- The instructions that do an operation to the node of a frame. -/
def Op.code : Op → List Instr
  | .shift => [.shift]
  | .shiftNode => [.shiftNode]
  | .shiftAtom => [.shiftAtom]
  | .push e => [.push e, .append]

/-- A removal in a frame: what is left becomes the node, which stays if the removal fails. -/
theorem attempt_removal {α : Type} (f : Frame) (wrap : α → Element)
    (r : Except TreeError (α × Tree)) :
    ∃ stack, ((Act.attemptTree r >>= fun taken =>
        Act.setNode taken.2 >>= fun _ => Act.push (wrap taken.1)) >>= fun _ => pure ()) f =
      .done (((f.node.inPlace wrap r).1.map fun _ => ()).mapError .tree,
        { f with node := (f.node.inPlace wrap r).2, stack }) := by
  cases r <;> exact ⟨_, rfl⟩

/-- The node becomes what the operation makes of it, also where the instructions fail. -/
theorem ofInstrs_code (limit : Nat) (f : Frame) (op : Op) :
    ∃ stack, Act.ofInstrs limit op.code f =
      .done (((op.run f.node).1.map fun _ => ()).mapError .tree,
        { f with node := (op.run f.node).2, stack }) := by
  cases op with
  | shift => exact ⟨_, rfl⟩
  | shiftNode =>
    rw [run_shiftNode]
    exact attempt_removal f .node f.node.shiftNode
  | shiftAtom =>
    rw [run_shiftAtom]
    exact attempt_removal f .atom f.node.shiftAtom
  | push e => exact ⟨_, rfl⟩

/-- Consuming a node loses and doubles nothing, whatever is removed and added in whatever order. The
elements that were given back, in order, and then those that are left are the elements there were at
first and then those that were added; line and field names stay. A removal that wants a node or an
atom fails if and only if the node is empty or starts with an element of the other kind, says which,
and leaves the node as it is. Scripts do the same to their node. -/
theorem consuming_loses_nothing (n : Tree) (ops : List Op) :
    (n.after ops).1.filterMap removed? ++ (n.after ops).2.elements =
      n.elements ++ ops.filterMap Op.pushed? ∧
    (n.after ops).2.line = n.line ∧ (n.after ops).2.fields = n.fields ∧
    ∀ m : Tree,
      (Guarded (·.isNode) m (Op.shiftNode.run m) ∧
        Op.shiftNode.run m = m.inPlace .node m.shiftNode) ∧
      (Guarded (!·.isNode) m (Op.shiftAtom.run m) ∧
        Op.shiftAtom.run m = m.inPlace .atom m.shiftAtom) ∧
      ∀ limit op stack given, ∃ stack',
        Act.ofInstrs limit (Op.code op) ⟨m, stack, given⟩ =
          .done (((op.run m).1.map fun _ => ()).mapError .tree, ⟨(op.run m).2, stack', given⟩) := by
  obtain ⟨elements, line, fields⟩ := n.after_conserves ops
  refine ⟨elements, line, fields, fun m => ⟨⟨?_, m.run_shiftNode⟩, ⟨?_, m.run_shiftAtom⟩, ?_⟩⟩
  · exact (takes_takeFront _ m).guarded
  · exact (takes_takeFront _ m).guarded
  · exact fun limit op stack given => ofInstrs_code limit ⟨m, stack, given⟩ op

/-- Refused for its kind, taken, refused since there is nothing; then a node comes and goes. -/
example :
    (((ofElements [.atom .nil] : Tree).after
      [.shiftNode, .shiftAtom, .shiftAtom, .push (.node .empty), .shiftNode]).1.map
        fun r => (removed? r).map Element.isNode) =
      [none, some false, none, none, some true] := by decide

end Node

end TagDispatch
