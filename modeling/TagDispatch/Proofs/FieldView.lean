import TagDispatch.Proofs.Nesting
import TagDispatch.Script.Exec

/-!
The field names under which a handler sees the elements of its node. They are installed for the
node as it is dispatched. If the tag is taken off afterwards, all elements move up by one and the
names do not: each then stands for the element after the one it was meant for.
-/

namespace TagDispatch

variable {σ : Type}

/-! ### A node with names -/

namespace Node

theorem field_unlisted {n : Tree} {name : String} (h : n.fields.findIdx? (· == name) = none) :
    n.field name = .error (.fieldNotFound name n.label) := by
  simp [field, fieldIndex?, h]

theorem field_listed {n : Tree} {name : String} {i : Nat}
    (h : n.fields.findIdx? (· == name) = some i) :
    n.field name = match n.elements[i + 1]? with
      | some e => .ok e
      | none => .error (.fieldVacant name (i + 1)) := by
  simp only [field, fieldIndex?, h, Option.map_some]
  cases n.elements[i + 1]? <;> rfl

theorem shift_fields (n : Tree) : n.shift.2.fields = n.fields := by
  unfold shift
  split <;> rfl

theorem shift_elements (n : Tree) : n.shift.2.elements = n.elements.tail := by
  unfold shift
  split
  · next h => rw [h]; rfl
  · next h => rw [h]; rfl

end Node

namespace Processor

/-- How many elements a handler does not get to see. -/
def takenOff (config : Config) (isDefault : Bool) : Nat :=
  if config.autoShiftTag && !isDefault then 1 else 0

theorem given_fields (config : Config) (isDefault : Bool) (n : Tree) :
    (given config isDefault n).fields = fieldsFor config n.tagName? := by
  unfold given handed
  split
  · exact Node.shift_fields _
  · rfl

theorem given_elements (config : Config) (isDefault : Bool) (n : Tree) :
    (given config isDefault n).elements = n.elements.drop (takenOff config isDefault) := by
  unfold given handed takenOff
  split
  · rw [Node.shift_elements]
    exact List.drop_one.symm
  · rfl

/-- What names stand for in a node that has been handed to a handler: element `i + 1` of what is
left of it. -/
structure SeesFields (config : Config) (isDefault : Bool) (n seen : Tree) : Prop where
  unlisted (name : String) : (fieldsFor config n.tagName?).findIdx? (· == name) = none →
    seen.field name = .error (.fieldNotFound name seen.label)
  listed (name : String) (i : Nat) : (fieldsFor config n.tagName?).findIdx? (· == name) = some i →
    seen.field name = match n.elements[i + 1 + takenOff config isDefault]? with
      | some e => .ok e
      | none => .error (.fieldVacant name (i + 1))

theorem given_seesFields (config : Config) (isDefault : Bool) (n : Tree) :
    SeesFields config isDefault n (given config isDefault n) where
  unlisted name h := Node.field_unlisted (by rw [given_fields]; exact h)
  listed name i h := by
    have hi : (given config isDefault n).elements[i + 1]? =
        n.elements[i + 1 + takenOff config isDefault]? := by
      rw [given_elements, List.getElem?_drop, Nat.add_comm]
    rw [Node.field_listed (by rw [given_fields]; exact h), hi]

/-! ### Handlers in a run -/

/-- The journal of a call up to where the handler of its node starts. -/
theorem handler_starts {p : Processor σ} {c : Calls σ} {n m : Tree} {s u : Session σ}
    {i : List (Step σ)} {f : Handler σ} {isDefault : Bool} {q : Outcome σ (Option ProcessError)}
    (ready : p.prepare c n s = some ⟨.ok m, u, i⟩)
    (served : p.service u.config m = .handler f isDefault)
    (hq : (p.next c).verdict (.process n) s = some q) :
    i ++ opening m u ++ p.start isDefault m u <+: q.journal := by
  obtain ⟨o, ho, hj⟩ := enter_of_verdict ready hq
  rw [enter_handler served] at ho
  obtain ⟨r, -, rfl⟩ := Option.map_eq_some_iff.1 ho
  rw [hj]
  simp only [entered, Outcome.after, List.append_assoc, List.prefix_append_right_inj]
  exact List.prefix_append _ _

/-- Whenever a handler starts, a node has just been dispatched to it, and each name that is listed
for the tag of that node stands for the element at its own place, counted from the tag, or for the
one after it if the handler does not get to see the tag. -/
theorem field_view_of_handler (p : Processor σ) (k : Nat) (n : Tree) (s : Session σ)
    (o : Outcome σ Reply) (ho : p.process k n s = some o) (tag : Option String) (seen : Tree)
    (v : Session σ) (started : .invoked .handler tag seen v ∈ o.journal) :
    ∃ m u f isDefault before between after,
      o.journal = before ++ .called m u :: (between ++ .invoked .handler tag seen v :: after) ∧
      (∀ e ∈ between, ∃ entry, e = .log entry) ∧
      p.resolve u.config m.tagName? = some (f, isDefault) ∧
      SeesFields u.config isDefault m seen := by
  have ended := Calls.verdict_process (c := p.calls k) ho
  obtain ⟨l, B, t, j, reaches, own⟩ := reached_of_mem ended started
  obtain ⟨q, hq, hj⟩ := reaches.answered ended
  cases own with
  | @handler n' m _ u i f isDefault ready served =>
    obtain ⟨rest, hr⟩ := handler_starts ready served hq
    obtain ⟨after, ha⟩ := hj
    refine ⟨m, u, f, isDefault, j ++ i ++ [.log (.span "process"
      (.nodeDispatched m.label u.context.length))],
      traceBefore u.config m ++ p.warning u.config isDefault m.label, rest ++ after, ?_, ?_,
      resolve_of_service served, given_seesFields u.config isDefault m⟩
    · rw [show o.journal = _ from ha.symm, ← hr]
      simp [opening, start]
    · intro e he
      rcases List.mem_append.1 he with he | he
      · exact traceBefore_logs he
      · exact warning_logs he

end Processor

/-- A handler that gives back what the name `receiver` stands for. -/
def receiverProcessor : Processor Notes :=
  ⟨"Test", .ofList [.handler "call" (Script.instrs [.field "receiver"]).handler]⟩

def callTree : Tree :=
  .ofElements [.atom (.symbol "call"), .atom (.symbol "self"), .atom (.symbol "puts"),
    .atom (.symbol "x")]

/-- Tags are taken off, and the elements of calls have names. -/
def receiverSession : Session Notes :=
  { config := Config.withFields { autoShiftTag := true, expected := .any, requireEmpty := false }
      "call" ["receiver", "name", "args"]
    state := [] }

/-- In a node that is dispatched: the place of `receiver` in the list of names, and element 1. -/
def Step.namedPlace? : Step σ → Option (Option Nat × Option Atom)
  | .called m u => some ((Processor.fieldsFor u.config m.tagName?).findIdx? (· == "receiver"),
      m.elements[1]?.bind Element.atom?)
  | _ => none

/-- What `receiver` stands for when a handler starts. -/
def Step.receiver? : Step σ → Option (Option Atom)
  | .invoked .handler _ seen _ => some ((seen.field "receiver").toOption.bind Element.atom?)
  | _ => none

theorem Step.eq_invoked_of_receiver? {e : Step σ} {a : Option Atom} (h : e.receiver? = some a) :
    ∃ tag seen v, e = .invoked .handler tag seen v ∧
      (seen.field "receiver").toOption.bind Element.atom? = a := by
  cases e with
  | invoked role tag seen v =>
    cases role with
    | handler => exact ⟨tag, seen, v, rfl, Option.some.inj h⟩
    | _ => cases h
  | _ => cases h

theorem field_view_of_handler_shifted :
    ∃ o tag seen v m u f isDefault, receiverProcessor.process 1 callTree receiverSession = some o ∧
      .invoked .handler tag seen v ∈ o.journal ∧ .called m u ∈ o.journal ∧
      receiverProcessor.resolve u.config m.tagName? = some (f, isDefault) ∧
      Processor.SeesFields u.config isDefault m seen := by
  have run : (receiverProcessor.process 1 callTree receiverSession).map
      (fun o => o.journal.filterMap Step.receiver?) = some [some (.symbol "puts")] := by
    decide +kernel
  obtain ⟨o, ho, hj⟩ := Option.map_eq_some_iff.1 run
  obtain ⟨e, he, hs⟩ := List.mem_filterMap.1 (hj ▸ List.mem_singleton_self _)
  obtain ⟨tag, seen, v, rfl, -⟩ := Step.eq_invoked_of_receiver? hs
  obtain ⟨m, u, f, isDefault, before, between, after, split, -, resolved, sees⟩ :=
    receiverProcessor.field_view_of_handler 1 callTree receiverSession o ho tag seen v he
  exact ⟨o, tag, seen, v, m, u, f, isDefault, ho, he, by simp [split], resolved, sees⟩

/-- Names do not stand for the elements at their own places whenever tags are taken off. -/
theorem names_miss_shifted_elements :
    ¬ ∀ (p : Processor Notes) (k : Nat) (n : Tree) (s : Session Notes) (o : Outcome Notes Reply)
      (tag : Option String) (seen : Tree) (v : Session Notes), p.process k n s = some o →
      .invoked .handler tag seen v ∈ o.journal → ∃ m u, .called m u ∈ o.journal ∧
        ∀ name i, (Processor.fieldsFor u.config m.tagName?).findIdx? (· == name) = some i →
          seen.field name = match m.elements[i + 1]? with
            | some e => .ok e
            | none => .error (.fieldVacant name (i + 1)) := by
  intro hall
  have run : (receiverProcessor.process 1 callTree receiverSession).map
      (fun o => (o.journal.filterMap Step.namedPlace?, o.journal.filterMap Step.receiver?)) =
        some ([(some 0, some (.symbol "self"))], [some (.symbol "puts")]) := by
    decide +kernel
  obtain ⟨o, ho, hj⟩ := Option.map_eq_some_iff.1 run
  obtain ⟨hplaces, hstarts⟩ := Prod.mk.injEq .. ▸ hj
  obtain ⟨e, he, hs⟩ := List.mem_filterMap.1 (hstarts ▸ List.mem_singleton_self _)
  obtain ⟨tag, seen, v, rfl, receiver⟩ := Step.eq_invoked_of_receiver? hs
  obtain ⟨m, u, called, view⟩ := hall _ _ _ _ o tag seen v ho he
  have place : ((Processor.fieldsFor u.config m.tagName?).findIdx? (· == "receiver"),
      m.elements[1]?.bind Element.atom?) ∈ o.journal.filterMap Step.namedPlace? :=
    List.mem_filterMap.2 ⟨_, called, rfl⟩
  rw [hplaces] at place
  obtain ⟨listed, element⟩ := Prod.mk.injEq .. ▸ List.mem_singleton.1 place
  have sees := view "receiver" 0 listed
  cases hm : m.elements[0 + 1]? with
  | none =>
    rw [hm] at element
    cases element
  | some x =>
    rw [hm] at element sees
    rw [sees] at receiver
    exact absurd (receiver.symm.trans element) (by decide)

end TagDispatch
