import TagDispatch.Proofs.Refusal
import TagDispatch.Proofs.RoundTrip

/-!
What the walker does with a node, whatever the code below it does. It goes through the elements
from left to right: atoms stay, and each nested node is processed once, in the session that the one
before has left, and replaced by what comes out. It stops at the first nested node that fails or
becomes something that cannot stand in its place.
-/

namespace TagDispatch

variable {σ : Type}

namespace Processor

/-! ### A walk as a relation -/

/-- The elements `es`, walked from the session `s`, become `vs` and leave the session `t`. -/
inductive Rebuilt (c : Calls σ) :
    List Element → Session σ → List Element → Session σ → List (Step σ) → Prop
  | nil (s : Session σ) : Rebuilt c [] s [] s []
  | atom {es vs : List Element} {s t : Session σ} {j : List (Step σ)} (a : Atom)
      (others : Rebuilt c es s vs t j) : Rebuilt c (.atom a :: es) s (.atom a :: vs) t j
  | node {es vs : List Element} {s t u : Session σ} {i j : List (Step σ)} {child v rest : Tree}
      (processed : c.process child s = some ⟨⟨.ok (.node v), rest⟩, t, i⟩)
      (kept : v.startsWithNode = false) (others : Rebuilt c es t vs u j) :
      Rebuilt c (.node child :: es) s (.node v :: vs) u (i ++ j)

/-- What comes out of a nested node makes the walk around it fail: an error, which is passed on; an
atom; or a node that starts with another node. -/
inductive Spoils (label : String) : Except ProcessError Element → ProcessError → Prop
  | failed (e : ProcessError) : Spoils label (.error e) e
  | atom (a : Atom) : Spoils label (.ok (.atom a)) (.malformed label (.atom a))
  | untagged {v : Tree} (headless : v.startsWithNode = true) :
      Spoils label (.ok (.node v)) (.malformed label (.untagged v))

/-- The walk over some elements from the session `s` breaks off with the error `e` at a nested
node. The elements `back` after that node have not been reached. -/
inductive BreaksOff (c : Calls σ) (label : String) :
    List Element → Session σ → ProcessError → List Element → Session σ → List (Step σ) → Prop
  | intro {front back vs : List Element} {child rest : Tree} {s t u : Session σ}
      {i j : List (Step σ)} {r : Except ProcessError Element} {e : ProcessError}
      (before : Rebuilt c front s vs t i)
      (processed : c.process child t = some ⟨⟨r, rest⟩, u, j⟩) (spoiled : Spoils label r e) :
      BreaksOff c label (front ++ .node child :: back) s e back u (i ++ j)

variable {p : Processor σ} {c : Calls σ} {label : String}

/-! ### The loop -/

theorem keepChild_node (label : String) (v : Tree) :
    keepChild label (.node v) =
      if v.startsWithNode then .error (.malformed label (.untagged v)) else .ok v := by
  obtain ⟨es, fields, line⟩ := v
  rcases es with _ | ⟨_ | m, es⟩ <;> rfl

theorem keepChild_eq_ok_iff {r : Except ProcessError Element} {v : Tree} :
    r.bind (keepChild label) = .ok v ↔ r = .ok (.node v) ∧ v.startsWithNode = false := by
  constructor
  · intro kept
    rcases r with e | a | m
    · cases kept
    · cases kept
    · rw [Except.bind, keepChild_node] at kept
      split at kept
      · cases kept
      · next tagged =>
        cases kept
        exact ⟨rfl, eq_false_of_ne_true tagged⟩
  · rintro ⟨rfl, tagged⟩
    rw [Except.bind, keepChild_node, if_neg (by simp [tagged])]

theorem keepChild_eq_error_iff {r : Except ProcessError Element} {e : ProcessError} :
    r.bind (keepChild label) = .error e ↔ Spoils label r e := by
  constructor
  · intro refused
    rcases r with e | a | m
    · cases refused
      exact .failed e
    · cases refused
      exact .atom a
    · rw [Except.bind, keepChild_node] at refused
      split at refused
      · next headless =>
        cases refused
        exact .untagged headless
      · cases refused
  · intro spoiled
    cases spoiled with
    | failed e => rfl
    | atom a => rfl
    | untagged headless => rw [Except.bind, keepChild_node, if_pos headless]

/-- A nested node that the walk goes on from. -/
theorem walkChild_eq_ok_iff {child v : Tree} {s t : Session σ} {j : List (Step σ)} :
    walkChild c label child s = some ⟨.ok v, t, j⟩ ↔
      (∃ rest, c.process child s = some ⟨⟨.ok (.node v), rest⟩, t, j⟩) ∧
        v.startsWithNode = false := by
  rw [walkChild_apply, Option.map_eq_some_iff]
  constructor
  · rintro ⟨⟨⟨r, rest⟩, u, i⟩, processed, same⟩
    simp only [Outcome.map, Outcome.mk.injEq] at same
    obtain ⟨kept, rfl, rfl⟩ := same
    obtain ⟨rfl, tagged⟩ := keepChild_eq_ok_iff.1 kept
    exact ⟨⟨rest, processed⟩, tagged⟩
  · rintro ⟨⟨rest, processed⟩, tagged⟩
    refine ⟨_, processed, ?_⟩
    rw [Outcome.map, keepChild_eq_ok_iff.2 ⟨rfl, tagged⟩]

/-- A nested node that the walk stops at. -/
theorem walkChild_eq_error_iff {child : Tree} {s t : Session σ} {j : List (Step σ)}
    {e : ProcessError} :
    walkChild c label child s = some ⟨.error e, t, j⟩ ↔
      ∃ r rest, c.process child s = some ⟨⟨r, rest⟩, t, j⟩ ∧ Spoils label r e := by
  rw [walkChild_apply, Option.map_eq_some_iff]
  constructor
  · rintro ⟨⟨⟨r, rest⟩, u, i⟩, processed, same⟩
    simp only [Outcome.map, Outcome.mk.injEq] at same
    obtain ⟨refused, rfl, rfl⟩ := same
    exact ⟨r, rest, processed, keepChild_eq_error_iff.1 refused⟩
  · rintro ⟨r, rest, processed, spoiled⟩
    refine ⟨_, processed, ?_⟩
    rw [Outcome.map, keepChild_eq_error_iff.2 spoiled]

theorem Rebuilt.walked {es vs : List Element} {s t : Session σ} {j : List (Step σ)}
    (h : Rebuilt c es s vs t j) (label : String) :
    eachNode (walkChild c label) es s = some ⟨(.ok vs, []), t, j⟩ := by
  induction h with
  | nil s => rfl
  | atom a others ih =>
    rw [eachNode_atom, ih]
    rfl
  | node processed kept others ih =>
    rw [eachNode_node, walkChild_eq_ok_iff.2 ⟨⟨_, processed⟩, kept⟩, Option.bind_some]
    simp only [ih]
    rfl

theorem rebuilt_of_walked {es vs left : List Element} {s t : Session σ} {j : List (Step σ)}
    (h : eachNode (walkChild c label) es s = some ⟨(.ok vs, left), t, j⟩) :
    Rebuilt c es s vs t j := by
  induction es generalizing s vs j with
  | nil =>
    cases h
    exact .nil t
  | cons e es ih =>
    cases e with
    | atom a =>
      rw [eachNode_atom] at h
      obtain ⟨⟨⟨r, l⟩, u, i⟩, others, same⟩ := Option.map_eq_some_iff.1 h
      cases r with
      | error e => cases same
      | ok ws =>
        cases same
        exact .atom a (ih others)
    | node child =>
      rw [eachNode_node] at h
      obtain ⟨⟨r, u, i⟩, first, h⟩ := Option.bind_eq_some_iff.1 h
      cases r with
      | error e => cases h
      | ok v =>
        obtain ⟨⟨⟨r, l⟩, w, k⟩, others, same⟩ := Option.map_eq_some_iff.1 h
        cases r with
        | error e => cases same
        | ok ws =>
          cases same
          obtain ⟨⟨rest, processed⟩, kept⟩ := walkChild_eq_ok_iff.1 first
          exact .node processed kept (ih others)

/-- A walk goes through exactly if every nested node can be replaced, and then nothing is left. -/
theorem walkElements_eq_ok_iff {es vs left : List Element} {s t : Session σ} {j : List (Step σ)} :
    walkElements c label es s = some ⟨(.ok vs, left), t, j⟩ ↔
      left = [] ∧ Rebuilt c es s vs t j := by
  rw [walkElements_eq]
  constructor
  · intro h
    have rebuilt := rebuilt_of_walked h
    cases h.symm.trans (rebuilt.walked label)
    exact ⟨rfl, rebuilt⟩
  · rintro ⟨rfl, rebuilt⟩
    exact rebuilt.walked label

/-- A walk fails exactly if it breaks off, and what is left is what comes after that. -/
theorem walkElements_eq_error_iff {es left : List Element} {s t : Session σ} {j : List (Step σ)}
    {e : ProcessError} :
    walkElements c label es s = some ⟨(.error e, left), t, j⟩ ↔
      BreaksOff c label es s e left t j := by
  rw [walkElements_eq]
  constructor
  · intro h
    obtain ⟨front, child, back, vs, l, u, i, k, rfl, before, failed⟩ := exists_eachNode_failed h
    obtain ⟨r, rest, processed, spoiled⟩ := walkChild_eq_error_iff.1 failed
    cases h.symm.trans (eachNode_failed before failed back)
    exact .intro (rebuilt_of_walked before) processed spoiled
  · rintro ⟨before, processed, spoiled⟩
    have failed := walkChild_eq_error_iff.2 ⟨_, _, processed, spoiled⟩
    exact eachNode_failed (before.walked label) failed _

/-! ### What is built -/

theorem Rebuilt.length_eq {es vs : List Element} {s t : Session σ} {j : List (Step σ)}
    (h : Rebuilt c es s vs t j) : vs.length = es.length := by
  induction h with
  | nil s => rfl
  | atom a others ih => simp [ih]
  | node processed kept others ih => simp [ih]

theorem Rebuilt.atom_at {es vs : List Element} {s t : Session σ} {j : List (Step σ)}
    (h : Rebuilt c es s vs t j) {x : Nat} {a : Atom} (there : es[x]? = some (.atom a)) :
    vs[x]? = some (.atom a) := by
  induction h generalizing x with
  | nil s => cases there
  | atom b others ih =>
    cases x with
    | zero => exact there
    | succ x => exact ih there
  | node processed kept others ih =>
    cases x with
    | zero => cases there
    | succ x => exact ih there

/-- A nested node is processed when the elements before it have been walked. -/
theorem Rebuilt.node_at {es vs : List Element} {s t : Session σ} {j : List (Step σ)}
    (h : Rebuilt c es s vs t j) {x : Nat} {child : Tree} (there : es[x]? = some (.node child)) :
    ∃ u w i k v rest, Rebuilt c (es.take x) s (vs.take x) u i ∧
      c.process child u = some ⟨⟨.ok (.node v), rest⟩, w, k⟩ ∧ v.startsWithNode = false ∧
      vs[x]? = some (.node v) := by
  induction h generalizing x with
  | nil s => cases there
  | atom b others ih =>
    cases x with
    | zero => cases there
    | succ x =>
      obtain ⟨u, w, i, k, v, rest, before, found⟩ := ih there
      exact ⟨u, w, i, k, v, rest, .atom b before, found⟩
  | @node es vs s t u i j _ v rest processed kept others ih =>
    cases x with
    | zero =>
      cases there
      exact ⟨s, t, [], i, v, rest, .nil s, processed, kept, rfl⟩
    | succ x =>
      obtain ⟨u, w, i, k, v, rest, before, found⟩ := ih there
      exact ⟨u, w, _, k, v, rest, .node processed kept before, found⟩

/-- The node built by a walk over `n` from the session `s`. It has the tag of `n` already, so that
it makes no difference that it is given this tag in the end. -/
structure Replaces (c : Calls σ) (n : Tree) (s : Session σ) (built : Tree) : Prop where
  line : built.line = n.line
  bare : built.fields = []
  size : built.size = n.size
  retagged : retag n built = built
  atoms (x : Nat) (a : Atom) : n.get? x = some (.atom a) → built.get? x = some (.atom a)
  nodes (x : Nat) (child : Tree) : n.get? x = some (.node child) →
    ∃ u w i j v rest, Rebuilt c (n.elements.take x) s (built.elements.take x) u i ∧
      c.process child u = some ⟨⟨.ok (.node v), rest⟩, w, j⟩ ∧
      v.startsWithNode = false ∧ built.get? x = some (.node v)

/-- What was built starts with the same atom, or with a node, and then `n` has no tag. -/
theorem Rebuilt.retag {n : Tree} {vs : List Element} {s t : Session σ} {j : List (Step σ)}
    (h : Rebuilt c n.elements s vs t j) :
    Processor.retag n ⟨vs, [], n.line⟩ = ⟨vs, [], n.line⟩ := by
  obtain ⟨es, fields, line⟩ := n
  cases h <;> rfl

theorem Rebuilt.replaces {n : Tree} {vs : List Element} {s t : Session σ} {j : List (Step σ)}
    (h : Rebuilt c n.elements s vs t j) : Replaces c n s ⟨vs, [], n.line⟩ where
  line := rfl
  bare := rfl
  size := h.length_eq
  retagged := h.retag
  atoms _ _ there := h.atom_at there
  nodes _ _ there := h.node_at there

/-! ### The whole call -/

theorem service_walker_iff {config : Config} {n : Tree} :
    p.service config n = .walker ↔ p.Unserved config n := by
  constructor
  · intro walked
    unfold service at walked
    split at walked
    · cases walked
    · next admitted =>
      split at walked
      · cases walked
      · next unserved =>
        split at walked
        · cases walked
        · next lenient =>
          obtain ⟨own, standIn⟩ := resolve_eq_none_iff.1 unserved
          exact ⟨isExcluded_eq_false_iff.1 (eq_false_of_ne_true admitted), own, standIn,
            eq_false_of_ne_true lenient⟩
  · rintro ⟨admitted, own, standIn, lenient⟩
    have unserved := resolve_eq_none_iff.2 ⟨own, standIn⟩
    simp [service, isExcluded_eq_false_iff.2 admitted, unserved, lenient]

/-- What a walk over the node `m` from the session `u` leaves of it: its field names, its line and
the elements that were not reached. -/
def unreached (u : Session σ) (m : Tree) (left : List Element) : Tree :=
  { installed u.config m with elements := left }

variable {m : Tree} {u : Session σ}

theorem enter_rebuilt (unserved : p.Unserved u.config m) {vs : List Element} {t : Session σ}
    {j : List (Step σ)} (h : Rebuilt c m.elements (u.enter m.label) vs t j) :
    p.enter c m u = some (entered m u
      ⟨⟨p.checkType t.config m.label (p.snapshot u.config m) (.node ⟨vs, [], m.line⟩),
        unreached u m []⟩, t, j⟩) := by
  have walked : walkElements c m.label m.elements (u.enter m.label) = some ⟨(.ok vs, []), t, j⟩ :=
    walkElements_eq_ok_iff.2 ⟨rfl, h⟩
  have retagged : retag (installed u.config m) ⟨vs, [], m.line⟩ = ⟨vs, [], m.line⟩ :=
    Rebuilt.retag (n := installed u.config m) h
  rw [enter_walker (service_walker_iff.2 unserved), walk_apply,
    show (installed u.config m).elements = m.elements from rfl, walked]
  simp only [Option.map_some, Except.bind]
  rw [show (installed u.config m).line = m.line from rfl, retagged]
  rfl

theorem enter_broken (unserved : p.Unserved u.config m) {e : ProcessError} {left : List Element}
    {t : Session σ} {j : List (Step σ)}
    (h : BreaksOff c m.label m.elements (u.enter m.label) e left t j) :
    p.enter c m u = some (entered m u ⟨⟨.error e, unreached u m left⟩, t, j⟩) := by
  rw [enter_walker (service_walker_iff.2 unserved), walk_apply,
    show (installed u.config m).elements = m.elements from rfl, walkElements_eq_error_iff.2 h]
  rfl

/-- A walk that ends goes through or breaks off. -/
theorem walk_cases (unserved : p.Unserved u.config m) {o : Outcome σ Reply}
    (h : p.enter c m u = some o) :
    (∃ vs t j, Rebuilt c m.elements (u.enter m.label) vs t j) ∨
      ∃ e left t j, BreaksOff c m.label m.elements (u.enter m.label) e left t j := by
  rw [enter_walker (service_walker_iff.2 unserved), walk_apply] at h
  obtain ⟨q, hq, -⟩ := Option.map_eq_some_iff.1 h
  obtain ⟨⟨⟨r, left⟩, t, j⟩, walked, -⟩ := Option.map_eq_some_iff.1 hq
  cases r with
  | ok vs => exact .inl ⟨vs, t, j, (walkElements_eq_ok_iff.1 walked).2⟩
  | error e => exact .inr ⟨e, left, t, j, walkElements_eq_error_iff.1 walked⟩

/-- The walker over arbitrary code. If a call dispatches a node that nobody serves, and each nested
node in turn becomes a node that can stand in its place, then the call ends with the node built of
these, provided it is of the expected type, and nothing of its own node is left. If the walk breaks
off at a nested node, the call ends with that error, and of its own node the elements after that one
are left; nothing else has been processed. A call that ends does so in one of these two ways. -/
theorem walker_on_any_code (p : Processor σ) (k : Nat) (n m : Tree) (s u : Session σ)
    (i : List (Step σ)) (ready : p.prepare (p.calls k) n s = some ⟨.ok m, u, i⟩)
    (unserved : p.Unserved u.config m) :
    (∀ vs t j, Rebuilt (p.calls k) m.elements (u.enter m.label) vs t j →
      p.process (k + 1) n s = some ((entered m u
        ⟨⟨p.checkType t.config m.label (p.snapshot u.config m) (.node ⟨vs, [], m.line⟩),
          unreached u m []⟩, t, j⟩).after i) ∧
      Replaces (p.calls k) m (u.enter m.label) ⟨vs, [], m.line⟩) ∧
    (∀ e left t j, BreaksOff (p.calls k) m.label m.elements (u.enter m.label) e left t j →
      p.process (k + 1) n s =
        some ((entered m u ⟨⟨.error e, unreached u m left⟩, t, j⟩).after i)) ∧
    ∀ o, p.process (k + 1) n s = some o →
      (∃ vs t j, Rebuilt (p.calls k) m.elements (u.enter m.label) vs t j) ∨
        ∃ e left t j, BreaksOff (p.calls k) m.label m.elements (u.enter m.label) e left t j := by
  have run := process_ready ready
  refine ⟨fun vs t j rebuilt => ⟨?_, rebuilt.replaces⟩, fun e left t j broken => ?_,
    fun o ho => ?_⟩
  · rw [run, enter_rebuilt unserved rebuilt]
    rfl
  · rw [run, enter_broken unserved broken]
    rfl
  · obtain ⟨q, hq, -⟩ := Option.map_eq_some_iff.1 (run.symm.trans ho)
    exact walk_cases unserved hq

end Processor

/-- Numbers its nodes in the order in which they come. -/
def numbering : Handler Nat := fun n =>
  .getState fun i => .setState (i + 1) (.done
    ⟨.ok (.node (.ofElements [.atom (.symbol "tick"), .atom (.int (.ofNat i))])), n.clear⟩)

def numberingProcessor : Processor Nat :=
  ⟨"Test", .ofList [.handler "tick" numbering,
    .handler "drop" fun n => .done ⟨.ok (.atom .nil), n.clear⟩]⟩

def numberingSession : Session Nat := { config := Config.interpreter, state := 0 }

/-- What becomes of the node that comes as number `i`. -/
def numbered (i : Int64) : Tree := .ofElements [.atom (.symbol "tick"), .atom (.int i)]

def wrapped (es : List Element) : Tree := ⟨.atom (.symbol "wrap") :: es, ["first"], some 4⟩

/-- Two equal nodes get different numbers; a node that becomes an atom keeps the one after it from
getting any. -/
theorem walker_on_any_code_numbered :
    (∃ rest j, numberingProcessor.process 2
        (wrapped [.node (.tagged (.symbol "tick")), .atom (.bool true),
          .node (.tagged (.symbol "tick"))]) numberingSession =
      some ⟨⟨.ok (.node ⟨[.atom (.symbol "wrap"), .node (numbered 0), .atom (.bool true),
        .node (numbered 1)], [], some 4⟩), rest⟩, { numberingSession with state := 2 }, j⟩ ∧
      rest.elements = []) ∧
    ∃ rest j, numberingProcessor.process 2
        (wrapped [.node (.tagged (.symbol "tick")), .node (.tagged (.symbol "drop")),
          .node (.tagged (.symbol "tick"))]) numberingSession =
      some ⟨⟨.error (.malformed "wrap" (.atom .nil)), rest⟩,
        { numberingSession with state := 1 }, j⟩ ∧
      rest.elements = [.node (.tagged (.symbol "tick"))] := by
  have unserved (es : List Element) :
      numberingProcessor.Unserved numberingSession.config (wrapped es) :=
    Processor.service_walker_iff.1 rfl
  have ticked (i : Nat) : ∃ j, (numberingProcessor.calls 1).process (.tagged (.symbol "tick"))
      { numberingSession with state := i, context := ["wrap"] } =
        some ⟨⟨.ok (.node (numbered (.ofNat i))), .empty⟩,
          { numberingSession with state := i + 1, context := ["wrap"] }, j⟩ := ⟨_, rfl⟩
  have dropped : ∃ j, (numberingProcessor.calls 1).process (.tagged (.symbol "drop"))
      { numberingSession with state := 1, context := ["wrap"] } =
        some ⟨⟨.ok (.atom .nil), .empty⟩,
          { numberingSession with state := 1, context := ["wrap"] }, j⟩ := ⟨_, rfl⟩
  obtain ⟨i, first⟩ := ticked 0
  obtain ⟨j, second⟩ := ticked 1
  obtain ⟨k, third⟩ := dropped
  constructor
  · obtain ⟨through, -, -⟩ := numberingProcessor.walker_on_any_code 1 (wrapped _) (wrapped _)
      numberingSession numberingSession [] rfl (unserved _)
    exact ⟨_, _, (through _ _ _ (.atom _ (.node first rfl (.atom _ (.node second rfl
      (.nil _)))))).1, rfl⟩
  · obtain ⟨-, broken, -⟩ := numberingProcessor.walker_on_any_code 1 (wrapped _) (wrapped _)
      numberingSession numberingSession [] rfl (unserved _)
    exact ⟨_, _, broken _ _ _ _ (.intro (.atom _ (.node first rfl (.nil _))) third (.atom .nil)),
      rfl⟩

end TagDispatch
