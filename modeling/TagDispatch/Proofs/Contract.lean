import TagDispatch.Proofs.Allowance
import TagDispatch.Proofs.Service

/-!
What a caller may rely on when a call succeeds: the value has the expected type, and the node is
consumed where that is demanded. Whoever served the node, the configuration that counts is the one
in force when the call returns.
-/

namespace TagDispatch

variable {σ : Type}

/-- The values of a type. Nil is an atom, but of no particular kind. -/
inductive ResultType.Covers : ResultType → Element → Prop
  | any (e : Element) : Covers .any e
  | sexp (n : Tree) : Covers .sexp (.node n)
  | atom (a : Atom) : Covers .atom (.atom a)
  | symbol (name : String) : Covers .symbol (.atom (.symbol name))
  | string (text : String) : Covers .string (.atom (.str text))
  | integer (i : Int64) : Covers .integer (.atom (.int i))
  | float (x : Binary64) : Covers .float (.atom (.float x))
  | bool (b : Bool) : Covers .bool (.atom (.bool b))

theorem ResultType.accepts_iff {t : ResultType} {e : Element} :
    t.accepts e = true ↔ t.Covers e := by
  constructor
  · intro accepted
    unfold accepts at accepted
    split at accepted <;> first | constructor | cases accepted
  · intro covers
    cases covers <;> rfl

/-- A successful reply keeps to the configuration. -/
structure Reply.Meets (r : Reply) (config : Config) : Prop where
  type (v : Element) : r.result = .ok v → config.expected.Covers v
  consumed (v : Element) : r.result = .ok v → config.requireEmpty = true → r.rest.isEmpty = true

theorem Reply.meets_of_error (e : ProcessError) (rest : Tree) (config : Config) :
    Reply.Meets ⟨.error e, rest⟩ config := by
  constructor <;> intro v hv <;> cases hv

namespace Processor

/-! ### The checks -/

theorem checkType_ok {p : Processor σ} {config : Config} {label : String} {copy : Option Tree}
    {v w : Element} (h : p.checkType config label copy v = .ok w) :
    w = v ∧ config.expected.Covers v := by
  unfold checkType at h
  split at h
  · next ha =>
    cases h
    exact ⟨rfl, ResultType.accepts_iff.1 ha⟩
  · cases h

theorem checkHandled_ok {p : Processor σ} {config : Config} {label : String}
    {copy : Option Tree} {v w : Element} {rest : Tree}
    (h : p.checkHandled config label copy v rest = .ok w) :
    config.expected.Covers w ∧ (config.requireEmpty = true → rest.isEmpty = true) := by
  unfold checkHandled at h
  split at h
  · cases h
  · next a ha =>
    obtain ⟨rfl, hacc⟩ := checkType_ok ha
    split at h
    · cases h
    · next hr =>
      cases h
      exact ⟨hacc, by simpa using hr⟩

theorem finish_meets (p : Processor σ) {label : String} {copy : Option Tree} {r : Reply}
    {s : Session σ} {o : Outcome σ Reply} (ho : p.finish label copy r s = some o) :
    o.value.Meets o.session.config := by
  rw [finish_apply] at ho
  cases ho
  obtain ⟨result, rest⟩ := r
  cases result with
  | error e => exact Reply.meets_of_error e rest _
  | ok v => exact ⟨fun w hw => (checkHandled_ok hw).1, fun w hw => (checkHandled_ok hw).2⟩

/-! ### The walker -/

theorem map_ok {α β : Type} {f : α → β} {r : Except ProcessError α} {b : β}
    (h : r.map f = .ok b) : ∃ a, r = .ok a := by
  cases r with
  | error e => cases h
  | ok a => exact ⟨a, rfl⟩

/-- If every child is kept, none is left. -/
theorem walkElements_ok {c : Calls σ} {label : String} {es vs : List Element} {s : Session σ}
    {o : Outcome σ (Except ProcessError (List Element) × List Element)}
    (ho : walkElements c label es s = some o) (hv : o.value.1 = .ok vs) : o.value.2 = [] := by
  induction es generalizing s o vs with
  | nil =>
    cases ho
    rfl
  | cons e es ih =>
    cases e with
    | atom a =>
      obtain ⟨x, y, hx, hy, rfl⟩ := Run.bind_eq_some.1 ho
      cases hy
      obtain ⟨ws, hw⟩ := map_ok hv
      change x.value.2 = []
      exact ih hx hw
    | node m =>
      obtain ⟨x, y, _, hy, rfl⟩ := Run.bind_eq_some.1 ho
      cases hk : x.value.result.bind (keepChild label) with
      | error err =>
        rw [hk] at hy
        cases hy
        cases hv
      | ok child =>
        rw [hk] at hy
        obtain ⟨x', y', hx', hy', rfl⟩ := Run.bind_eq_some.1 hy
        cases hy'
        obtain ⟨ws, hw⟩ := map_ok hv
        change x'.value.2 = []
        exact ih hx' hw

theorem walk_ok {p : Processor σ} {c : Calls σ} {label : String} {copy : Option Tree} {n : Tree}
    {s : Session σ} {o : Outcome σ Reply} {v : Element} (ho : p.walk c label copy n s = some o)
    (hv : o.value.result = .ok v) :
    o.session.config.expected.Covers v ∧ o.value.rest.isEmpty = true := by
  obtain ⟨x, y, hx, hy, rfl⟩ := Run.bind_eq_some.1 ho
  cases hr : x.value.1 with
  | error e =>
    simp only [hr] at hy
    cases hy
    cases hv
  | ok es =>
    simp only [hr, Run.get_bind] at hy
    cases hy
    obtain ⟨rfl, hacc⟩ := checkType_ok hv
    have he : x.value.2 = [] := walkElements_ok hx hr
    exact ⟨hacc, by simp [Outcome.after, Node.isEmpty, he]⟩

theorem walk_meets (p : Processor σ) {c : Calls σ} {label : String} {copy : Option Tree}
    {n : Tree} {s : Session σ} {o : Outcome σ Reply} (ho : p.walk c label copy n s = some o) :
    o.value.Meets o.session.config :=
  ⟨fun _ hv => (walk_ok ho hv).1, fun _ hv _ => (walk_ok ho hv).2⟩

/-! ### Every way a node is served -/

theorem invoke_meets (p : Processor σ) {c : Calls σ} {f : Handler σ} {isDefault : Bool}
    {tag : Option String} {label : String} {copy : Option Tree} {n : Tree} {s : Session σ}
    {o : Outcome σ Reply} (ho : p.invoke c f isDefault tag label copy n s = some o) :
    o.value.Meets o.session.config := by
  rw [invoke_apply] at ho
  obtain ⟨q, hq, rfl⟩ := Option.map_eq_some_iff.1 ho
  obtain ⟨x, y, _, hy, rfl⟩ := Run.bind_eq_some.1 hq
  obtain ⟨z, w, _, hw, rfl⟩ := Run.bind_eq_some.1 hy
  have hm := p.finish_meets hw
  exact hm

theorem route_meets (p : Processor σ) {c : Calls σ} {config : Config} {tag : Option String}
    {label : String} {copy : Option Tree} {n : Tree} {s : Session σ} {o : Outcome σ Reply}
    (ho : p.route c config tag label copy n s = some o) : o.value.Meets o.session.config := by
  unfold route at ho
  by_cases hx : isExcluded config tag = true
  · rw [if_pos hx] at ho
    cases ho
    exact Reply.meets_of_error _ n _
  rw [if_neg hx] at ho
  cases hr : p.resolve config tag with
  | some hd =>
    rw [hr] at ho
    exact p.invoke_meets ho
  | none =>
    rw [hr] at ho
    by_cases hs : config.strict = true
    · rw [if_pos hs] at ho
      cases ho
      exact Reply.meets_of_error _ n _
    · rw [if_neg hs] at ho
      exact p.walk_meets ho

theorem enter_meets (p : Processor σ) {c : Calls σ} {n : Tree} {s : Session σ}
    {o : Outcome σ Reply} (ho : p.enter c n s = some o) : o.value.Meets o.session.config := by
  rw [enter_apply] at ho
  obtain ⟨q, hq, rfl⟩ := Option.map_eq_some_iff.1 ho
  rw [dispatch_apply] at hq
  obtain ⟨u, hu, rfl⟩ := Option.map_eq_some_iff.1 hq
  have hm := p.route_meets hu
  exact hm

/-! ### Nodes that nobody serves -/

/-- No handler serves the node and nothing refuses it. -/
structure Unserved (p : Processor σ) (config : Config) (n : Tree) : Prop where
  admitted (tag : String) : n.tagName? = some tag → config.excludedTags.contains tag = false
  own (tag : String) : n.tagName? = some tag → p.registry.handlers.find? tag = none
  standIn (tag : String) :
    config.defaultHandler = some tag → p.registry.handlers.find? tag = none
  lenient : config.strict = false

theorem Unserved.route {p : Processor σ} {config : Config} {n : Tree} (h : p.Unserved config n)
    (c : Calls σ) (label : String) (copy : Option Tree) (m : Tree) :
    p.route c config n.tagName? label copy m = p.walk c label copy m := by
  have admitted := isExcluded_eq_false_iff.2 h.admitted
  have unserved := resolve_eq_none_iff.2 ⟨h.own, h.standIn⟩
  unfold Processor.route
  simp [admitted, unserved, h.lenient]

theorem Unserved.enter_ok {p : Processor σ} {n : Tree} {s : Session σ}
    (h : p.Unserved s.config n) {c : Calls σ} {o : Outcome σ Reply} {v : Element}
    (ho : p.enter c n s = some o) (hv : o.value.result = .ok v) : o.value.rest.isEmpty = true := by
  rw [enter_apply] at ho
  obtain ⟨q, hq, rfl⟩ := Option.map_eq_some_iff.1 ho
  rw [dispatch_apply] at hq
  obtain ⟨u, hu, rfl⟩ := Option.map_eq_some_iff.1 hq
  change p.route c s.config n.tagName? _ _ _ _ = some u at hu
  rw [h.route] at hu
  exact (walk_ok hu hv).2

/-! ### Calls -/

/-- The call on `n` from `s` goes on to dispatch `m` in the session `t`. -/
def Dispatches (p : Processor σ) (n : Tree) (s : Session σ) (m : Tree) (t : Session σ) : Prop :=
  ComesTo (fun k => p.prepare (p.calls k) n) s (.ok m) t

/-- A successful call has dispatched its node. -/
theorem process_ok {p : Processor σ} {k : Nat} {n : Tree} {s : Session σ} {o : Outcome σ Reply}
    {v : Element} (ho : p.process k n s = some o) (hv : o.value.result = .ok v) :
    ∃ l m t q j, p.prepare (p.calls l) n s = some ⟨.ok m, t, j⟩ ∧
      p.enter (p.calls l) m t = some q ∧ o = q.after j := by
  cases k with
  | zero => cases ho
  | succ k =>
    rw [process_succ, processStep_apply] at ho
    obtain ⟨⟨r, t, j⟩, q, hx, hq, rfl⟩ := Run.bind_eq_some.1 ho
    cases r with
    | error e =>
      cases hq
      cases hv
    | ok m => exact ⟨k, m, t, q, j, hx, hq, rfl⟩

/-- A value that a call returns has the type that is expected when it returns, and the node is
empty if that is demanded then; a node that only the walker serves is empty in any case. -/
theorem process_keeps_contract (p : Processor σ) (k : Nat) (n : Tree) (s : Session σ)
    (o : Outcome σ Reply) (v : Element) (ho : p.process k n s = some o)
    (hv : o.value.result = .ok v) :
    o.session.config.expected.Covers v ∧
    (o.session.config.requireEmpty = true → o.value.rest.isEmpty = true) ∧
    ∀ m t, p.Dispatches n s m t → p.Unserved t.config m → o.value.rest.isEmpty = true := by
  obtain ⟨l, m, t, q, j, hp, hq, rfl⟩ := process_ok ho hv
  have hm := p.enter_meets hq
  refine ⟨hm.type v hv, hm.consumed v hv, ?_⟩
  intro m' t' hd hu
  obtain ⟨hm, rfl⟩ := ComesTo.unique (p.prepare_lasting n) ⟨l, j, hp⟩ hd
  cases hm
  change q.value.rest.isEmpty = true
  exact hu.enter_ok hq hv

end Processor

/-- Lifts all demands on results, and leaves its node as it is. -/
def lenient : Handler Unit := fun n =>
  .configure (.requireEmpty false) (.configure (.expected .any) (.done ⟨.ok (.node n), n⟩))

def lenientProcessor : Processor Unit := ⟨"Test", .ofList [.handler "lenient" lenient]⟩

/-- A node that nobody serves around one that is served. -/
def lenientTree : Tree :=
  .ofElements [.atom (.symbol "wrap"), .node (.tagged (.symbol "lenient"))]

/-- The child is left unconsumed, which its own handler has allowed; the node around it is empty
all the same. -/
theorem process_keeps_contract_walked :
    ∃ o v, lenientProcessor.process 3 lenientTree { config := {}, state := () } = some o ∧
      o.value.result = .ok v ∧ o.session.config.expected.Covers v ∧
      o.session.config.requireEmpty = false ∧ o.value.rest.isEmpty = true := by
  have h : (lenientProcessor.process 3 lenientTree { config := {}, state := () }).map
      (fun o => (o.value.result.isOk, o.session.config.requireEmpty)) = some (true, false) := by
    decide +kernel
  obtain ⟨o, ho, hf⟩ := Option.map_eq_some_iff.1 h
  obtain ⟨hr, he⟩ := Prod.mk.injEq .. ▸ hf
  cases hv : o.value.result with
  | error e => rw [hv] at hr; cases hr
  | ok v =>
    have hc := lenientProcessor.process_keeps_contract 3 lenientTree _ o v ho hv
    have hu : lenientProcessor.Unserved {} lenientTree := by
      refine ⟨fun _ _ => rfl, fun tag ht => ?_, fun tag ht => ?_, rfl⟩
      · cases ht
        decide +kernel
      · cases ht
    exact ⟨o, v, ho, hv, hc.1, he, hc.2.2 lenientTree _ ⟨0, [], rfl⟩ hu⟩

end TagDispatch
