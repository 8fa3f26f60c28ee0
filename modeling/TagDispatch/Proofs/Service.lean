import TagDispatch.Proofs.Step

/-!
Who serves a dispatched node: nobody, because it is refused; a handler; or the walker. For each of
the three there is one equation for the whole dispatch, from the first step in the journal to the
last.
-/

namespace TagDispatch

variable {σ α β : Type}

/-- The outcome with another value. -/
def Outcome.map (f : α → β) (o : Outcome σ α) : Outcome σ β := ⟨f o.value, o.session, o.journal⟩

inductive Service (σ : Type) where
  | refused (e : ProcessError)
  | handler (h : Handler σ) (isDefault : Bool)
  | walker

namespace Processor

def service (p : Processor σ) (config : Config) (n : Tree) : Service σ :=
  if isExcluded config n.tagName? then .refused (.unsupported n.label)
  else
    match p.resolve config n.tagName? with
    | some (h, isDefault) => .handler h isDefault
    | none => if config.strict then .refused (.unknown n.label p.kind) else .walker

/-- The node with the field names of its tag. -/
def installed (config : Config) (n : Tree) : Tree := n.setFields (fieldsFor config n.tagName?)

/-- The node as the handler that serves it gets it. -/
def given (config : Config) (isDefault : Bool) (n : Tree) : Tree :=
  handed config isDefault (installed config n)

/-- What is recorded of a node before it is served. -/
def opening (n : Tree) (s : Session σ) : List (Step σ) :=
  [.log (.span "process" (.nodeDispatched n.label s.context.length)), .called n s] ++
    traceBefore s.config n

/-- What is recorded besides when a handler starts. -/
def start (p : Processor σ) (isDefault : Bool) (n : Tree) (s : Session σ) : List (Step σ) :=
  p.warning s.config isDefault n.label ++
    [.invoked .handler n.tagName? (given s.config isDefault n) (s.enter n.label)]

/-- What is recorded of a node when it has been served. -/
def closing (config : Config) (n : Tree) (r : Reply) : List (Step σ) :=
  traceAfter config n r ++ [.answered r]

theorem closing_error (config : Config) (n : Tree) (e : ProcessError) (rest : Tree) :
    closing config n ⟨.error e, rest⟩ = ([.answered ⟨.error e, rest⟩] : List (Step σ)) := rfl

theorem resolve_of_service {p : Processor σ} {config : Config} {n : Tree} {f : Handler σ}
    {isDefault : Bool} (h : p.service config n = .handler f isDefault) :
    p.resolve config n.tagName? = some (f, isDefault) := by
  unfold service at h
  split at h
  · cases h
  · split at h
    · next hr =>
      cases h
      exact hr
    · split at h <;> cases h

/-! ### Which nodes are refused -/

/-- The node is refused: its tag is excluded, or the processor is strict and there is neither a
handler for the tag nor a default one. -/
inductive Refuses (p : Processor σ) (config : Config) (n : Tree) : ProcessError → Prop
  | excluded {tag : String} (tagged : n.tagName? = some tag)
      (listed : config.excludedTags.contains tag = true) :
      Refuses p config n (.unsupported n.label)
  | unknown (admitted : ∀ tag, n.tagName? = some tag → config.excludedTags.contains tag = false)
      (own : ∀ tag, n.tagName? = some tag → p.registry.handlers.find? tag = none)
      (standIn : ∀ tag, config.defaultHandler = some tag → p.registry.handlers.find? tag = none)
      (strict : config.strict = true) : Refuses p config n (.unknown n.label p.kind)

theorem isExcluded_eq_any (config : Config) (tag : Option String) :
    isExcluded config tag = tag.any config.excludedTags.contains := by
  cases tag <;> rfl

theorem isExcluded_eq_false_iff {config : Config} {tag : Option String} :
    isExcluded config tag = false ↔ ∀ t, tag = some t → config.excludedTags.contains t = false := by
  rw [isExcluded_eq_any, Option.any_eq_false]

theorem resolve_eq_none_iff {p : Processor σ} {config : Config} {tag : Option String} :
    p.resolve config tag = none ↔ (∀ t, tag = some t → p.registry.handlers.find? t = none) ∧
      ∀ t, config.defaultHandler = some t → p.registry.handlers.find? t = none := by
  rw [← Option.bind_eq_none_iff, ← Option.bind_eq_none_iff, resolve]
  cases tag.bind p.registry.handlers.find? <;> simp

theorem service_refused_iff {p : Processor σ} {config : Config} {n : Tree} {e : ProcessError} :
    p.service config n = .refused e ↔ p.Refuses config n e := by
  constructor
  · intro refused
    unfold service at refused
    split at refused
    · next excluded =>
      cases refused
      cases tagged : n.tagName? with
      | none =>
        rw [tagged] at excluded
        cases excluded
      | some tag =>
        rw [tagged] at excluded
        exact .excluded tagged excluded
    · next admitted =>
      split at refused
      · cases refused
      · next unserved =>
        split at refused
        · next strict =>
          cases refused
          obtain ⟨own, standIn⟩ := resolve_eq_none_iff.1 unserved
          exact .unknown (isExcluded_eq_false_iff.1 (eq_false_of_ne_true admitted)) own
            standIn strict
        · cases refused
  · intro refuses
    cases refuses with
    | excluded tagged listed =>
      have excluded : isExcluded config n.tagName? = true := by
        rw [tagged]
        exact listed
      rw [service, if_pos excluded]
    | unknown admitted own standIn strict =>
      have unserved := resolve_eq_none_iff.2 ⟨own, standIn⟩
      simp [service, isExcluded_eq_false_iff.2 admitted, unserved, strict]

/-! ### Dispatch by service -/

/-- An outcome of dispatch, with what `enter` puts around it. -/
def entered (n : Tree) (s : Session σ) (o : Outcome σ Reply) : Outcome σ Reply :=
  ⟨o.value, o.session.exit, opening n s ++ (o.journal ++ closing s.config n o.value)⟩

theorem enter_eq_route (p : Processor σ) (c : Calls σ) (n : Tree) (s : Session σ) :
    p.enter c n s = (p.route c s.config n.tagName? n.label (p.snapshot s.config n)
      (installed s.config n) (s.enter n.label)).map (entered n s) := by
  rw [enter_apply, dispatch_apply, Option.map_map]
  congr 1
  funext o
  simp [entered, opening, closing, Session.enter]

variable {p : Processor σ} {n : Tree} {s : Session σ}

theorem enter_refused {e : ProcessError} (h : p.service s.config n = .refused e) (c : Calls σ) :
    p.enter c n s = some (entered n s
      ⟨⟨.error e, installed s.config n⟩, s.enter n.label, []⟩) := by
  rw [enter_eq_route]
  unfold service at h
  unfold route
  split at h
  · next hx =>
    cases h
    rw [if_pos hx]
    rfl
  · next hx =>
    rw [if_neg hx]
    split at h
    · cases h
    · next hr =>
      rw [hr]
      split at h
      · next hs =>
        cases h
        simp only [hs, ↓reduceIte]
        rfl
      · cases h

theorem enter_handler {f : Handler σ} {isDefault : Bool}
    (h : p.service s.config n = .handler f isDefault) (c : Calls σ) :
    p.enter c n s =
      (((f (given s.config isDefault n)).run p.profile c >>=
          p.settleHandler c n.tagName? n.label (p.snapshot s.config n)) (s.enter n.label)).map
        fun o => entered n s (o.after (p.start isDefault n s)) := by
  rw [enter_eq_route]
  unfold service at h
  unfold route
  split at h
  · cases h
  · next hx =>
    rw [if_neg hx]
    split at h
    · next g d hr =>
      cases h
      simp only [hr]
      rw [invoke_apply, Option.map_map]
      rfl
    · split at h <;> cases h

/-- A handler that has returned a value is followed by the checks only. -/
theorem enter_returned {c : Calls σ} {f : Handler σ} {isDefault : Bool} {v : Element} {rest : Tree}
    {t : Session σ} {j : List (Step σ)} (h : p.service s.config n = .handler f isDefault)
    (returned : (f (given s.config isDefault n)).run p.profile c (s.enter n.label) =
      some ⟨⟨.ok v, rest⟩, t, j⟩) :
    p.enter c n s = some (entered n s
      ⟨⟨p.checkHandled t.config n.label (p.snapshot s.config n) v rest, rest⟩, t,
        p.start isDefault n s ++ j⟩) := by
  have settled : p.settleHandler c n.tagName? n.label (p.snapshot s.config n) ⟨.ok v, rest⟩ t =
      some ⟨⟨p.checkHandled t.config n.label (p.snapshot s.config n) v rest, rest⟩, t, []⟩ := rfl
  rw [enter_handler h, Run.bind_apply, returned, Option.bind_some, settled]
  simp [Outcome.after]

/-- Without a hook for the tag the checks come next in any case, and they let errors through. -/
theorem enter_unrecovered {c : Calls σ} {f : Handler σ} {isDefault : Bool}
    {r : Except ProcessError Element} {rest : Tree} {t : Session σ} {j : List (Step σ)}
    (h : p.service s.config n = .handler f isDefault)
    (unrecovered : p.recovery? n.tagName? = none)
    (ended : (f (given s.config isDefault n)).run p.profile c (s.enter n.label) =
      some ⟨⟨r, rest⟩, t, j⟩) :
    p.enter c n s = some (entered n s
      ⟨⟨r.bind (p.checkHandled t.config n.label (p.snapshot s.config n) · rest), rest⟩, t,
        p.start isDefault n s ++ j⟩) := by
  rw [enter_handler h, Run.bind_apply, ended, Option.bind_some]
  simp only [settleHandler, recover_none p c n.label (.inl unrecovered), Run.bind_apply,
    Run.pure_apply, Option.bind_some, finish_apply, Option.map_some]
  simp [Outcome.after]

theorem enter_walker (h : p.service s.config n = .walker) (c : Calls σ) :
    p.enter c n s = (p.walk c n.label (p.snapshot s.config n) (installed s.config n)
      (s.enter n.label)).map (entered n s) := by
  rw [enter_eq_route]
  unfold service at h
  unfold route
  split at h
  · cases h
  · next hx =>
    rw [if_neg hx]
    split at h
    · cases h
    · next hr =>
      rw [hr]
      split at h
      · cases h
      · next hs =>
        simp only [hs, Bool.false_eq_true, ↓reduceIte]

/-! ### One node after the other -/

/-- Replaces the nodes among some elements, left to right, up to the first failure. The second
component is what was not reached. -/
def eachNode (f : Tree → Run σ (Except ProcessError Tree)) :
    List Element → Run σ (Except ProcessError (List Element) × List Element)
  | [] => pure (.ok [], [])
  | .atom a :: es => do
    let r ← eachNode f es
    return (r.1.map (.atom a :: ·), r.2)
  | .node m :: es => do
    match ← f m with
    | .error e => return (.error e, es)
    | .ok m =>
      let r ← eachNode f es
      return (r.1.map (.node m :: ·), r.2)

section eachNode

variable {f : Tree → Run σ (Except ProcessError Tree)}

theorem eachNode_atom (a : Atom) (es : List Element) (s : Session σ) :
    eachNode f (.atom a :: es) s =
      (eachNode f es s).map (.map fun r => (r.1.map (.atom a :: ·), r.2)) := by
  rw [eachNode, Run.bind_apply]
  cases eachNode f es s with
  | none => rfl
  | some o => simp [Outcome.map, Outcome.after]

theorem eachNode_node (m : Tree) (es : List Element) (s : Session σ) :
    eachNode f (.node m :: es) s = (f m s).bind fun o =>
      match o.value with
      | .error e => some ⟨(.error e, es), o.session, o.journal⟩
      | .ok m => (eachNode f es o.session).map fun q =>
          ⟨(q.value.1.map (.node m :: ·), q.value.2), q.session, o.journal ++ q.journal⟩ := by
  rw [eachNode, Run.bind_apply]
  cases f m s with
  | none => rfl
  | some o =>
    simp only [Option.bind_some]
    cases o.value with
    | error e => simp [Outcome.after]
    | ok m =>
      simp only [Run.bind_apply]
      cases eachNode f es o.session <;> simp [Outcome.after]

/-- Elements after others that went well. -/
theorem eachNode_append {front vs left : List Element} {s t : Session σ} {j : List (Step σ)}
    (h : eachNode f front s = some ⟨(.ok vs, left), t, j⟩) (back : List Element) :
    eachNode f (front ++ back) s = (eachNode f back t).map fun q =>
      ⟨(q.value.1.map (vs ++ ·), q.value.2), q.session, j ++ q.journal⟩ := by
  induction front generalizing s vs j with
  | nil =>
    cases h
    rw [List.nil_append]
    cases eachNode f back t with
    | none => rfl
    | some q =>
      obtain ⟨⟨r, rest⟩, u, i⟩ := q
      cases r <;> rfl
  | cons e front ih =>
    cases e with
    | atom a =>
      rw [eachNode_atom] at h
      obtain ⟨⟨⟨r, l⟩, t', j'⟩, hf, he⟩ := Option.map_eq_some_iff.1 h
      cases r with
      | error e => cases he
      | ok ws =>
        cases he
        rw [List.cons_append, eachNode_atom, ih hf, Option.map_map]
        congr 1
        funext q
        cases hq : q.value.1 <;> simp [Outcome.map, Except.map, hq]
    | node m =>
      rw [eachNode_node] at h
      obtain ⟨o, ho, h⟩ := Option.bind_eq_some_iff.1 h
      rw [List.cons_append, eachNode_node, ho, Option.bind_some]
      cases hk : o.value with
      | error e =>
        simp only [hk] at h
        cases h
      | ok child =>
        simp only [hk] at h ⊢
        obtain ⟨⟨⟨r, l⟩, t', j'⟩, hf, he⟩ := Option.map_eq_some_iff.1 h
        cases r with
        | error e => cases he
        | ok ws =>
          cases he
          rw [ih hf, Option.map_map]
          congr 1
          funext q
          cases hq : q.value.1 <;> simp [Except.map, hq]

/-- The first failure is the last node that was tried. -/
theorem eachNode_failed {front vs left : List Element} {child : Tree} {e : ProcessError}
    {s t u : Session σ} {i j : List (Step σ)}
    (before : eachNode f front s = some ⟨(.ok vs, left), t, j⟩)
    (failed : f child t = some ⟨.error e, u, i⟩) (back : List Element) :
    eachNode f (front ++ .node child :: back) s = some ⟨(.error e, back), u, j ++ i⟩ := by
  rw [eachNode_append before, eachNode_node, failed]
  rfl

theorem exists_eachNode_failed {es left : List Element} {e : ProcessError} {s u : Session σ}
    {j : List (Step σ)} (h : eachNode f es s = some ⟨(.error e, left), u, j⟩) :
    ∃ front child back vs left t i k, es = front ++ .node child :: back ∧
      eachNode f front s = some ⟨(.ok vs, left), t, i⟩ ∧
      f child t = some ⟨.error e, u, k⟩ := by
  induction es generalizing s j with
  | nil => cases h
  | cons x es ih =>
    cases x with
    | atom a =>
      rw [eachNode_atom] at h
      obtain ⟨⟨⟨r, l⟩, v, k⟩, ho, he⟩ := Option.map_eq_some_iff.1 h
      cases r with
      | ok ws => cases he
      | error e' =>
        cases he
        obtain ⟨front, child, back, vs, left, t, i, k, rfl, hf, hq⟩ := ih ho
        refine ⟨.atom a :: front, child, back, .atom a :: vs, left, t, i, k, rfl, ?_, hq⟩
        rw [eachNode_atom, hf]
        rfl
    | node m =>
      rw [eachNode_node] at h
      obtain ⟨⟨r, v, k⟩, hm, h⟩ := Option.bind_eq_some_iff.1 h
      cases r with
      | error e' =>
        cases h
        exact ⟨[], m, _, [], [], s, [], _, rfl, rfl, hm⟩
      | ok kept =>
        obtain ⟨⟨⟨r, l⟩, v', k'⟩, ho, he⟩ := Option.map_eq_some_iff.1 h
        cases r with
        | ok ws => cases he
        | error e' =>
          cases he
          obtain ⟨front, child, back, vs, left, t, i, k', rfl, hf, hq⟩ := ih ho
          refine ⟨.node m :: front, child, back, .node kept :: vs, left, t, k ++ i, k', rfl, ?_,
            hq⟩
          rw [eachNode_node, hm, Option.bind_some, hf]
          rfl

/-- Every step in the journal comes from one of the nodes, and all before that one went well. -/
theorem eachNode_mem {es : List Element} {s : Session σ} {e : Step σ}
    {o : Outcome σ (Except ProcessError (List Element) × List Element)}
    (ho : eachNode f es s = some o) (he : e ∈ o.journal) :
    ∃ front child back vs left t j q, es = front ++ .node child :: back ∧
      eachNode f front s = some ⟨(.ok vs, left), t, j⟩ ∧ f child t = some q ∧ e ∈ q.journal := by
  induction es generalizing s o with
  | nil =>
    cases ho
    cases he
  | cons x es ih =>
    cases x with
    | atom a =>
      rw [eachNode_atom] at ho
      obtain ⟨o', ho', rfl⟩ := Option.map_eq_some_iff.1 ho
      obtain ⟨front, child, back, vs, left, t, j, q, rfl, hf, hq⟩ := ih ho' he
      refine ⟨.atom a :: front, child, back, .atom a :: vs, left, t, j, q, rfl, ?_, hq⟩
      rw [eachNode_atom, hf]
      rfl
    | node m =>
      rw [eachNode_node] at ho
      obtain ⟨q, hq, ho⟩ := Option.bind_eq_some_iff.1 ho
      have here (hj : e ∈ q.journal) : ∃ front child back vs left t j q,
          Element.node m :: es = front ++ .node child :: back ∧
          eachNode f front s = some ⟨(.ok vs, left), t, j⟩ ∧ f child t = some q ∧
          e ∈ q.journal :=
        ⟨[], m, es, [], [], s, [], q, rfl, rfl, hq, hj⟩
      cases hk : q.value with
      | error err =>
        simp only [hk] at ho
        cases ho
        exact here he
      | ok kept =>
        simp only [hk] at ho
        obtain ⟨o', ho', rfl⟩ := Option.map_eq_some_iff.1 ho
        rcases List.mem_append.1 he with he | he
        · exact here he
        · obtain ⟨front, child, back, vs, left, t, j, q', rfl, hf, hq'⟩ := ih ho' he
          refine ⟨.node m :: front, child, back, .node kept :: vs, left, t, q.journal ++ j, q',
            rfl, ?_, hq'⟩
          rw [eachNode_node, hq, Option.bind_some]
          simp only [hk, hf]
          rfl

end eachNode

/-! ### The walker -/

/-- A child of a walked node: processed, and kept or not. -/
def walkChild (c : Calls σ) (label : String) (m : Tree) : Run σ (Except ProcessError Tree) :=
  fun s => (c.process m s).map (.map fun r => r.result.bind (keepChild label))

theorem walkChild_apply (c : Calls σ) (label : String) (m : Tree) (s : Session σ) :
    walkChild c label m s = (c.process m s).map (.map fun r => r.result.bind (keepChild label)) :=
  rfl

theorem walkElements_eq (c : Calls σ) (label : String) (es : List Element) :
    walkElements c label es = eachNode (walkChild c label) es := by
  induction es with
  | nil => rfl
  | cons e es ih =>
    funext s
    cases e with
    | atom a =>
      rw [walkElements, ih]
      rfl
    | node m =>
      rw [walkElements, eachNode_node, Run.bind_apply, ih, walkChild_apply]
      cases c.process m s with
      | none => rfl
      | some o =>
        simp only [Option.bind_some, Option.map_some, Outcome.map]
        cases o.value.result.bind (keepChild label) with
        | error e => simp [Outcome.after]
        | ok child =>
          simp only [Run.bind_apply]
          cases eachNode (walkChild c label) es o.session <;> simp [Outcome.after]

theorem walk_apply (p : Processor σ) (c : Calls σ) (label : String) (copy : Option Tree)
    (n : Tree) (s : Session σ) :
    p.walk c label copy n s = (walkElements c label n.elements s).map fun o =>
      ⟨⟨o.value.1.bind fun es =>
          p.checkType o.session.config label copy (.node (retag n ⟨es, [], n.line⟩)),
        { n with elements := o.value.2 }⟩, o.session, o.journal⟩ := by
  unfold walk
  rw [Run.bind_apply]
  cases walkElements c label n.elements s with
  | none => rfl
  | some o =>
    simp only [Option.bind_some, Option.map_some]
    cases ho : o.value.1 <;> simp [Outcome.after, Except.bind]

/-! ### Rewriting the elements of a node -/

/-- When a node's elements are rewritten, nobody asks what was not reached. -/
theorem rewriteElements_eq (c : Calls σ) (es : List Element) (s : Session σ) :
    rewriteElements c es s = (eachNode c.rewrite es s).map (.map Prod.fst) := by
  induction es generalizing s with
  | nil => rfl
  | cons e es ih =>
    cases e with
    | atom a =>
      rw [rewriteElements, eachNode_atom, Run.bind_apply, ih]
      cases eachNode c.rewrite es s <;> simp [Outcome.map, Outcome.after]
    | node m =>
      rw [rewriteElements, eachNode_node, Run.bind_apply]
      cases c.rewrite m s with
      | none => rfl
      | some o =>
        simp only [Option.bind_some]
        cases o.value with
        | error e => simp [Outcome.after, Outcome.map]
        | ok m =>
          simp only [Run.bind_apply, ih]
          cases eachNode c.rewrite es o.session <;> simp [Outcome.after, Outcome.map]

theorem rewriteElements_some {c : Calls σ} {es : List Element} {s t : Session σ}
    {r : Except ProcessError (List Element)} {j : List (Step σ)} :
    rewriteElements c es s = some ⟨r, t, j⟩ ↔
      ∃ left, eachNode c.rewrite es s = some ⟨(r, left), t, j⟩ := by
  rw [rewriteElements_eq]
  constructor
  · intro h
    obtain ⟨⟨⟨r', left⟩, t', j'⟩, ho, he⟩ := Option.map_eq_some_iff.1 h
    cases he
    exact ⟨left, ho⟩
  · rintro ⟨left, h⟩
    rw [h]
    rfl

end Processor

end TagDispatch
