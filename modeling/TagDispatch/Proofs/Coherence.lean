import TagDispatch.Proofs.Scopes

/-!
Three ways through the scopes. A name is looked up from the innermost scope outwards, all visible
bindings are collected from the outermost scope inwards, and a name is set at a position that is
counted from the outermost scope. The three agree in every environment that operations lead to, and
the positions are always there.
-/

namespace TagDispatch.Environment

variable {α : Type}

/-! ### Looking up and collecting -/

theorem find?_visible (e : Environment α) (name : String) :
    e.visible.find? name = e.get? name := by
  have merged (scopes : List (Table α)) :
      (scopes.foldr (fun scope (acc : Table α) => acc.override scope) ∅).find? name =
        scopes.findSome? (·.find? name) := by
    induction scopes with
    | nil => rfl
    | cons t rest ih =>
      rw [List.foldr_cons, Table.find?_override, ih, List.findSome?_cons]
      cases t.find? name <;> rfl
  rw [get?_eq_findSome?]
  exact merged e.scopes

/-! ### Binding a name in one of the scopes -/

/-- No scope inside the one where the name is bound anew may bind it. -/
theorem findSome?_modify {scopes : List (Table α)} {i : Nat} {name : String} (value : α)
    (inRange : i < scopes.length) (inside : ∀ t ∈ scopes.take i, t.contains name = false)
    (other : String) :
    (scopes.modify i (·.insert name value)).findSome? (·.find? other) =
      if other = name then some value else scopes.findSome? (·.find? other) := by
  induction scopes generalizing i with
  | nil => cases inRange
  | cons t rest ih =>
    cases i with
    | zero =>
      rw [List.modify_zero_cons, List.findSome?_cons, Table.find?_insert, List.findSome?_cons]
      by_cases same : other = name
      · rw [if_pos same, if_pos same]
      · rw [if_neg same, if_neg same]
    | succ i =>
      rw [List.take_succ_cons] at inside
      obtain ⟨here, further⟩ := List.forall_mem_cons.1 inside
      rw [List.modify_succ_cons, List.findSome?_cons, List.findSome?_cons,
        ih (Nat.lt_of_succ_lt_succ inRange) further]
      by_cases same : other = name
      · have unbound : t.find? other = none := by simpa [Table.contains, same] using here
        rw [unbound]
      · rw [if_neg same, if_neg same]

/-- The environment `e'` is `e` with `name` bound to `value`. -/
structure Binds (e : Environment α) (name : String) (value : α) (e' : Environment α) : Prop where
  bound : e'.get? name = some value
  others (other : String) : other ≠ name → e'.get? other = e.get? other
  depth : e'.depth = e.depth

theorem binds_of_modify {e e' : Environment α} {i : Nat} {name : String} {value : α}
    (inRange : i < e.scopes.length) (inside : ∀ t ∈ e.scopes.take i, t.contains name = false)
    (changed : e'.scopes = e.scopes.modify i (·.insert name value)) : Binds e name value e' := by
  have seen (other : String) := findSome?_modify value inRange inside other
  rw [← changed] at seen
  refine ⟨?_, fun other different => ?_, ?_⟩
  · rw [get?_eq_findSome?, seen, if_pos rfl]
  · rw [get?_eq_findSome?, seen, if_neg different, ← get?_eq_findSome?]
  · have sizes := congrArg List.length changed
    rw [List.length_modify] at sizes
    exact sizes

theorem define_binds (e : Environment α) (name : String) (value : α) :
    Binds e name value (e.define name value) :=
  binds_of_modify (i := 0) (Nat.succ_pos _) nofun rfl

/-- Where `set` binds a name: in the innermost scope that binds it already, or else in the current
one. -/
def target (e : Environment α) (name : String) : Nat := (home? e.scopes name).getD 0

theorem target_lt (e : Environment α) (name : String) : e.target name < e.scopes.length := by
  unfold target
  cases home : home? e.scopes name with
  | none => exact Nat.succ_pos _
  | some i => exact (List.findIdx?_eq_some_iff_getElem.1 home).1

theorem set_scopes_target (e : Environment α) (name : String) (value : α) :
    (e.set name value).scopes = e.scopes.modify (e.target name) (·.insert name value) := by
  rw [set_scopes, assignOuter_eq, target]
  cases home? e.scopes name <;> rfl

theorem set_binds (e : Environment α) (name : String) (value : α) :
    Binds e name value (e.set name value) := by
  refine binds_of_modify (e.target_lt name) (fun t mem => ?_) (e.set_scopes_target name value)
  unfold target at mem
  cases home : home? e.scopes name with
  | none => exact absurd mem (by simp [home])
  | some i =>
    obtain ⟨bound, -, before⟩ := List.findIdx?_eq_some_iff_getElem.1 home
    rw [home, Option.getD_some] at mem
    obtain ⟨j, hj, rfl⟩ := List.mem_take_iff_getElem.1 mem
    exact eq_false_of_ne_true (before j (by omega))

/-! ### Scopes by position -/

/-- The scopes in the order in which they were opened. -/
def stack (e : Environment α) : List (Table α) := e.scopes.reverse

/-- The last position where the test holds. -/
def lastPosition? (test : Table α → Bool) : List (Table α) → Option Nat
  | [] => none
  | t :: rest => ((lastPosition? test rest).map (· + 1)).or (if test t then some 0 else none)

/-- The position of the scope that was opened last. It is one less than the number of scopes, which
must not be zero. -/
def currentPosition? (stack : List (Table α)) : Option Nat :=
  if 0 < stack.length then some (stack.length - 1) else none

/-- Binds a name in the scope at a position that must be in range. -/
def bindAt? (name : String) (value : α) (stack : List (Table α)) (i : Nat) :
    Option (List (Table α)) :=
  if i < stack.length then some (stack.modify i (·.insert name value)) else none

/-- An operation by positions. It comes to nothing where a position would be below zero or out of
range. -/
def Op.positioned? (stack : List (Table α)) : Op α → Option (List (Table α))
  | .get _ => some stack
  | .set name value =>
    (currentPosition? stack).bind fun current =>
      bindAt? name value stack ((lastPosition? (·.contains name) stack).getD current)
  | .define name value => (currentPosition? stack).bind (bindAt? name value stack)
  | .push => some (stack ++ [∅])
  | .pop => some (if 1 < stack.length then stack.dropLast else stack)

theorem lastPosition?_concat (test : Table α → Bool) (stack : List (Table α)) (t : Table α) :
    lastPosition? test (stack ++ [t]) =
      if test t then some stack.length else lastPosition? test stack := by
  induction stack with
  | nil => cases h : test t <;> simp [lastPosition?, h]
  | cons s rest ih =>
    rw [List.cons_append, lastPosition?, ih, lastPosition?]
    cases test t <;> simp

/-- Counted from the other end. -/
theorem lastPosition?_reverse (test : Table α → Bool) (scopes : List (Table α)) :
    lastPosition? test scopes.reverse =
      (scopes.findIdx? test).map fun i => scopes.length - 1 - i := by
  induction scopes with
  | nil => rfl
  | cons t rest ih =>
    rw [List.reverse_cons, lastPosition?_concat, ih, List.findIdx?_cons, List.length_reverse]
    cases test t with
    | true => rfl
    | false =>
      simp only [Bool.false_eq_true, ↓reduceIte, Option.map_map, List.length_cons]
      congr 1
      funext i
      simp only [Function.comp_apply]
      omega

theorem reverse_modify (scopes : List (Table α)) {i : Nat} (inRange : i < scopes.length)
    (f : Table α → Table α) :
    scopes.reverse.modify (scopes.length - 1 - i) f = (scopes.modify i f).reverse := by
  refine List.ext_getElem (by simp) fun j hj hj' => ?_
  rw [List.length_modify, List.length_reverse] at hj
  simp only [List.getElem_modify, List.getElem_reverse, List.length_modify]
  by_cases here : i = scopes.length - 1 - j
  · rw [if_pos here, if_pos (by omega)]
  · rw [if_neg here, if_neg (by omega)]

theorem stack_length (e : Environment α) : e.stack.length = e.outer.length + 1 :=
  List.length_reverse

theorem currentPosition?_stack (e : Environment α) :
    currentPosition? e.stack = some (e.scopes.length - 1) := by
  rw [currentPosition?, stack_length, if_pos (Nat.succ_pos _)]
  rfl

theorem bindAt?_stack (e : Environment α) {i : Nat} (inRange : i < e.scopes.length) (name : String)
    (value : α) : bindAt? name value e.stack (e.scopes.length - 1 - i) =
      some (e.scopes.modify i (·.insert name value)).reverse := by
  have length : e.stack.length = e.scopes.length := List.length_reverse
  rw [bindAt?, if_pos (by omega), stack, reverse_modify _ inRange]

/-- One operation: its positions are in range, and it does what is done without positions. -/
theorem positioned?_stack (e : Environment α) (op : Op α) :
    op.positioned? e.stack = some (op.apply e).stack := by
  cases op with
  | get name => rfl
  | set name value =>
    have position : (lastPosition? (·.contains name) e.stack).getD (e.scopes.length - 1) =
        e.scopes.length - 1 - e.target name := by
      rw [stack, lastPosition?_reverse, target, home?]
      cases e.scopes.findIdx? (·.contains name) <;> rfl
    rw [Op.positioned?, currentPosition?_stack, Option.bind_some, position,
      bindAt?_stack e (e.target_lt name), ← set_scopes_target]
    rfl
  | define name value =>
    rw [Op.positioned?, currentPosition?_stack, Option.bind_some]
    exact bindAt?_stack e (i := 0) (Nat.succ_pos _) name value
  | push =>
    rw [Op.positioned?, stack, ← List.reverse_cons]
    rfl
  | pop =>
    rw [Op.positioned?, stack_length]
    obtain ⟨current, outer⟩ := e
    cases outer with
    | nil => rfl
    | cons t rest =>
      rw [if_pos (by simp), stack, scopes, List.reverse_cons, List.dropLast_concat]
      rfl

/-- The run: every position in it is in range. -/
theorem positioned?_after (e : Environment α) (w : List (Op α)) :
    w.foldlM Op.positioned? e.stack = some (e.after w).stack := by
  induction w generalizing e with
  | nil => rfl
  | cons op w ih =>
    rw [List.foldlM_cons, positioned?_stack]
    exact ih (op.apply e)

/-- Environments are coherent, whatever operations lead to them. There is always a scope; no
position underflows or is out of range, neither in the operations so far nor for the current scope.
What is looked up is what is among the visible bindings. After a name was set or defined it has the
new value, all other names have theirs, and there are as many scopes. Setting a name changes one
scope and no other: the innermost one that binds it, or the current one if none does. -/
theorem environment_is_coherent (w : List (Op α)) :
    let e := (new : Environment α).after w
    (w.foldlM Op.positioned? [∅] = some e.stack ∧ 0 < e.stack.length ∧
      (currentPosition? e.stack).bind (e.stack[·]?) = some e.current) ∧
    (∀ name, e.get? name = e.visible.find? name) ∧
    (∀ name value, Binds e name value (e.set name value) ∧
      Binds e name value (e.define name value)) ∧
    ∀ name value, ∃ i, i < e.depth ∧
      (home? e.scopes name = some i ∨ home? e.scopes name = none ∧ e.scopes[i]? = some e.current) ∧
      (e.set name value).scopes = e.scopes.modify i (·.insert name value) := by
  intro e
  refine ⟨⟨positioned?_after new w, ?_, ?_⟩, fun name => (e.find?_visible name).symm,
    fun name value => ⟨e.set_binds name value, e.define_binds name value⟩, fun name value =>
    ⟨e.target name, e.target_lt name, ?_, e.set_scopes_target name value⟩⟩
  · rw [stack_length]
    exact Nat.succ_pos _
  · rw [currentPosition?_stack, Option.bind_some, stack,
      List.getElem?_reverse (Nat.sub_one_lt_of_lt (Nat.succ_pos _)), Nat.sub_self]
    rfl
  · unfold target
    cases home? e.scopes name with
    | none => exact .inr ⟨rfl, rfl⟩
    | some i => exact .inl rfl

end TagDispatch.Environment
