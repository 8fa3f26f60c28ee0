import TagDispatch.Environment
import TagDispatch.Proofs.Table

/-!
Scopes as a stack. Whatever is done between opening a scope and closing it again, the scopes around
it keep their names, and of their bindings only those change that are set from inside while no
scope inside hides them.
-/

namespace TagDispatch.Environment

variable {α : Type}

/-- All scopes, the innermost first. -/
def scopes (e : Environment α) : List (Table α) := e.current :: e.outer

inductive Op (α : Type) where
  | get (name : String)
  | set (name : String) (value : α)
  | define (name : String) (value : α)
  | push
  | pop

def Op.apply (e : Environment α) : Op α → Environment α
  | .get _ => e
  | .set name value => e.set name value
  | .define name value => e.define name value
  | .push => e.push
  | .pop => e.leave

def after (e : Environment α) (w : List (Op α)) : Environment α := w.foldl Op.apply e

/-- After operations in a scope of their own. -/
def enclosing (e : Environment α) (w : List (Op α)) : Environment α :=
  e.after (.push :: w ++ [.pop])

/-- How many scopes are open after an operation. A `pop` that closes none of them has no place. -/
def Op.level (opened : Nat) : Op α → Option Nat
  | .push => some (opened + 1)
  | .pop => if opened = 0 then none else some (opened - 1)
  | _ => some opened

/-- Every `pop` closes a scope that an earlier `push` has opened, and all of them get closed. -/
def Balanced (w : List (Op α)) : Prop := w.foldlM Op.level 0 = some 0

instance (w : List (Op α)) : Decidable (Balanced w) :=
  inferInstanceAs (Decidable (w.foldlM Op.level 0 = some 0))

/-! ### Stacks of scopes -/

/-- Where a name is bound innermost. -/
def home? (scopes : List (Table α)) (name : String) : Option Nat :=
  scopes.findIdx? (·.contains name)

/-- What the scope at a position binds a name to. -/
def binding? (scopes : List (Table α)) (i : Nat) (name : String) : Option α :=
  scopes[i]?.bind (·.find? name)

/-- Binds a name anew where it is bound innermost. -/
def rebind (name : String) (value : α) (scopes : List (Table α)) : List (Table α) :=
  (assignOuter name value scopes).getD scopes

theorem binding?_isSome (scopes : List (Table α)) (i : Nat) (name : String) :
    (binding? scopes i name).isSome = scopes[i]?.any (·.contains name) := by
  unfold binding?
  cases scopes[i]? <;> rfl

theorem binding?_of_home {scopes : List (Table α)} {i : Nat} {name : String}
    (h : home? scopes name = some i) : (binding? scopes i name).isSome = true := by
  obtain ⟨bound, found, -⟩ := List.findIdx?_eq_some_iff_getElem.1 h
  rw [binding?_isSome, List.getElem?_eq_getElem bound]
  exact found

theorem assignOuter_eq (name : String) (value : α) (scopes : List (Table α)) :
    assignOuter name value scopes =
      (home? scopes name).map fun i => scopes.modify i (·.insert name value) := by
  induction scopes with
  | nil => rfl
  | cons t rest ih =>
    rw [assignOuter, home?, List.findIdx?_cons, ih]
    cases t.contains name with
    | true => rfl
    | false =>
      rw [home?]
      cases rest.findIdx? (·.contains name) <;> rfl

theorem assignOuter_append (name : String) (value : α) (inner base : List (Table α)) :
    assignOuter name value (inner ++ base) =
      ((assignOuter name value inner).map (· ++ base)).or
        ((assignOuter name value base).map (inner ++ ·)) := by
  induction inner with
  | nil => cases h : assignOuter name value base <;> simp [assignOuter, h]
  | cons t rest ih =>
    rw [List.cons_append, assignOuter, assignOuter, ih]
    cases t.contains name with
    | true => rfl
    | false =>
      cases assignOuter name value rest <;> cases assignOuter name value base <;> rfl

theorem binding?_rebind (name other : String) (value : α) (scopes : List (Table α)) (i : Nat) :
    binding? (rebind name value scopes) i other =
      if other = name ∧ home? scopes name = some i then some value
      else binding? scopes i other := by
  unfold rebind
  rw [assignOuter_eq]
  cases home : home? scopes name with
  | none => simp
  | some k =>
    obtain ⟨bound, -⟩ := List.findIdx?_eq_some_iff_getElem.1 home
    simp only [Option.map_some, Option.getD_some, binding?, List.getElem?_modify,
      Option.some.injEq]
    by_cases here : k = i
    · subst here
      simp [bound]
    · simp [here]

theorem set_scopes (e : Environment α) (name : String) (value : α) :
    (e.set name value).scopes =
      (assignOuter name value e.scopes).getD (e.current.insert name value :: e.outer) := by
  unfold scopes set
  rw [assignOuter]
  split
  · rfl
  · cases assignOuter name value e.outer <;> rfl

theorem leave_scopes {e : Environment α} {t : Table α} {rest : List (Table α)}
    (split : e.scopes = t :: rest) (nested : rest ≠ []) : e.leave.scopes = rest := by
  obtain ⟨-, around⟩ := List.cons.inj split
  cases rest with
  | nil => exact absurd rfl nested
  | cons t' rest =>
    unfold leave pop?
    rw [around]
    rfl

theorem get?_eq_findSome? (e : Environment α) (name : String) :
    e.get? name = e.scopes.findSome? (·.find? name) := by
  rw [scopes, List.findSome?_cons, get?]
  cases e.current.find? name <;> rfl

/-- The innermost binding is the one that is seen. -/
theorem get?_eq (e : Environment α) (name : String) :
    e.get? name = (home? e.scopes name).bind (binding? e.scopes · name) := by
  have seen (scopes : List (Table α)) : scopes.findSome? (·.find? name) =
      (home? scopes name).bind (binding? scopes · name) := by
    induction scopes with
    | nil => rfl
    | cons t rest ih =>
      rw [List.findSome?_cons, home?, List.findIdx?_cons]
      unfold Table.contains
      cases found : t.find? name with
      | some value => simp [binding?, found]
      | none =>
        rw [ih, home?]
        unfold Table.contains
        cases rest.findIdx? (fun t => (t.find? name).isSome) <;> simp [binding?]
  rw [get?_eq_findSome?, seen]

/-! ### What a stack has become -/

/-- The same scopes with the same names. The innermost binding of a name has the last of the values
that were given to the name, and all other bindings are as they were. -/
structure Rebound (base base' : List (Table α)) (values : String → List α) : Prop where
  length : base'.length = base.length
  binding (i : Nat) (name : String) : binding? base' i name =
    if home? base name = some i then (values name).getLast?.or (binding? base i name)
    else binding? base i name

namespace Rebound

variable {base base' base'' : List (Table α)} {values values' : String → List α}

theorem refl (base : List (Table α)) : Rebound base base fun _ => [] where
  length := rfl
  binding i name := by simp

theorem bound (h : Rebound base base' values) (i : Nat) (name : String) :
    (binding? base' i name).isSome = (binding? base i name).isSome := by
  rw [h.binding]
  split
  · next home => simp [binding?_of_home home]
  · rfl

theorem home (h : Rebound base base' values) (name : String) :
    home? base' name = home? base name := by
  have names : base'.map (·.contains name) = base.map (·.contains name) := by
    refine List.ext_getElem (by simp [h.length]) fun i hi hi' => ?_
    have same := h.bound i name
    rw [List.length_map] at hi hi'
    rw [binding?_isSome, binding?_isSome, List.getElem?_eq_getElem hi,
      List.getElem?_eq_getElem hi'] at same
    simpa using same
  have counted (scopes : List (Table α)) :
      home? scopes name = (scopes.map (·.contains name)).findIdx? id := by
    rw [List.findIdx?_map]
    rfl
  rw [counted, counted, names]

theorem trans (h : Rebound base base' values) (h' : Rebound base' base'' values') :
    Rebound base base'' fun name => values name ++ values' name where
  length := h'.length.trans h.length
  binding i name := by
    rw [h'.binding, h.home, h.binding]
    split
    · rw [List.getLast?_append, Option.or_assoc]
    · rfl

theorem rebind (name : String) (value : α) (base : List (Table α)) :
    Rebound base (rebind name value base) fun other => if other = name then [value] else [] where
  length := by
    rw [Environment.rebind, assignOuter_eq]
    cases home? base name <;> simp
  binding i other := by
    rw [binding?_rebind]
    by_cases same : other = name
    · subst same
      simp
    · simp [same]

end Rebound

/-! ### Operations inside -/

/-- One of the scopes that were opened inside the outermost `depth` ones binds the name. -/
def hides (depth : Nat) (e : Environment α) (name : String) : Bool :=
  (e.scopes.take (e.depth - depth)).any (·.contains name)

/-- What an operation gives to a name that is bound in the outermost `depth` scopes. -/
def Op.given (depth : Nat) (e : Environment α) (name : String) : Op α → List α
  | .set other value => if name = other ∧ hides depth e name = false then [value] else []
  | _ => []

/-- The values that operations, one after the other, give to a name in the outermost `depth`
scopes. -/
def given (depth : Nat) (name : String) : Environment α → List (Op α) → List α
  | _, [] => []
  | e, op :: w => op.given depth e name ++ given depth name (op.apply e) w

theorem hides_eq {e : Environment α} {inner base : List (Table α)}
    (split : e.scopes = inner ++ base) (name : String) :
    hides base.length e name = inner.any (·.contains name) := by
  have depth : e.depth = inner.length + base.length := by
    rw [← List.length_append, ← split]
    rfl
  rw [hides, split, depth, Nat.add_sub_cancel, List.take_left]

/-- A name is set inside if it is bound there, else outside if it is bound there, else it is bound
inside. -/
theorem set_split {e : Environment α} {inner base : List (Table α)}
    (split : e.scopes = inner ++ base) (opened : inner ≠ []) (name : String) (value : α) :
    ∃ inner', inner'.length = inner.length ∧ (e.set name value).scopes =
      inner' ++ if inner.any (·.contains name) then base else rebind name value base := by
  have found : (assignOuter name value inner).isSome = inner.any (·.contains name) := by
    rw [assignOuter_eq, Option.isSome_map, home?, List.findIdx?_isSome]
  rw [set_scopes, split, assignOuter_append, ← found]
  cases inside : assignOuter name value inner with
  | some inner' =>
    refine ⟨inner', ?_, rfl⟩
    rw [assignOuter_eq] at inside
    obtain ⟨i, -, rfl⟩ := Option.map_eq_some_iff.1 inside
    exact List.length_modify ..
  | none =>
    rw [rebind]
    cases assignOuter name value base with
    | some base' => exact ⟨inner, rfl, rfl⟩
    | none =>
      cases inner with
      | nil => exact absurd rfl opened
      | cons t rest =>
        obtain ⟨same, around⟩ := List.cons.inj split
        rw [same, around]
        exact ⟨t.insert name value :: rest, rfl, rfl⟩

/-- One operation: the scopes outside stay there, and only a `set` gets through to them. -/
theorem apply_split {e : Environment α} {inner base : List (Table α)} {n m : Nat} {op : Op α}
    (split : e.scopes = inner ++ base) (opened : inner.length = n + 1)
    (level : op.level n = some m) :
    ∃ inner' base', inner'.length = m + 1 ∧ (op.apply e).scopes = inner' ++ base' ∧
      Rebound base base' (op.given base.length e) := by
  cases op with
  | get name =>
    cases level
    exact ⟨inner, base, opened, split, .refl base⟩
  | set name value =>
    cases level
    obtain ⟨inner', length, after⟩ :=
      set_split split (List.ne_nil_of_length_eq_add_one opened) name value
    refine ⟨inner', _, length.trans opened, after, ?_⟩
    cases hidden : inner.any (·.contains name) with
    | true =>
      have none : (Op.set name value).given base.length e = fun _ => [] := by
        funext other
        refine if_neg ?_
        rintro ⟨rfl, visible⟩
        rw [hides_eq split, hidden] at visible
        cases visible
      rw [none]
      exact .refl base
    | false =>
      have one : (Op.set name value).given base.length e =
          fun other => if other = name then [value] else [] := by
        funext other
        by_cases same : other = name
        · subst same
          simp [Op.given, hides_eq split, hidden]
        · simp [Op.given, same]
      rw [one]
      exact .rebind name value base
  | define name value =>
    cases level
    cases inner with
    | nil => cases opened
    | cons t rest =>
      refine ⟨e.current.insert name value :: rest, base, opened, ?_, .refl base⟩
      exact congrArg (_ :: ·) (List.cons.inj split).2
  | push =>
    cases level
    exact ⟨∅ :: inner, base, congrArg (· + 1) opened, congrArg (∅ :: ·) split, .refl base⟩
  | pop =>
    have positive : n ≠ 0 := by
      rintro rfl
      cases level
    rw [Op.level, if_neg positive] at level
    cases level
    cases inner with
    | nil => cases opened
    | cons t rest =>
      have length : rest.length = n - 1 + 1 := by
        rw [List.length_cons] at opened
        omega
      refine ⟨rest, base, length, leave_scopes split ?_, .refl base⟩
      exact List.append_ne_nil_of_left_ne_nil (List.ne_nil_of_length_eq_add_one length) base

/-- The run: what all operations give to the names outside, one after the other. -/
theorem after_split {w : List (Op α)} {e : Environment α} {inner base : List (Table α)} {n m : Nat}
    (split : e.scopes = inner ++ base) (opened : inner.length = n + 1)
    (level : w.foldlM Op.level n = some m) :
    ∃ inner' base', inner'.length = m + 1 ∧ (e.after w).scopes = inner' ++ base' ∧
      Rebound base base' (given base.length · e w) := by
  induction w generalizing e inner base n with
  | nil =>
    cases level
    exact ⟨inner, base, opened, split, .refl base⟩
  | cons op w ih =>
    rw [List.foldlM_cons] at level
    obtain ⟨l, first, rest⟩ := Option.bind_eq_some_iff.1 level
    obtain ⟨inner₁, base₁, opened₁, split₁, rebound₁⟩ := apply_split split opened first
    obtain ⟨inner₂, base₂, opened₂, split₂, rebound₂⟩ := ih split₁ opened₁ rest
    rw [rebound₁.length] at rebound₂
    exact ⟨inner₂, base₂, opened₂, split₂, rebound₁.trans rebound₂⟩

/-- What happens in a scope stays there. After a scope was opened, operations that close all they
open were run in it, and it was closed again, there are as many scopes as before, each with the
names it had; a name that was bound nowhere still is not. The innermost binding of a name has the
value that the last `set` of the name gave it while no scope opened since then bound the name, and
the old value if there is no such `set`. All other bindings are as they were. -/
theorem scopes_do_not_leak (e : Environment α) (w : List (Op α)) (balanced : Balanced w) :
    (e.enclosing w).depth = e.depth ∧
    (∀ i name,
      (binding? (e.enclosing w).scopes i name).isSome = (binding? e.scopes i name).isSome) ∧
    (∀ name, e.get? name = none → (e.enclosing w).get? name = none) ∧
    (∀ i name, home? e.scopes name = some i → binding? (e.enclosing w).scopes i name =
      (given e.depth name e.push w).getLast?.or (binding? e.scopes i name)) ∧
    ∀ i name, home? e.scopes name ≠ some i →
      binding? (e.enclosing w).scopes i name = binding? e.scopes i name := by
  have pushed : e.push.scopes = [∅] ++ e.scopes := rfl
  obtain ⟨inner, base, opened, split, rebound⟩ := after_split pushed rfl balanced
  have closed : (e.enclosing w).scopes = base := by
    have run : e.enclosing w = (e.push.after w).leave := by
      simp [enclosing, after, Op.apply]
    obtain ⟨t, rfl⟩ := List.length_eq_one_iff.1 opened
    rw [run]
    refine leave_scopes split (List.ne_nil_of_length_pos ?_)
    rw [rebound.length]
    exact Nat.succ_pos _
  have depth : ∀ e : Environment α, e.depth = e.scopes.length := fun _ => rfl
  refine ⟨?_, ?_, ?_, ?_, ?_⟩
  · rw [depth, depth, closed, rebound.length]
  · intro i name
    rw [closed]
    exact rebound.bound i name
  · intro name
    rw [get?_eq, get?_eq, closed, rebound.home]
    intro unbound
    cases home : home? e.scopes name with
    | none => rfl
    | some i =>
      rw [home, Option.bind_some] at unbound
      have := binding?_of_home home
      rw [unbound] at this
      cases this
  · intro i name home
    rw [closed, rebound.binding, if_pos home]
    rfl
  · intro i name elsewhere
    rw [closed, rebound.binding, if_neg elsewhere]

/-- Two scopes that both bind `x`. -/
def twoScopes : Environment Nat :=
  ⟨Table.ofList [("x", 1)], [Table.ofList [("x", 2), ("y", 3)]]⟩

/-- Sets `x` outside, hides it, sets it inside and `y` outside, and binds `z`. -/
def hidingOps : List (Op Nat) :=
  [.set "x" 10, .push, .define "x" 20, .set "x" 21, .set "y" 30, .pop, .set "z" 40]

theorem scopes_do_not_leak_hidden :
    Balanced hidingOps ∧ binding? (twoScopes.enclosing hidingOps).scopes 0 "x" = some 10 ∧
      binding? (twoScopes.enclosing hidingOps).scopes 1 "x" = some 2 ∧
      binding? (twoScopes.enclosing hidingOps).scopes 1 "y" = some 30 ∧
      (twoScopes.enclosing hidingOps).get? "z" = none := by
  have balanced : Balanced hidingOps := by decide +kernel
  obtain ⟨-, -, unbound, innermost, others⟩ := scopes_do_not_leak twoScopes hidingOps balanced
  refine ⟨balanced, ?_, ?_, ?_, unbound "z" (by decide +kernel)⟩
  · rw [innermost 0 "x" (by decide +kernel)]
    decide +kernel
  · rw [others 1 "x" (by decide +kernel)]
    decide +kernel
  · rw [innermost 1 "y" (by decide +kernel)]
    decide +kernel

end TagDispatch.Environment
