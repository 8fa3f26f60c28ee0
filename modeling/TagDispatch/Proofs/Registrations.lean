import TagDispatch.Dispatch.Registry
import TagDispatch.Proofs.Table

/-!
What a sequence of registrations comes to. A registry has a table for each role, and a registration
goes to one slot: a tag in the table of its role. It decides what is found there and changes nothing
elsewhere. So at each slot the last registration counts, whatever else was registered before it,
after it or in between, and those that came to a slot already taken are the ones reported.
-/

namespace TagDispatch

variable {σ : Type}

/-- The code that a tag can have in a role. -/
abbrev Role.Entry (σ : Type) : Role → Type
  | .handler => Handler σ
  | .rewriter => Rewriter σ
  | .recovery => Recovery σ

namespace Registration

def of : (role : Role) → String → role.Entry σ → Registration σ
  | .handler => handler
  | .rewriter => rewriter
  | .recovery => recovery

/-- Where the code goes. -/
def slot (e : Registration σ) : Role × String := (e.role, e.tag)

@[simp] theorem role_of (role : Role) (tag : String) (c : role.Entry σ) :
    (of role tag c).role = role := by
  cases role <;> rfl

@[simp] theorem tag_of (role : Role) (tag : String) (c : role.Entry σ) :
    (of role tag c).tag = tag := by
  cases role <;> rfl

@[simp] theorem slot_of (role : Role) (tag : String) (c : role.Entry σ) :
    (of role tag c).slot = (role, tag) := by
  cases role <;> rfl

theorem of_inj {role : Role} {tag : String} {c c' : role.Entry σ} :
    of role tag c = of role tag c' ↔ c = c' := by
  cases role <;> simp [of]

theorem exists_of_role {e : Registration σ} {role : Role} (h : e.role = role) :
    ∃ tag c, e = of role tag c := by
  cases e <;> cases h <;> exact ⟨_, _, rfl⟩

theorem exists_of_slot {e : Registration σ} {role : Role} {tag : String}
    (h : e.slot = (role, tag)) : ∃ c, e = of role tag c := by
  cases e <;> cases h <;> exact ⟨_, rfl⟩

/-- The code that is registered last for a slot: none of the registrations after it is for it. -/
def Latest (es : List (Registration σ)) (role : Role) (tag : String) (c : role.Entry σ) : Prop :=
  ∃ before after, es = before ++ of role tag c :: after ∧ ∀ e ∈ after, e.slot ≠ (role, tag)

section

variable {role : Role} {tag : String} {c : role.Entry σ}

theorem not_latest_nil : ¬Latest [] role tag c := by
  rintro ⟨before, after, split, -⟩
  exact List.append_ne_nil_of_right_ne_nil before (List.cons_ne_nil _ after) split.symm

theorem latest_cons {e : Registration σ} {es : List (Registration σ)} :
    Latest (e :: es) role tag c ↔
      Latest es role tag c ∨ e = of role tag c ∧ ∀ e ∈ es, e.slot ≠ (role, tag) := by
  constructor
  · rintro ⟨before, after, split, none⟩
    cases before with
    | nil =>
      cases split
      exact .inr ⟨rfl, none⟩
    | cons _ before =>
      cases split
      exact .inl ⟨before, after, rfl, none⟩
  · rintro (⟨before, after, rfl, none⟩ | ⟨rfl, none⟩)
    · exact ⟨e :: before, after, rfl, none⟩
    · exact ⟨[], es, rfl, none⟩

end

/-- An earlier registration went to the slot of the one at position `i`. -/
def Repeats (es : List (Registration σ)) (i : Fin es.length) : Prop :=
  ∃ j, j < i ∧ es[j].slot = es[i].slot

instance (es : List (Registration σ)) (i : Fin es.length) : Decidable (Repeats es i) :=
  Nat.decidableExistsFin _

/-- The positions of the registrations that replace an earlier one, in order. -/
def replacements (es : List (Registration σ)) : List (Fin es.length) :=
  (List.finRange es.length).filter (Repeats es ·)

end Registration

namespace Registry

open Registration

def table (r : Registry σ) : (role : Role) → Table (role.Entry σ)
  | .handler => r.handlers
  | .rewriter => r.rewriters
  | .recovery => r.recoveries

theorem serves_eq (r : Registry σ) (role : Role) (tag : String) :
    r.serves role tag = (r.table role).contains tag := by
  cases role <;> rfl

@[simp] theorem serves_empty (role : Role) (tag : String) :
    (empty : Registry σ).serves role tag = false := by
  cases role <;> rfl

@[simp] theorem find?_empty (role : Role) (tag : String) :
    ((empty : Registry σ).table role).find? tag = none := by
  cases role <;> rfl

theorem hasRewriters_iff (r : Registry σ) :
    r.hasRewriters = true ↔ ∃ tag, r.serves .rewriter tag = true := by
  rw [hasRewriters, Bool.not_eq_true', ← Bool.not_eq_true, Table.isEmpty_iff]
  simp [serves]

/-! ### One registration -/

theorem table_register_self (r : Registry σ) (role : Role) (tag : String) (c : role.Entry σ) :
    (r.register (.of role tag c)).table role = (r.table role).insert tag c := by
  cases role <;> rfl

theorem table_register_of_ne (r : Registry σ) {e : Registration σ} {role : Role}
    (other : e.role ≠ role) : (r.register e).table role = r.table role := by
  cases e <;> cases role <;> trivial

theorem find?_register_of_ne (r : Registry σ) {e : Registration σ} {role : Role} {tag : String}
    (other : e.slot ≠ (role, tag)) :
    ((r.register e).table role).find? tag = (r.table role).find? tag := by
  by_cases same : e.role = role
  · obtain ⟨tag', c, rfl⟩ := exists_of_role same
    have ne : tag ≠ tag' := fun h => other (by rw [slot_of, h])
    rw [table_register_self, Table.find?_insert, if_neg ne]
  · rw [table_register_of_ne r same]

/-- What is found at a slot is what was just registered for it, or else what was found before. -/
theorem find?_register (r : Registry σ) (e : Registration σ) (role : Role) (tag : String)
    (c : role.Entry σ) : ((r.register e).table role).find? tag = some c ↔
      e = .of role tag c ∨ e.slot ≠ (role, tag) ∧ (r.table role).find? tag = some c := by
  by_cases here : e.slot = (role, tag)
  · obtain ⟨c', rfl⟩ := exists_of_slot here
    rw [table_register_self, Table.find?_insert, if_pos rfl, of_inj]
    simp
  · have ne : e ≠ .of role tag c := fun h => here (h ▸ slot_of role tag c)
    rw [find?_register_of_ne r here]
    simp [here, ne]

theorem serves_register (r : Registry σ) (e : Registration σ) (role : Role) (tag : String) :
    (r.register e).serves role tag = true ↔
      e.slot = (role, tag) ∨ r.serves role tag = true := by
  rw [serves_eq, serves_eq]
  by_cases here : e.slot = (role, tag)
  · obtain ⟨c, rfl⟩ := exists_of_slot here
    simp [table_register_self]
  · rw [Table.contains, find?_register_of_ne r here, ← Table.contains]
    simp [here]

theorem size_register (r : Registry σ) (e : Registration σ) (role : Role) :
    ((r.register e).table role).size =
      (r.table role).size + if e.role = role ∧ r.serves e.role e.tag = false then 1 else 0 := by
  by_cases here : e.role = role
  · obtain ⟨tag, c, rfl⟩ := exists_of_role here
    rw [table_register_self, Table.size_insert, role_of, tag_of, serves_eq]
    cases (r.table role).contains tag <;> simp
  · rw [table_register_of_ne r here]
    simp [here]

/-- The number of names in all three tables together. -/
def population (r : Registry σ) : Nat := r.handlers.size + r.rewriters.size + r.recoveries.size

/-- One more registration is one more name or one more warning. -/
theorem population_register (r : Registry σ) (e : Registration σ) :
    (r.register e).population + (r.warning? e).toList.length = r.population + 1 := by
  have handlers := r.size_register e .handler
  have rewriters := r.size_register e .rewriter
  have recoveries := r.size_register e .recovery
  unfold population warning?
  simp only [table] at handlers rewriters recoveries
  rw [handlers, rewriters, recoveries]
  cases r.serves e.role e.tag <;> cases e.role <;> simp <;> omega

/-! ### A sequence of registrations -/

/-- What a table has for a tag was registered last, or it was there before and nothing was
registered. -/
theorem find?_registerAll (r : Registry σ) (es : List (Registration σ)) (role : Role)
    (tag : String) (c : role.Entry σ) :
    ((r.registerAll es).1.table role).find? tag = some c ↔
      Latest es role tag c ∨
        (∀ e ∈ es, e.slot ≠ (role, tag)) ∧ (r.table role).find? tag = some c := by
  induction es generalizing r with
  | nil => simp [registerAll, not_latest_nil]
  | cons e es ih =>
    rw [registerAll, ih, find?_register, latest_cons, List.forall_mem_cons]
    constructor
    · rintro (later | ⟨none, rfl | ⟨other, found⟩⟩)
      · exact .inl (.inl later)
      · exact .inl (.inr ⟨rfl, none⟩)
      · exact .inr ⟨⟨other, none⟩, found⟩
    · rintro ((later | ⟨rfl, none⟩) | ⟨⟨other, none⟩, found⟩)
      · exact .inl later
      · exact .inr ⟨none, .inl rfl⟩
      · exact .inr ⟨none, .inr ⟨other, found⟩⟩

theorem serves_registerAll (r : Registry σ) (es : List (Registration σ)) (role : Role)
    (tag : String) : (r.registerAll es).1.serves role tag = true ↔
      (∃ e ∈ es, e.slot = (role, tag)) ∨ r.serves role tag = true := by
  induction es generalizing r with
  | nil => simp [registerAll]
  | cons e es ih =>
    simp only [registerAll, ih, serves_register, List.mem_cons, exists_eq_or_imp, or_assoc,
      or_left_comm]

/-- A table is the one that the registrations for its role make, without the others. -/
theorem table_registerAll_filter {r r' : Registry σ} {role : Role}
    (same : r.table role = r'.table role) (es : List (Registration σ)) :
    (r.registerAll es).1.table role =
      (r'.registerAll (es.filter (·.role = role))).1.table role := by
  induction es generalizing r r' with
  | nil => exact same
  | cons e es ih =>
    by_cases here : e.role = role
    · rw [List.filter_cons_of_pos (by simpa using here)]
      refine ih ?_
      obtain ⟨tag, c, rfl⟩ := exists_of_role here
      rw [table_register_self, table_register_self, same]
    · rw [List.filter_cons_of_neg (by simpa using here)]
      exact ih ((table_register_of_ne r here).trans same)

theorem table_registerAll_of_ne (r : Registry σ) {es : List (Registration σ)} {role : Role}
    (others : ∀ e ∈ es, e.role ≠ role) : (r.registerAll es).1.table role = r.table role := by
  have none : es.filter (·.role = role) = [] := List.filter_eq_nil_iff.2 (by simpa using others)
  rw [table_registerAll_filter rfl es, none]
  rfl

theorem find?_registerAll_of_ne (r : Registry σ) {es : List (Registration σ)} {role : Role}
    {tag : String} (others : ∀ e ∈ es, e.slot ≠ (role, tag)) :
    ((r.registerAll es).1.table role).find? tag = (r.table role).find? tag := by
  induction es generalizing r with
  | nil => rfl
  | cons e es ih =>
    obtain ⟨first, later⟩ := List.forall_mem_cons.1 others
    exact (ih (r.register e) later).trans (r.find?_register_of_ne first)

theorem population_registerAll (r : Registry σ) (es : List (Registration σ)) :
    (r.registerAll es).1.population + (r.registerAll es).2.length = r.population + es.length := by
  induction es generalizing r with
  | nil => rfl
  | cons e es ih =>
    have step := r.population_register e
    have run := ih (r.register e)
    simp only [registerAll, List.length_append, List.length_cons]
    omega

/-- The warnings, in order, are those of each position after the registrations before it. -/
theorem warnings_registerAll (r : Registry σ) (es : List (Registration σ)) :
    (r.registerAll es).2 = (List.finRange es.length).filterMap fun i : Fin es.length =>
      (r.registerAll (es.take i)).1.warning? es[i] := by
  induction es generalizing r with
  | nil => rfl
  | cons e es ih =>
    have positions : List.finRange (e :: es).length = 0 :: (List.finRange es.length).map Fin.succ :=
      List.finRange_succ
    rw [registerAll, ih, positions]
    cases warned : r.warning? e with
    | none =>
      rw [List.filterMap_cons_none, List.filterMap_map]
      · rfl
      · exact warned
    | some m =>
      rw [List.filterMap_cons_some, List.filterMap_map]
      · rfl
      · exact warned

/-! ### From the beginning -/

theorem find?_ofList_eq_some (es : List (Registration σ)) (role : Role) (tag : String)
    (c : role.Entry σ) :
    ((ofList es).table role).find? tag = some c ↔ Latest es role tag c := by
  rw [ofList, find?_registerAll, find?_empty]
  simp

theorem serves_ofList (es : List (Registration σ)) (role : Role) (tag : String) :
    (ofList es).serves role tag = true ↔ ∃ e ∈ es, e.slot = (role, tag) := by
  rw [ofList, serves_registerAll, serves_empty]
  simp

theorem find?_ofList_eq_none (es : List (Registration σ)) (role : Role) (tag : String) :
    ((ofList es).table role).find? tag = none ↔ ∀ e ∈ es, e.slot ≠ (role, tag) := by
  have unserved := not_congr (serves_ofList es role tag)
  rw [serves_eq, Table.contains] at unserved
  simpa using unserved

theorem tags_ofList_eq_mergeSort {es : List (Registration σ)} {names : List String}
    (distinct : names.Nodup)
    (listed : ∀ tag, tag ∈ names ↔ ∃ e ∈ es, e.slot = (.handler, tag)) :
    (ofList es).tags = names.mergeSort :=
  (ofList es).handlers.keys_eq_mergeSort distinct fun tag =>
    (listed tag).trans (serves_ofList es .handler tag).symm

theorem hasRewriters_ofList (es : List (Registration σ)) :
    (ofList es).hasRewriters = true ↔ ∃ e ∈ es, e.role = .rewriter := by
  simp only [hasRewriters_iff, serves_ofList]
  constructor
  · rintro ⟨tag, e, mem, here⟩
    exact ⟨e, mem, congrArg Prod.fst here⟩
  · rintro ⟨e, mem, here⟩
    exact ⟨e.tag, e, mem, by rw [slot, here]⟩

/-- A slot is taken earlier in the sequence if and only if it is taken in the registry so far. -/
theorem repeats_iff (es : List (Registration σ)) (i : Fin es.length) :
    Repeats es i ↔ (ofList (es.take i)).serves es[i].role es[i].tag = true := by
  rw [serves_ofList]
  constructor
  · rintro ⟨j, before, same⟩
    exact ⟨es[j], List.mem_take_iff_getElem.2 ⟨j, by omega, rfl⟩, same⟩
  · rintro ⟨e, mem, same⟩
    obtain ⟨j, bound, rfl⟩ := List.mem_take_iff_getElem.1 mem
    exact ⟨⟨j, by omega⟩, Nat.lt_of_lt_of_le bound (Nat.min_le_left ..), same⟩

theorem mem_replacements (es : List (Registration σ)) (i : Fin es.length) :
    i ∈ replacements es ↔
      ((ofList (es.take i)).table es[i].role).contains es[i].tag = true := by
  rw [← serves_eq, ← repeats_iff]
  simp [replacements]

theorem warnings_eq (es : List (Registration σ)) : ((empty : Registry σ).registerAll es).2 =
    (replacements es).map fun i => .replaced es[i].tag es[i].role := by
  rw [warnings_registerAll, replacements, ← List.filterMap_eq_map, List.filterMap_filter]
  congr 1
  funext i
  rw [← ofList, warning?, Function.comp_apply]
  by_cases taken : Repeats es i
  · rw [if_pos ((repeats_iff es i).1 taken), if_pos (decide_eq_true taken)]
  · rw [if_neg fun h => taken ((repeats_iff es i).2 h), if_neg (by simpa using taken)]

/-- Registering is writing to tables in which the last writer wins. After any sequence of
registrations each table has for each tag what was registered for it last in that table, and nothing
if there was nothing; leaving out all registrations for the other tables changes nothing in it. The
tags increase and are those with a handler, and the size is their number; in whatever order the
distinct tags of the registered handlers are listed, sorted they are the tags. There are rewriters
if and only if one was registered. A warning with tag and table is logged for exactly those
registrations whose tag was in the same table already, in their order, so the names in the three
tables and the warnings are together as many as the registrations. -/
theorem last_registration_wins (es : List (Registration σ)) :
    let r := ((empty : Registry σ).registerAll es).1
    let warnings := ((empty : Registry σ).registerAll es).2
    (∀ role tag,
      (∀ c, (r.table role).find? tag = some c ↔ Latest es role tag c) ∧
      ((r.table role).find? tag = none ↔ ∀ e ∈ es, e.slot ≠ (role, tag))) ∧
    (∀ role, r.table role = (ofList (es.filter (·.role = role))).table role) ∧
    (r.tags.Pairwise (· < ·) ∧ (∀ tag, tag ∈ r.tags ↔ (r.handlers.find? tag).isSome = true) ∧
      r.size = r.tags.length ∧
      ∀ names : List String, names.Nodup →
        (∀ tag, tag ∈ names ↔ ∃ e ∈ es, e.slot = (.handler, tag)) → r.tags = names.mergeSort) ∧
    (r.hasRewriters = true ↔ ∃ e ∈ es, e.role = .rewriter) ∧
    (warnings = ((replacements es).map fun i => .replaced es[i].tag es[i].role) ∧
      (warnings.map fun m => (m.level, m.fields)) = ((replacements es).map fun i =>
        (.warn, [("tag", es[i].tag), ("table", es[i].role.name)])) ∧
      ∀ i : Fin es.length, i ∈ replacements es ↔
        ((ofList (es.take i)).table es[i].role).contains es[i].tag = true) ∧
    r.handlers.size + r.rewriters.size + r.recoveries.size + warnings.length = es.length := by
  intro r warnings
  have reported : warnings = (replacements es).map fun i => .replaced es[i].tag es[i].role :=
    warnings_eq es
  refine ⟨fun role tag => ⟨find?_ofList_eq_some es role tag, find?_ofList_eq_none es role tag⟩,
    fun role => table_registerAll_filter rfl es,
    ⟨r.handlers.keys_increasing, r.handlers.mem_keys, (List.length_map _).symm,
      fun names => tags_ofList_eq_mergeSort⟩,
    hasRewriters_ofList es, ⟨reported, ?_, mem_replacements es⟩, ?_⟩
  · rw [reported, List.map_map]
    rfl
  · exact (population_registerAll empty es).trans (Nat.zero_add _)

/-- A tag with a rewriter gets its first handler, and another tag its second one. -/
def shuffledRegistrations : List (Registration Unit) :=
  [.handler "b" Code.dummy, .rewriter "a" (.done <| .ok ·), .handler "a" Code.dummy,
    .handler "b" Code.dummy]

/-- A tag that has a rewriter can get its first handler without a warning. -/
example : (ofList shuffledRegistrations).tags = ["a", "b"] ∧
    (replacements shuffledRegistrations).map (·.val) = [3] := by decide

theorem last_registration_wins_shuffled :
    ["b", "a"].Nodup ∧ (ofList shuffledRegistrations).tags = ["b", "a"].mergeSort := by
  obtain ⟨-, -, ⟨-, -, -, sorted⟩, -⟩ := last_registration_wins shuffledRegistrations
  have distinct : ["b", "a"].Nodup := by decide
  refine ⟨distinct, sorted ["b", "a"] distinct fun tag => ⟨fun listed => ?_, ?_⟩⟩
  · simp only [List.mem_cons, List.not_mem_nil, or_false] at listed
    rcases listed with rfl | rfl
    · exact ⟨.handler "b" Code.dummy, by simp [shuffledRegistrations], rfl⟩
    · exact ⟨.handler "a" Code.dummy, by simp [shuffledRegistrations], rfl⟩
  · rintro ⟨e, mem, here⟩
    simp only [shuffledRegistrations, List.mem_cons, List.not_mem_nil, or_false] at mem
    rcases mem with rfl | rfl | rfl | rfl <;> cases here <;> decide

end Registry

end TagDispatch
