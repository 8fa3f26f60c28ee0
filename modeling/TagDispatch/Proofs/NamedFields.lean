import TagDispatch.Proofs.FieldView

/-!
Named elements as a view of a node. A name stands for one element at most, the one after its first
place in the list of names, and different names for different elements. So what is written under a
name is read back under it, and shows under no other name.
-/

namespace TagDispatch

/-- The first place of a name in a list of names. -/
def StandsAt (names : List String) (name : String) (i : Nat) : Prop :=
  names[i]? = some name ∧ ∀ j < i, names[j]? ≠ some name

namespace StandsAt

variable {names : List String} {name other : String} {i j : Nat}

theorem mem (h : StandsAt names name i) : name ∈ names := List.mem_of_getElem? h.1

theorem unique (h : StandsAt names name i) (h' : StandsAt names name j) : i = j := by
  rcases Nat.lt_trichotomy i j with less | same | more
  · exact absurd h.1 (h'.2 i less)
  · exact same
  · exact absurd h'.1 (h.2 j more)

theorem ne (h : StandsAt names name i) (h' : StandsAt names other j) (different : other ≠ name) :
    j ≠ i := by
  rintro rfl
  exact different (Option.some.inj (h'.1.symm.trans h.1))

end StandsAt

theorem findIdx?_eq_some_iff_standsAt {names : List String} {name : String} {i : Nat} :
    names.findIdx? (· == name) = some i ↔ StandsAt names name i := by
  rw [List.findIdx?_eq_some_iff_getElem]
  constructor
  · rintro ⟨bound, here, before⟩
    refine ⟨List.getElem?_eq_some_iff.2 ⟨bound, by simpa using here⟩, fun j hj => ?_⟩
    rw [List.getElem?_eq_getElem (Nat.lt_trans hj bound), Ne, Option.some.injEq]
    simpa using before j hj
  · rintro ⟨here, before⟩
    obtain ⟨bound, here⟩ := List.getElem?_eq_some_iff.1 here
    refine ⟨bound, by simpa using here, fun j hj => ?_⟩
    have other := before j hj
    rw [List.getElem?_eq_getElem (Nat.lt_trans hj bound), Ne, Option.some.injEq] at other
    simpa using other

namespace Node

/-! ### What a name comes to -/

/-- The node with another element at a place. -/
def replacing (n : Tree) (i : Nat) (value : Element) : Tree :=
  { n with elements := n.elements.set i value }

/-- What a name comes to: the place and the element it stands for, or why there is none. -/
inductive Resolves (n : Tree) (name : String) : Except TreeError (Nat × Element) → Prop
  | unlisted (absent : name ∉ n.fields) : Resolves n name (.error (.fieldNotFound name n.label))
  | vacant {i : Nat} (first : StandsAt n.fields name i) (past : n.size ≤ i + 1) :
      Resolves n name (.error (.fieldVacant name (i + 1)))
  | found {i : Nat} {e : Element} (first : StandsAt n.fields name i)
      (there : n.elements[i + 1]? = some e) : Resolves n name (.ok (i + 1, e))

theorem setField_unlisted {n : Tree} {name : String} (value : Element)
    (h : n.fields.findIdx? (· == name) = none) :
    n.setField name value = .error (.fieldNotFound name n.label) := by
  simp [setField, fieldIndex?, h]

theorem setField_listed {n : Tree} {name : String} (value : Element) {i : Nat}
    (h : n.fields.findIdx? (· == name) = some i) :
    n.setField name value = if i + 1 < n.size then .ok (n.replacing (i + 1) value)
      else .error (.fieldVacant name (i + 1)) := by
  unfold size
  by_cases bound : i + 1 < n.elements.length
  · simp [setField, fieldIndex?, h, put?, replacing, bound]
  · simp [setField, fieldIndex?, h, put?, bound]

/-- Reading and writing go by the same look-up. -/
theorem exists_resolves (n : Tree) (name : String) :
    ∃ r, n.Resolves name r ∧ n.field name = r.map (·.2) ∧
      ∀ value, n.setField name value = r.map fun place => n.replacing place.1 value := by
  cases listed : n.fields.findIdx? (· == name) with
  | none =>
    refine ⟨_, .unlisted fun mem => ?_, field_unlisted listed, fun value =>
      setField_unlisted value listed⟩
    exact absurd (List.findIdx?_eq_none_iff.1 listed name mem) (by simp)
  | some i =>
    have first := findIdx?_eq_some_iff_standsAt.1 listed
    have read := field_listed listed
    cases there : n.elements[i + 1]? with
    | none =>
      have past : n.size ≤ i + 1 := List.getElem?_eq_none_iff.1 there
      rw [there] at read
      refine ⟨_, .vacant first past, read, fun value => ?_⟩
      rw [setField_listed value listed, if_neg (Nat.not_lt.2 past)]
      rfl
    | some e =>
      obtain ⟨bound, -⟩ := List.getElem?_eq_some_iff.1 there
      rw [there] at read
      refine ⟨_, .found first there, read, fun value => ?_⟩
      rw [setField_listed value listed]
      exact if_pos bound

theorem Resolves.unique {n : Tree} {name : String} {r r' : Except TreeError (Nat × Element)}
    (h : n.Resolves name r) (h' : n.Resolves name r') : r = r' := by
  cases h with
  | unlisted absent =>
    cases h' with
    | unlisted => rfl
    | vacant first past => exact absurd first.mem absent
    | found first there => exact absurd first.mem absent
  | vacant first past =>
    cases h' with
    | unlisted absent => exact absurd first.mem absent
    | vacant first' past' => rw [first.unique first']
    | found first' there =>
      obtain ⟨bound, -⟩ := List.getElem?_eq_some_iff.1 there
      rw [← first.unique first'] at bound
      exact absurd bound (Nat.not_lt.2 past)
  | found first there =>
    cases h' with
    | unlisted absent => exact absurd first.mem absent
    | vacant first' past =>
      obtain ⟨bound, -⟩ := List.getElem?_eq_some_iff.1 there
      rw [first.unique first'] at bound
      exact absurd bound (Nat.not_lt.2 past)
    | found first' there' =>
      obtain rfl := first.unique first'
      rw [Option.some.inj (there.symm.trans there')]

/-! ### Reading -/

theorem field_eq_error_iff {n : Tree} {name : String} {err : TreeError} :
    n.field name = .error err ↔ n.Resolves name (.error err) := by
  obtain ⟨r, resolved, read, -⟩ := n.exists_resolves name
  rw [read]
  constructor
  · intro h
    cases r with
    | error err' =>
      cases h
      exact resolved
    | ok place => cases h
  · intro h
    rw [resolved.unique h]
    rfl

theorem field_eq_ok_iff {n : Tree} {name : String} {e : Element} :
    n.field name = .ok e ↔ ∃ i, StandsAt n.fields name i ∧ n.elements[i + 1]? = some e := by
  obtain ⟨r, resolved, read, -⟩ := n.exists_resolves name
  rw [read]
  constructor
  · intro h
    cases resolved with
    | unlisted absent => cases h
    | vacant first past => cases h
    | @found i e first there =>
      cases h
      exact ⟨i, first, there⟩
  · rintro ⟨i, first, there⟩
    rw [resolved.unique (.found first there)]
    rfl

theorem field_eq_notFound_iff {n : Tree} {name : String} :
    n.field name = .error (.fieldNotFound name n.label) ↔ name ∉ n.fields := by
  rw [field_eq_error_iff]
  refine ⟨fun h => ?_, .unlisted⟩
  cases h with
  | unlisted absent => exact absent

theorem field_eq_vacant_iff {n : Tree} {name : String} {k : Nat} :
    n.field name = .error (.fieldVacant name k) ↔
      ∃ i, StandsAt n.fields name i ∧ k = i + 1 ∧ n.size ≤ k := by
  rw [field_eq_error_iff]
  constructor
  · intro h
    cases h with
    | vacant first past => exact ⟨_, first, rfl, past⟩
  · rintro ⟨i, first, rfl, past⟩
    exact .vacant first past

/-- Only the tag and the element that the name stands for matter. -/
theorem field_congr {m n : Tree} {name : String} (fields : m.fields = n.fields)
    (front : m.elements.head? = n.elements.head?)
    (there : ∀ i, StandsAt n.fields name i → m.elements[i + 1]? = n.elements[i + 1]?) :
    m.field name = n.field name := by
  have label : m.label = n.label := by
    unfold label tagName? tag?
    rw [front]
  cases listed : n.fields.findIdx? (· == name) with
  | none => rw [field_unlisted listed, field_unlisted (by rw [fields]; exact listed), label]
  | some i =>
    rw [field_listed listed, field_listed (by rw [fields]; exact listed),
      there i (findIdx?_eq_some_iff_standsAt.1 listed)]

/-! ### Writing -/

theorem head?_replacing_succ (n : Tree) (i : Nat) (value : Element) :
    (n.replacing (i + 1) value).elements.head? = n.elements.head? := by
  obtain ⟨es, fields, line⟩ := n
  cases es <;> rfl

/-- Writing succeeds where the name stands for an element, and replaces it. -/
theorem setField_eq_ok_iff {n m : Tree} {name : String} {value : Element} :
    n.setField name value = .ok m ↔
      ∃ i e, StandsAt n.fields name i ∧ n.elements[i + 1]? = some e ∧
        m = n.replacing (i + 1) value := by
  obtain ⟨r, resolved, -, write⟩ := n.exists_resolves name
  rw [write]
  constructor
  · intro h
    cases resolved with
    | unlisted absent => cases h
    | vacant first past => cases h
    | @found i e first there =>
      cases h
      exact ⟨i, e, first, there, rfl⟩
  · rintro ⟨i, e, first, there, rfl⟩
    rw [resolved.unique (.found first there)]
    rfl

theorem setField_eq_error_iff {n : Tree} {name : String} {value : Element} {err : TreeError} :
    n.setField name value = .error err ↔ n.field name = .error err := by
  obtain ⟨r, -, read, write⟩ := n.exists_resolves name
  rw [read, write]
  cases r with
  | error err' => exact ⟨fun h => by cases h; rfl, fun h => by cases h; rfl⟩
  | ok place => exact iff_of_false nofun nofun

/-! ### Writing in place -/

/-- Writes under a name in place. The name is looked up first, and the node is written into last. -/
def assign (n : Tree) (name : String) (value : Element) : Except TreeError Unit × Tree :=
  match n.fieldIndex? name with
  | none => (.error (.fieldNotFound name n.label), n)
  | some i =>
    match n.put? i value with
    | none => (.error (.fieldVacant name i), n)
    | some m => (.ok (), m)

/-- The ways that writing in place can end. -/
inductive Assigns (n : Tree) (name : String) (value : Element) :
    Except TreeError Unit × Tree → Prop
  | written {m : Tree} (fits : n.setField name value = .ok m) : Assigns n name value (.ok (), m)
  | refused {err : TreeError} (why : n.setField name value = .error err) :
      Assigns n name value (.error err, n)

theorem assigns_assign (n : Tree) (name : String) (value : Element) :
    n.Assigns name value (n.assign name value) := by
  cases listed : n.fieldIndex? name with
  | none =>
    have run : n.assign name value = (.error (.fieldNotFound name n.label), n) := by
      simp [assign, listed]
    rw [run]
    exact .refused (by simp [setField, listed])
  | some i =>
    cases put : n.put? i value with
    | none =>
      have run : n.assign name value = (.error (.fieldVacant name i), n) := by
        simp [assign, listed, put]
      rw [run]
      exact .refused (by simp [setField, listed, put])
    | some m =>
      have run : n.assign name value = (.ok (), m) := by
        simp [assign, listed, put]
      rw [run]
      exact .written (by simp [setField, listed, put])

theorem assign_refused {n : Tree} {name : String} {value : Element} {err : TreeError}
    (failed : (n.assign name value).1 = .error err) :
    n.setField name value = .error err ∧ (n.assign name value).2 = n := by
  have ends := n.assigns_assign name value
  generalize n.assign name value = r at ends failed ⊢
  cases ends with
  | written fits => cases failed
  | refused why =>
    cases failed
    exact ⟨why, rfl⟩

theorem assign_eq_ok_iff {n m : Tree} {name : String} {value : Element} :
    n.assign name value = (.ok (), m) ↔ n.setField name value = .ok m := by
  have ends := n.assigns_assign name value
  generalize n.assign name value = r at ends ⊢
  cases ends with
  | written fits =>
    rw [fits]
    exact ⟨fun h => by cases h; rfl, fun h => by cases h; rfl⟩
  | refused why =>
    rw [why]
    exact iff_of_false nofun nofun

/-! ### Laws -/

section Laws

variable {n m : Tree} {name other : String} {value : Element}

theorem field_setField (h : n.setField name value = .ok m) : m.field name = .ok value := by
  obtain ⟨i, e, first, there, rfl⟩ := setField_eq_ok_iff.1 h
  obtain ⟨bound, -⟩ := List.getElem?_eq_some_iff.1 there
  exact field_eq_ok_iff.2 ⟨i, first, List.getElem?_set_self bound⟩

theorem field_setField_of_ne (h : n.setField name value = .ok m) (different : other ≠ name) :
    m.field other = n.field other := by
  obtain ⟨i, e, first, there, rfl⟩ := setField_eq_ok_iff.1 h
  refine field_congr rfl (n.head?_replacing_succ i value) fun j listed => ?_
  have apart : j ≠ i := first.ne listed different
  exact List.getElem?_set_ne (by omega)

theorem setField_setField (h : n.setField name value = .ok m) (next : Element) :
    m.setField name next = n.setField name next := by
  obtain ⟨i, e, first, there, rfl⟩ := setField_eq_ok_iff.1 h
  obtain ⟨bound, -⟩ := List.getElem?_eq_some_iff.1 there
  have second : (n.replacing (i + 1) value).setField name next =
      .ok ((n.replacing (i + 1) value).replacing (i + 1) next) :=
    setField_eq_ok_iff.2 ⟨i, value, first, List.getElem?_set_self bound, rfl⟩
  rw [second, setField_eq_ok_iff.2 ⟨i, e, first, there, rfl⟩]
  simp only [replacing, List.set_set]

theorem setField_field (h : n.field name = .ok value) : n.setField name value = .ok n := by
  obtain ⟨i, first, there⟩ := field_eq_ok_iff.1 h
  refine setField_eq_ok_iff.2 ⟨i, value, first, there, ?_⟩
  obtain ⟨bound, rfl⟩ := List.getElem?_eq_some_iff.1 there
  rw [replacing, List.set_getElem_self]

end Laws

end Node

/-- The instruction writes into the node of its frame, or fails and leaves the node alone. -/
theorem Act.ofPlain_setField (n : Tree) (name : String) (value : Element) (stack : List Element)
    (given : Option ProcessError) :
    Act.ofPlain (.setField name) ⟨n, value :: stack, given⟩ =
      .done (match n.setField name value with
        | .ok m => (.ok (), ⟨m, stack, given⟩)
        | .error err => (.error (.tree err), ⟨n, stack, given⟩)) := by
  change (Act.attemptTree (n.setField name value) >>= Act.setNode) ⟨n, stack, given⟩ = _
  cases n.setField name value <;> rfl

/-- Names are a lawful view of the elements after the tag, whatever names a node has. Reading and
writing succeed for the same names and fail with the same error: a name that is not listed is not
found, and one whose first place is past the end is vacant there. A node that cannot be written into
stays as it is, also where it is written into in place. What was written is read back, the answers
for all other names stay the same, and so do tag, length, line and names. Of two values the last one
stays, and writing what was read changes nothing. -/
theorem Node.fields_are_lawful (n : Tree) (name : String) :
    (∀ value, (n.setField name value).isOk = (n.field name).isOk) ∧
    (∀ value err, n.setField name value = .error err ↔ n.field name = .error err) ∧
    (n.field name = .error (.fieldNotFound name n.label) ↔ name ∉ n.fields) ∧
    (∀ k, n.field name = .error (.fieldVacant name k) ↔
      ∃ i, StandsAt n.fields name i ∧ k = i + 1 ∧ n.size ≤ k) ∧
    (∀ e, n.field name = .ok e ↔
      ∃ i, StandsAt n.fields name i ∧ n.elements[i + 1]? = some e) ∧
    (∀ value m, n.assign name value = (.ok (), m) ↔ n.setField name value = .ok m) ∧
    (∀ value err, (n.assign name value).1 = .error err →
      n.setField name value = .error err ∧ (n.assign name value).2 = n) ∧
    (∀ value err stack given, n.setField name value = .error err →
      Act.ofPlain (.setField name) ⟨n, value :: stack, given⟩ =
        .done (.error (.tree err), ⟨n, stack, given⟩)) ∧
    (∀ value m, n.setField name value = .ok m →
      m.field name = .ok value ∧ (∀ other, other ≠ name → m.field other = n.field other) ∧
      m.elements.head? = n.elements.head? ∧ m.size = n.size ∧ m.line = n.line ∧
      m.fields = n.fields ∧ ∀ next, m.setField name next = n.setField name next) ∧
    ∀ e, n.field name = .ok e → n.setField name e = .ok n := by
  refine ⟨fun value => ?_, fun value err => setField_eq_error_iff, field_eq_notFound_iff,
    fun k => field_eq_vacant_iff, fun e => field_eq_ok_iff, fun value m => assign_eq_ok_iff,
    fun value err => assign_refused, ?_, ?_, fun e => setField_field⟩
  · obtain ⟨r, -, read, write⟩ := n.exists_resolves name
    rw [read, write]
    cases r <;> rfl
  · intro value err stack given failed
    rw [Act.ofPlain_setField, failed]
  · intro value m written
    refine ⟨field_setField written, fun other => field_setField_of_ne written, ?_⟩
    have again := setField_setField written
    obtain ⟨i, e, first, there, rfl⟩ := setField_eq_ok_iff.1 written
    exact ⟨n.head?_replacing_succ i value, List.length_set, rfl, rfl, again⟩

/-- A name that is listed twice, and more names than elements. -/
def doubledTree : Tree :=
  ⟨[.atom (.symbol "call"), .atom (.int 1), .node .empty], ["x", "y", "x", "z"], some 2⟩

theorem fields_are_lawful_doubled :
    let value : Element := .atom (.str "new")
    (∃ m, doubledTree.setField "x" value = .ok m ∧ m.field "x" = .ok value ∧
      m.field "y" = .ok (.node .empty) ∧ m.size = 3 ∧
      m.setField "x" (.atom (.int 1)) = .ok doubledTree) ∧
    doubledTree.setField "y" (.node .empty) = .ok doubledTree ∧
    doubledTree.setField "z" value = .error (.fieldVacant "z" 4) ∧
    Act.ofPlain (.setField "w") ⟨doubledTree, [value], none⟩ =
      .done (.error (.tree (.fieldNotFound "w" "call")), ⟨doubledTree, [], none⟩) := by
  intro value
  have first : StandsAt ["x", "y", "x", "z"] "z" 3 := ⟨rfl, by decide⟩
  obtain ⟨-, -, -, -, -, -, -, -, written, same⟩ := doubledTree.fields_are_lawful "x"
  obtain ⟨read, others, -, size, -, -, again⟩ := written value _ rfl
  obtain ⟨-, alike, -, vacant, -⟩ := doubledTree.fields_are_lawful "z"
  obtain ⟨-, unwritten, absent, -, -, -, -, unchanged, -⟩ := doubledTree.fields_are_lawful "w"
  have missing : doubledTree.field "w" = .error (.fieldNotFound "w" "call") :=
    absent.2 (by decide)
  refine ⟨⟨_, rfl, read, others "y" (by decide), size, ?_⟩, ?_, ?_, ?_⟩
  · rw [again]
    exact same _ rfl
  · exact (doubledTree.fields_are_lawful "y").2.2.2.2.2.2.2.2.2 _ rfl
  · exact (alike value _).2 ((vacant 4).2 ⟨3, first, rfl, by decide⟩)
  · exact unchanged value _ [] none ((unwritten value _).2 missing)

end TagDispatch
