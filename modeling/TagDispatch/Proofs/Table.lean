import TagDispatch.Table

/-!
What a table holds after an insertion or a removal, how many names it has then, and what it holds
after another table was put over it.
-/

namespace TagDispatch.Table

variable {α : Type}

theorem lookup_cons_ite (name other : String) (value : α) (es : List (String × α)) :
    ((name, value) :: es).lookup other = if other = name then some value else es.lookup other := by
  rw [List.lookup_cons]
  by_cases h : other = name
  · simp [h]
  · simp [h, beq_eq_false_iff_ne.2 h]

theorem lookup_insertEntry (name other : String) (value : α) (es : List (String × α)) :
    (insertEntry name value es).lookup other =
      if other = name then some value else es.lookup other := by
  induction es with
  | nil => rw [insertEntry, lookup_cons_ite]
  | cons head rest ih =>
    obtain ⟨k, v⟩ := head
    rw [insertEntry]
    split
    · next same =>
      rw [lookup_cons_ite, lookup_cons_ite, ← same]
      split <;> rfl
    · next other =>
      split
      · rw [lookup_cons_ite]
      · rw [lookup_cons_ite, lookup_cons_ite, ih]
        split
        · next found =>
          rw [if_neg]
          rintro rfl
          exact other found
        · rfl

@[simp] theorem find?_insert (t : Table α) (name other : String) (value : α) :
    (t.insert name value).find? other = if other = name then some value else t.find? other :=
  lookup_insertEntry name other value t.entries

theorem lookup_filter_ne (name other : String) (es : List (String × α)) :
    (es.filter (·.1 != name)).lookup other =
      if other = name then none else es.lookup other := by
  induction es with
  | nil => simp
  | cons head rest ih =>
    obtain ⟨k, v⟩ := head
    by_cases taken : k = name
    · subst taken
      rw [List.filter_cons_of_neg (by simp), ih, lookup_cons_ite]
      split <;> rfl
    · rw [List.filter_cons_of_pos (by simpa using taken), lookup_cons_ite, ih, lookup_cons_ite]
      by_cases here : other = k
      · rw [if_pos here, if_pos here, if_neg (here ▸ taken)]
      · rw [if_neg here, if_neg here]

@[simp] theorem find?_erase (t : Table α) (name other : String) :
    (t.erase name).find? other = if other = name then none else t.find? other :=
  lookup_filter_ne name other t.entries

@[simp] theorem find?_put (t : Table α) (name other : String) (value : Option α) :
    (t.put name value).find? other = if other = name then value else t.find? other := by
  cases value with
  | none => exact t.find?_erase name other
  | some value => exact t.find?_insert name other value

@[simp] theorem contains_insert (t : Table α) (name other : String) (value : α) :
    (t.insert name value).contains other = (decide (other = name) || t.contains other) := by
  unfold contains
  rw [find?_insert]
  by_cases h : other = name <;> simp [h]

theorem lookup_eq_none_of_lt {name : String} {es : List (String × α)}
    (below : ∀ e ∈ es, name < e.1) : es.lookup name = none := by
  refine List.lookup_eq_none_iff.2 fun e mem => bne_iff_ne.2 fun same => ?_
  have lt : name < e.1 := below e mem
  rw [← same] at lt
  exact String.lt_irrefl name lt

theorem length_insertEntry {es : List (String × α)} (h : es.Pairwise fun a b => a.1 < b.1)
    (name : String) (value : α) : (insertEntry name value es).length =
      if (es.lookup name).isSome then es.length else es.length + 1 := by
  induction es with
  | nil => rfl
  | cons head rest ih =>
    obtain ⟨k, v⟩ := head
    obtain ⟨first, later⟩ := List.pairwise_cons.1 h
    rw [insertEntry, lookup_cons_ite]
    by_cases same : name = k
    · simp [same]
    rw [if_neg same, if_neg same]
    by_cases before : name < k
    · rw [if_pos before, lookup_eq_none_of_lt fun e mem => String.lt_trans before (first e mem)]
      rfl
    · rw [if_neg before, List.length_cons, ih later]
      split <;> rfl

theorem size_insert (t : Table α) (name : String) (value : α) :
    (t.insert name value).size = if t.contains name then t.size else t.size + 1 :=
  length_insertEntry t.ordered name value

theorem keys_increasing (t : Table α) : t.keys.Pairwise (· < ·) := List.pairwise_map.2 t.ordered

theorem mem_keys (t : Table α) (name : String) : name ∈ t.keys ↔ t.contains name = true := by
  rw [keys, contains, find?, Option.isSome_iff_ne_none, ne_eq, List.lookup_eq_none_iff]
  simp

/-- In whatever order the names of a table are listed, sorted they are its keys. -/
theorem keys_eq_mergeSort (t : Table α) {names : List String} (distinct : names.Nodup)
    (same : ∀ name, name ∈ names ↔ t.contains name = true) : t.keys = names.mergeSort := by
  have keys_distinct : t.keys.Nodup := by
    refine t.keys_increasing.imp ?_
    rintro a _ less rfl
    exact String.lt_irrefl a less
  have sorted : names.mergeSort.Pairwise fun a b => decide (a ≤ b) = true :=
    List.pairwise_mergeSort (by simpa using fun _ _ _ => String.le_trans)
      (by simpa using String.le_total) names
  have alike : t.keys.Perm names.mergeSort := by
    refine ((List.perm_ext_iff_of_nodup keys_distinct distinct).2 fun name => ?_).trans
      (List.mergeSort_perm names _).symm
    rw [t.mem_keys, same]
  refine alike.eq_of_pairwise (fun a b _ _ => String.le_antisymm) ?_ (by simpa using sorted)
  exact t.keys_increasing.imp fun less => String.not_lt.1 fun more =>
    String.lt_irrefl _ (String.lt_trans less more)

theorem isEmpty_iff (t : Table α) : t.isEmpty = true ↔ ∀ name, t.contains name = false := by
  have none : t.entries = [] ↔ ∀ name, name ∉ t.keys := by
    rw [← List.eq_nil_iff_forall_not_mem, keys, List.map_eq_nil_iff]
  simp only [isEmpty, List.isEmpty_iff, none, mem_keys, Bool.not_eq_true]

/-- Entries that are inserted one after the other; no name comes twice. -/
theorem find?_foldl_insert {es : List (String × α)}
    (distinct : es.Pairwise fun a b => a.1 < b.1) (t : Table α) (name : String) :
    (es.foldl (fun t p => t.insert p.1 p.2) t).find? name =
      (es.lookup name).or (t.find? name) := by
  induction es generalizing t with
  | nil => rfl
  | cons head rest ih =>
    obtain ⟨k, v⟩ := head
    obtain ⟨first, later⟩ := List.pairwise_cons.1 distinct
    rw [List.foldl_cons, ih later, find?_insert, lookup_cons_ite]
    split
    · next same =>
      have once : rest.lookup name = none := lookup_eq_none_of_lt (same ▸ first)
      rw [once]
      rfl
    · rfl

@[simp] theorem find?_override (outer inner : Table α) (name : String) :
    (outer.override inner).find? name = (inner.find? name).or (outer.find? name) :=
  find?_foldl_insert inner.ordered outer name

end TagDispatch.Table
