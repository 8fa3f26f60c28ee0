/-!
Tables from names to values. A table lists its names in increasing order, so equal contents are
listed alike whatever the order in which they came in; the last value given to a name counts.
-/

namespace TagDispatch

/-- Names compare by code points. -/
structure Table (α : Type) where
  entries : List (String × α)
  ordered : entries.Pairwise fun a b => a.1 < b.1

namespace Table

variable {α : Type}

def empty : Table α := ⟨[], .nil⟩

instance : EmptyCollection (Table α) := ⟨empty⟩

instance : Inhabited (Table α) := ⟨empty⟩

def insertEntry (name : String) (value : α) : List (String × α) → List (String × α)
  | [] => [(name, value)]
  | (k, v) :: rest =>
    if name = k then (name, value) :: rest
    else if name < k then (name, value) :: (k, v) :: rest
    else (k, v) :: insertEntry name value rest

theorem mem_insertEntry {name : String} {value : α} {es : List (String × α)} {e : String × α}
    (h : e ∈ insertEntry name value es) : e = (name, value) ∨ e ∈ es := by
  induction es with
  | nil => simpa [insertEntry] using h
  | cons head rest ih =>
    obtain ⟨k, v⟩ := head
    simp only [insertEntry] at h
    split at h
    · rcases List.mem_cons.1 h with h | h
      · exact .inl h
      · exact .inr (List.mem_cons_of_mem _ h)
    · split at h
      · rcases List.mem_cons.1 h with h | h
        · exact .inl h
        · exact .inr h
      · rcases List.mem_cons.1 h with h | h
        · exact .inr (h ▸ List.mem_cons_self)
        · exact (ih h).imp id (List.mem_cons_of_mem _)

theorem insertEntry_ordered {name : String} {value : α} {es : List (String × α)}
    (h : es.Pairwise fun a b => a.1 < b.1) :
    (insertEntry name value es).Pairwise fun a b => a.1 < b.1 := by
  induction es with
  | nil => simp [insertEntry]
  | cons head rest ih =>
    obtain ⟨k, v⟩ := head
    obtain ⟨first, later⟩ := List.pairwise_cons.1 h
    simp only [insertEntry]
    split
    · next e => exact List.pairwise_cons.2 ⟨fun b hb => e ▸ first b hb, later⟩
    · next ne =>
      split
      · next lt =>
        refine List.pairwise_cons.2 ⟨fun b hb => ?_, h⟩
        rcases List.mem_cons.1 hb with rfl | hb
        · exact lt
        · exact String.lt_trans lt (first b hb)
      · next nlt =>
        refine List.pairwise_cons.2 ⟨fun b hb => ?_, ih later⟩
        rcases mem_insertEntry hb with rfl | hb
        · exact String.not_le.1 fun le => ne (String.le_antisymm le (String.not_lt.1 nlt))
        · exact first b hb

def insert (t : Table α) (name : String) (value : α) : Table α :=
  ⟨insertEntry name value t.entries, insertEntry_ordered t.ordered⟩

def erase (t : Table α) (name : String) : Table α :=
  ⟨t.entries.filter (·.1 != name), t.ordered.filter _⟩

/-- Gives one name a value, or takes it out. -/
def put (t : Table α) (name : String) : Option α → Table α
  | some value => t.insert name value
  | none => t.erase name

def find? (t : Table α) (name : String) : Option α := t.entries.lookup name

def contains (t : Table α) (name : String) : Bool := (t.find? name).isSome

def keys (t : Table α) : List String := t.entries.map Prod.fst

def size (t : Table α) : Nat := t.entries.length

def isEmpty (t : Table α) : Bool := t.entries.isEmpty

/-- Later pairs win. -/
def ofList (pairs : List (String × α)) : Table α :=
  pairs.foldl (fun t p => t.insert p.1 p.2) empty

/-- Everything in both tables; where they disagree, `inner` wins. -/
def override (outer inner : Table α) : Table α :=
  inner.entries.foldl (fun t p => t.insert p.1 p.2) outer

end Table

/-- A set of names. -/
abbrev NameSet := Table Unit

def NameSet.ofList (names : List String) : NameSet := Table.ofList (names.map fun n => (n, ()))

/-- The names of a table, without their values. -/
def Table.names {α : Type} (t : Table α) : NameSet :=
  ⟨t.entries.map fun e => (e.1, ()), List.pairwise_map.2 t.ordered⟩

end TagDispatch
