import TagDispatch.Dispatch.Registry

/-!
Properties of all the code in a registry. A property that every registration has is one that
everything found in the registry has.
-/

namespace TagDispatch

variable {σ : Type}

namespace Table

variable {α : Type}

theorem mem_of_find? {t : Table α} {name : String} {a : α} (h : t.find? name = some a) :
    (name, a) ∈ t.entries := by
  obtain ⟨front, back, hs, _⟩ := List.lookup_eq_some_iff.1 h
  simp [hs]

theorem mem_of_bind_find? {t : Table α} {name : Option String} {a : α}
    (h : name.bind t.find? = some a) : ∃ key, (key, a) ∈ t.entries := by
  obtain ⟨key, -, hf⟩ := Option.bind_eq_some_iff.1 h
  exact ⟨key, mem_of_find? hf⟩

/-- Looking a name up twice gives nothing twice, or one value that is related to itself. -/
theorem find?_rel {R : α → α → Prop} {t : Table α} (h : ∀ tag a, (tag, a) ∈ t.entries → R a a)
    (name : String) : Option.Rel R (t.find? name) (t.find? name) := by
  cases hf : t.find? name with
  | none => exact .none
  | some a => exact .some (h name a (mem_of_find? hf))

theorem insert_every {P : α → Prop} {t : Table α} {name : String} {a : α}
    (h : ∀ tag x, (tag, x) ∈ t.entries → P x) (ha : P a) (tag : String) (x : α)
    (hx : (tag, x) ∈ (t.insert name a).entries) : P x := by
  rcases mem_insertEntry hx with hx | hx
  · cases hx
    exact ha
  · exact h tag x hx

end Table

/-- Handlers are in `H`, rewriters in `W` and recovery hooks in `R`. -/
structure Registry.Every (r : Registry σ) (H : Handler σ → Prop) (W : Rewriter σ → Prop)
    (R : Recovery σ → Prop) : Prop where
  handlers (tag : String) (h : Handler σ) : (tag, h) ∈ r.handlers.entries → H h
  rewriters (tag : String) (w : Rewriter σ) : (tag, w) ∈ r.rewriters.entries → W w
  recoveries (tag : String) (w : Recovery σ) : (tag, w) ∈ r.recoveries.entries → R w

def Registration.Is (H : Handler σ → Prop) (W : Rewriter σ → Prop) (R : Recovery σ → Prop) :
    Registration σ → Prop
  | .handler _ h => H h
  | .rewriter _ w => W w
  | .recovery _ w => R w

namespace Registry

variable {H : Handler σ → Prop} {W : Rewriter σ → Prop} {R : Recovery σ → Prop}

theorem Every.register {r : Registry σ} (h : r.Every H W R) {e : Registration σ}
    (he : e.Is H W R) : (r.register e).Every H W R := by
  cases e with
  | handler name f => exact ⟨Table.insert_every h.handlers he, h.rewriters, h.recoveries⟩
  | rewriter name w => exact ⟨h.handlers, Table.insert_every h.rewriters he, h.recoveries⟩
  | recovery name w => exact ⟨h.handlers, h.rewriters, Table.insert_every h.recoveries he⟩

theorem Every.registerAll {r : Registry σ} (h : r.Every H W R) {es : List (Registration σ)}
    (hes : ∀ e ∈ es, e.Is H W R) : (r.registerAll es).1.Every H W R := by
  induction es generalizing r with
  | nil => exact h
  | cons e es ih =>
    exact ih (h.register (hes e List.mem_cons_self)) fun e' he' =>
      hes e' (List.mem_cons_of_mem _ he')

theorem every_ofList {es : List (Registration σ)} (hes : ∀ e ∈ es, e.Is H W R) :
    (ofList es).Every H W R := by
  have h : (Registry.empty : Registry σ).Every H W R := by
    constructor <;> intro tag x hx <;> cases hx
  exact h.registerAll hes

end Registry

end TagDispatch
