import TagDispatch.Proofs.Allowance

/-!
A node is processed the same wherever it stands. Without rewriters the processor looks at the
context for nothing but the depths that it reports. So if the attached code does not look at it
either, then calls from any two contexts come to the same, and the depths that they report differ
by how much deeper the one call stands than the other.
-/

namespace TagDispatch

variable {σ α : Type}

/-! ### What does not depend on the place -/

/-- The entry with its depth counted from a call that stands `base` deep. -/
def LogEntry.relative (base : Nat) : LogEntry → LogEntry
  | .span name (.nodeDispatched tag depth) => .span name (.nodeDispatched tag (depth - base))
  | entry => entry

theorem LogEntry.level_relative (base : Nat) (entry : LogEntry) :
    (entry.relative base).level = entry.level := by
  unfold relative
  split <;> rfl

/-- What is left of an outcome without the place of the call: the value, the session but for its
context, and the log up to a limit with depths counted from the call. -/
def Outcome.placeless (base limit : Nat) (o : Outcome σ α) : α × Session σ × List LogEntry :=
  (o.value, { o.session with context := [] }, (logOf limit o.journal).map (·.relative base))

/-- The contexts `a` and `b`, each with the same labels put on. -/
def View.placed (a b : List String) : View :=
  ⟨Eq, Eq, fun x y => ∃ labels, x = labels ++ a ∧ y = labels ++ b, True, True, False⟩

namespace View

variable {a b : List String}

theorem placed_plain : (View.placed a b).Plain := ⟨.rfl, id⟩

theorem placed_session (s : Session σ) :
    Session.Alike (View.placed a b) { s with context := a } { s with context := b } :=
  ⟨rfl, rfl, rfl, [], rfl, rfl⟩

theorem placed_entry {e e' : Step σ} (h : e.Alike (View.placed a b) e') :
    e.entry?.map (·.relative a.length) = e'.entry?.map (·.relative b.length) := by
  cases h with
  | event m => rfl
  | recovered label kind he => rw [placed_plain.error.1 he]; rfl
  | span label hx =>
    obtain ⟨labels, rfl, rfl⟩ := hx
    simp [Step.entry?, LogEntry.relative]
  | _ => rfl

/-- Levels do not depend on depths, so limiting the logs leaves them alike. -/
theorem placed_log (limit : Nat) {j j' : List (Step σ)} (h : (View.placed a b).journal j j') :
    (logOf limit j).map (·.relative a.length) = (logOf limit j').map (·.relative b.length) := by
  have all : ∀ base (j : List (Step σ)), (logOf limit j).map (·.relative base) =
      (j.filterMap fun e => e.entry?.map (·.relative base)).filter (·.level.verbosity ≤ limit) := by
    intro base j
    rw [logOf, ← List.map_filterMap, List.filter_map]
    congr 2
    funext entry
    simp [LogEntry.level_relative]
  rw [all, all]
  congr 1
  rcases h with silent | h
  · exact silent.elim
  · induction h with
    | nil => rfl
    | cons he _ ih => rw [List.filterMap_cons, List.filterMap_cons, placed_entry he, ih]

theorem placed_outcome (limit : Nat) {o o' : Outcome σ α} (value : o.value = o'.value)
    (session : o.session.Alike (View.placed a b) o'.session)
    (journal : (View.placed a b).journal o.journal o'.journal) :
    o.placeless a.length limit = o'.placeless b.length limit := by
  have config : o.session.config = o'.session.config := session.config
  simp only [Outcome.placeless, value, config, session.state, session.env,
    placed_log limit journal]

end View

/-! ### Calls from two places -/

namespace Processor

theorem lockstep_placed {p : Processor σ} (noRewriters : p.registry.hasRewriters = false)
    (unaware : p.registry.OnlyAsks (· ≠ .getContext)) (a b : List String) :
    Lockstep (View.placed a b) p p := by
  have plain : (View.placed a b).Plain := View.placed_plain
  have admits : ∀ r : Request, r ≠ .getContext → (View.placed a b).admits r := by
    intro r other
    cases r with
    | getContext => exact absurd rfl other
    | _ => trivial
  refine ⟨rfl, fun _ => rfl, fun _ => rfl, congrArg Config.quiet,
    fun o => congrArg (Config.set · o), .inl, ?_,
    ?_, fun _ _ => trivial, ?_, ?_, ?_⟩
  · rintro x y label ⟨labels, rfl, rfl⟩
    exact ⟨label :: labels, rfl, rfl⟩
  · intro x y _
    rw [noRewriters, Bool.and_false, Bool.and_false]
  · refine Table.find?_rel fun tag h mem n => ?_
    exact plain.replies ((unaware.handlers tag h mem n).mono admits)
  · refine Table.find?_rel fun tag w mem rest copy e e' he => ?_
    rw [plain.error.1 he]
    exact plain.replies ((unaware.recoveries tag w mem rest copy e').mono admits)
  · intro tag _
    refine Table.find?_rel (fun tag w mem n => ?_) tag
    exact plain.results ((unaware.rewriters tag w mem n).mono admits)

/-- A node is processed the same wherever it stands, if there are no rewriters and the attached code
does not ask for the context. From two contexts both calls end or neither does, with the same result
and remainder, the same state, bindings and configuration, and the same log but for the depths of
dispatched nodes, which are the same as seen from the call. -/
theorem place_changes_nothing (p : Processor σ) (noRewriters : p.registry.hasRewriters = false)
    (unaware : p.registry.OnlyAsks (· ≠ .getContext)) (k limit : Nat) (n : Tree) (s : Session σ)
    (a b : List String) :
    (p.process k n { s with context := a }).map (Outcome.placeless a.length limit) =
      (p.process k n { s with context := b }).map (Outcome.placeless b.length limit) := by
  have there := ((lockstep_placed noRewriters unaware a b).calls (Nat.le_refl k)).process n
    (View.placed_session s)
  have back := ((lockstep_placed noRewriters unaware b a).calls (Nat.le_refl k)).process n
    (View.placed_session s)
  refine View.follows_map there (fun o' ho' => ?_) fun o o' hv hs hj =>
    View.placed_outcome limit (View.placed_plain.reply.1 hv) hs hj
  obtain ⟨o, ho, -⟩ := back o' ho'
  exact ⟨o, ho⟩

end Processor

/-- Has a node processed, counts that and gives back the result. -/
def relaying : Handler Nat := fun n =>
  .process (.ofElements [.atom (.symbol "leaf")]) fun r =>
    .getState fun count => .setState (count + 1) (.done ⟨r.result, n.clear⟩)

def relayingProcessor : Processor Nat := ⟨"Test", .ofList [.handler "relay" relaying]⟩

def relayTree : Tree := .ofElements [.atom (.symbol "relay"), .atom (.symbol "now")]

/-- The depths of dispatched nodes. -/
def Step.depth? : Step σ → Option Nat
  | .log (.span _ (.nodeDispatched _ depth)) => some depth
  | _ => none

theorem place_changes_nothing_relayed :
    ∃ o o', relayingProcessor.process 2 relayTree { config := {}, state := 0 } = some o ∧
      relayingProcessor.process 2 relayTree
        { config := {}, state := 0, context := ["inner", "outer"] } = some o' ∧
      o.value = o'.value ∧ o.session.state = o'.session.state ∧ o'.session.state = 1 ∧
      o.journal.filterMap Step.depth? = [0, 1] ∧ o'.journal.filterMap Step.depth? = [2, 3] := by
  have unaware : relayingProcessor.registry.OnlyAsks (· ≠ .getContext) := by
    refine Registry.every_ofList fun e he => ?_
    rw [List.mem_singleton.1 he]
    exact fun n => ⟨nofun, fun r => ⟨nofun, fun count => ⟨nofun, trivial⟩⟩⟩
  have outside : (relayingProcessor.process 2 relayTree { config := {}, state := 0 }).map
      (fun o => (o.session.state, o.journal.filterMap Step.depth?)) = some (1, [0, 1]) := by
    decide +kernel
  have inside : (relayingProcessor.process 2 relayTree
      { config := {}, state := 0, context := ["inner", "outer"] }).map
      (fun o => (o.session.state, o.journal.filterMap Step.depth?)) = some (1, [2, 3]) := by
    decide +kernel
  obtain ⟨o, ho, shown⟩ := Option.map_eq_some_iff.1 outside
  obtain ⟨o', ho', shown'⟩ := Option.map_eq_some_iff.1 inside
  simp only [Prod.mk.injEq] at shown shown'
  have same := relayingProcessor.place_changes_nothing rfl unaware 2 4 relayTree
    { config := {}, state := 0 } [] ["inner", "outer"]
  rw [ho, ho'] at same
  simp only [Option.map_some, Option.some.injEq, Outcome.placeless, Prod.mk.injEq,
    Session.mk.injEq] at same
  exact ⟨o, o', ho, ho', same.1, same.2.1.2.1, shown'.1, shown.2, shown'.2⟩

end TagDispatch
