import TagDispatch.Proofs.AutomaticPass

/-!
Which parent attached code sees. The context is the stack of the nodes that are open around a call.
A handler or recovery hook runs while its own node is open, so the entry below that is the node from
which it was called. A rewriter runs when its own node has been closed again, so the same entry is
not its node's parent but the node around that.
-/

namespace TagDispatch

variable {σ : Type}

/-- The role of the code that starts here, and the session in which it does. -/
def Step.starts? : Step σ → Option (Role × Session σ)
  | .invoked role _ _ s => some (role, s)
  | .recovering _ _ _ s => some (.recovery, s)
  | _ => none

namespace Processor

/-! ### Open nodes -/

/-- The call `A` from `s` comes to the call `B` in `t` inside it, and `around` are the nodes that
are open around `B`, the innermost first. -/
inductive Within (p : Processor σ) (k : Nat) (A : Call) (s : Session σ) :
    Nat → Call → Session σ → List Tree → Prop
  | here : Within p k A s k A s []
  | outer {l : Nat} {B C : Call} {t u : Session σ} {j : List (Step σ)} {around : List Tree}
      (before : Within p k A s (l + 1) B t around) (last : p.Outer (p.calls l) B t C u j) :
      Within p k A s l C u around
  | inner {l : Nat} {B C : Call} {t u : Session σ} {j : List (Step σ)} {around : List Tree}
      {m : Tree} (before : Within p k A s (l + 1) B t around)
      (last : p.Inside (p.calls l) m B t C u j) : Within p k A s l C u (m :: around)

variable {p : Processor σ}

/-- The context is the stack of the open nodes' labels. -/
theorem Within.context {k l : Nat} {A B : Call} {s t : Session σ} {around : List Tree}
    (h : p.Within k A s l B t around) : t.context = around.map Node.label ++ s.context := by
  induction h with
  | here => rfl
  | outer before last ih => rw [last.context, ih]
  | inner before last ih => rw [last.context, ih, List.map_cons, List.cons_append]

/-- More calls before those that are reached: their open nodes come last. -/
theorem Within.trans {k l l' : Nat} {A B C : Call} {s t u : Session σ} {around around' : List Tree}
    (h : p.Within k A s l B t around) (h' : p.Within l B t l' C u around') :
    p.Within k A s l' C u (around' ++ around) := by
  induction h' with
  | here => exact h
  | outer before last ih => exact .outer ih last
  | inner before last ih => exact .inner ih last

theorem Reaches.within {k l : Nat} {A B : Call} {s t : Session σ} {j : List (Step σ)}
    (h : p.Reaches k A s l B t j) : ∃ around, p.Within k A s l B t around := by
  induction h with
  | here k A s => exact ⟨[], .here⟩
  | next first rest ih =>
    obtain ⟨around, within⟩ := ih
    rcases first.outer_or_inside with outer | ⟨m, inside⟩
    · exact ⟨_, (Within.outer .here outer).trans within⟩
    · exact ⟨_, (Within.inner .here inside).trans within⟩

/-- In a call that has ended, every step is one that some call inside it takes itself. -/
theorem own_within {k : Nat} {A : Call} {s : Session σ} {o : Outcome σ (Option ProcessError)}
    {e : Step σ} (ended : (p.calls k).verdict A s = some o) (mem : e ∈ o.journal) :
    ∃ l B t around, p.Within k A s (l + 1) B t around ∧ p.Own (p.calls l) B t e := by
  obtain ⟨l, B, t, j, reaches, own⟩ := reached_of_mem ended mem
  obtain ⟨around, within⟩ := reaches.within
  exact ⟨l, B, t, around, within, own⟩

/-! ### What code sees -/

/-- Handlers and recovery hooks start with their own node open. -/
theorem Own.parentTag_process {l : Nat} {n : Tree} {t v : Session σ} {e : Step σ} {role : Role}
    (own : p.Own (p.calls l) (.process n) t e) (starts : e.starts? = some (role, v)) :
    v.parentTag? = t.context.head? := by
  have opened {label : String} (context : v.context = label :: t.context) :
      v.parentTag? = t.context.head? := by
    rw [Session.parentTag?, context, List.getElem?_cons_succ, List.head?_eq_getElem?]
  cases own with
  | handler ready served =>
    cases starts
    exact opened (congrArg _ (prepare_context ready))
  | recovering ready served failed found =>
    cases starts
    rw [← prepare_context ready] at opened ⊢
    exact opened (p.allows_sameContext.code (p.calls_keep_context l) _
      (Code.only_of_all (fun _ => trivial) _) _ _ failed)
  | _ => cases starts

/-- Rewriters start with their own node closed. -/
theorem Own.session_settle {c : Calls σ} {label : String} {rounds : Nat} {n : Tree}
    {t v : Session σ} {e : Step σ} {role : Role} (own : p.Own c (.settle label rounds n) t e)
    (starts : e.starts? = some (role, v)) : role = .rewriter ∧ v = t := by
  cases own with
  | rewriter found =>
    cases starts
    exact ⟨rfl, rfl⟩
  | _ => cases starts

theorem Own.settle_of_rewriter {c : Calls σ} {B : Call} {t v : Session σ} {e : Step σ}
    (own : p.Own c B t e) (starts : e.starts? = some (.rewriter, v)) :
    ∃ label rounds n, B = .settle label rounds n := by
  cases own with
  | rewriter found => exact ⟨_, _, _, rfl⟩
  | _ => cases starts

theorem Own.process_of_handler {c : Calls σ} {B : Call} {t v : Session σ} {e : Step σ}
    (own : p.Own c B t e) (starts : e.starts? = some (.handler, v)) : ∃ n, B = .process n := by
  cases own with
  | handler ready served => exact ⟨_, rfl⟩
  | _ => cases starts

/-- The parent that code sees when it starts, in any call and whether or not the call ends. A
handler or recovery hook sees the innermost node around the call for its own node, which is the one
whose handler, hook or walker has asked for that call; from outside it sees none. A rewriter finds
the innermost node around its own at the top of the context, but what it sees as its parent is the
node around that. Whenever code starts in a call that has ended, it is code of a call inside. -/
theorem parent_seen_by_code (p : Processor σ) (k : Nat) (A : Call) (s : Session σ) :
    (∀ l n t around e role v, p.Within k A s (l + 1) (.process n) t around →
      p.Own (p.calls l) (.process n) t e → e.starts? = some (role, v) →
      v.parentTag? = (around.map Node.label ++ s.context).head?) ∧
    (∀ l n t m B u j e role v, p.Inside (p.calls (l + 1)) m B u (.process n) t j →
      p.Own (p.calls l) (.process n) t e → e.starts? = some (role, v) →
      v.parentTag? = some m.label) ∧
    (∀ l label rounds n t around e role v,
      p.Within k A s (l + 1) (.settle label rounds n) t around →
      p.Own (p.calls l) (.settle label rounds n) t e → e.starts? = some (role, v) →
      role = .rewriter ∧ v.context = around.map Node.label ++ s.context ∧
      v.parentTag? = (around.map Node.label ++ s.context).tail.head?) ∧
    ∀ o e role v, (p.calls k).verdict A s = some o → e ∈ o.journal →
      e.starts? = some (role, v) →
      ∃ l B t around, p.Within k A s (l + 1) B t around ∧ p.Own (p.calls l) B t e := by
  refine ⟨fun l n t around e role v within own starts => ?_,
    fun l n t m B u j e role v inside own starts => ?_,
    fun l label rounds n t around e role v within own starts => ?_,
    fun o e role v ended mem starts => ?_⟩
  · rw [own.parentTag_process starts, within.context]
  · rw [own.parentTag_process starts, inside.context, List.head?_cons]
  · obtain ⟨rewriter, rfl⟩ := own.session_settle starts
    refine ⟨rewriter, within.context, ?_⟩
    rw [Session.parentTag?, within.context, List.head?_tail]
  · exact own_within ended mem

end Processor

/-- The role of the code that starts here, and the context in which it does. -/
def Step.startContext? (e : Step σ) : Option (Role × List String) :=
  e.starts?.map fun (role, s) => (role, s.context)

/-- Where the code that a journal shows was started. -/
theorem Processor.started_within {p : Processor σ} {k : Nat} {A : Call} {s : Session σ}
    {o : Outcome σ (Option ProcessError)} {role : Role} {labels : List String}
    (ended : (p.calls k).verdict A s = some o)
    (shown : (role, labels) ∈ o.journal.filterMap Step.startContext?) :
    ∃ l B t around e v, p.Within k A s (l + 1) B t around ∧ p.Own (p.calls l) B t e ∧
      e.starts? = some (role, v) ∧ v.context = labels := by
  obtain ⟨e, mem, start⟩ := List.mem_filterMap.1 shown
  obtain ⟨⟨role', v⟩, starts, same⟩ := Option.map_eq_some_iff.1 start
  obtain ⟨rfl, context⟩ := Prod.mk.inj same
  obtain ⟨l, B, t, around, within, own⟩ := own_within ended mem
  exact ⟨l, B, t, around, e, v, within, own, starts, context⟩

/-- A rewriter and a handler for the same tag. -/
def observingProcessor : Processor Notes :=
  ⟨"Test", .ofList [.rewriter "leaf" (Script.instrs []).rewriter,
    .handler "leaf" (Script.instrs [.shift, .pop, .push (.node .empty)]).handler]⟩

def nestedTree : Tree :=
  .ofElements [.atom (.symbol "outer"), .node (.ofElements [.atom (.symbol "inner"),
    .node (.ofElements [.atom (.symbol "leaf")])])]

/-- In the same place the rewriter sees `outer` as its parent and the handler `inner`. -/
theorem parent_seen_by_code_nested :
    ∃ o, observingProcessor.process 6 nestedTree emptyNotes = some o ∧
      (∃ l label rounds n t around e v,
        observingProcessor.Within 6 (.process nestedTree) emptyNotes (l + 1)
          (.settle label rounds n) t around ∧
        observingProcessor.Own (observingProcessor.calls l) (.settle label rounds n) t e ∧
        e.starts? = some (.rewriter, v) ∧ around.map Node.label = ["inner", "outer"] ∧
        v.parentTag? = some "outer") ∧
      ∃ l n t around e v,
        observingProcessor.Within 6 (.process nestedTree) emptyNotes (l + 1) (.process n) t around ∧
        observingProcessor.Own (observingProcessor.calls l) (.process n) t e ∧
        e.starts? = some (.handler, v) ∧ (around.map Node.label).head? = some "inner" ∧
        v.parentTag? = some "inner" := by
  have run : (observingProcessor.process 6 nestedTree emptyNotes).map
      (·.journal.filterMap Step.startContext?) =
        some [(.rewriter, ["inner", "outer"]), (.handler, ["leaf", "inner", "outer"])] := by
    decide +kernel
  obtain ⟨o, ho, shown⟩ := Option.map_eq_some_iff.1 run
  have ended := Calls.verdict_process (c := observingProcessor.calls 6) ho
  have outside : emptyNotes.context = [] := rfl
  obtain ⟨handlers, -, rewriters, -⟩ :=
    observingProcessor.parent_seen_by_code 6 (.process nestedTree) emptyNotes
  refine ⟨o, ho, ?_, ?_⟩
  · have mem : (.rewriter, ["inner", "outer"]) ∈ o.journal.filterMap Step.startContext? :=
      shown ▸ List.mem_cons_self
    obtain ⟨l, B, t, around, e, v, within, own, starts, context⟩ :=
      Processor.started_within ended mem
    obtain ⟨label, rounds, n, rfl⟩ := own.settle_of_rewriter starts
    obtain ⟨-, labels, parent⟩ := rewriters _ _ _ _ _ _ _ _ _ within own starts
    rw [context, outside, List.append_nil] at labels
    rw [outside, List.append_nil, ← labels] at parent
    exact ⟨l, label, rounds, n, t, around, e, v, within, own, starts, labels.symm, parent⟩
  · have mem : (.handler, ["leaf", "inner", "outer"]) ∈ o.journal.filterMap Step.startContext? :=
      shown ▸ List.mem_cons_of_mem _ List.mem_cons_self
    obtain ⟨l, B, t, around, e, v, within, own, starts, context⟩ :=
      Processor.started_within ended mem
    obtain ⟨n, rfl⟩ := own.process_of_handler starts
    have parent := handlers _ _ _ _ _ _ _ within own starts
    have seen : v.parentTag? = some "inner" := by rw [Session.parentTag?, context]; rfl
    rw [seen, outside, List.append_nil] at parent
    exact ⟨l, n, t, around, e, v, within, own, starts, parent.symm, seen⟩

/-- A rewriter that runs inside an open node does not see that node as its parent. -/
theorem rewriters_miss_their_parent :
    ¬ ∀ (p : Processor Notes) (k l : Nat) (tree m : Tree) (s t v : Session Notes) (B : Call)
      (around : List Tree) (e : Step Notes), s.context = [] →
      p.Within k (.rewrite tree) s (l + 1) B t (m :: around) → p.Own (p.calls l) B t e →
      e.starts? = some (.rewriter, v) → v.parentTag? = some m.label := by
  intro law
  have run : (observingProcessor.rewrite 6 nestedTree emptyNotes).map
      (·.journal.filterMap Step.startContext?) = some [(.rewriter, ["inner", "outer"])] := by
    decide +kernel
  obtain ⟨o, ho, shown⟩ := Option.map_eq_some_iff.1 run
  obtain ⟨l, B, t, around, e, v, within, own, starts, context⟩ :=
    Processor.started_within (Calls.verdict_rewrite (c := observingProcessor.calls 6) ho)
      (shown ▸ List.mem_cons_self)
  obtain ⟨label, rounds, n, rfl⟩ := own.settle_of_rewriter starts
  obtain ⟨-, rfl⟩ := own.session_settle starts
  have labels := within.context
  rw [context, emptyNotes, List.append_nil] at labels
  obtain ⟨m, outer, rfl⟩ : ∃ m outer, around = m :: outer := by
    cases around with
    | nil => cases labels
    | cons m outer => exact ⟨m, outer, rfl⟩
  have parent := law _ _ _ _ _ _ _ _ _ _ _ rfl within own starts
  rw [Session.parentTag?, context] at parent
  injection labels with inner
  rw [← inner] at parent
  exact absurd parent (by decide)

end TagDispatch
