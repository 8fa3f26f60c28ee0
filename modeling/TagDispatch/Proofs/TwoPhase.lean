import TagDispatch.Proofs.Allowance
import TagDispatch.Proofs.AutomaticPass
import TagDispatch.Proofs.Untouched

/-!
A call from outside has two phases: the rewriting pass, and then dispatch, in which no rewriter
runs any more. So it comes to the same as rewriting first and processing the rewritten tree with
a processor that has no rewriters. There are two ways to tell these apart. Without any rewriter
there is no pass, and so nothing takes the field names off the tree. And code that looks into the
registry sees whether there are rewriters.
-/

namespace TagDispatch

variable {σ α : Type}

/-- Every request of handlers and recovery hooks is one of `P`; rewriters may ask for anything. -/
def Registry.ServesAsking (r : Registry σ) (P : Request → Prop) : Prop :=
  r.Every (fun h => ∀ n, (h n).Only P) (fun _ => True)
    (fun w => ∀ rest copy e, (w rest copy e).Only P)

/-- A request that has nothing to do with rewriters: it neither rewrites nor looks into the
registry, which lists them. -/
def Request.Unconcerned (r : Request) : Prop := r ≠ .rewrite ∧ r ≠ .getCatalogue

/-- Inside a call from outside, where the context is not empty. -/
def View.inside : View := ⟨Eq, Eq, fun x y => x = y ∧ x ≠ [], False, False, False⟩

theorem View.inside_exact : View.inside.Exact := ⟨⟨.rfl, id⟩, And.left, id⟩

theorem View.inside_admits {r : Request} (h : r.Unconcerned) : View.inside.admits r :=
  View.inside_exact.admits (fun same => absurd same h.1) fun same => absurd same h.2

theorem View.inside_session {s : Session σ} (h : s.context ≠ []) : s.Alike View.inside s :=
  ⟨rfl, rfl, rfl, rfl, h⟩

/-- Where a rewriting pass starts, or a rewriter runs. -/
def Step.runsRewriter : Step σ → Bool
  | .pass _ => true
  | .invoked .rewriter _ _ _ => true
  | _ => false

/-! ### What code still asks for -/

theorem Code.Only.advance {P : Request → Prop} {self : Profile} {c : Calls σ} {x y : Code σ α}
    {s t : Session σ} {j : List (Step σ)} (hx : x.Only P)
    (h : x.advance self c s = some ⟨y, t, j⟩) : y.Only P := by
  cases x with
  | done a => cases h
  | diverge => cases h
  | process n k =>
    obtain ⟨o, -, he⟩ := Option.map_eq_some_iff.1 h
    cases he
    exact hx.2 o.value
  | rewrite n k =>
    obtain ⟨o, -, he⟩ := Option.map_eq_some_iff.1 h
    cases he
    exact hx.2 o.value
  | configure o k => cases h; exact hx.2
  | setState a k => cases h; exact hx.2
  | setEnv e k => cases h; exact hx.2
  | _ => cases h; exact hx.2 _

theorem Code.Only.leads {P : Request → Prop} {self : Profile} {c : Calls σ} {x y : Code σ α}
    {s t : Session σ} {j : List (Step σ)} (hx : x.Only P) (h : x.Leads self c s y t j) :
    y.Only P := by
  induction h with
  | here x s => exact hx
  | next first rest ih => exact ih (hx.advance first)

/-- Code that does not ask for rewriting calls the processor for nothing but processing. -/
theorem Code.Only.call_process {x : Code σ α} (hx : x.Only (· ≠ .rewrite)) {B : Call}
    (asks : x.call? = some B) : ∃ n, B = .process n := by
  cases x with
  | process n k =>
    cases asks
    exact ⟨n, rfl⟩
  | rewrite n k => exact absurd rfl hx.1
  | _ => cases asks

namespace Processor

/-! ### Dispatch does not depend on rewriters -/

/-- Inside a call, processors that differ in their rewriters only are in lockstep. -/
theorem lockstep_inside {p q : Processor σ} (hp : p.registry.ServesAsking Request.Unconcerned)
    (hk : p.kind = q.kind) (hh : p.registry.handlers = q.registry.handlers)
    (hr : p.registry.recoveries = q.registry.recoveries) : Lockstep View.inside p q where
  kind := hk
  catalogue h := h.elim
  error_refl _ := rfl
  quiet h := congrArg Config.quiet h
  set o h := congrArg (Config.set · o) h
  blind h := .inl h
  enter label h := ⟨congrArg (label :: ·) h.1, List.cons_ne_nil _ _⟩
  pass := by
    rintro x y ⟨rfl, hx⟩
    cases x with
    | nil => exact absurd rfl hx
    | cons label x => rfl
  rewrites := by
    rintro x y ⟨_, hx⟩ h
    cases x with
    | nil => exact absurd rfl hx
    | cons label x => cases h
  handlers tag := by
    rw [← hh]
    refine Table.find?_rel (fun tag f hf n => ?_) tag
    exact View.inside_exact.replies ((hp.handlers tag f hf n).mono fun _ => View.inside_admits)
  recoveries tag := by
    rw [← hr]
    refine Table.find?_rel (fun tag w hw rest copy e e' he => ?_) tag
    rw [View.inside_exact.error.1 he]
    exact View.inside_exact.replies
      ((hp.recoveries tag w hw rest copy e').mono fun _ => View.inside_admits)
  rewriters _ h := h.elim

def withoutRewriters (p : Processor σ) : Processor σ :=
  { p with registry := { p.registry with rewriters := ∅ } }

variable {p : Processor σ}

theorem dispatch_withoutRewriters (hp : p.registry.ServesAsking Request.Unconcerned) (k : Nat)
    (n : Tree) {s : Session σ} (hs : s.context ≠ []) :
    p.withoutRewriters.dispatch (p.withoutRewriters.calls k) n s = p.dispatch (p.calls k) n s := by
  have hq : p.withoutRewriters.registry.ServesAsking Request.Unconcerned :=
    ⟨hp.handlers, fun _ _ _ => trivial, hp.recoveries⟩
  have hto : Lockstep View.inside p p.withoutRewriters := lockstep_inside hp rfl rfl rfl
  have hfro : Lockstep View.inside p.withoutRewriters p := lockstep_inside hq rfl rfl rfl
  refine Option.ext fun o => ⟨fun ho => ?_, fun ho => ?_⟩
  · exact View.inside_exact.follows (fun _ _ => View.inside_exact.reply.1)
      (hfro.dispatch (hfro.calls (Nat.le_refl k)) n (View.inside_session hs)) ho
  · exact View.inside_exact.follows (fun _ _ => View.inside_exact.reply.1)
      (hto.dispatch (hto.calls (Nat.le_refl k)) n (View.inside_session hs)) ho

/-- From outside the context is empty, but dispatch runs with the root's label on it. -/
theorem enter_withoutRewriters (hp : p.registry.ServesAsking Request.Unconcerned) (k : Nat)
    (n : Tree) (s : Session σ) :
    p.withoutRewriters.enter (p.withoutRewriters.calls k) n s = p.enter (p.calls k) n s := by
  rw [enter_apply, enter_apply,
    dispatch_withoutRewriters hp k n (List.cons_ne_nil n.label s.context)]

/-! ### The two phases -/

def secondPhase (p : Processor σ) (k : Nat) (n : Tree) : Except ProcessError Tree → Run σ Reply
  | .error e => pure ⟨.error e, n⟩
  | .ok m => p.withoutRewriters.process k m

/-- Rewrites a tree, and then processes what has become of it without rewriters. -/
def twoPhase (p : Processor σ) (k : Nat) (n : Tree) : Run σ Reply :=
  p.rewrite k n >>= p.secondPhase k n

theorem secondPhase_lasting (p : Processor σ) (n : Tree) (r : Except ProcessError Tree) :
    Lasting (p.secondPhase · n r) := by
  cases r with
  | error e => exact Lasting.pure _
  | ok m => exact p.withoutRewriters.process_lasting m

theorem twoPhase_lasting (p : Processor σ) (n : Tree) : Lasting (p.twoPhase · n) :=
  (p.rewrite_lasting n).bind (p.secondPhase_lasting n)

theorem afterPass_lasting (p : Processor σ) (n : Tree) (r : Except ProcessError Tree) :
    Lasting fun k => p.afterPass (p.calls k) n r := by
  cases r with
  | error e => exact Lasting.pure _
  | ok m => exact p.enter_lasting m

theorem process_inside (p : Processor σ) (k : Nat) (n : Tree) {s : Session σ}
    (h : (s.context.isEmpty && p.registry.hasRewriters) = false) :
    p.process (k + 1) n s = p.enter (p.calls k) n s := by
  rw [process_succ, processStep_apply, Run.bind_apply, prepare_inside p _ n h, Option.bind_some]
  change (p.enter (p.calls k) n s).map (·.after []) = _
  cases p.enter (p.calls k) n s <;> rfl

theorem passes_of_none (h : p.registry.hasRewriters = false) (nodes : List Tree) :
    p.Passes nodes := by
  intro m _
  have he : p.registry.rewriters.entries = [] := by
    simpa [Registry.hasRewriters, Table.isEmpty] using h
  cases m.tagName? with
  | none => rfl
  | some tag => simp [Table.find?, he]

theorem comesTo_process {n : Tree} {s t : Session σ} {r : Reply} :
    ComesTo (p.process · n) s r t ↔
      ∃ a u, ComesTo (fun k => p.prepare (p.calls k) n) s a u ∧
        ComesTo (fun k => p.afterPass (p.calls k) n a) u r t := by
  rw [ComesTo.succ rfl, ← ComesTo.bind (p.prepare_lasting n) (p.afterPass_lasting n)]
  simp only [ComesTo, process_succ, processStep_apply]

/-- The first phase is what a call from outside does before dispatch. -/
theorem comesTo_prepare {n : Tree} {s t : Session σ} {r : Except ProcessError Tree}
    (hs : s.context = [])
    (hf : p.registry.hasRewriters = true ∨ ∀ m ∈ n :: n.descendants, m.fields = []) :
    ComesTo (fun k => p.prepare (p.calls k) n) s r t ↔ ComesTo (p.rewrite · n) s r t := by
  cases hw : p.registry.hasRewriters with
  | true =>
    exact ComesTo.after fun k => p.prepare_outside (p.calls k) n (by rw [hs, hw]; rfl)
  | false =>
    have hbare : ∀ m ∈ n :: n.descendants, m.fields = [] := hf.resolve_left (by simp [hw])
    have hin : ComesTo (fun k => p.prepare (p.calls k) n) s (.ok n) s :=
      ⟨0, [], p.prepare_inside (p.calls 0) n (by rw [hw, Bool.and_false])⟩
    have hrw : ComesTo (p.rewrite · n) s (.ok n) s := by
      obtain ⟨j, hj, -⟩ :=
        p.rewrite_untouched (n.depth + 1) n s (passes_of_none hw _) (Nat.lt_succ_self _)
      rw [Node.withoutFields_eq_self hbare] at hj
      exact ⟨_, j, hj⟩
    constructor
    · intro h
      obtain ⟨rfl, rfl⟩ := ComesTo.unique (p.prepare_lasting n) hin h
      exact hrw
    · intro h
      obtain ⟨rfl, rfl⟩ := ComesTo.unique (p.rewrite_lasting n) hrw h
      exact hin

/-- The second phase is dispatch. -/
theorem comesTo_afterPass (hp : p.registry.ServesAsking Request.Unconcerned) {n : Tree}
    {s t : Session σ} {a : Except ProcessError Tree} {r : Reply} :
    ComesTo (fun k => p.afterPass (p.calls k) n a) s r t ↔ ComesTo (p.secondPhase · n a) s r t := by
  cases a with
  | error e => exact .rfl
  | ok m =>
    have hq (k : Nat) : p.withoutRewriters.process (k + 1) m s = p.enter (p.calls k) m s := by
      rw [process_inside _ k m (Bool.and_false _), enter_withoutRewriters hp k m s]
    change ComesTo (fun k => p.enter (p.calls k) m) s r t ↔
      ComesTo (p.withoutRewriters.process · m) s r t
    rw [ComesTo.succ (x := (p.withoutRewriters.process · m)) rfl]
    simp only [ComesTo, hq]

/-! ### No rewriter after the pass -/

/-- From a dispatched node only processing is asked for, and inside that node. -/
theorem Inside.goes_on (hp : p.registry.ServesAsking (· ≠ .rewrite)) {k : Nat} {n m : Tree}
    {B : Call} {s t : Session σ} {j : List (Step σ)}
    (h : p.Inside (p.calls k) m (.process n) s B t j) :
    (∃ child, B = .process child) ∧ t.context ≠ [] := by
  have inside : t.context ≠ [] := by
    rw [h.context]
    exact List.cons_ne_nil _ _
  refine ⟨?_, inside⟩
  cases h with
  | code ready issued =>
    cases issued with
    | handler ready served leads asks =>
      exact ((handler_of_every hp (resolve_of_service served) _).leads leads).call_process asks
    | recovery ready served failed found leads asks =>
      exact ((recovery_of_every hp found _ _ _).leads leads).call_process asks
  | walker ready served split before => exact ⟨_, rfl⟩

/-- A call inside a node reaches only calls of its own sort. -/
theorem Reaches.stays_inside (hp : p.registry.ServesAsking (· ≠ .rewrite)) {k l : Nat} {A B : Call}
    {s t : Session σ} {j : List (Step σ)} (h : p.Reaches k A s l B t j)
    (first : ∃ n, A = .process n) (inside : s.context ≠ []) :
    (∃ m, B = .process m) ∧ t.context ≠ [] := by
  induction h with
  | here k A s => exact ⟨first, inside⟩
  | next asks rest ih =>
    obtain ⟨n, rfl⟩ := first
    rcases asks.outer_or_inside with outer | ⟨m, within⟩
    · cases outer with
      | pass outside => simp [inside] at outside
      | rewriter issued => cases issued
    · obtain ⟨next, deeper⟩ := within.goes_on hp
      exact ih next deeper

/-- Inside a node nothing that is processed starts a rewriter or a pass. -/
theorem process_runs_no_rewriter (hp : p.registry.ServesAsking (· ≠ .rewrite)) {k : Nat} {n : Tree}
    {s : Session σ} (inside : s.context ≠ []) {q : Outcome σ (Option ProcessError)}
    (run : (p.calls k).verdict (.process n) s = some q) {e : Step σ} (he : e ∈ q.journal) :
    e.runsRewriter = false := by
  obtain ⟨l, B, t, j, reaches, own⟩ := reached_of_mem run he
  obtain ⟨⟨m, rfl⟩, inside'⟩ := reaches.stays_inside hp ⟨n, rfl⟩ inside
  cases own with
  | pass outside => simp [inside'] at outside
  | _ => rfl

theorem enter_runs_no_rewriter (hp : p.registry.ServesAsking (· ≠ .rewrite)) {k : Nat} {n m : Tree}
    {s u : Session σ} {i : List (Step σ)} {o : Outcome σ Reply}
    (ready : p.prepare (p.calls k) n s = some ⟨.ok m, u, i⟩)
    (run : p.enter (p.calls k) m u = some o) {e : Step σ} (he : e ∈ o.journal) :
    e.runsRewriter = false := by
  rcases enter_accounted ready run he with own | ⟨B, t, j, q, asks, called, answered, mem⟩
  · cases own with
    | pass outside => exact absurd he (enter_starts_no_pass run)
    | _ => rfl
  · rcases asks.outer_or_inside with outer | ⟨m', within⟩
    · cases outer with
      | pass outside => simp at called
      | rewriter issued => cases issued
    · obtain ⟨⟨child, rfl⟩, deeper⟩ := within.goes_on hp
      exact process_runs_no_rewriter hp deeper answered mem

/-- A pass that fails is a rewriting that fails. -/
theorem comesTo_failed_pass {k : Nat} {n : Tree} {s t : Session σ} {e : ProcessError}
    {j : List (Step σ)} (failed : p.prepare (p.calls k) n s = some ⟨.error e, t, j⟩) :
    ComesTo (p.rewrite · n) s (.error e) t := by
  cases outside : s.context.isEmpty && p.registry.hasRewriters with
  | false =>
    rw [prepare_inside p _ n outside] at failed
    cases failed
  | true =>
    rw [prepare_outside p _ n outside] at failed
    obtain ⟨⟨r, u, i⟩, hq, he⟩ := Option.map_eq_some_iff.1 failed
    cases he
    exact ⟨k, i, hq⟩

/-- Processing from outside comes to the same as the two phases after each other, if handlers and
recovery hooks neither ask for rewriting nor look into the registry, and if there is a rewriter at
all or nothing in the tree has field names. Once the tree is dispatched, no rewriter runs any more;
for this it is enough that handlers and recovery hooks do not ask for rewriting. -/
theorem process_in_two_phases (p : Processor σ) (n : Tree) (s : Session σ) (hs : s.context = []) :
    (p.registry.ServesAsking Request.Unconcerned →
      (p.registry.hasRewriters = true ∨ ∀ m ∈ n :: n.descendants, m.fields = []) →
      ∀ r t, ComesTo (p.process · n) s r t ↔ ComesTo (p.twoPhase · n) s r t) ∧
    (p.registry.ServesAsking (· ≠ .rewrite) → ∀ k o, p.process k n s = some o →
      (∃ e, o.value = ⟨.error e, n⟩ ∧ ComesTo (p.rewrite · n) s (.error e) o.session) ∨
      ∃ l m t pass rest, p.prepare (p.calls l) n s = some ⟨.ok m, t, pass⟩ ∧
        o.journal = pass ++ .log (.span "process" (.nodeDispatched m.label t.context.length)) ::
          .called m t :: rest ∧
        ∀ e ∈ rest, e.runsRewriter = false) := by
  constructor
  · intro hp hf r t
    have htwo : ComesTo (p.twoPhase · n) s r t ↔ _ :=
      ComesTo.bind (p.rewrite_lasting n) (p.secondPhase_lasting n)
    rw [comesTo_process, htwo]
    simp only [comesTo_prepare hs hf, comesTo_afterPass hp]
  · intro hp k o ho
    cases k with
    | zero => cases ho
    | succ k =>
      rw [process_succ, processStep_apply] at ho
      obtain ⟨⟨a, t, j⟩, q, ready, after, rfl⟩ := Run.bind_eq_some.1 ho
      cases a with
      | error e =>
        cases after
        exact .inl ⟨e, rfl, comesTo_failed_pass ready⟩
      | ok m =>
        have quiet {e : Step σ} (he : e ∈ q.journal) : e.runsRewriter = false :=
          enter_runs_no_rewriter hp ready after he
        change p.enter (p.calls k) m t = some q at after
        rw [enter_apply] at after
        obtain ⟨d, -, rfl⟩ := Option.map_eq_some_iff.1 after
        exact .inr ⟨k, m, t, j, _, ready, rfl, fun e he =>
          quiet (List.mem_cons_of_mem _ (List.mem_cons_of_mem _ he))⟩

end Processor

/-- Takes its node apart and gives back the first element after the tag. -/
def unwrapping : Handler Unit := fun n =>
  .done ⟨.ok (n.shift.2.shift.1.getD (.atom .nil)), n.shift.2.shift.2⟩

/-- Turns a node into one to unwrap. -/
def retagging : Rewriter Unit := fun n =>
  .done (.ok { n with elements := .atom (.symbol "wrap") :: n.body })

def retaggingProcessor : Processor Unit :=
  ⟨"Test", .ofList [.handler "wrap" unwrapping, .rewriter "old" retagging]⟩

/-- A node around one that has a field name. -/
def namedTree (tag : String) : Tree :=
  .ofElements [.atom (.symbol tag), .node ⟨[.atom (.symbol "leaf")], ["name"], none⟩]

def freshSession : Session Unit := { config := {}, state := () }

/-- The field names of a result. -/
def Reply.fields? (r : Reply) : Option (List String) :=
  (r.result.toOption.bind Element.node?).map Node.fields

theorem process_in_two_phases_retagged :
    ∃ r t, ComesTo (retaggingProcessor.process · (namedTree "old")) freshSession r t ∧
      ComesTo (retaggingProcessor.twoPhase · (namedTree "old")) freshSession r t ∧
      r.fields? = some [] ∧
      ∃ m u pass rest, retaggingProcessor.process 4 (namedTree "old") freshSession = some ⟨r, t,
        pass ++ .log (.span "process" (.nodeDispatched m.label u.context.length)) ::
          .called m u :: rest⟩ ∧
        ∀ e ∈ rest, e.runsRewriter = false := by
  have hp {P : Request → Prop} : retaggingProcessor.registry.ServesAsking P := by
    refine Registry.every_ofList fun e he => ?_
    rcases List.mem_pair.1 he with rfl | rfl
    · exact fun _ => trivial
    · trivial
  have h : (retaggingProcessor.process 4 (namedTree "old") freshSession).map
      (·.value.fields?) = some (some []) := by
    decide +kernel
  obtain ⟨⟨r, t, j⟩, ho, hr⟩ := Option.map_eq_some_iff.1 h
  have hc : ComesTo (retaggingProcessor.process · (namedTree "old")) freshSession r t :=
    ⟨4, j, ho⟩
  obtain ⟨same, quiet⟩ :=
    retaggingProcessor.process_in_two_phases (namedTree "old") freshSession rfl
  refine ⟨r, t, hc, (same hp (.inl (by decide +kernel)) r t).1 hc, hr, ?_⟩
  rcases quiet hp 4 _ ho with ⟨e, failed, -⟩ | ⟨-, m, u, pass, rest, -, rfl, none⟩
  · rw [failed] at hr
    cases hr
  · exact ⟨m, u, pass, rest, ho, none⟩

/-- Two runs that come to results which show different things. -/
theorem not_comesTo_iff {β : Type} {f : Reply → β} {x y : Nat → Run Unit Reply}
    (lasting : Lasting y) {s : Session Unit} {k l : Nat} {a b : β}
    (hx : (x k s).map (fun o => f o.value) = some a)
    (hy : (y l s).map (fun o => f o.value) = some b) (ne : a ≠ b) :
    ¬ ∀ r t, ComesTo x s r t ↔ ComesTo y s r t := by
  intro same
  obtain ⟨⟨r, t, j⟩, ho, rfl⟩ := Option.map_eq_some_iff.1 hx
  obtain ⟨⟨r', t', j'⟩, ho', rfl⟩ := Option.map_eq_some_iff.1 hy
  obtain ⟨rfl, -⟩ := ComesTo.unique lasting ((same r t).1 ⟨k, j, ho⟩) ⟨l, j', ho'⟩
  exact ne rfl

def unwrappingProcessor : Processor Unit := ⟨"Test", .ofList [.handler "wrap" unwrapping]⟩

/-- Tells whether the registry has rewriters. -/
def surveying : Handler Unit := fun n =>
  .getCatalogue fun c => .done ⟨.ok (.node (.ofElements
    [.atom (.symbol "survey"), .atom (.bool (!c.rewriters.isEmpty))])), n.clear⟩

/-- The rewriter is there, but nothing has its tag. -/
def surveyingProcessor : Processor Unit :=
  ⟨"Test", .ofList [.handler "survey" surveying, .rewriter "old" retagging]⟩

/-- Handlers can tell one call from its two phases, in two ways. Without rewriters nothing is
rewritten, and what is inside the tree keeps its field names, though no code looks into the
registry. With rewriters, and without field names, code that looks into the registry sees them. -/
theorem phases_can_be_told_apart :
    (¬ ∀ (p : Processor Unit) (n : Tree) (s : Session Unit),
      p.registry.ServesAsking Request.Unconcerned → s.context = [] →
        ∀ r t, ComesTo (p.process · n) s r t ↔ ComesTo (p.twoPhase · n) s r t) ∧
    ¬ ∀ (p : Processor Unit) (n : Tree) (s : Session Unit),
      p.registry.ServesAsking (· ≠ .rewrite) →
      (p.registry.hasRewriters = true ∧ ∀ m ∈ n :: n.descendants, m.fields = []) →
      s.context = [] →
        ∀ r t, ComesTo (p.process · n) s r t ↔ ComesTo (p.twoPhase · n) s r t := by
  constructor
  · intro hall
    refine not_comesTo_iff (f := Reply.fields?) (k := 1) (l := 3) (a := some ["name"])
      (b := some []) (unwrappingProcessor.twoPhase_lasting _) (by decide +kernel)
      (by decide +kernel) (by decide)
      (hall unwrappingProcessor (namedTree "wrap") freshSession ?_ rfl)
    refine Registry.every_ofList fun e he => ?_
    rw [List.mem_singleton.1 he]
    exact fun _ => trivial
  · intro hall
    refine not_comesTo_iff (f := fun r => r.result.toOption.map Element.render) (k := 4) (l := 4)
      (a := some "s(:survey, true)") (b := some "s(:survey, false)")
      (surveyingProcessor.twoPhase_lasting _) (by decide +kernel) (by decide +kernel) (by decide)
      (hall surveyingProcessor (.tagged (.symbol "survey")) freshSession ?_
        ⟨by decide +kernel, by decide +kernel⟩ rfl)
    refine Registry.every_ofList fun e he => ?_
    rcases List.mem_pair.1 he with rfl | rfl
    · exact fun _ => ⟨nofun, fun _ => trivial⟩
    · trivial

end TagDispatch
