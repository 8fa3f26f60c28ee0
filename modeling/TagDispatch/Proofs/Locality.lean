import TagDispatch.Proofs.Nesting
import TagDispatch.Proofs.Registrations
import TagDispatch.Proofs.Request
import TagDispatch.Script.Exec

/-!
What a call depends on: the answers to the calls that it asks for, and who serves the node that it
dispatches. So code for a tag is local to the tag. It makes no difference to a run in which no node
of that tag is dispatched and the tag's handler does not stand in for others, provided that no code
looks into the registry: there it would see the tag.
-/

namespace TagDispatch

variable {σ α : Type}

/-- The same outcome on both sides, or none on either. -/
def Calls.Agree (c d : Calls σ) : Call → Session σ → Prop
  | .process n, s => d.process n s = c.process n s
  | .rewrite n, s => d.rewrite n s = c.rewrite n s
  | .settle label rounds n, s => d.settle label rounds n s = c.settle label rounds n s

/-- Code that does not look into the registry goes the same way for processors of one kind, if the
calls it makes on its way are answered the same. -/
theorem Code.run_of_agree {self other : Profile} (kind : other.kind = self.kind) {c d : Calls σ}
    {x : Code σ α} (unaware : x.Only (· ≠ .getCatalogue)) {s : Session σ}
    (agree : ∀ y t j A, x.Leads self c s y t j → y.call? = some A → c.Agree d A t) :
    x.run other d s = x.run self c s := by
  induction x generalizing s with
  | done a => rfl
  | diverge => rfl
  | process n k ih =>
    have first : d.process n s = c.process n s := agree _ s [] (.process n) (.here _ s) rfl
    rw [run, run, Run.bind_apply, Run.bind_apply, first]
    cases answer : c.process n s with
    | none => rfl
    | some o =>
      have rest : (k o.value).run other d o.session = (k o.value).run self c o.session :=
        ih o.value (unaware.2 o.value) fun y t j A leads =>
          agree y t _ A (.next (by rw [advance, answer]; rfl) leads)
      simp only [Option.bind_some, rest]
  | rewrite n k ih =>
    have first : d.rewrite n s = c.rewrite n s := agree _ s [] (.rewrite n) (.here _ s) rfl
    rw [run, run, Run.bind_apply, Run.bind_apply, first]
    cases answer : c.rewrite n s with
    | none => rfl
    | some o =>
      have rest : (k o.value).run other d o.session = (k o.value).run self c o.session :=
        ih o.value (unaware.2 o.value) fun y t j A leads =>
          agree y t _ A (.next (by rw [advance, answer]; rfl) leads)
      simp only [Option.bind_some, rest]
  | getConfig k ih =>
    rw [run, run, Run.get_bind, Run.get_bind]
    exact ih _ (unaware.2 _) fun y t j A leads => agree y t j A (.silent rfl leads)
  | configure o k ih =>
    rw [run, run, Run.modify_bind, Run.modify_bind]
    exact ih unaware.2 fun y t j A leads => agree y t j A (.silent rfl leads)
  | getState k ih =>
    rw [run, run, Run.get_bind, Run.get_bind]
    exact ih _ (unaware.2 _) fun y t j A leads => agree y t j A (.silent rfl leads)
  | setState a k ih =>
    rw [run, run, Run.modify_bind, Run.modify_bind]
    exact ih unaware.2 fun y t j A leads => agree y t j A (.silent rfl leads)
  | getEnv k ih =>
    rw [run, run, Run.get_bind, Run.get_bind]
    exact ih _ (unaware.2 _) fun y t j A leads => agree y t j A (.silent rfl leads)
  | setEnv e k ih =>
    rw [run, run, Run.modify_bind, Run.modify_bind]
    exact ih unaware.2 fun y t j A leads => agree y t j A (.silent rfl leads)
  | getContext k ih =>
    rw [run, run, Run.get_bind, Run.get_bind]
    exact ih _ (unaware.2 _) fun y t j A leads => agree y t j A (.silent rfl leads)
  | getKind k ih =>
    rw [run, run, kind]
    exact ih _ (unaware.2 _) fun y t j A leads => agree y t j A (.silent rfl leads)
  | getCatalogue k ih => exact absurd rfl unaware.1

namespace Processor

/-- Elements go the same way if their nodes do. -/
theorem eachNode_of_agree {f g : Tree → Run σ (Except ProcessError Tree)} {es : List Element}
    {s : Session σ}
    (agree : ∀ front child back vs left t j, es = front ++ .node child :: back →
      eachNode f front s = some ⟨(.ok vs, left), t, j⟩ → g child t = f child t) :
    eachNode g es s = eachNode f es s := by
  induction es generalizing s with
  | nil => rfl
  | cons e es ih =>
    cases e with
    | atom a =>
      rw [eachNode_atom, eachNode_atom]
      congr 1
      refine ih fun front child back vs left t j split before => ?_
      refine agree (.atom a :: front) child back (.atom a :: vs) left t j ?_ ?_
      · rw [split]
        rfl
      · rw [eachNode_atom, before]
        rfl
    | node m =>
      have first : g m s = f m s := agree [] m es [] [] s [] rfl rfl
      rw [eachNode_node, eachNode_node, first]
      cases answer : f m s with
      | none => rfl
      | some o =>
        obtain ⟨r, u, i⟩ := o
        cases r with
        | error err => rfl
        | ok kept =>
          have rest : eachNode g es u = eachNode f es u := by
            refine ih fun front child back vs left t j split before => ?_
            refine agree (.node m :: front) child back (.node kept :: vs) left t (i ++ j) ?_ ?_
            · rw [split]
              rfl
            · rw [eachNode_node, answer, Option.bind_some, before]
              rfl
          simp only [Option.bind_some, rest]

/-! ### One step -/

/-- Both processors have the same code for nodes of this tag. -/
structure SameFor (p q : Processor σ) (config : Config) (tag : Option String) : Prop where
  kind : q.kind = p.kind
  resolve : q.resolve config tag = p.resolve config tag
  recovery : q.recovery? tag = p.recovery? tag

variable {p q : Processor σ} {c d : Calls σ}

theorem service_of_same {config : Config} {n : Tree} (same : p.SameFor q config n.tagName?) :
    q.service config n = p.service config n := by
  rw [service, service, same.resolve, same.kind]

theorem snapshot_of_same {config : Config} {n : Tree} (same : p.SameFor q config n.tagName?) :
    q.snapshot config n = p.snapshot config n := by
  rw [snapshot, snapshot, wantsSnapshot, wantsSnapshot, same.recovery]

/-- The checks know of the processor only its kind. -/
theorem finish_of_kind (kind : q.kind = p.kind) : q.finish = p.finish := by
  obtain ⟨_, _⟩ := p
  obtain ⟨_, _⟩ := q
  cases kind
  rfl

theorem start_of_kind (kind : q.kind = p.kind) (isDefault : Bool) (n : Tree) (s : Session σ) :
    q.start isDefault n s = p.start isDefault n s := by
  rw [start, start, warning, warning, kind]

/-- A handler's reply is settled the same if the calls of the recovery hook are answered the
same. -/
theorem settleHandler_of_agree (unaware : p.registry.OnlyAsks (· ≠ .getCatalogue))
    {n m : Tree} {s u v : Session σ} {i j : List (Step σ)}
    {f : Handler σ} {isDefault : Bool} {r : Reply}
    (ready : p.prepare c n s = some ⟨.ok m, u, i⟩)
    (served : p.service u.config m = .handler f isDefault)
    (ran : (f (given u.config isDefault m)).run p.profile c (u.enter m.label) = some ⟨r, v, j⟩)
    (same : p.SameFor q u.config m.tagName?)
    (agree : ∀ B t j, p.Asks c (.process n) s B t j → c.Agree d B t) :
    q.settleHandler d m.tagName? m.label (p.snapshot u.config m) r v =
      p.settleHandler c m.tagName? m.label (p.snapshot u.config m) r v := by
  have recovered : q.recover d m.tagName? m.label (p.snapshot u.config m) r v =
      p.recover c m.tagName? m.label (p.snapshot u.config m) r v := by
    obtain ⟨result, rest⟩ := r
    cases result with
    | ok a => rfl
    | error e =>
      cases found : p.recovery? m.tagName? with
      | none =>
        rw [recover_none p c m.label (.inl found),
          recover_none q d m.label (.inl (same.recovery.trans found))]
      | some hook =>
        rw [snapshot_of_recovery found, recover_apply p c m.label found,
          recover_apply q d m.label (same.recovery.trans found), same.kind]
        congr 1
        exact Code.run_of_agree same.kind (recovery_of_every unaware found rest m e)
          fun y t k B leads asks => agree B t _ (.recovery ready served ran found leads asks)
  rw [settleHandler, settleHandler, Run.bind_apply, Run.bind_apply, recovered,
    finish_of_kind same.kind]

theorem enter_of_agree (unaware : p.registry.OnlyAsks (· ≠ .getCatalogue)) {n m : Tree}
    {s u : Session σ} {i : List (Step σ)}
    (ready : p.prepare c n s = some ⟨.ok m, u, i⟩) (same : p.SameFor q u.config m.tagName?)
    (agree : ∀ B t j, p.Asks c (.process n) s B t j → c.Agree d B t) :
    q.enter d m u = p.enter c m u := by
  have served := service_of_same same
  cases found : p.service u.config m with
  | refused e => rw [enter_refused found, enter_refused (served.trans found)]
  | handler f isDefault =>
    rw [enter_handler found, enter_handler (served.trans found), snapshot_of_same same,
      Run.bind_apply, Run.bind_apply]
    have ran : (f (given u.config isDefault m)).run q.profile d (u.enter m.label) =
        (f (given u.config isDefault m)).run p.profile c (u.enter m.label) :=
      Code.run_of_agree same.kind (handler_of_every unaware (resolve_of_service found) _)
        fun y t j B leads asks => agree B t _ (.handler ready found leads asks)
    rw [ran]
    cases reply : (f (given u.config isDefault m)).run p.profile c (u.enter m.label) with
    | none => rfl
    | some o =>
      simp only [Option.bind_some, settleHandler_of_agree unaware ready found reply same agree,
        start_of_kind same.kind]
  | walker =>
    rw [enter_walker found, enter_walker (served.trans found), walk_apply, walk_apply,
      snapshot_of_same same, walkElements_eq, walkElements_eq]
    have walked : eachNode (walkChild d m.label) (installed u.config m).elements (u.enter m.label) =
        eachNode (walkChild c m.label) (installed u.config m).elements (u.enter m.label) := by
      refine eachNode_of_agree fun front child back vs left t j split before => ?_
      rw [← walkElements_eq] at before
      have answer : d.process child t = c.process child t :=
        agree _ t _ (.child ready found split before)
      rw [walkChild, walkChild, answer]
    rw [walked]
    obtain ⟨_, _⟩ := p
    obtain ⟨_, _⟩ := q
    cases same.kind
    rfl

theorem prepare_of_agree (rewriters : q.registry.rewriters = p.registry.rewriters) {n : Tree}
    {s : Session σ} (agree : ∀ B t j, p.Asks c (.process n) s B t j → c.Agree d B t) :
    q.prepare d n s = p.prepare c n s := by
  have some : q.registry.hasRewriters = p.registry.hasRewriters := by
    rw [Registry.hasRewriters, Registry.hasRewriters, rewriters]
  cases outside : s.context.isEmpty && p.registry.hasRewriters with
  | false => rw [prepare_inside p c n outside, prepare_inside q d n (some ▸ outside)]
  | true =>
    have answer : d.rewrite n s = c.rewrite n s := agree _ s _ (.pass outside)
    rw [prepare_outside p c n outside, prepare_outside q d n (some ▸ outside), answer]

theorem processStep_of_agree (unaware : p.registry.OnlyAsks (· ≠ .getCatalogue))
    (rewriters : q.registry.rewriters = p.registry.rewriters) {n : Tree}
    {s : Session σ}
    (same : ∀ m u i, p.prepare c n s = some ⟨.ok m, u, i⟩ → p.SameFor q u.config m.tagName?)
    (agree : ∀ B t j, p.Asks c (.process n) s B t j → c.Agree d B t) :
    q.processStep d n s = p.processStep c n s := by
  rw [processStep_apply, processStep_apply, Run.bind_apply, Run.bind_apply,
    prepare_of_agree rewriters agree]
  cases ready : p.prepare c n s with
  | none => simp only [Option.bind_none]
  | some o =>
    obtain ⟨r, u, i⟩ := o
    cases r with
    | error e => simp only [Option.bind_some, afterPass]
    | ok m =>
      simp only [Option.bind_some, afterPass, enter_of_agree unaware ready (same m u i ready) agree]

theorem rewriteStep_of_agree {n : Tree} {s : Session σ}
    (agree : ∀ B t j, p.Asks c (.rewrite n) s B t j → c.Agree d B t) :
    rewriteStep d n s = rewriteStep c n s := by
  have children : rewriteElements d n.elements (s.enter n.label) =
      rewriteElements c n.elements (s.enter n.label) := by
    rw [rewriteElements_eq, rewriteElements_eq]
    congr 1
    refine eachNode_of_agree fun front child back vs left t j split before => ?_
    exact agree _ t _ (.element split (rewriteElements_some.2 ⟨left, before⟩))
  rw [rewriteStep_apply, rewriteStep_apply, children]
  cases rewritten : rewriteElements c n.elements (s.enter n.label) with
  | none => rfl
  | some o =>
    obtain ⟨r, t, j⟩ := o
    cases r with
    | error e => rfl
    | ok es =>
      have settled : d.settle n.label 0 ⟨es, [], n.line⟩ t.exit =
          c.settle n.label 0 ⟨es, [], n.line⟩ t.exit := agree _ _ _ (.chain rewritten)
      simp only [Option.bind_some, afterChildren, settled]

theorem settleStep_of_agree (unaware : p.registry.OnlyAsks (· ≠ .getCatalogue))
    (kind : q.kind = p.kind)
    (rewriters : q.registry.rewriters = p.registry.rewriters) {label : String} {rounds : Nat}
    {n : Tree} {s : Session σ}
    (agree : ∀ B t j, p.Asks c (.settle label rounds n) s B t j → c.Agree d B t) :
    q.settleStep d label rounds n s = p.settleStep c label rounds n s := by
  cases found : n.tagName?.bind p.registry.rewriters.find? with
  | none =>
    rw [settleStep_none p c label rounds found,
      settleStep_none q d label rounds (rewriters.symm ▸ found)]
  | some w =>
    rw [settleStep_some p c label rounds found,
      settleStep_some q d label rounds (rewriters.symm ▸ found), Run.bind_apply, Run.bind_apply]
    have ran : (w n).run q.profile d s = (w n).run p.profile c s :=
      Code.run_of_agree kind (rewriter_of_every unaware found n) fun y t j B leads asks =>
        agree B t _ (.rewriter found leads asks)
    rw [ran]
    cases rewritten : (w n).run p.profile c s with
    | none => rfl
    | some o =>
      obtain ⟨r, t, j⟩ := o
      cases r with
      | error e => rfl
      | ok m =>
        have next : afterRewriter d label rounds n.tagName? (.ok m) t =
            afterRewriter c label rounds n.tagName? (.ok m) t := by
          rw [afterRewriter_ok, afterRewriter_ok]
          congr 1
          by_cases stayed : m.tagName? = n.tagName?
          · rw [if_pos stayed, if_pos stayed]
          by_cases capped : t.config.maxRewriteRounds ≤ rounds + 1
          · simp only [if_neg stayed, if_pos capped]
          · simp only [if_neg stayed, if_neg capped]
            exact agree _ t _ (.round found rewritten stayed (Nat.lt_of_not_le capped))
        simp only [Option.bind_some, next]

/-! ### Every call -/

/-- In the call `A` from `s`, with the allowance `k`, the node `m` gets dispatched in `u`. -/
def DispatchedIn (p : Processor σ) (k : Nat) (A : Call) (s : Session σ) (m : Tree)
    (u : Session σ) : Prop :=
  ∃ l n t j i, p.Reaches k A s (l + 1) (.process n) t j ∧
    p.prepare (p.calls l) n t = some ⟨.ok m, u, i⟩

/-- The journal of a call that has ended shows which nodes were dispatched. -/
theorem dispatchedIn_iff {k : Nat} {A : Call} {s u : Session σ} {m : Tree}
    {o : Outcome σ (Option ProcessError)} (ended : (p.calls k).verdict A s = some o) :
    p.DispatchedIn k A s m u ↔ .called m u ∈ o.journal := by
  constructor
  · rintro ⟨l, n, t, j, i, reaches, ready⟩
    obtain ⟨q, hq, within⟩ := reaches.answered ended
    obtain ⟨r, hr, journal⟩ := enter_of_verdict ready hq
    rw [enter_apply] at hr
    obtain ⟨o', -, rfl⟩ := Option.map_eq_some_iff.1 hr
    refine within.subset (List.mem_append_right _ ?_)
    rw [journal]
    exact List.mem_append_right _ (by simp)
  · intro called
    obtain ⟨l, B, t, j, reaches, own⟩ := reached_of_mem ended called
    cases own with
    | called ready => exact ⟨l, _, t, j, _, reaches, ready⟩

/-- Processors that have the same code for all nodes that the first one dispatches in a call come
to the same, unless the code looks into the registry. -/
theorem calls_agree (unaware : p.registry.OnlyAsks (· ≠ .getCatalogue)) (kind : q.kind = p.kind)
    (rewriters : q.registry.rewriters = p.registry.rewriters) {k : Nat} {A : Call} {s : Session σ}
    (same : ∀ m u, p.DispatchedIn k A s m u → p.SameFor q u.config m.tagName?) :
    (p.calls k).Agree (q.calls k) A s := by
  induction k generalizing A s with
  | zero => cases A <;> rfl
  | succ k ih =>
    have agree (B : Call) (t : Session σ) (j : List (Step σ))
        (asks : p.Asks (p.calls k) A s B t j) : (p.calls k).Agree (q.calls k) B t := by
      refine ih fun m u => ?_
      rintro ⟨l, n, v, j', i, reaches, ready⟩
      exact same m u ⟨l, n, v, j ++ j', i, .next asks reaches, ready⟩
    cases A with
    | process n =>
      refine processStep_of_agree unaware rewriters (fun m u i ready => ?_) agree
      exact same m u ⟨k, n, s, [], i, .here _ _ s, ready⟩
    | rewrite n => exact rewriteStep_of_agree agree
    | settle label rounds n => exact settleStep_of_agree unaware kind rewriters agree

/-! ### More registrations -/

def extended (p : Processor σ) (es : List (Registration σ)) : Processor σ :=
  { p with registry := (p.registry.registerAll es).1 }

/-- In the call no node of the tag is dispatched, and where a node is dispatched, the tag's handler
is not the default one. -/
def Bypasses (p : Processor σ) (tag : String) (k : Nat) (A : Call) (s : Session σ) : Prop :=
  ∀ m u, p.DispatchedIn k A s m u → m.tagName? ≠ some tag ∧ u.config.defaultHandler ≠ some tag

end Processor

/-- Handlers and recovery hooks for one tag leave what is there for other tags. -/
theorem Registry.registerAll_elsewhere {tag : String} {es : List (Registration σ)}
    (added : ∀ e ∈ es, e.tag = tag ∧ e.role ≠ .rewriter) (r : Registry σ) :
    (r.registerAll es).1.rewriters = r.rewriters ∧
    ∀ other, other ≠ tag →
      (r.registerAll es).1.handlers.find? other = r.handlers.find? other ∧
      (r.registerAll es).1.recoveries.find? other = r.recoveries.find? other := by
  refine ⟨r.table_registerAll_of_ne fun e mem => (added e mem).2, fun other different => ?_⟩
  have elsewhere (role : Role) : ∀ e ∈ es, e.slot ≠ (role, other) := fun e mem here =>
    different ((congrArg Prod.snd here).symm.trans (added e mem).1)
  exact ⟨r.find?_registerAll_of_ne (elsewhere .handler),
    r.find?_registerAll_of_ne (elsewhere .recovery)⟩

/-- The tag of a dispatched node, and the default handler at that moment. -/
def Step.dispatched? : Step σ → Option (Option String × Option String)
  | .called n s => some (n.tagName?, s.config.defaultHandler)
  | _ => none

namespace Processor

variable {p : Processor σ}

theorem sameFor_extended {tag : String} {es : List (Registration σ)}
    (added : ∀ e ∈ es, e.tag = tag ∧ e.role ≠ .rewriter) {config : Config} {n : Tree}
    (other : n.tagName? ≠ some tag) (default : config.defaultHandler ≠ some tag) :
    p.SameFor (p.extended es) config n.tagName? := by
  obtain ⟨-, elsewhere⟩ := p.registry.registerAll_elsewhere added
  have handlers {key : Option String} (different : key ≠ some tag) :
      key.bind (p.extended es).registry.handlers.find? = key.bind p.registry.handlers.find? := by
    cases key with
    | none => rfl
    | some key => exact (elsewhere key fun same => different (congrArg some same)).1
  refine ⟨rfl, ?_, ?_⟩
  · rw [resolve, resolve, handlers other, handlers default]
  · rw [recovery?, recovery?]
    cases key : n.tagName? with
    | none => rfl
    | some key' => exact (elsewhere key' fun same => other (key.trans (congrArg some same))).2

/-- Of a call that has ended the journal tells whether it bypasses a tag. -/
theorem bypasses_iff {tag : String} {k : Nat} {n : Tree} {s : Session σ} {o : Outcome σ Reply}
    (run : p.process k n s = some o) : p.Bypasses tag k (.process n) s ↔
      ∀ m u, .called m u ∈ o.journal →
        m.tagName? ≠ some tag ∧ u.config.defaultHandler ≠ some tag := by
  have ended := Calls.verdict_process (c := p.calls k) run
  simp only [Bypasses, dispatchedIn_iff ended]
  rfl

theorem bypasses_of_dispatched {tag : String} {k : Nat} {n : Tree} {s : Session σ}
    {o : Outcome σ Reply} (run : p.process k n s = some o)
    (others : ∀ d ∈ o.journal.filterMap Step.dispatched?, d.1 ≠ some tag ∧ d.2 ≠ some tag) :
    p.Bypasses tag k (.process n) s :=
  (bypasses_iff run).2 fun m u called =>
    others (m.tagName?, u.config.defaultHandler) (List.mem_filterMap.2 ⟨_, called, rfl⟩)

/-- Handlers and recovery hooks are local to their tag, unless code looks into the registry. More of
them for a tag that a call bypasses make no difference to the call: it has the same outcome, journal
included, or still none. Of a call that has ended the journal tells whether it bypasses a tag. -/
theorem handlers_are_local (p : Processor σ) (unaware : p.registry.OnlyAsks (· ≠ .getCatalogue))
    (tag : String) (es : List (Registration σ))
    (added : ∀ e ∈ es, e.tag = tag ∧ e.role ≠ .rewriter) (k : Nat) (n : Tree) (s : Session σ) :
    (p.Bypasses tag k (.process n) s → (p.extended es).process k n s = p.process k n s) ∧
    (p.Bypasses tag k (.rewrite n) s → (p.extended es).rewrite k n s = p.rewrite k n s) ∧
    ∀ o, p.process k n s = some o → (p.Bypasses tag k (.process n) s ↔
      ∀ m u, .called m u ∈ o.journal →
        m.tagName? ≠ some tag ∧ u.config.defaultHandler ≠ some tag) := by
  have agree {A : Call} (bypasses : p.Bypasses tag k A s) :
      (p.calls k).Agree ((p.extended es).calls k) A s := by
    have rewriters : (p.extended es).registry.rewriters = p.registry.rewriters :=
      (p.registry.registerAll_elsewhere added).1
    refine calls_agree (p := p) (q := p.extended es) unaware rfl rewriters fun m u dispatched => ?_
    obtain ⟨other, default⟩ := bypasses m u dispatched
    exact sameFor_extended added other default
  exact ⟨fun bypasses => agree bypasses, fun bypasses => agree bypasses, fun o => bypasses_iff⟩

end Processor

/-- Gives back the element of a `quote` node as it stands. -/
def quotingProcessor : Processor Notes :=
  ⟨"Test", .ofList [.handler "quote" (Script.instrs [.shift, .shift]).handler]⟩

/-- An `other` node is part of the tree, but is never dispatched. -/
def quotedTree : Tree :=
  .ofElements [.atom (.symbol "wrap"), .node (.ofElements [.atom (.symbol "quote"),
    .node (.ofElements [.atom (.symbol "other")])])]

def quotingSession : Session Notes :=
  { config := ({} : Config).withDefaultHandler "missing", state := [] }

/-- A handler that would fail, and a hook that would recover from it. -/
def otherCode : List (Registration Notes) :=
  [.handler "other" (Script.instrs [.fail "other" "reached"]).handler,
    .recovery "other" (Script.instrs [.note "recovered"]).recovery]

theorem handlers_are_local_quoted :
    ∃ o, quotingProcessor.process 3 quotedTree quotingSession = some o ∧
      (quotingProcessor.extended otherCode).process 3 quotedTree quotingSession = some o ∧
      o.value.result.toOption.map Element.render = some "s(:wrap, s(:other))" := by
  have run : (quotingProcessor.process 3 quotedTree quotingSession).map (fun o =>
      (o.value.result.toOption.map Element.render, o.journal.filterMap Step.dispatched?)) =
        some (some "s(:wrap, s(:other))",
          [(some "wrap", some "missing"), (some "quote", some "missing")]) := by
    decide +kernel
  obtain ⟨o, ho, shown⟩ := Option.map_eq_some_iff.1 run
  obtain ⟨result, dispatched⟩ := Prod.mk.injEq .. ▸ shown
  have unaware : quotingProcessor.registry.OnlyAsks (· ≠ .getCatalogue) := by
    refine Registry.every_ofList fun e he => ?_
    rw [List.mem_singleton.1 he]
    exact fun _ => trivial
  have added : ∀ e ∈ otherCode, e.tag = "other" ∧ e.role ≠ .rewriter := by
    simp [otherCode, Registration.tag, Registration.role]
  have unaffected := quotingProcessor.handlers_are_local unaware "other" otherCode added 3
    quotedTree quotingSession
  have bypasses : quotingProcessor.Bypasses "other" 3 (.process quotedTree) quotingSession :=
    Processor.bypasses_of_dispatched ho (by simp [dispatched])
  exact ⟨o, ho, (unaffected.1 bypasses).trans ho, result⟩

/-- Tells whether the registry has a handler for a tag. -/
def probing (tag : String) : Handler Unit := fun n =>
  .getCatalogue fun c => .done ⟨.ok (.node (.ofElements
    [.atom (.symbol "probe"), .atom (.bool (c.handlers.contains tag))])), n.clear⟩

def probingProcessor : Processor Unit := ⟨"Test", .ofList [.handler "probe" (probing "other")]⟩

def probeTree : Tree := .tagged (.symbol "probe")

def probingSession : Session Unit := { config := {}, state := () }

/-- Code that looks into the registry sees a handler for another tag, though no node of that tag is
dispatched and the handler does not stand in for others. -/
theorem probing_sees_other_handlers :
    ¬ ∀ (p : Processor Unit) (tag : String) (es : List (Registration Unit)) (k : Nat) (n : Tree)
      (s : Session Unit), p.registry.handlers.find? tag = none →
      p.registry.recoveries.find? tag = none →
      (∀ e ∈ es, e.tag = tag ∧ e.role ≠ .rewriter) → p.Bypasses tag k (.process n) s →
      ((p.extended es).process k n s).map (·.value) = (p.process k n s).map (·.value) := by
  intro hall
  let es : List (Registration Unit) := [.handler "other" Code.dummy]
  have before : (probingProcessor.process 1 probeTree probingSession).map (fun o =>
      (o.value.result.toOption.map Element.render, o.journal.filterMap Step.dispatched?)) =
        some (some "s(:probe, false)", [(some "probe", none)]) := by
    decide +kernel
  have after : (((probingProcessor.extended es).process 1 probeTree probingSession).map
      (·.value)).map (·.result.toOption.map Element.render) = some (some "s(:probe, true)") := by
    decide +kernel
  obtain ⟨o, ho, shown⟩ := Option.map_eq_some_iff.1 before
  obtain ⟨result, dispatched⟩ := Prod.mk.injEq .. ▸ shown
  have bypasses : probingProcessor.Bypasses "other" 1 (.process probeTree) probingSession :=
    Processor.bypasses_of_dispatched ho (by simp [dispatched])
  have same := hall probingProcessor "other" es 1 probeTree probingSession rfl rfl
    (by simp [es, Registration.tag, Registration.role]) bypasses
  rw [same, ho, Option.map_some, Option.map_some, result] at after
  simp at after

end TagDispatch
