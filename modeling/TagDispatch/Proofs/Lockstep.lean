import TagDispatch.Proofs.Context
import TagDispatch.Proofs.View

/-!
Two processors in lockstep: if their configurations, registries and attached code are alike under
a view, then so are their calls, step by step, and the second one's calls follow the first one's.
-/

namespace TagDispatch

variable {σ α β : Type}

/-- The configuration without what is only reported: traces, warnings and copies in errors. -/
def Config.quiet (c : Config) : Config :=
  { c with debugTrace := ∅, warnOnDefault := false, captureSnapshot := false }

/-- Nothing that only diagnostics can tell apart is compared. -/
structure View.Blind (v : View) : Prop where
  silent : v.silent
  mismatch (tag kind : String) (expected : ResultType) (actual : String)
    (copy copy' : Option Tree) : v.error (.resultMismatch tag kind expected actual copy)
      (.resultMismatch tag kind expected actual copy')
  incomplete (tag kind : String) (rest : Tree) (copy copy' : Option Tree) :
    v.error (.incomplete tag kind rest copy) (.incomplete tag kind rest copy')

structure Lockstep (v : View) (p q : Processor σ) : Prop where
  kind : p.kind = q.kind
  catalogue : v.inspects → p.registry.catalogue = q.registry.catalogue
  error_refl (e : ProcessError) : v.error e e
  quiet {c d : Config} : v.config c d → c.quiet = d.quiet
  set {c d : Config} (o : Setting) : v.config c d → v.config (c.set o) (d.set o)
  /-- Configurations are the same, or what they report does not count. -/
  blind {c d : Config} : v.config c d → c = d ∨ v.Blind
  enter {x y : List String} (label : String) :
    v.context x y → v.context (label :: x) (label :: y)
  pass {x y : List String} : v.context x y →
    (x.isEmpty && p.registry.hasRewriters) = (y.isEmpty && q.registry.hasRewriters)
  rewrites {x y : List String} : v.context x y →
    (x.isEmpty && p.registry.hasRewriters) = true → v.rewrites
  handlers (tag : String) :
    Option.Rel (fun h h' => ∀ n, (h n).Alike v (Reply.Alike v) (h' n))
      (p.registry.handlers.find? tag) (q.registry.handlers.find? tag)
  recoveries (tag : String) :
    Option.Rel (fun r r' => ∀ rest copy e e', v.error e e' →
        (r rest copy e).Alike v (Reply.Alike v) (r' rest copy e'))
      (p.registry.recoveries.find? tag) (q.registry.recoveries.find? tag)
  rewriters (tag : String) : v.rewrites →
    Option.Rel (fun w w' => ∀ n, (w n).Alike v v.Result (w' n))
      (p.registry.rewriters.find? tag) (q.registry.rewriters.find? tag)

/-- Calls of which the second ones follow the first ones, and that keep the context. -/
structure Calls.Follow (v : View) (c d : Calls σ) : Prop where
  left : c.Have sameContext
  right : d.Have sameContext
  process (n : Tree) {s t : Session σ} : s.Alike v t →
    v.Follows (Reply.Alike v) (c.process n) (d.process n) s t
  rewrite (hv : v.rewrites) (n : Tree) {s t : Session σ} : s.Alike v t →
    v.Follows v.Result (c.rewrite n) (d.rewrite n) s t
  settle (hv : v.rewrites) (label : String) (rounds : Nat) (n : Tree) {s t : Session σ} :
    s.Alike v t → v.Follows v.Result (c.settle label rounds n) (d.settle label rounds n) s t

namespace Lockstep

variable {v : View} {p q : Processor σ} {c d : Calls σ} {s t : Session σ}

/-! ### Sessions and results -/

theorem result_refl (h : Lockstep v p q) (r : Except ProcessError α) : v.Result r r := by
  cases r with
  | ok a => exact .ok a
  | error e => exact .error (h.error_refl e)

theorem result_bind (h : Lockstep v p q) {f : α → Except ProcessError β}
    {r r' : Except ProcessError α} (hr : v.Result r r') : v.Result (r.bind f) (r'.bind f) := by
  cases hr with
  | ok a => exact h.result_refl _
  | error he => exact .error he

theorem session_enter (h : Lockstep v p q) (hs : s.Alike v t) (label : String) :
    (s.enter label).Alike v (t.enter label) :=
  ⟨hs.config, hs.state, hs.env, h.enter label hs.context⟩

/-- Back outside, the context is what it was before, on both sides. -/
theorem session_exit {s' t' : Session σ} {label : String} (hs : s.Alike v t)
    (h : s'.Alike v t') (hl : s'.context = label :: s.context)
    (hr : t'.context = label :: t.context) : s'.exit.Alike v t'.exit := by
  refine ⟨h.config, h.state, h.env, ?_⟩
  change v.context s'.context.tail t'.context.tail
  rw [hl, hr]
  exact hs.context

/-- What does not depend on diagnostics is the same on both sides. -/
theorem option (h : Lockstep v p q) (f : Config → α) (hf : ∀ c, f c.quiet = f c) {x y : Config}
    (hx : v.config x y) : f x = f y := by
  rw [← hf x, h.quiet hx, hf y]

/-! ### Attached code -/

theorem code (h : Lockstep v p q) (hc : c.Follow v d) {Q : α → β → Prop} {x : Code σ α}
    {y : Code σ β} (hx : x.Alike v Q y) (hs : s.Alike v t) :
    v.Follows Q (x.run p.profile c) (y.run q.profile d) s t := by
  induction hx generalizing s t with
  | done ha => exact View.follows_pure ha hs
  | diverge => exact View.follows_stuck _
  | process n _ ih =>
    exact View.follows_bind (hc.process n hs) fun r r' _ _ hr hs' => ih r r' hr hs'
  | rewrite hv n _ ih =>
    exact View.follows_bind (hc.rewrite hv n hs) fun r r' _ _ hr hs' => ih r r' hr hs'
  | getConfig _ ih => exact View.follows_get (ih _ _ hs.config hs)
  | configure o _ ih =>
    exact View.follows_modify (ih ⟨h.set o hs.config, hs.state, hs.env, hs.context⟩)
  | @getState k k' _ ih =>
    refine View.follows_get ?_
    rw [← hs.state]
    exact ih s.state hs
  | setState a _ ih => exact View.follows_modify (ih ⟨hs.config, rfl, hs.env, hs.context⟩)
  | @getEnv k k' _ ih =>
    refine View.follows_get ?_
    rw [← hs.env]
    exact ih s.env hs
  | setEnv e _ ih => exact View.follows_modify (ih ⟨hs.config, hs.state, rfl, hs.context⟩)
  | getContext _ ih => exact View.follows_get (ih _ _ hs.context hs)
  | @getKind k k' _ ih =>
    change v.Follows Q ((k p.kind).run p.profile c) ((k' q.kind).run q.profile d) s t
    rw [← h.kind]
    exact ih p.kind hs
  | @getCatalogue hv k k' _ ih =>
    change v.Follows Q ((k p.registry.catalogue).run p.profile c)
      ((k' q.registry.catalogue).run q.profile d) s t
    rw [← h.catalogue hv]
    exact ih p.registry.catalogue hs

/-! ### Handlers -/

/-- The copies kept on both sides: the same one, or copies that nobody looks at. -/
def Copies (v : View) (p : Processor σ) (tag : Option String) (copy copy' : Option Tree) : Prop :=
  copy = copy' ∨ (p.recovery? tag = none ∧ v.Blind)

theorem recovery (h : Lockstep v p q) (tag : Option String) :
    Option.Rel (fun r r' => ∀ rest copy e e', v.error e e' →
        (r rest copy e).Alike v (Reply.Alike v) (r' rest copy e'))
      (p.recovery? tag) (q.recovery? tag) := by
  cases tag with
  | none => exact .none
  | some tag => exact h.recoveries tag

/-- A node whose tag has a recovery hook is copied whatever the configuration says. -/
theorem copies (h : Lockstep v p q) {x y : Config} (hx : v.config x y) (n : Tree) :
    Copies v p n.tagName? (p.snapshot x n) (q.snapshot y n) := by
  have hr := h.recovery n.tagName?
  unfold Copies Processor.snapshot Processor.wantsSnapshot
  rcases h.blind hx with rfl | hb
  · left
    generalize p.recovery? n.tagName? = r at hr
    generalize q.recovery? n.tagName? = r' at hr
    cases hr <;> rfl
  · cases hp : p.recovery? n.tagName? with
    | none => exact .inr ⟨rfl, hb⟩
    | some r =>
      rw [hp] at hr
      generalize q.recovery? n.tagName? = r' at hr
      cases hr
      left
      simp

theorem checkType (h : Lockstep v p q) {x y : Config} (hx : v.config x y) {tag : Option String}
    (label : String) {copy copy' : Option Tree} (hc : Copies v p tag copy copy') (a : Element) :
    v.Result (p.checkType x label copy a) (q.checkType y label copy' a) := by
  have he := h.option Config.expected (fun _ => rfl) hx
  unfold Processor.checkType
  rw [← he, ← h.kind]
  split
  · exact .ok a
  · rcases hc with rfl | ⟨_, hb⟩
    · exact .error (h.error_refl _)
    · exact .error (hb.mismatch _ _ _ _ _ _)

theorem checkHandled (h : Lockstep v p q) {x y : Config} (hx : v.config x y)
    {tag : Option String} (label : String) {copy copy' : Option Tree}
    (hc : Copies v p tag copy copy') (a : Element) (rest : Tree) :
    v.Result (p.checkHandled x label copy a rest) (q.checkHandled y label copy' a rest) := by
  have he := h.option Config.requireEmpty (fun _ => rfl) hx
  have ht := h.checkType hx label hc a
  unfold Processor.checkHandled
  generalize p.checkType x label copy a = r at ht
  generalize q.checkType y label copy' a = r' at ht
  cases ht with
  | error he => exact .error he
  | ok b =>
    simp only [← he, ← h.kind]
    split
    · rcases hc with rfl | ⟨_, hb⟩
      · exact .error (h.error_refl _)
      · exact .error (hb.incomplete _ _ _ _ _)
    · exact .ok b

theorem finish (h : Lockstep v p q) {tag : Option String} (label : String)
    {copy copy' : Option Tree} (hc : Copies v p tag copy copy') {r r' : Reply}
    (hr : r.Alike v r') (hs : s.Alike v t) :
    v.Follows (Reply.Alike v) (p.finish label copy r) (q.finish label copy' r') s t := by
  intro o ho
  rw [Processor.finish_apply] at ho
  cases ho
  refine ⟨_, Processor.finish_apply q label copy' r' t, ⟨?_, hr.rest⟩, hs, View.journal_nil⟩
  obtain ⟨hr, hrest⟩ := hr
  rw [← hrest]
  generalize r.result = x at hr
  generalize r'.result = y at hr
  cases hr with
  | error he => exact .error he
  | ok a => exact h.checkHandled hs.config label hc a r.rest

/-- Where there is a hook, the two copies are one. -/
theorem recover (h : Lockstep v p q) (hc : c.Follow v d) {tag : Option String} (label : String)
    {copy copy' : Option Tree} (hcopy : Copies v p tag copy copy') {r r' : Reply}
    (hr : r.Alike v r') (hs : s.Alike v t) :
    v.Follows (Reply.Alike v) (p.recover c tag label copy r) (q.recover d tag label copy' r')
      s t := by
  obtain ⟨result, rest⟩ := r
  obtain ⟨result', rest'⟩ := r'
  obtain ⟨hr, hrest⟩ := hr
  cases hrest
  cases hr with
  | ok a => exact View.follows_pure ⟨.ok a, rfl⟩ hs
  | @error e e' he =>
    have hh := h.recovery tag
    cases hp : p.recovery? tag with
    | none =>
      have hq : q.recovery? tag = none := by
        rw [hp] at hh
        generalize q.recovery? tag = r' at hh
        cases hh
        rfl
      rw [Processor.recover_none p c label (.inl hp), Processor.recover_none q d label (.inl hq)]
      exact View.follows_pure ⟨.error he, rfl⟩ hs
    | some hook =>
      obtain rfl : copy = copy' := by
        rcases hcopy with hcopy | ⟨hn, _⟩
        · exact hcopy
        · rw [hp] at hn; cases hn
      cases hq : q.recovery? tag with
      | none => rw [hp, hq] at hh; cases hh
      | some hook' =>
        rw [hp, hq] at hh
        cases hh with
        | some hh =>
          cases copy with
          | none =>
            rw [Processor.recover_none p c label (.inr rfl),
              Processor.recover_none q d label (.inr rfl)]
            exact View.follows_pure ⟨.error he, rfl⟩ hs
          | some n =>
            refine View.follows_after (Processor.recover_apply p c label hp n rest e s)
              (Processor.recover_apply q d label hq n rest e' t) ?_
              (h.code hc (hh rest n e e' he) hs)
            rw [← h.kind]
            exact View.journal_append (View.journal_one (.recovered label p.kind he))
              (View.journal_one (.recovering rest n he hs))

/-- Reports that only diagnostics ask for. -/
theorem reports (h : Lockstep v p q) {x y : Config} (hx : v.config x y)
    {f : Config → List (Step σ)} (hf : ∀ e ∈ f x, ∃ m, e = .log (.event m)) :
    v.journal (f x) (f y) := by
  rcases h.blind hx with rfl | hb
  · right
    generalize f x = j at hf
    induction j with
    | nil => exact .nil
    | cons e j ih =>
      obtain ⟨m, rfl⟩ := hf e (by simp)
      exact .cons (.event m) (ih fun e he => hf e (by simp [he]))
  · exact .inl hb.silent

theorem invoke (h : Lockstep v p q) (hc : c.Follow v d) {f f' : Handler σ}
    (hf : ∀ n, (f n).Alike v (Reply.Alike v) (f' n)) (isDefault : Bool) {tag : Option String}
    (label : String) {copy copy' : Option Tree} (hcopy : Copies v p tag copy copy') (n : Tree)
    (hs : s.Alike v t) :
    v.Follows (Reply.Alike v) (p.invoke c f isDefault tag label copy n)
      (q.invoke d f' isDefault tag label copy' n) s t := by
  have ha := h.option Config.autoShiftTag (fun _ => rfl) hs.config
  have hn : Processor.handed t.config isDefault n = Processor.handed s.config isDefault n := by
    unfold Processor.handed
    rw [ha]
  refine View.follows_after (Processor.invoke_apply p c f isDefault tag label copy n s)
    (Processor.invoke_apply q d f' isDefault tag label copy' n t) ?_ ?_
  · rw [hn]
    refine View.journal_append ?_ (View.journal_one (.invoked _ _ _ hs))
    have hw : q.warning t.config isDefault label = p.warning t.config isDefault label := by
      unfold Processor.warning
      rw [h.kind]
    rw [hw]
    refine h.reports hs.config (f := fun x => p.warning x isDefault label) fun e he => ?_
    simp only [Processor.warning] at he
    split at he
    · exact ⟨_, List.mem_singleton.1 he⟩
    · cases he
  · rw [hn]
    refine View.follows_bind (h.code hc (hf _) hs) fun r r' _ _ hr hs' => ?_
    exact View.follows_bind (h.recover hc label hcopy hr hs') fun r r' _ _ hr hs' =>
      h.finish label hcopy hr hs'

/-! ### Dispatch -/

theorem walkElements (h : Lockstep v p q) (hc : c.Follow v d) (label : String)
    (es : List Element) (hs : s.Alike v t) :
    v.Follows (fun r r' => v.Result r.1 r'.1 ∧ r.2 = r'.2) (Processor.walkElements c label es)
      (Processor.walkElements d label es) s t := by
  induction es generalizing s t with
  | nil => exact View.follows_pure ⟨.ok [], rfl⟩ hs
  | cons e es ih =>
    cases e with
    | atom a =>
      refine View.follows_bind (ih hs) fun r r' _ _ hr hs' => ?_
      exact View.follows_pure ⟨View.result_map hr.1, hr.2⟩ hs'
    | node m =>
      refine View.follows_bind (hc.process m hs) fun r r' _ _ hr hs' => ?_
      have hk := h.result_bind (f := Processor.keepChild label) hr.result
      generalize r.result.bind (Processor.keepChild label) = x at hk
      generalize r'.result.bind (Processor.keepChild label) = y at hk
      cases hk with
      | error he => exact View.follows_pure ⟨.error he, rfl⟩ hs'
      | ok child =>
        refine View.follows_bind (ih hs') fun r r' _ _ hr hs' => ?_
        exact View.follows_pure ⟨View.result_map hr.1, hr.2⟩ hs'

theorem walk (h : Lockstep v p q) (hc : c.Follow v d) {tag : Option String} (label : String)
    {copy copy' : Option Tree} (hcopy : Copies v p tag copy copy') (n : Tree)
    (hs : s.Alike v t) :
    v.Follows (Reply.Alike v) (p.walk c label copy n) (q.walk d label copy' n) s t := by
  refine View.follows_bind (h.walkElements hc label n.elements hs) fun r r' _ _ hr hs' => ?_
  obtain ⟨hr, hrest⟩ := hr
  simp only [← hrest]
  generalize r.1 = x at hr
  generalize r'.1 = y at hr
  cases hr with
  | error he => exact View.follows_pure ⟨.error he, rfl⟩ hs'
  | ok es =>
    refine View.follows_get (View.follows_pure ⟨?_, rfl⟩ hs')
    exact h.checkType hs'.config label hcopy _

theorem resolve (h : Lockstep v p q) {x y : Config} (hx : v.config x y) (tag : Option String) :
    Option.Rel (fun f f' => (∀ n, (f.1 n).Alike v (Reply.Alike v) (f'.1 n)) ∧ f.2 = f'.2)
      (p.resolve x tag) (q.resolve y tag) := by
  have hd := h.option Config.defaultHandler (fun _ => rfl) hx
  have hfind (tag : Option String) : Option.Rel
      (fun f f' => ∀ n, (f n).Alike v (Reply.Alike v) (f' n))
      (tag.bind p.registry.handlers.find?) (tag.bind q.registry.handlers.find?) := by
    cases tag with
    | none => exact .none
    | some tag => exact h.handlers tag
  have hown := hfind tag
  have hdef := hfind y.defaultHandler
  unfold Processor.resolve
  rw [hd]
  generalize tag.bind p.registry.handlers.find? = f at hown
  generalize tag.bind q.registry.handlers.find? = f' at hown
  cases hown with
  | some hf => exact .some ⟨hf, rfl⟩
  | none =>
    generalize y.defaultHandler.bind p.registry.handlers.find? = f at hdef
    generalize y.defaultHandler.bind q.registry.handlers.find? = f' at hdef
    cases hdef with
    | some hf => exact .some ⟨hf, rfl⟩
    | none => exact .none

theorem route (h : Lockstep v p q) (hc : c.Follow v d) {x y : Config} (hx : v.config x y)
    (tag : Option String) (label : String) {copy copy' : Option Tree}
    (hcopy : Copies v p tag copy copy') (n : Tree) (hs : s.Alike v t) :
    v.Follows (Reply.Alike v) (p.route c x tag label copy n) (q.route d y tag label copy' n)
      s t := by
  have he := h.option (fun c => Processor.isExcluded c tag) (fun _ => rfl) hx
  have hstrict := h.option Config.strict (fun _ => rfl) hx
  have hf := h.resolve hx tag
  unfold Processor.route
  simp only [he, hstrict]
  split
  · exact View.follows_pure ⟨.error (h.error_refl _), rfl⟩ hs
  · generalize p.resolve x tag = f at hf
    generalize q.resolve y tag = f' at hf
    cases hf with
    | @some f f' hf =>
      obtain ⟨f, isDefault⟩ := f
      obtain ⟨f', isDefault'⟩ := f'
      obtain ⟨hf, rfl⟩ := hf
      exact h.invoke hc hf isDefault label hcopy n hs
    | none =>
      simp only
      split
      · rw [h.kind]
        exact View.follows_pure ⟨.error (h.error_refl _), rfl⟩ hs
      · exact h.walk hc label hcopy n hs

/-- The trace shows the value only. -/
theorem traceAfter_alike {r r' : Reply} (hr : r.Alike v r') (x : Config) (n : Tree) :
    (Processor.traceAfter x n r' : List (Step σ)) = Processor.traceAfter x n r := by
  obtain ⟨hr, -⟩ := hr
  unfold Processor.traceAfter
  generalize r.result = y at hr
  generalize r'.result = y' at hr
  cases hr <;> rfl

theorem dispatch (h : Lockstep v p q) (hc : c.Follow v d) (n : Tree) (hs : s.Alike v t) :
    v.Follows (Reply.Alike v) (p.dispatch c n) (q.dispatch d n) s t := by
  intro o ho
  rw [Processor.dispatch_apply] at ho
  obtain ⟨a, ha, rfl⟩ := Option.map_eq_some_iff.1 ho
  have hfields := h.option (fun c => Processor.fieldsFor c n.tagName?) (fun _ => rfl) hs.config
  have hroute := h.route hc hs.config n.tagName? n.label (h.copies hs.config n)
    (n.setFields (Processor.fieldsFor s.config n.tagName?)) hs
  obtain ⟨a', ha', hr, hs', hj⟩ := hroute a ha
  refine ⟨⟨a'.value, a'.session, Processor.traceBefore t.config n ++ a'.journal ++
    Processor.traceAfter t.config n a'.value⟩, ?_, hr, hs', ?_⟩
  · rw [Processor.dispatch_apply, ← hfields, ha']
    rfl
  · refine View.journal_append (View.journal_append ?_ hj) ?_
    · refine h.reports hs.config (f := fun x => Processor.traceBefore x n) fun e he => ?_
      simp only [Processor.traceBefore] at he
      split at he
      · exact ⟨_, List.mem_singleton.1 he⟩
      · cases he
    · rw [traceAfter_alike hr]
      refine h.reports hs.config (f := fun x => Processor.traceAfter x n a.value) fun e he => ?_
      simp only [Processor.traceAfter] at he
      split at he
      · cases he
      · split at he
        · exact ⟨_, List.mem_singleton.1 he⟩
        · cases he

theorem enter_call (h : Lockstep v p q) (hc : c.Follow v d) (n : Tree) (hs : s.Alike v t) :
    v.Follows (Reply.Alike v) (p.enter c n) (q.enter d n) s t := by
  intro o ho
  rw [Processor.enter_apply] at ho
  obtain ⟨a, ha, rfl⟩ := Option.map_eq_some_iff.1 ho
  obtain ⟨a', ha', hr, hs', hj⟩ := h.dispatch hc n (h.session_enter hs n.label) a ha
  have hl := p.allows_sameContext.dispatch hc.left n _ a ha
  have hright := q.allows_sameContext.dispatch hc.right n _ a' ha'
  refine ⟨_, (Processor.enter_apply q d n t).trans (congrArg _ ha'), hr,
    session_exit hs hs' hl hright, ?_⟩
  exact View.journal_append (View.journal_append (View.journal_append
    (View.journal_one (.span n.label hs.context)) (View.journal_one (.called n hs))) hj)
    (View.journal_one (.answered hr))

theorem prepare (h : Lockstep v p q) (hc : c.Follow v d) (n : Tree) (hs : s.Alike v t) :
    v.Follows v.Result (p.prepare c n) (q.prepare d n) s t := by
  have hp := h.pass hs.context
  cases hx : s.context.isEmpty && p.registry.hasRewriters with
  | false =>
    intro o ho
    rw [Processor.prepare_inside p c n hx] at ho
    cases ho
    exact ⟨_, Processor.prepare_inside q d n (hp ▸ hx), .ok n, hs, View.journal_nil⟩
  | true =>
    exact View.follows_after (Processor.prepare_outside p c n hx)
      (Processor.prepare_outside q d n (hp ▸ hx)) (View.journal_one (.pass n))
      (hc.rewrite (h.rewrites hs.context hx) n hs)

theorem processStep (h : Lockstep v p q) (hc : c.Follow v d) (n : Tree) (hs : s.Alike v t) :
    v.Follows (Reply.Alike v) (p.processStep c n) (q.processStep d n) s t := by
  intro o ho
  rw [Processor.processStep_apply] at ho ⊢
  refine View.follows_bind (h.prepare hc n hs) (fun r r' _ _ hr hs' => ?_) o ho
  cases hr with
  | error he => exact View.follows_pure ⟨.error he, rfl⟩ hs'
  | ok m => exact h.enter_call hc m hs'

/-! ### Rewriting -/

theorem rewriteElements (hc : c.Follow v d) (hv : v.rewrites)
    (es : List Element) (hs : s.Alike v t) :
    v.Follows v.Result (Processor.rewriteElements c es) (Processor.rewriteElements d es) s t := by
  induction es generalizing s t with
  | nil => exact View.follows_pure (.ok []) hs
  | cons e es ih =>
    cases e with
    | atom a =>
      refine View.follows_bind (ih hs) fun r r' _ _ hr hs' => ?_
      exact View.follows_pure (View.result_map hr) hs'
    | node m =>
      refine View.follows_bind (hc.rewrite hv m hs) fun r r' _ _ hr hs' => ?_
      cases hr with
      | error he => exact View.follows_pure (.error he) hs'
      | ok m =>
        refine View.follows_bind (ih hs') fun r r' _ _ hr hs' => ?_
        exact View.follows_pure (View.result_map hr) hs'

theorem rewriteStep (h : Lockstep v p q) (hc : c.Follow v d) (hv : v.rewrites) (n : Tree)
    (hs : s.Alike v t) :
    v.Follows v.Result (Processor.rewriteStep c n) (Processor.rewriteStep d n) s t := by
  intro o ho
  rw [Processor.rewriteStep_apply] at ho
  obtain ⟨a, ha, hm⟩ := Option.bind_eq_some_iff.1 ho
  obtain ⟨b, hb, rfl⟩ := Option.map_eq_some_iff.1 hm
  obtain ⟨a', ha', hr, hs', hj⟩ :=
    rewriteElements hc hv n.elements (h.session_enter hs n.label) a ha
  have hl := p.allows_sameContext.rewriteElements hc.left n.elements _ a ha
  have hright := q.allows_sameContext.rewriteElements hc.right n.elements _ a' ha'
  have hout := session_exit hs hs' hl hright
  have hrest : v.Follows v.Result (Processor.afterChildren c n a.value)
      (Processor.afterChildren d n a'.value) a.session.exit a'.session.exit := by
    generalize a.value = x at hr
    generalize a'.value = y at hr
    cases hr with
    | error he => exact View.follows_pure (.error he) hout
    | ok es => exact hc.settle hv _ _ _ hout
  obtain ⟨b', hb', hr', hs'', hj'⟩ := hrest b hb
  have hd : Processor.rewriteStep d n t = some ⟨b'.value, b'.session,
      .rewriting n t :: (a'.journal ++ (b'.journal ++ [.rewrote b'.value]))⟩ := by
    rw [Processor.rewriteStep_apply, ha', Option.bind_some, hb']
    rfl
  refine ⟨_, hd, hr', hs'', ?_⟩
  exact View.journal_append (View.journal_one (.rewriting n hs)) (View.journal_append hj
    (View.journal_append hj' (View.journal_one (.rewrote hr'))))

theorem settleStep (h : Lockstep v p q) (hc : c.Follow v d) (hv : v.rewrites) (label : String)
    (rounds : Nat) (n : Tree) (hs : s.Alike v t) :
    v.Follows v.Result (p.settleStep c label rounds n) (q.settleStep d label rounds n) s t := by
  have hw : Option.Rel (fun w w' => ∀ n, (w n).Alike v v.Result (w' n))
      (n.tagName?.bind p.registry.rewriters.find?)
      (n.tagName?.bind q.registry.rewriters.find?) := by
    cases n.tagName? with
    | none => exact .none
    | some tag => exact h.rewriters tag hv
  cases hp : n.tagName?.bind p.registry.rewriters.find? <;>
    cases hq : n.tagName?.bind q.registry.rewriters.find? <;> rw [hp, hq] at hw
  · rw [Processor.settleStep_none p c label rounds hp,
      Processor.settleStep_none q d label rounds hq]
    exact View.follows_pure (.ok n) hs
  · cases hw
  · cases hw
  · next w w' =>
    have hw : ∀ n, (w n).Alike v v.Result (w' n) := by
      cases hw with
      | some hw => exact hw
    refine View.follows_after (Processor.settleStep_some p c label rounds hp s)
      (Processor.settleStep_some q d label rounds hq t)
      (View.journal_one (.invoked .rewriter _ n hs)) ?_
    refine View.follows_bind (h.code hc (hw n) hs) fun r r' s' t' hr hs' => ?_
    cases hr with
    | error he => exact View.follows_pure (.error he) hs'
    | ok m =>
      refine View.follows_after (Run.report_bind _ _ s') (Run.report_bind _ _ t')
        (View.journal_one (.event _)) ?_
      split
      · exact View.follows_pure (.ok m) hs'
      · refine View.follows_get ?_
        simp only [← h.option Config.maxRewriteRounds (fun _ => rfl) hs'.config]
        split
        · exact View.follows_pure (.error (h.error_refl _)) hs'
        · exact hc.settle hv label (rounds + 1) m hs'

/-! ### Every call -/

theorem calls (h : Lockstep v p q) {k l : Nat} (hk : k ≤ l) :
    (p.calls k).Follow v (q.calls l) := by
  refine p.calls_induction₂ q (M := fun c d => c.Follow v d) (fun l => ?_) (fun k l hc => ?_) hk
  · exact ⟨p.calls_keep_context 0, q.calls_keep_context l, fun _ _ _ _ => View.follows_stuck _,
      fun _ _ _ _ _ => View.follows_stuck _, fun _ _ _ _ _ _ _ => View.follows_stuck _⟩
  · exact ⟨p.calls_keep_context (k + 1), q.calls_keep_context (l + 1),
      fun n _ _ hs => h.processStep hc n hs, fun hv n _ _ hs => h.rewriteStep hc hv n hs,
      fun hv label rounds n _ _ hs => h.settleStep hc hv label rounds n hs⟩

end Lockstep

end TagDispatch
