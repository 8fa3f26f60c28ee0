import TagDispatch.Proofs.Allowance
import TagDispatch.Proofs.Brackets

/-!
How often rewriters may change the tag of one node. The changes form a chain, which is there
whatever the cap is; the cap only decides how much of it is run. A chain is given up as soon as its
changes are as many as the cap, so that the last change that the cap counts is never accepted; and
one change is always made. Which rewriters a loop has applied is read off its journal.
-/

namespace TagDispatch

variable {σ : Type}

/-! ### Code that leaves the cap alone -/

/-- Anything but a new cap. -/
def Request.KeepsCap : Request → Prop
  | .configure (.maxRewriteRounds _) => False
  | _ => True

/-- The cap is what it was, also wherever a node is rewritten in between. -/
def sameCap : Effect σ := fun s j t =>
  t.config.maxRewriteRounds = s.config.maxRewriteRounds ∧
    ∀ n u, .rewriting n u ∈ j → u.config.maxRewriteRounds = s.config.maxRewriteRounds

theorem sameCap_nil {s t : Session σ}
    (h : t.config.maxRewriteRounds = s.config.maxRewriteRounds) : sameCap s [] t :=
  ⟨h, fun _ _ hu => by cases hu⟩

/-- A rewriter is applied. -/
def Step.appliesRewriter : Step σ → Bool
  | .invoked .rewriter _ _ _ => true
  | _ => false

namespace Processor

theorem allows_sameCap {p : Processor σ} (h : p.registry.OnlyAsks Request.KeepsCap) :
    p.Allows Request.KeepsCap sameCap where
  asks := h
  refl _ := sameCap_nil rfl
  trans h h' := by
    refine ⟨h'.1.trans h.1, fun n u hu => ?_⟩
    rcases List.mem_append.1 hu with hu | hu
    · exact h.2 n u hu
    · exact (h'.2 n u hu).trans h.1
  state _ _ _ := sameCap_nil rfl
  env _ _ _ := sameCap_nil rfl
  config _ o ho := by
    cases o with
    | maxRewriteRounds n => exact ho.elim
    | _ => exact sameCap_nil rfl
  record h := by
    refine ⟨rfl, fun n u hu => ?_⟩
    obtain rfl := List.mem_singleton.1 hu
    cases h
    rfl
  nested h := h

/-! ### Chains -/

/-- What the code of a rewriter comes to. -/
def Rewrites (p : Processor σ) (w : Rewriter σ) (n : Tree) (s : Session σ)
    (r : Except ProcessError Tree) (t : Session σ) : Prop :=
  ComesTo (fun k => (w n).run p.profile (p.calls k)) s r t

/-- After `d` changes of its tag, `n` from `s` is `m` in `t`. -/
inductive Chain (p : Processor σ) : Nat → Tree → Session σ → Tree → Session σ → Prop
  | here (n : Tree) (s : Session σ) : Chain p 0 n s n s
  | change {d : Nat} {n m m' : Tree} {s u t : Session σ} {w : Rewriter σ}
      (found : n.tagName?.bind p.registry.rewriters.find? = some w)
      (rewritten : p.Rewrites w n s (.ok m) u) (changed : m.tagName? ≠ n.tagName?)
      (rest : Chain p d m u m' t) : Chain p (d + 1) n s m' t

/-- The tag of `n` changes no more: there is no rewriter for it, or the rewriter leaves it, or the
rewriter fails. -/
inductive Stops (p : Processor σ) (n : Tree) (s : Session σ) :
    Except ProcessError Tree → Session σ → Prop
  | unserved (found : n.tagName?.bind p.registry.rewriters.find? = none) : Stops p n s (.ok n) s
  | kept {m : Tree} {t : Session σ} {w : Rewriter σ}
      (found : n.tagName?.bind p.registry.rewriters.find? = some w)
      (rewritten : p.Rewrites w n s (.ok m) t) (kept : m.tagName? = n.tagName?) :
      Stops p n s (.ok m) t
  | failed {e : ProcessError} {t : Session σ} {w : Rewriter σ}
      (found : n.tagName?.bind p.registry.rewriters.find? = some w)
      (failed : p.Rewrites w n s (.error e) t) : Stops p n s (.error e) t

/-- How a chain ends under a cap, after `rounds` changes that were made before. -/
inductive Capped (p : Processor σ) (cap rounds : Nat) (label : String) (n : Tree) (s : Session σ) :
    Except ProcessError Tree → Session σ → Prop
  | settled {d : Nat} {m : Tree} {r : Except ProcessError Tree} {u t : Session σ}
      (chain : p.Chain d n s m u) (few : d = 0 ∨ rounds + d < cap) (stops : p.Stops m u r t) :
      Capped p cap rounds label n s r t
  | diverged {m : Tree} {t : Session σ} (chain : p.Chain (max 1 (cap - rounds)) n s m t) :
      Capped p cap rounds label n s (.error (.diverged label (rounds + max 1 (cap - rounds)))) t

/-- The rewriter for the tag of `n` is applied. -/
def application (n : Tree) (s : Session σ) : Step σ := .invoked .rewriter n.tagName? n s

/-- A chain with the applications that it consists of. -/
inductive Applies (p : Processor σ) :
    List (Step σ) → Tree → Session σ → Tree → Session σ → Prop
  | here (n : Tree) (s : Session σ) : Applies p [] n s n s
  | change {j : List (Step σ)} {n m m' : Tree} {s u t : Session σ} {w : Rewriter σ}
      (found : n.tagName?.bind p.registry.rewriters.find? = some w)
      (rewritten : p.Rewrites w n s (.ok m) u) (changed : m.tagName? ≠ n.tagName?)
      (rest : Applies p j m u m' t) : Applies p (application n s :: j) n s m' t

/-- The application that changes no tag any more, if there is a rewriter at all. -/
def lastApplication (p : Processor σ) (n : Tree) (s : Session σ) : List (Step σ) :=
  match n.tagName?.bind p.registry.rewriters.find? with
  | none => []
  | some _ => [application n s]

/-- How a loop of rewriters ends under a cap, after `rounds` changes that were made before, and all
the applications that it makes. -/
inductive LoopEnds (p : Processor σ) (cap rounds : Nat) (label : String) (n : Tree)
    (s : Session σ) : List (Step σ) → Except ProcessError Tree → Session σ → Prop
  | settled {j : List (Step σ)} {m : Tree} {r : Except ProcessError Tree} {u t : Session σ}
      (applied : p.Applies j n s m u) (few : j = [] ∨ rounds + j.length < cap)
      (stops : p.Stops m u r t) : LoopEnds p cap rounds label n s (j ++ p.lastApplication m u) r t
  | diverged {j : List (Step σ)} {m : Tree} {t : Session σ} (applied : p.Applies j n s m t)
      (many : j.length = max 1 (cap - rounds)) :
      LoopEnds p cap rounds label n s j (.error (.diverged label (rounds + j.length))) t

variable {p : Processor σ}

/-! ### One round -/

theorem comesTo_settle_none {label : String} {rounds : Nat} {n : Tree} {s t : Session σ}
    {r : Except ProcessError Tree} (h : n.tagName?.bind p.registry.rewriters.find? = none) :
    ComesTo (p.settle · label rounds n) s r t ↔ r = .ok n ∧ t = s := by
  have step (k : Nat) : p.settle (k + 1) label rounds n s = some ⟨.ok n, s, []⟩ :=
    congrFun (p.settleStep_none (p.calls k) label rounds h) s
  constructor
  · rintro ⟨_ | k, j, hk⟩
    · cases hk
    · cases (step k).symm.trans hk
      exact ⟨rfl, rfl⟩
  · rintro ⟨rfl, rfl⟩
    exact ⟨1, [], step 0⟩

theorem afterRewriter_lasting (label : String) (rounds : Nat) (tag : Option String)
    (r : Except ProcessError Tree) :
    Lasting fun k => afterRewriter (p.calls k) label rounds tag r := by
  cases r with
  | error e => exact Lasting.pure _
  | ok m =>
    intro k l s o hk ho
    change afterRewriter (p.calls k) label rounds tag (.ok m) s = some o at ho
    change afterRewriter (p.calls l) label rounds tag (.ok m) s = some o
    rw [afterRewriter_ok] at ho ⊢
    split at ho
    · next stayed =>
      rw [if_pos stayed]
      exact ho
    · next changed =>
      rw [if_neg changed]
      split at ho
      · next capped =>
        rw [if_pos capped]
        exact ho
      · next below =>
        obtain ⟨q, hq, rfl⟩ := Option.map_eq_some_iff.1 ho
        rw [if_neg below,
          show (p.calls l).settle label (rounds + 1) m s = _ from
            p.settle_lasting label (rounds + 1) m k l s q hk hq]
        rfl

/-- A round: the rewriter, and then how it goes on. -/
theorem comesTo_settle_some {label : String} {rounds : Nat} {n : Tree} {s t : Session σ}
    {r : Except ProcessError Tree} {w : Rewriter σ}
    (h : n.tagName?.bind p.registry.rewriters.find? = some w) :
    ComesTo (p.settle · label rounds n) s r t ↔ ∃ a u, p.Rewrites w n s a u ∧
      ComesTo (fun k => afterRewriter (p.calls k) label rounds n.tagName? a) u r t := by
  rw [ComesTo.succ (x := (p.settle · label rounds n)) rfl]
  change ComesTo (fun k => p.settleStep (p.calls k) label rounds n) s r t ↔ _
  rw [ComesTo.after fun k => p.settleStep_some (p.calls k) label rounds h s]
  exact ComesTo.bind (p.code_lasting (w n)) fun a => afterRewriter_lasting label rounds _ a

theorem comesTo_afterRewriter_ok {label : String} {rounds : Nat} {tag : Option String} {m : Tree}
    {u t : Session σ} {r : Except ProcessError Tree} :
    ComesTo (fun k => afterRewriter (p.calls k) label rounds tag (.ok m)) u r t ↔
      if m.tagName? = tag then r = .ok m ∧ t = u
      else if u.config.maxRewriteRounds ≤ rounds + 1 then
        r = .error (.diverged label (rounds + 1)) ∧ t = u
      else ComesTo (p.settle · label (rounds + 1) m) u r t := by
  have at_once {a : Except ProcessError Tree} :
      ComesTo (fun _ => (pure a : Run σ _)) u r t ↔ r = a ∧ t = u := by
    constructor
    · rintro ⟨k, j, hk⟩
      cases hk
      exact ⟨rfl, rfl⟩
    · rintro ⟨rfl, rfl⟩
      exact ⟨0, [], rfl⟩
  split
  · next stayed =>
    rw [ComesTo.after (y := fun _ => pure (.ok m)) fun k => by
      rw [afterRewriter_ok, if_pos stayed]; rfl]
    exact at_once
  · next changed =>
    split
    · next capped =>
      rw [ComesTo.after (y := fun _ => pure (.error (.diverged label (rounds + 1)))) fun k => by
        rw [afterRewriter_ok, if_neg changed, if_pos capped]; rfl]
      exact at_once
    · next below =>
      exact ComesTo.after fun k => by
        rw [afterRewriter_ok, if_neg changed, if_neg below]; rfl

/-! ### The applications of a loop -/

theorem Applies.chain {j : List (Step σ)} {n m : Tree} {s t : Session σ}
    (h : p.Applies j n s m t) : p.Chain j.length n s m t := by
  induction h with
  | here n s => exact .here n s
  | change found rewritten changed rest ih => exact .change found rewritten changed ih

theorem lastApplication_of_some {n : Tree} {w : Rewriter σ}
    (found : n.tagName?.bind p.registry.rewriters.find? = some w) (s : Session σ) :
    p.lastApplication n s = [application n s] := by
  rw [lastApplication, found]

theorem lastApplication_of_none {n : Tree}
    (found : n.tagName?.bind p.registry.rewriters.find? = none) (s : Session σ) :
    p.lastApplication n s = [] := by
  rw [lastApplication, found]

namespace LoopEnds

variable {cap rounds : Nat} {label : String} {n m : Tree} {s u t : Session σ} {w : Rewriter σ}
  {r : Except ProcessError Tree} {j : List (Step σ)}

theorem at_once (found : n.tagName?.bind p.registry.rewriters.find? = some w)
    (stops : p.Stops n s r t) : p.LoopEnds cap rounds label n s [application n s] r t := by
  have ends : p.LoopEnds cap rounds label n s ([] ++ p.lastApplication n s) r t :=
    .settled (.here n s) (.inl rfl) stops
  rw [lastApplication_of_some found] at ends
  exact ends

/-- One more change in front. -/
theorem change (found : n.tagName?.bind p.registry.rewriters.find? = some w)
    (rewritten : p.Rewrites w n s (.ok m) u) (changed : m.tagName? ≠ n.tagName?)
    (below : rounds + 1 < cap) (ends : p.LoopEnds cap (rounds + 1) label m u j r t) :
    p.LoopEnds cap rounds label n s (application n s :: j) r t := by
  cases ends with
  | settled applied few stops =>
    refine .settled (.change found rewritten changed applied) (.inr ?_) stops
    rw [List.length_cons]
    rcases few with rfl | few
    · exact below
    · omega
  | diverged applied many =>
    have all : (application n s :: j).length = max 1 (cap - rounds) := by
      rw [List.length_cons]
      omega
    have ends : p.LoopEnds cap rounds label n s _ _ t :=
      .diverged (.change found rewritten changed applied) all
    rw [List.length_cons, show rounds + (j.length + 1) = rounds + 1 + j.length by omega] at ends
    exact ends

theorem capped (h : p.LoopEnds cap rounds label n s j r t) :
    p.Capped cap rounds label n s r t := by
  cases h with
  | settled applied few stops =>
    exact .settled applied.chain (few.imp_left fun none => congrArg List.length none) stops
  | diverged applied many =>
    have chain := applied.chain
    rw [many] at chain ⊢
    exact .diverged chain

end LoopEnds

/-- The rewriters of the registry leave the cap as it is. -/
def KeepsCap (p : Processor σ) : Prop :=
  ∀ {w : Rewriter σ} {n : Tree} {s t : Session σ} {r : Except ProcessError Tree},
    n.tagName?.bind p.registry.rewriters.find? = some w → p.Rewrites w n s r t →
    t.config.maxRewriteRounds = s.config.maxRewriteRounds

theorem application_single : Step.Single (Step.appliesRewriter (σ := σ)) :=
  ⟨fun _ _ => rfl, fun _ _ => rfl, fun _ => rfl, fun _ _ => rfl, fun _ => rfl⟩

/-- Applications in the calls of a rewriter belong to these. -/
theorem applications_of_rewriter {k : Nat} {α : Type} {x : Code σ α} {s : Session σ}
    {o : Outcome σ α} (run : x.run p.profile (p.calls k) s = some o) (j : List (Step σ)) :
    ownSteps Step.appliesRewriter 1 (o.journal ++ j) = ownSteps Step.appliesRewriter 1 j :=
  Code.ownSteps_skip application_single (fun _ => rfl) (p.calls_bracket k) run j

/-- A loop that comes to an end, with its applications as its journal has them. Each round has less
allowance than the one before. -/
theorem settle_ends (keeps : p.KeepsCap) {k : Nat} {label : String} {rounds : Nat} {n : Tree}
    {s : Session σ} {o : Outcome σ (Except ProcessError Tree)}
    (run : p.settle k label rounds n s = some o) :
    p.LoopEnds s.config.maxRewriteRounds rounds label n s
      (ownSteps Step.appliesRewriter 1 o.journal) o.value o.session := by
  induction k generalizing rounds n s o with
  | zero => cases run
  | succ k ih =>
    change p.settleStep (p.calls k) label rounds n s = some o at run
    cases found : n.tagName?.bind p.registry.rewriters.find? with
    | none =>
      rw [settleStep_none p _ label rounds found] at run
      cases run
      have ends : p.LoopEnds s.config.maxRewriteRounds rounds label n s
          ([] ++ p.lastApplication n s) (.ok n) s :=
        .settled (.here n s) (.inl rfl) (.unserved found)
      rw [lastApplication_of_none found] at ends
      exact ends
    | some w =>
      rw [settleStep_some p _ label rounds found] at run
      obtain ⟨q, hq, rfl⟩ := Option.map_eq_some_iff.1 run
      obtain ⟨⟨a, u, i⟩, b, ha, hb, rfl⟩ := Run.bind_eq_some.1 hq
      have rewritten : p.Rewrites w n s a u := ⟨k, i, ha⟩
      have applications : ownSteps Step.appliesRewriter 1 (application n s :: (i ++ b.journal)) =
          application n s :: ownSteps Step.appliesRewriter 1 b.journal :=
        congrArg (application n s :: ·) (applications_of_rewriter ha b.journal)
      change p.LoopEnds _ rounds label n s
        (ownSteps Step.appliesRewriter 1 (application n s :: (i ++ b.journal))) b.value b.session
      rw [applications]
      cases a with
      | error e =>
        cases hb
        exact .at_once found (.failed found rewritten)
      | ok m =>
        have same := keeps found rewritten
        rw [afterRewriter_ok] at hb
        obtain ⟨c, hc, rfl⟩ := Option.map_eq_some_iff.1 hb
        change p.LoopEnds _ rounds label n s
          (application n s :: ownSteps Step.appliesRewriter 1 c.journal) c.value c.session
        split at hc
        · next kept =>
          cases hc
          exact .at_once found (.kept found rewritten kept)
        · next changed =>
          split at hc
          · next capped =>
            replace capped : u.config.maxRewriteRounds ≤ rounds + 1 := capped
            cases hc
            have all : [application n s].length = max 1 (s.config.maxRewriteRounds - rounds) := by
              rw [List.length_singleton]
              omega
            exact .diverged (.change found rewritten changed (.here m u)) all
          · next below =>
            replace below : ¬ u.config.maxRewriteRounds ≤ rounds + 1 := below
            have ends := ih hc
            rw [same] at ends
            exact .change found rewritten changed (by omega) ends

/-! ### All rounds -/

theorem Rewrites.cap (hp : p.registry.OnlyAsks Request.KeepsCap) {w : Rewriter σ} {n : Tree}
    {s t : Session σ} {r : Except ProcessError Tree}
    (found : n.tagName?.bind p.registry.rewriters.find? = some w) (h : p.Rewrites w n s r t) :
    t.config.maxRewriteRounds = s.config.maxRewriteRounds := by
  obtain ⟨k, j, run⟩ := h
  have allows := allows_sameCap hp
  exact (allows.code (allows.calls k) (w n) (rewriter_of_every hp found n) s _ run).1

theorem Stops.comesTo {n : Tree} {s t : Session σ} {r : Except ProcessError Tree}
    (h : p.Stops n s r t) (label : String) (rounds : Nat) :
    ComesTo (p.settle · label rounds n) s r t := by
  cases h with
  | unserved found => exact (comesTo_settle_none found).2 ⟨rfl, rfl⟩
  | kept found rewritten kept =>
    refine (comesTo_settle_some found).2 ⟨_, t, rewritten, comesTo_afterRewriter_ok.2 ?_⟩
    rw [if_pos kept]
    exact ⟨rfl, rfl⟩
  | failed found failed =>
    exact (comesTo_settle_some found).2 ⟨_, t, failed, 0, [], rfl⟩

/-- A change of tag is followed by another round if the cap is above the changes so far. -/
theorem comesTo_settle_change {n m : Tree} {s u t : Session σ} {w : Rewriter σ}
    {r : Except ProcessError Tree} {label : String} {rounds : Nat}
    (found : n.tagName?.bind p.registry.rewriters.find? = some w)
    (rewritten : p.Rewrites w n s (.ok m) u) (changed : m.tagName? ≠ n.tagName?)
    (below : rounds + 1 < u.config.maxRewriteRounds)
    (next : ComesTo (p.settle · label (rounds + 1) m) u r t) :
    ComesTo (p.settle · label rounds n) s r t := by
  refine (comesTo_settle_some found).2 ⟨_, u, rewritten, comesTo_afterRewriter_ok.2 ?_⟩
  rw [if_neg changed, if_neg (by omega)]
  exact next

/-- A change of tag that reaches the cap is the last one. -/
theorem comesTo_settle_capped {n m : Tree} {s u : Session σ} {w : Rewriter σ} {label : String}
    {rounds : Nat} (found : n.tagName?.bind p.registry.rewriters.find? = some w)
    (rewritten : p.Rewrites w n s (.ok m) u) (changed : m.tagName? ≠ n.tagName?)
    (capped : u.config.maxRewriteRounds ≤ rounds + 1) :
    ComesTo (p.settle · label rounds n) s (.error (.diverged label (rounds + 1))) u := by
  refine (comesTo_settle_some found).2 ⟨_, u, rewritten, comesTo_afterRewriter_ok.2 ?_⟩
  rw [if_neg changed, if_pos capped]
  exact ⟨rfl, rfl⟩

theorem Chain.comesTo_settled (hp : p.registry.OnlyAsks Request.KeepsCap) {d : Nat} {n m : Tree}
    {s u t : Session σ} {r : Except ProcessError Tree} (chain : p.Chain d n s m u)
    (stops : p.Stops m u r t) (label : String) {rounds : Nat}
    (few : d = 0 ∨ rounds + d < s.config.maxRewriteRounds) :
    ComesTo (p.settle · label rounds n) s r t := by
  induction chain generalizing rounds with
  | here n s => exact stops.comesTo label rounds
  | change found rewritten changed rest ih =>
    have hcap := rewritten.cap hp found
    exact comesTo_settle_change found rewritten changed (by omega) (ih stops (by omega))

theorem Chain.comesTo_diverged (hp : p.registry.OnlyAsks Request.KeepsCap) {d : Nat} {n m : Tree}
    {s t : Session σ} (chain : p.Chain d n s m t) (label : String) {rounds : Nat}
    (hd : d = max 1 (s.config.maxRewriteRounds - rounds)) :
    ComesTo (p.settle · label rounds n) s (.error (.diverged label (rounds + d))) t := by
  induction chain generalizing rounds with
  | here n s => omega
  | @change d n m m' s u t w found rewritten changed rest ih =>
    have hcap := rewritten.cap hp found
    by_cases capped : u.config.maxRewriteRounds ≤ rounds + 1
    · obtain rfl : d = 0 := by omega
      cases rest
      exact comesTo_settle_capped found rewritten changed capped
    · have next : ComesTo (p.settle · label (rounds + 1) m) u
          (.error (.diverged label (rounds + 1 + d))) t := ih (by omega)
      rw [show rounds + 1 + d = rounds + (d + 1) by omega] at next
      exact comesTo_settle_change found rewritten changed (by omega) next

/-- What `settle` comes to is how the chain ends under the cap. -/
theorem comesTo_settle_iff (hp : p.registry.OnlyAsks Request.KeepsCap) {n : Tree}
    {s t : Session σ} {r : Except ProcessError Tree} {label : String} {rounds : Nat} :
    ComesTo (p.settle · label rounds n) s r t ↔
      p.Capped s.config.maxRewriteRounds rounds label n s r t := by
  constructor
  · rintro ⟨k, j, run⟩
    exact (settle_ends (fun found h => h.cap hp found) run).capped
  · intro h
    cases h with
    | settled chain few stops => exact chain.comesTo_settled hp stops label few
    | diverged chain => exact chain.comesTo_diverged hp label rfl

/-- A node is rewritten after its children, and comes to what its chain comes to. -/
theorem comesTo_rewrite {n : Tree} {s u t : Session σ} {r : Except ProcessError Tree}
    {es : List Element} (children : ComesTo (fun k => rewriteElements (p.calls k) n.elements)
      (s.enter n.label) (.ok es) u) :
    ComesTo (p.rewrite · n) s r t ↔
      ComesTo (p.settle · n.label 0 ⟨es, [], n.line⟩) u.exit r t := by
  have step (k : Nat) : p.rewrite (k + 1) n s = _ := rewriteStep_apply (p.calls k) n s
  constructor
  · rintro ⟨_ | k, j, hk⟩
    · cases hk
    · have hk := (step k).symm.trans hk
      obtain ⟨o, ho, hm⟩ := Option.bind_eq_some_iff.1 hk
      obtain ⟨q, hq, he⟩ := Option.map_eq_some_iff.1 hm
      obtain ⟨hv, hu⟩ := ComesTo.unique (p.rewriteElements_lasting n.elements)
        ⟨k, o.journal, ho⟩ children
      rw [hv, hu] at hq
      cases he
      exact ⟨k, q.journal, hq⟩
  · rintro ⟨l, i, hl⟩
    obtain ⟨k, j, hk⟩ := children
    have hk := p.rewriteElements_lasting n.elements k _ _ _ (Nat.le_max_left k l) hk
    have hl := p.settle_lasting n.label 0 ⟨es, [], n.line⟩ l _ _ _ (Nat.le_max_right k l) hl
    have run := step (max k l)
    rw [show rewriteElements (p.calls (max k l)) n.elements _ = _ from hk, Option.bind_some] at run
    exact ⟨max k l + 1, _, run.trans (congrArg (Option.map _) hl)⟩

/-- What the cap admits, for code that leaves it alone. It is the same wherever a node is
rewritten in a call. A node whose children have been rewritten comes to the end of its chain if its
tag has not changed, or has changed less often than the cap says; it diverges exactly if its tag
changes as often as the cap says, or once if that is never. -/
theorem rewriting_admits_chains (p : Processor σ) (hp : p.registry.OnlyAsks Request.KeepsCap)
    (n : Tree) (s : Session σ) :
    (∀ k o, p.process k n s = some o → ∀ m u, .rewriting m u ∈ o.journal →
      u.config.maxRewriteRounds = s.config.maxRewriteRounds) ∧
    (∀ k o, p.rewrite k n s = some o → ∀ m u, .rewriting m u ∈ o.journal →
      u.config.maxRewriteRounds = s.config.maxRewriteRounds) ∧
    ∀ es u, ComesTo (fun k => rewriteElements (p.calls k) n.elements) (s.enter n.label) (.ok es) u →
      ∀ r t, ComesTo (p.rewrite · n) s r t ↔
        (∃ d m v, p.Chain d ⟨es, [], n.line⟩ u.exit m v ∧
          (d = 0 ∨ d < s.config.maxRewriteRounds) ∧ p.Stops m v r t) ∨
        ∃ d m, d = max 1 s.config.maxRewriteRounds ∧ p.Chain d ⟨es, [], n.line⟩ u.exit m t ∧
          r = .error (.diverged n.label d) := by
  have allows := allows_sameCap hp
  refine ⟨fun k o ho => ((allows.calls k).process n s o ho).2,
    fun k o ho => ((allows.calls k).rewrite n s o ho).2, fun es u children r t => ?_⟩
  have hcap : u.exit.config.maxRewriteRounds = s.config.maxRewriteRounds := by
    obtain ⟨k, j, hk⟩ := children
    exact (allows.rewriteElements (allows.calls k) n.elements _ _ hk).1
  rw [comesTo_rewrite children, comesTo_settle_iff hp, hcap]
  constructor
  · intro h
    cases h with
    | settled chain few stops => exact .inl ⟨_, _, _, chain, by omega, stops⟩
    | diverged chain => exact .inr ⟨_, _, rfl, chain, by simp⟩
  · rintro (⟨d, m, v, chain, few, stops⟩ | ⟨_, m, rfl, chain, rfl⟩)
    · exact .settled chain (by omega) stops
    · have last : p.Capped s.config.maxRewriteRounds 0 n.label _ u.exit _ t := .diverged chain
      rw [Nat.zero_add] at last
      exact last

end Processor

def retaggedTo (tag : String) : Rewriter Unit := fun n =>
  .done (.ok { n with elements := .atom (.symbol tag) :: n.body })

/-- Two changes of tag from `a`, one from `b`. -/
def stagedProcessor : Processor Unit :=
  ⟨"Test", .ofList [.rewriter "a" (retaggedTo "b"), .rewriter "b" (retaggedTo "c")]⟩

def cappedSession (cap : Nat) : Session Unit :=
  { config := { maxRewriteRounds := cap }, state := () }

theorem stagedProcessor_keepsCap : stagedProcessor.registry.OnlyAsks Request.KeepsCap := by
  refine Registry.every_ofList fun e he => ?_
  rcases List.mem_pair.1 he with rfl | rfl
  · exact fun _ => trivial
  · exact fun _ => trivial

theorem stagedProcessor_children (tag : String) (s : Session Unit) :
    ComesTo (fun k => Processor.rewriteElements (stagedProcessor.calls k)
      (Node.tagged (.symbol tag)).elements) s (.ok [.atom (.symbol tag)]) s :=
  ⟨0, _, rfl⟩

theorem stagedProcessor_chain (s : Session Unit) :
    stagedProcessor.Chain 1 (.tagged (.symbol "b")) s (.tagged (.symbol "c")) s :=
  .change (w := retaggedTo "c") rfl ⟨0, [], rfl⟩ (by decide) (.here _ s)

/-- With a cap of two, a chain of one change settles and a chain of two is given up. -/
theorem rewriting_admits_chains_staged :
    ComesTo (stagedProcessor.rewrite · (.tagged (.symbol "b"))) (cappedSession 2)
      (.ok (.tagged (.symbol "c"))) (cappedSession 2) ∧
    ComesTo (stagedProcessor.rewrite · (.tagged (.symbol "a"))) (cappedSession 2)
      (.error (.diverged "a" 2)) (cappedSession 2) := by
  have admits (n : Tree) := stagedProcessor.rewriting_admits_chains stagedProcessor_keepsCap n
    (cappedSession 2)
  constructor
  · refine ((admits _).2.2 _ _ (stagedProcessor_children "b" _) _ _).2 (.inl ?_)
    exact ⟨1, _, _, stagedProcessor_chain _, .inr (by decide), .unserved rfl⟩
  · refine ((admits _).2.2 _ _ (stagedProcessor_children "a" _) _ _).2 (.inr ?_)
    exact ⟨2, _, rfl, .change (w := retaggedTo "b") rfl ⟨0, [], rfl⟩ (by decide)
      (stagedProcessor_chain _), rfl⟩

/-- A cap of one does not admit a chain of one change. -/
theorem cap_refuses_its_last_change :
    ¬ ∀ (p : Processor Unit) (n m : Tree) (s u v t : Session Unit) (es : List Element) (d : Nat)
      (r : Except ProcessError Tree), p.registry.OnlyAsks Request.KeepsCap →
      ComesTo (fun k => Processor.rewriteElements (p.calls k) n.elements) (s.enter n.label)
        (.ok es) u →
      p.Chain d ⟨es, [], n.line⟩ u.exit m v → d ≤ s.config.maxRewriteRounds → p.Stops m v r t →
      ComesTo (p.rewrite · n) s r t := by
  intro hall
  have settles := hall stagedProcessor _ _ (cappedSession 1) _ _ _ _ 1 _ stagedProcessor_keepsCap
    (stagedProcessor_children "b" _) (stagedProcessor_chain _) (by decide) (.unserved rfl)
  have run : (stagedProcessor.rewrite 3 (.tagged (.symbol "b")) (cappedSession 1)).map
      (·.value.isOk) = some false := by
    decide +kernel
  obtain ⟨⟨r, t, j⟩, ho, failed⟩ := Option.map_eq_some_iff.1 run
  obtain ⟨rfl, -⟩ := ComesTo.unique (stagedProcessor.rewrite_lasting _) settles ⟨3, j, ho⟩
  cases failed

end TagDispatch
