import TagDispatch.Proofs.Chain
import TagDispatch.Proofs.RoundTrip

/-!
Rewriting ends. Rewriters may change the tag of a node back and forth for ever, so that nothing in
the node gets smaller from one round to the next: what gets smaller is the number of rounds that the
cap has left. All that is asked of the rewriters is that they return and leave the cap alone.
-/

namespace TagDispatch

variable {σ α β : Type}

/-! ### Runs that end -/

/-- With enough allowance the run from `s` ends, and it leaves the cap as it was. -/
def Ends (x : Nat → Run σ α) (s : Session σ) : Prop :=
  ∃ a t, ComesTo x s a t ∧ t.config.maxRewriteRounds = s.config.maxRewriteRounds

namespace Ends

theorem pure (a : α) (s : Session σ) : Ends (fun _ => (Pure.pure a : Run σ α)) s :=
  ⟨a, s, ⟨0, [], rfl⟩, rfl⟩

theorem bind {x : Nat → Run σ α} {f : Nat → α → Run σ β} {s : Session σ} (hx : Lasting x)
    (hf : ∀ a, Lasting (f · a)) (first : Ends x s) (next : ∀ a t, Ends (f · a) t) :
    Ends (fun k => x k >>= f k) s := by
  obtain ⟨a, t, ha, same⟩ := first
  obtain ⟨b, u, hb, same'⟩ := next a t
  exact ⟨b, u, (ComesTo.bind hx hf).2 ⟨a, t, ha, hb⟩, same'.trans same⟩

end Ends

namespace Processor

variable {p : Processor σ}

/-- The rewriters of the registry return, whatever node and session they get, and they leave the cap
as it was. -/
def RewritersReturn (p : Processor σ) : Prop :=
  ∀ {w : Rewriter σ} {n : Tree}, n.tagName?.bind p.registry.rewriters.find? = some w →
    ∀ s, Ends (fun k => (w n).run p.profile (p.calls k)) s

theorem RewritersReturn.keepsCap (returns : p.RewritersReturn) : p.KeepsCap := by
  intro w n s t r found rewritten
  obtain ⟨a, u, returned, same⟩ := returns found s
  obtain ⟨-, rfl⟩ := ComesTo.unique (p.code_lasting (w n)) rewritten returned
  exact same

/-! ### One node -/

/-- Each round that is followed by another one brings the changes closer to the cap. -/
theorem settle_returns (returns : p.RewritersReturn) (label : String) (rounds : Nat) (n : Tree)
    (s : Session σ) : Ends (p.settle · label rounds n) s := by
  induction left : s.config.maxRewriteRounds - rounds using Nat.strongRecOn
    generalizing rounds n s with
  | ind gap ih =>
  cases found : n.tagName?.bind p.registry.rewriters.find? with
  | none => exact ⟨.ok n, s, (comesTo_settle_none found).2 ⟨rfl, rfl⟩, rfl⟩
  | some w =>
    obtain ⟨a, u, rewritten, same⟩ := returns found s
    cases a with
    | error e => exact ⟨.error e, u, (Stops.failed found rewritten).comesTo label rounds, same⟩
    | ok m =>
      by_cases kept : m.tagName? = n.tagName?
      · exact ⟨.ok m, u, (Stops.kept found rewritten kept).comesTo label rounds, same⟩
      · by_cases capped : u.config.maxRewriteRounds ≤ rounds + 1
        · exact ⟨_, u, comesTo_settle_capped found rewritten kept capped, same⟩
        · obtain ⟨r, t, settled, same'⟩ := ih _ (by omega) (rounds + 1) m u rfl
          exact ⟨r, t, comesTo_settle_change found rewritten kept (by omega) settled,
            same'.trans same⟩

/-! ### A node with all that is in it -/

theorem rewriteElements_returns {es : List Element}
    (nodes : ∀ m, .node m ∈ es → ∀ s, Ends (p.rewrite · m) s) (s : Session σ) :
    Ends (fun k => rewriteElements (p.calls k) es) s := by
  induction es generalizing s with
  | nil => exact .pure _ s
  | cons e es ih =>
    have rest := ih fun m hm => nodes m (List.mem_cons_of_mem _ hm)
    cases e with
    | atom a =>
      exact .bind (p.rewriteElements_lasting es) (fun _ => .pure _) (rest s) fun _ => .pure _
    | node m =>
      refine .bind (p.rewrite_lasting m) (fun r => ?_) (nodes m List.mem_cons_self s) fun r t => ?_
      · cases r with
        | error e => exact .pure _
        | ok m => exact .bind (p.rewriteElements_lasting es) fun _ => .pure _
      · cases r with
        | error e => exact .pure _ t
        | ok m =>
          exact .bind (p.rewriteElements_lasting es) (fun _ => .pure _) (rest t) fun _ => .pure _

/-- A node is not rewritten if one of its children fails. -/
theorem comesTo_rewrite_failed {n : Tree} {s u : Session σ} {e : ProcessError}
    (children : ComesTo (fun k => rewriteElements (p.calls k) n.elements) (s.enter n.label)
      (.error e) u) : ComesTo (p.rewrite · n) s (.error e) u.exit := by
  obtain ⟨k, j, run⟩ := children
  refine ⟨k + 1, .rewriting n s :: (j ++ [.rewrote (.error e)]), ?_⟩
  change rewriteStep (p.calls k) n s = _
  rw [rewriteStep_apply, show rewriteElements (p.calls k) n.elements _ = _ from run]
  rfl

theorem rewrite_returns (returns : p.RewritersReturn) (n : Tree) (s : Session σ) :
    Ends (p.rewrite · n) s := by
  induction size : n.depth using Nat.strongRecOn generalizing n s with
  | ind d ih =>
  have smaller (m : Tree) (hm : .node m ∈ n.elements) (t : Session σ) : Ends (p.rewrite · m) t := by
    have inside : m.depth ≤ Element.listDepth n.elements := depth_le_listDepth hm
    rw [Node.depth] at size
    exact ih m.depth (by omega) m t rfl
  obtain ⟨r, u, children, same⟩ := rewriteElements_returns smaller (s.enter n.label)
  cases r with
  | error e => exact ⟨_, _, comesTo_rewrite_failed children, same⟩
  | ok es =>
    obtain ⟨r, t, settled, same'⟩ := settle_returns returns n.label 0 ⟨es, [], n.line⟩ u.exit
    exact ⟨r, t, (comesTo_rewrite children).2 settled, same'.trans same⟩

/-! ### The applications of a node -/

/-- Rewriters that are applied in the children of a node, or in its calls, do not count. -/
theorem applications_of_rewrite {k : Nat} {i j : List (Step σ)} {n : Tree} {s u t : Session σ}
    {a : Except ProcessError (List Element)} {r : Except ProcessError Tree}
    (children : rewriteElements (p.calls k) n.elements t = some ⟨a, u, i⟩) :
    ownSteps Step.appliesRewriter 0 (.rewriting n s :: (i ++ (j ++ [.rewrote r]))) =
      ownSteps Step.appliesRewriter 1 j := by
  have inside : Bracketed .code i := rewriteElements_bracketed (p.calls_bracket k) children
  rw [ownSteps_other (.inr rfl)]
  change ownSteps _ 1 _ = _
  rw [inside.skip application_single (Nat.le_refl 1) fun _ e admitted => by cases admitted; rfl,
    ownSteps_append, ownSteps_other (.inr rfl)]
  exact List.append_nil _

/-- What a node comes to, with the applications as its journal has them. -/
theorem rewrite_ends (keeps : p.KeepsCap) {k : Nat} {n : Tree} {s : Session σ}
    {o : Outcome σ (Except ProcessError Tree)} (run : p.rewrite k n s = some o) :
    (∃ e u, ComesTo (fun k => rewriteElements (p.calls k) n.elements) (s.enter n.label)
      (.error e) u ∧ o.value = .error e ∧ ownSteps Step.appliesRewriter 0 o.journal = []) ∨
    ∃ es u, ComesTo (fun k => rewriteElements (p.calls k) n.elements) (s.enter n.label)
      (.ok es) u ∧ p.LoopEnds u.config.maxRewriteRounds 0 n.label ⟨es, [], n.line⟩ u.exit
        (ownSteps Step.appliesRewriter 0 o.journal) o.value o.session := by
  cases k with
  | zero => cases run
  | succ k =>
    replace run : rewriteStep (p.calls k) n s = some o := run
    rw [rewriteStep_apply] at run
    obtain ⟨⟨a, u, i⟩, children, run⟩ := Option.bind_eq_some_iff.1 run
    obtain ⟨q, after, rfl⟩ := Option.map_eq_some_iff.1 run
    rw [applications_of_rewrite children]
    cases a with
    | error e =>
      cases after
      exact .inl ⟨e, u, ⟨k, i, children⟩, rfl, rfl⟩
    | ok es => exact .inr ⟨es, u, ⟨k, i, children⟩, settle_ends keeps after⟩

theorem LoopEnds.length_le {cap : Nat} {label : String} {n : Tree} {s t : Session σ}
    {j : List (Step σ)} {r : Except ProcessError Tree} (h : p.LoopEnds cap 0 label n s j r t) :
    j.length ≤ max 1 cap := by
  cases h with
  | @settled j m _ u _ applied few stops =>
    have last : (p.lastApplication m u).length ≤ 1 := by
      unfold lastApplication
      split <;> simp
    rw [List.length_append]
    rcases few with rfl | few
    · rw [List.length_nil]
      omega
    · omega
  | diverged applied many => omega

/-- The rewriting of a node ends, for any rewriters that return and leave the cap alone. If its
children have been rewritten, at most as many rewriters are applied to it as the cap says, or one if
that is none. Each application changes the tag, but for one at the end: where the tag has no
rewriter, or the rewriter leaves it or fails, this is the outcome. The node diverges after exactly
as many changes as the cap says, or one, and the error has this number and the label that the node
came with. -/
theorem rewriting_loop_stops (p : Processor σ) (returns : p.RewritersReturn) (n : Tree)
    (s : Session σ) :
    ∃ o, (∃ l, ∀ k, l ≤ k → p.rewrite k n s = some o) ∧
      (ownSteps Step.appliesRewriter 0 o.journal).length ≤ max 1 s.config.maxRewriteRounds ∧
      ((∃ e u, ComesTo (fun k => rewriteElements (p.calls k) n.elements) (s.enter n.label)
          (.error e) u ∧ o.value = .error e ∧ ownSteps Step.appliesRewriter 0 o.journal = []) ∨
        ∃ es u j m v, ComesTo (fun k => rewriteElements (p.calls k) n.elements) (s.enter n.label)
          (.ok es) u ∧ p.Applies j ⟨es, [], n.line⟩ u.exit m v ∧
          (ownSteps Step.appliesRewriter 0 o.journal = j ++ p.lastApplication m v ∧
              p.Stops m v o.value o.session ∨
            ownSteps Step.appliesRewriter 0 o.journal = j ∧
              j.length = max 1 s.config.maxRewriteRounds ∧
              o.value = .error (.diverged n.label j.length) ∧ o.session = v)) := by
  obtain ⟨r, t, ⟨l, j, run⟩, -⟩ := rewrite_returns returns n s
  refine ⟨_, ⟨l, fun k le => p.rewrite_lasting n l k s _ le run⟩, ?_⟩
  rcases rewrite_ends returns.keepsCap run with ⟨e, u, children, failed, none⟩ |
    ⟨es, u, children, ends⟩
  · exact ⟨none ▸ Nat.zero_le _, .inl ⟨e, u, children, failed, none⟩⟩
  · have cap : u.config.maxRewriteRounds = s.config.maxRewriteRounds := by
      obtain ⟨a, v, returned, cap⟩ := rewriteElements_returns
        (fun m _ => rewrite_returns returns m) (s.enter n.label)
      obtain ⟨-, rfl⟩ := ComesTo.unique (p.rewriteElements_lasting n.elements) children returned
      exact cap
    rw [cap] at ends
    refine ⟨ends.length_le, .inr ?_⟩
    generalize ownSteps Step.appliesRewriter 0 j = applied at ends ⊢
    cases ends with
    | settled applies few stops =>
      exact ⟨es, u, _, _, _, children, applies, .inl ⟨rfl, stops⟩⟩
    | diverged applies many =>
      refine ⟨es, u, _, _, _, children, applies, .inr ⟨rfl, many, ?_, rfl⟩⟩
      rw [Nat.zero_add]

end Processor

/-- Two rewriters that change the tag back and forth. -/
def cyclingProcessor : Processor Unit :=
  ⟨"Test", .ofList [.rewriter "ping" (retaggedTo "pong"), .rewriter "pong" (retaggedTo "ping")]⟩

theorem cyclingProcessor_returns : cyclingProcessor.RewritersReturn := by
  have retags : cyclingProcessor.registry.Every (fun _ => True) (fun w => ∃ tag, w = retaggedTo tag)
      (fun _ => True) := by
    refine Registry.every_ofList fun e he => ?_
    rcases List.mem_pair.1 he with rfl | rfl
    · exact ⟨"pong", rfl⟩
    · exact ⟨"ping", rfl⟩
  intro w n found s
  obtain ⟨tag, rfl⟩ := Processor.rewriter_of_every retags found
  exact ⟨_, s, ⟨0, [], rfl⟩, rfl⟩

/-- With a cap of three the tag changes three times, and then the node is given up for good. -/
theorem rewriting_loop_stops_cycling :
    ∃ o, (∃ l, ∀ k, l ≤ k →
        cyclingProcessor.rewrite k (.tagged (.symbol "ping")) (cappedSession 3) = some o) ∧
      (ownSteps Step.appliesRewriter 0 o.journal).length = 3 ∧
      o.value = .error (.diverged "ping" 3) := by
  obtain ⟨o, ⟨l, run⟩, -⟩ := cyclingProcessor.rewriting_loop_stops cyclingProcessor_returns
    (.tagged (.symbol "ping")) (cappedSession 3)
  refine ⟨o, ⟨l, run⟩, ?_⟩
  have small : (cyclingProcessor.rewrite 4 (.tagged (.symbol "ping")) (cappedSession 3)).map
      (fun o => ((ownSteps Step.appliesRewriter 0 o.journal).length, o.value)) =
        some (3, .error (.diverged "ping" 3)) := by
    rfl
  obtain ⟨o', ho', what⟩ := Option.map_eq_some_iff.1 small
  have same := (cyclingProcessor.rewrite_lasting _ 4 _ _ _ (Nat.le_max_right l 4) ho').symm.trans
    (run _ (Nat.le_max_left l 4))
  cases same
  exact Prod.mk.injEq .. ▸ what

end TagDispatch
