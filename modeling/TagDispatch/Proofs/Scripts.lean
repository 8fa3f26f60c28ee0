import TagDispatch.Proofs.View
import TagDispatch.Script.Exec

/-!
Scripts seen through a view. Of an error a script gets to see its kind and its message, and with
one instruction the copy that the error carries; a script without that instruction goes on alike
whichever copies there are.
-/

namespace TagDispatch

variable {α β γ δ : Type}

/-- What scripts see of errors and contexts is the same on both sides. -/
structure View.Legible (v : View) : Prop where
  error_refl (e : ProcessError) : v.error e e
  message {e e' : ProcessError} : v.error e e' → e.message = e'.message
  kindName {e e' : ProcessError} : v.error e e' → e.kindName = e'.kindName
  context {x y : List String} : v.context x y → x = y
  rewrites : v.rewrites

structure Frame.Alike (v : View) (f g : Frame) : Prop where
  node : f.node = g.node
  stack : f.stack = g.stack
  given : Option.Rel v.error f.given g.given

namespace Act

/-- Work that has ended in the same way, with frames alike. -/
inductive Ended (v : View) (Q : α → β → Prop) :
    Except ProcessError α × Frame → Except ProcessError β × Frame → Prop
  | ok {a : α} {b : β} {f g : Frame} (h : Q a b) (hf : f.Alike v g) :
      Ended v Q (.ok a, f) (.ok b, g)
  | error {e e' : ProcessError} {f g : Frame} (h : v.error e e') (hf : f.Alike v g) :
      Ended v Q (.error e, f) (.error e', g)

def Alike (v : View) (Q : α → β → Prop) (x : Act α) (y : Act β) : Prop :=
  ∀ f g, f.Alike v g → Code.Alike v (Ended v Q) (x f) (y g)

/-- Work that goes on alike from frames alike. -/
def Steady (v : View) (x : Act α) : Prop := Alike v Eq x x

variable {v : View}

/-! ### Rules -/

theorem alike_bind {Q : α → β → Prop} {R : γ → δ → Prop} {x : Act α} {y : Act β}
    {k : α → Act γ} {l : β → Act δ} (h : Alike v Q x y)
    (hk : ∀ a b, Q a b → Alike v R (k a) (l b)) : Alike v R (x >>= k) (y >>= l) := by
  intro f g hf
  refine Code.Alike.bind (h f g hf) ?_
  rintro _ _ (⟨ha, hf'⟩ | ⟨he, hf'⟩)
  · exact hk _ _ ha _ _ hf'
  · exact .done (.error he hf')

theorem steady_pure (a : α) : Steady v (pure a) := fun _ _ hf => .done (.ok rfl hf)

theorem steady_throw (hv : v.Legible) (e : ProcessError) : Steady v (throw e : Act α) :=
  fun _ _ hf => .done (.error (hv.error_refl e) hf)

theorem steady_bind {x : Act α} {k : α → Act β} (h : Steady v x) (hk : ∀ a, Steady v (k a)) :
    Steady v (x >>= k) := by
  refine alike_bind h fun a b hab => ?_
  rw [← hab]
  exact hk a

/-- Looking at the frame: only the given error can differ. -/
theorem steady_get {k : Frame → Act α}
    (hk : ∀ node stack given given', Option.Rel v.error given given' →
      Alike v Eq (k ⟨node, stack, given⟩) (k ⟨node, stack, given'⟩)) :
    Steady v (get >>= k) := by
  rintro ⟨node, stack, given⟩ ⟨_, _, given'⟩ ⟨rfl, rfl, hg⟩
  exact hk node stack given given' hg _ _ ⟨rfl, rfl, hg⟩

theorem steady_push (e : Element) : Steady v (push e) := by
  rintro ⟨node, stack, given⟩ ⟨_, _, given'⟩ ⟨rfl, rfl, hg⟩
  exact .done (.ok rfl ⟨rfl, rfl, hg⟩)

theorem steady_setNode (n : Tree) : Steady v (setNode n) := by
  rintro ⟨node, stack, given⟩ ⟨_, _, given'⟩ ⟨rfl, rfl, hg⟩
  exact .done (.ok rfl ⟨rfl, rfl, hg⟩)

theorem steady_pop : Steady v pop := by
  rintro ⟨node, stack, given⟩ ⟨_, _, given'⟩ ⟨rfl, rfl, hg⟩
  cases stack with
  | nil => exact .done (.ok rfl ⟨rfl, rfl, hg⟩)
  | cons e es => exact .done (.ok rfl ⟨rfl, rfl, hg⟩)

theorem steady_popMany (count : Nat) : Steady v (popMany count) := by
  rintro ⟨node, stack, given⟩ ⟨_, _, given'⟩ ⟨rfl, rfl, hg⟩
  exact .done (.ok rfl ⟨rfl, rfl, hg⟩)

theorem alike_attempt {r r' : Except ProcessError α} (h : v.Result r r') :
    Alike v Eq (attempt r) (attempt r') := by
  intro f g hf
  cases h with
  | ok a => exact .done (.ok rfl hf)
  | error he => exact .done (.error he hf)

theorem steady_attempt (hv : v.Legible) (r : Except ProcessError α) : Steady v (attempt r) := by
  cases r with
  | ok a => exact steady_pure a
  | error e => exact steady_throw hv e

theorem steady_attemptTree (hv : v.Legible) (r : Except TreeError α) :
    Steady v (attemptTree r) := by
  cases r with
  | ok a => exact steady_pure a
  | error e => exact steady_throw hv _

/-! ### Requests -/

/-- A request whose answer the code takes as it is. -/
theorem alike_ask {Q : α → α → Prop} {request : (α → Code Notes α) → Code Notes α}
    (h : Code.Alike v Q (request Code.done) (request Code.done)) :
    Alike v Q (ask request) (ask request) :=
  fun _ _ hf => h.bind fun _ _ ha => .done (.ok ha hf)

theorem alike_processNode (n : Tree) : Alike v (Reply.Alike v) (processNode n) (processNode n) :=
  alike_ask (.process n fun _ _ hr => .done hr)

theorem alike_processElement (e : Element) :
    Alike v v.Result (processElement e) (processElement e) := by
  cases e with
  | atom a => exact fun _ _ hf => .done (.ok (.ok _) hf)
  | node n =>
    exact alike_bind (alike_processNode n) fun r r' hr _ _ hf => .done (.ok hr.result hf)

theorem alike_rewrite (hv : v.Legible) (n : Tree) :
    Alike v v.Result (ask (Code.rewrite n)) (ask (Code.rewrite n)) :=
  alike_ask (.rewrite hv.rewrites n fun _ _ hr => .done hr)

theorem steady_getEnv : Steady v getEnv := alike_ask (.getEnv fun _ => .done rfl)

theorem steady_setEnv (e : Environment Element) : Steady v (setEnv e) :=
  alike_ask (.setEnv e (.done rfl))

theorem steady_getNotes : Steady v getNotes := alike_ask (.getState fun _ => .done rfl)

theorem steady_addNote (text : String) : Steady v (addNote text) :=
  steady_bind steady_getNotes fun notes => alike_ask (.setState (notes ++ [text]) (.done rfl))

theorem steady_context (hv : v.Legible) : Steady v (ask Code.getContext) :=
  alike_ask (.getContext fun _ _ h => .done (hv.context h))

theorem steady_kind : Steady v (ask Code.getKind) := alike_ask (.getKind fun _ => .done rfl)

theorem steady_configure (settings : List Setting) : Steady v (configure settings) := by
  induction settings with
  | nil => exact steady_pure ()
  | cons s rest ih => exact steady_bind (alike_ask (.configure s (.done rfl))) fun _ => ih

/-- Goes on with a result, or fails with its error. -/
theorem alike_attempt_bind {r r' : Except ProcessError α} (h : v.Result r r') {k : α → Act β}
    (hk : ∀ a, Steady v (k a)) : Alike v Eq (attempt r >>= k) (attempt r' >>= k) := by
  refine alike_bind (alike_attempt h) fun a b hab => ?_
  rw [← hab]
  exact hk a

theorem steady_processRest (es : List Element) : Steady v (processRest es) := by
  induction es with
  | nil => exact steady_pure ()
  | cons e es ih =>
    refine steady_get fun node stack given given' hg => ?_
    refine steady_bind (steady_setNode _) fun _ => ?_
    refine alike_bind (alike_processElement e) fun _ _ hr => ?_
    exact alike_attempt_bind hr fun a => steady_bind (steady_push a) fun _ => ih

theorem steady_inScope {body : Act Unit} (h : Steady v body) : Steady v (inScope body) := by
  intro f g hf
  refine .getEnv fun e => .setEnv _ ?_
  exact (h f g hf).bind fun _ _ hr => .getEnv fun e => .setEnv _ (.done hr)

theorem steady_drain {body : Act Unit} (h : Steady v body) (fuel : Nat) :
    Steady v (drain body fuel) := by
  induction fuel with
  | zero => exact fun _ _ _ => .diverge
  | succ fuel ih =>
    refine steady_get fun node stack given given' hg => ?_
    dsimp only
    rcases node.shift with ⟨_ | e, n⟩
    · exact steady_pure ()
    · exact steady_bind (steady_setNode n) fun _ => steady_bind (steady_push e) fun _ =>
        steady_bind h fun _ => ih

/-! ### The handler for every node -/

/-- Replies in parts: results alike, and the same elements left. -/
def Parts (v : View) (r r' : Except ProcessError (List Element) × List Element) : Prop :=
  v.Result r.1 r'.1 ∧ r.2 = r'.2

theorem processAll_alike {σ : Type} (es : List Element) :
    Code.Alike v (Parts v) (Code.processAll es : Code σ _) (Code.processAll es) := by
  induction es with
  | nil => exact .done ⟨.ok [], rfl⟩
  | cons e es ih =>
    have next (w : Element) : Code.Alike v (Parts v)
        ((Code.processAll es : Code σ _).bind fun r => .done (r.1.map (w :: ·), r.2))
        ((Code.processAll es).bind fun r => .done (r.1.map (w :: ·), r.2)) := by
      exact ih.bind fun _ _ hr => .done ⟨View.result_map hr.1, hr.2⟩
    cases e with
    | atom a => exact next (.atom a)
    | node n =>
      refine .process n ?_
      rintro ⟨r, rest⟩ ⟨r', rest'⟩ ⟨hr, -⟩
      cases hr with
      | ok w => exact next w
      | error he => exact .done ⟨.error he, rfl⟩

theorem dummy_alike {σ : Type} (n : Tree) :
    Code.Alike v (Reply.Alike v) (Code.dummy n : Code σ _) (Code.dummy n) := by
  refine (processAll_alike n.elements).bind fun _ _ hr => .done ⟨View.result_map hr.1, ?_⟩
  rw [hr.2]

/-! ### Instructions -/

theorem steady_pushText (text : String) : Steady v (pushText text) := steady_push _

theorem steady_pushNat (n : Nat) : Steady v (pushNat n) := steady_push _

/-- What a call has come to: the node it left, and its result on the stack. -/
theorem alike_keep {r r' : Reply} (h : r.Alike v r') :
    Alike v Eq (do setNode r.rest; push (← attempt r.result))
      (do setNode r'.rest; push (← attempt r'.result)) := by
  rw [← h.rest]
  refine alike_bind (steady_setNode r.rest) fun _ _ _ => ?_
  exact alike_attempt_bind h.result steady_push

/-- Only `raise` lets the given error out again, with its own copy. -/
theorem steady_ofPlain (hv : v.Legible) (i : Instr) (hi : i ≠ .errorSnapshot) :
    Steady v (ofPlain i) := by
  cases i with
  | shift => exact steady_get fun _ _ _ _ _ => steady_bind (steady_setNode _) fun _ => steady_push _
  | shiftAtom =>
    exact steady_get fun _ _ _ _ _ => steady_bind (steady_attemptTree hv _) fun _ =>
      steady_bind (steady_setNode _) fun _ => steady_push _
  | shiftNode =>
    exact steady_get fun _ _ _ _ _ => steady_bind (steady_attemptTree hv _) fun _ =>
      steady_bind (steady_setNode _) fun _ => steady_push _
  | clear => exact steady_get fun _ _ _ _ _ => steady_setNode _
  | clone => exact steady_get fun _ _ _ _ _ => steady_push _
  | len => exact steady_get fun _ _ _ _ _ => steady_pushNat _
  | append => exact steady_bind steady_pop fun _ => steady_get fun _ _ _ _ _ => steady_setNode _
  | unshift => exact steady_bind steady_pop fun _ => steady_get fun _ _ _ _ _ => steady_setNode _
  | setTag tag =>
    exact steady_get fun _ _ _ _ _ => steady_bind (steady_attemptTree hv _) fun _ =>
      steady_setNode _
  | setLine line => exact steady_get fun _ _ _ _ _ => steady_setNode _
  | field name =>
    exact steady_get fun _ _ _ _ _ => steady_bind (steady_attemptTree hv _) fun _ => steady_push _
  | setField name =>
    exact steady_bind steady_pop fun _ => steady_get fun _ _ _ _ _ =>
      steady_bind (steady_attemptTree hv _) fun _ => steady_setNode _
  | fields => exact steady_get fun _ _ _ _ _ => steady_push _
  | assertTag tag => exact steady_get fun _ _ _ _ _ => steady_attempt hv _
  | replace old new => exact steady_get fun _ _ _ _ _ => steady_setNode _
  | push e => exact steady_push e
  | pop => exact steady_bind steady_pop fun _ => steady_pure ()
  | dup =>
    exact steady_bind steady_pop fun e => steady_bind (steady_push e) fun _ => steady_push e
  | node tag count => exact steady_bind (steady_popMany count) fun _ => steady_push _
  | nodeAll tag =>
    exact steady_get fun _ _ _ _ _ => steady_bind (steady_popMany _) fun _ => steady_push _
  | group count => exact steady_bind (steady_popMany count) fun _ => steady_push _
  | arith tag =>
    exact steady_bind steady_pop fun _ => steady_bind steady_pop fun _ =>
      steady_bind steady_pop fun _ => steady_bind (steady_attempt hv _) fun _ => steady_push _
  | fail tag message => exact steady_throw hv _
  | raise =>
    refine steady_get fun _ _ _ _ hg => ?_
    cases hg with
    | none => exact steady_pure ()
    | some he => exact fun _ _ hf => .done (.error he hf)
  | errorSnapshot => exact absurd rfl hi
  | process =>
    exact steady_bind steady_pop fun e => alike_bind (alike_processElement e) fun _ _ hr =>
      alike_attempt_bind hr steady_push
  | processKeep =>
    refine steady_bind steady_pop fun e => ?_
    cases e with
    | atom a => exact steady_bind (steady_push _) fun _ => steady_push _
    | node n =>
      refine alike_bind (alike_processNode n) fun r r' hr => ?_
      rw [← hr.rest]
      exact alike_attempt_bind hr.result fun a => steady_bind (steady_push a) fun _ => steady_push _
  | tryProcess =>
    refine steady_bind steady_pop fun e => alike_bind (alike_processElement e) fun r r' hr => ?_
    cases hr with
    | ok a => exact steady_push a
    | error he =>
      dsimp only
      rw [hv.message he]
      exact steady_pushText _
  | processSelf =>
    refine steady_get fun node _ _ _ _ => alike_bind (alike_processNode node) fun r r' hr => ?_
    exact alike_keep hr
  | processRest => exact steady_get fun node _ _ _ _ => steady_processRest node.elements
  | rewrite =>
    refine steady_bind steady_pop fun e => ?_
    cases e with
    | atom a => exact steady_push _
    | node n =>
      exact alike_bind (alike_rewrite hv n) fun _ _ hr =>
        alike_attempt_bind hr fun _ => steady_push _
  | dummy =>
    refine steady_get fun node _ _ _ _ => ?_
    refine alike_bind (Q := Reply.Alike v) ?_ fun r r' hr => alike_keep hr
    exact fun _ _ hf => (dummy_alike node).bind fun _ _ hr => .done (.ok hr hf)
  | context => exact steady_bind (steady_context hv) fun _ => steady_pushText _
  | parent =>
    refine steady_bind (steady_context hv) fun tags => ?_
    cases tags[1]? with
    | none => exact steady_push _
    | some tag => exact steady_pushText tag
  | kind => exact steady_bind steady_kind fun _ => steady_pushText _
  | setConfig settings => exact steady_configure settings
  | note text => exact steady_addNote text
  | noteTop =>
    refine steady_get fun _ stack _ _ _ => ?_
    cases stack with
    | nil => exact steady_addNote _
    | cons e es => exact steady_addNote _
  | notes => exact steady_bind steady_getNotes fun _ => steady_pushNat _
  | envGet name => exact steady_bind steady_getEnv fun _ => steady_push _
  | envSet name =>
    exact steady_bind steady_pop fun _ => steady_bind steady_getEnv fun _ => steady_setEnv _
  | envDefine name =>
    exact steady_bind steady_pop fun _ => steady_bind steady_getEnv fun _ => steady_setEnv _
  | envDepth => exact steady_bind steady_getEnv fun _ => steady_pushNat _
  | envPush => exact steady_bind steady_getEnv fun _ => steady_setEnv _
  | envPop => exact steady_bind steady_getEnv fun _ => steady_setEnv _
  | envAll => exact steady_bind steady_getEnv fun _ => steady_push _
  | localGet =>
    refine steady_bind steady_pop fun e => steady_bind steady_getEnv fun env => ?_
    cases e.name?.bind env.get? with
    | none => exact steady_throw hv _
    | some w => exact steady_push w
  | localSet =>
    refine steady_bind steady_pop fun w => steady_bind steady_pop fun e => ?_
    cases e.name? with
    | none => exact steady_throw hv _
    | some name =>
      exact steady_bind steady_getEnv fun _ => steady_bind (steady_setEnv _) fun _ => steady_push w
  | each body => exact steady_pure ()
  | ifTag tag yes no => exact steady_pure ()
  | ifTop e yes no => exact steady_pure ()
  | ifLen count yes no => exact steady_pure ()
  | scope body => exact steady_pure ()

end Act

mutual

/-- Whether the instruction, or one inside it, looks at the copy that an error carries. -/
def Instr.looksAtCopy : Instr → Bool
  | .errorSnapshot => true
  | .each body => Instr.anyLooksAtCopy body
  | .ifTag _ yes no => Instr.anyLooksAtCopy yes || Instr.anyLooksAtCopy no
  | .ifTop _ yes no => Instr.anyLooksAtCopy yes || Instr.anyLooksAtCopy no
  | .ifLen _ yes no => Instr.anyLooksAtCopy yes || Instr.anyLooksAtCopy no
  | .scope body => Instr.anyLooksAtCopy body
  | _ => false

def Instr.anyLooksAtCopy : List Instr → Bool
  | [] => false
  | i :: is => i.looksAtCopy || Instr.anyLooksAtCopy is

end

namespace Act

variable {v : View}

mutual

theorem steady_ofInstr (hv : v.Legible) (limit : Nat) (i : Instr) (hi : i.looksAtCopy = false) :
    Steady v (ofInstr limit i) := by
  have plain : Steady v (ofPlain i) := by
    refine steady_ofPlain hv i ?_
    rintro rfl
    cases hi
  cases i with
  | each body =>
    rw [Instr.looksAtCopy] at hi
    exact steady_drain (steady_ofInstrs hv limit body hi) limit
  | ifTag tag yes no =>
    rw [Instr.looksAtCopy, Bool.or_eq_false_iff] at hi
    refine steady_get fun node _ _ _ _ => ?_
    dsimp only
    split
    · exact steady_ofInstrs hv limit yes hi.1
    · exact steady_ofInstrs hv limit no hi.2
  | ifTop e yes no =>
    rw [Instr.looksAtCopy, Bool.or_eq_false_iff] at hi
    refine steady_get fun _ stack _ _ _ => ?_
    cases stack with
    | nil => exact steady_ofInstrs hv limit no hi.2
    | cons top es =>
      dsimp only
      split
      · exact steady_ofInstrs hv limit yes hi.1
      · exact steady_ofInstrs hv limit no hi.2
  | ifLen count yes no =>
    rw [Instr.looksAtCopy, Bool.or_eq_false_iff] at hi
    refine steady_get fun node _ _ _ _ => ?_
    dsimp only
    split
    · exact steady_ofInstrs hv limit yes hi.1
    · exact steady_ofInstrs hv limit no hi.2
  | scope body =>
    rw [Instr.looksAtCopy] at hi
    exact steady_inScope (steady_ofInstrs hv limit body hi)
  | _ => exact plain

theorem steady_ofInstrs (hv : v.Legible) (limit : Nat) (is : List Instr)
    (hi : Instr.anyLooksAtCopy is = false) : Steady v (ofInstrs limit is) := by
  cases is with
  | nil => exact steady_pure ()
  | cons i is =>
    rw [Instr.anyLooksAtCopy, Bool.or_eq_false_iff] at hi
    exact steady_bind (steady_ofInstr hv limit i hi.1) fun _ => steady_ofInstrs hv limit is hi.2

end

end Act

namespace Script

variable {v : View}

def looksAtCopy : Script → Bool
  | instrs code => Instr.anyLooksAtCopy code
  | dummy => false

theorem start_alike (hv : v.Legible) {code : List Instr} (hc : Instr.anyLooksAtCopy code = false)
    {f g : Frame} (hf : f.Alike v g) :
    Code.Alike v (Act.Ended v Eq) (start code f) (start code g) :=
  Act.steady_bind (Act.steady_ofInstrs hv loopLimit code hc) (fun _ => Act.steady_pop) f g hf

theorem handler_alike (hv : v.Legible) (x : Script) (hx : x.looksAtCopy = false) (n : Tree) :
    Code.Alike v (Reply.Alike v) (x.handler n) (x.handler n) := by
  cases x with
  | dummy => exact Act.dummy_alike n
  | instrs code =>
    have hf : Frame.Alike v { node := n } { node := n } := ⟨rfl, rfl, .none⟩
    refine (start_alike hv hx hf).bind ?_
    rintro _ _ (⟨rfl, hf⟩ | ⟨he, hf⟩)
    · exact .done ⟨.ok _, hf.node⟩
    · exact .done ⟨.error he, hf.node⟩

theorem rewriter_alike (hv : v.Legible) (x : Script) (hx : x.looksAtCopy = false) (n : Tree) :
    Code.Alike v v.Result (x.rewriter n) (x.rewriter n) := by
  cases x with
  | dummy => exact .done (.ok n)
  | instrs code =>
    have hf : Frame.Alike v { node := n } { node := n } := ⟨rfl, rfl, .none⟩
    refine (start_alike hv hx hf).bind ?_
    rintro _ _ (@⟨a, _, f, g, rfl, hf⟩ | ⟨he, hf⟩)
    · cases a with
      | node m => exact .done (.ok m)
      | atom a =>
        dsimp only
        rw [hf.node]
        exact .done (.ok _)
    · exact .done (.error he)

theorem recovery_alike (hv : v.Legible) (x : Script) (hx : x.looksAtCopy = false)
    (rest copy : Tree) {e e' : ProcessError} (he : v.error e e') :
    Code.Alike v (Reply.Alike v) (x.recovery rest copy e) (x.recovery rest copy e') := by
  cases x with
  | dummy => exact Act.dummy_alike rest
  | instrs code =>
    dsimp only [recovery]
    rw [hv.message he, hv.kindName he]
    have hf (stack : List Element) :
        Frame.Alike v ⟨rest, stack, some e⟩ ⟨rest, stack, some e'⟩ := ⟨rfl, rfl, .some he⟩
    refine (start_alike hv hx (hf _)).bind ?_
    rintro _ _ (⟨rfl, hf⟩ | ⟨he, hf⟩)
    · exact .done ⟨.ok _, hf.node⟩
    · exact .done ⟨.error he, hf.node⟩

end Script

end TagDispatch
