import TagDispatch.Proofs.CodeErrors
import TagDispatch.Script.Exec

/-!
Scripts pass errors on, unless they try a call: one instruction goes on when a call has failed, with
the error's message in the place of a result. A script without it ends with the error, and on the
way leaves only the scopes that it has entered.
-/

namespace TagDispatch

variable {σ α β : Type}

/-- What it takes to leave a scope. -/
def Request.LeavesScope : Request → Prop
  | .getEnv => True
  | .setEnv => True
  | _ => False

theorem Request.leavesScope_calls : ¬ LeavesScope .process ∧ ¬ LeavesScope .rewrite := ⟨id, id⟩

/-! ### Work on a frame -/

namespace Act

/-- The error that work has ended with. `g` is the one that a value may stand for: the answer to a
call is an ordinary value until the script goes by it. -/
def errorOf (g : α → Option ProcessError) (r : Except ProcessError α × Frame) :
    Option ProcessError :=
  match r.1 with
  | .error e => some e
  | .ok a => g a

def Propagates (g : α → Option ProcessError) (x : Act α) : Prop :=
  ∀ f, (x f).Propagates Request.LeavesScope (errorOf g)

def PassesOn (g : α → Option ProcessError) (e : ProcessError) (x : Act α) : Prop :=
  ∀ f, (x f).PassesOn Request.LeavesScope (errorOf g) e

/-- Work whose values stand for no error. -/
abbrev Sound (x : Act α) : Prop := x.Propagates fun _ => none

/-! ### Rules -/

theorem propagates_bind {g : α → Option ProcessError} {g' : β → Option ProcessError} {x : Act α}
    {k : α → Act β} (h : x.Propagates g) (hk : ∀ a, g a = none → (k a).Propagates g')
    (he : ∀ a e, g a = some e → (k a).PassesOn g' e) : (x >>= k).Propagates g' := by
  intro f
  refine (h f).bind Request.leavesScope_calls ?_ ?_
  · rintro ⟨_ | a, f⟩ ha
    · cases ha
    · exact hk a ha f
  · rintro ⟨e' | a, f⟩ e ha
    · cases ha
      exact .done rfl
    · exact he a e ha f

theorem sound_bind {x : Act α} {k : α → Act β} (h : x.Sound) (hk : ∀ a, (k a).Sound) :
    (x >>= k).Sound :=
  propagates_bind h (fun a _ => hk a) fun _ _ ha => by cases ha

theorem sound_pure (a : α) : Sound (pure a) := fun _ => trivial

theorem sound_throw (e : ProcessError) : Sound (throw e : Act α) := fun _ => trivial

theorem sound_get {k : Frame → Act α} (hk : ∀ f, (k f).Sound) : Sound (get >>= k) :=
  fun f => hk f f

theorem sound_push (e : Element) : Sound (push e) := fun _ => trivial

theorem sound_setNode (n : Tree) : Sound (setNode n) := fun _ => trivial

theorem sound_pop : Sound pop := by
  intro f
  rcases f with ⟨node, _ | ⟨e, es⟩, given⟩ <;> trivial

theorem sound_popMany (count : Nat) : Sound (popMany count) := fun _ => trivial

theorem sound_attempt (r : Except ProcessError α) : Sound (attempt r) := by
  cases r with
  | ok a => exact sound_pure a
  | error e => exact sound_throw e

theorem sound_attemptTree (r : Except TreeError α) : Sound (attemptTree r) := by
  cases r with
  | ok a => exact sound_pure a
  | error e => exact sound_throw _

/-- Going by a failed result is passing its error on. -/
theorem passesOn_attempt {r : Except ProcessError α} {e : ProcessError} (h : failure? r = some e)
    (k : α → Act β) : PassesOn (fun _ => none) e (attempt r >>= k) := by
  rw [eq_error_of_failure h]
  exact fun f => .done rfl

/-! ### Requests -/

theorem sound_getEnv : Sound getEnv := fun _ _ => trivial

theorem sound_setEnv (e : Environment Element) : Sound (setEnv e) := fun _ => trivial

theorem sound_addNote (text : String) : Sound (addNote text) := fun _ _ => trivial

theorem sound_configure (settings : List Setting) : Sound (configure settings) := by
  induction settings with
  | nil => exact sound_pure ()
  | cons s rest ih => exact sound_bind (fun _ => trivial) fun _ => ih

theorem propagates_processNode (n : Tree) : Propagates Reply.failure? (processNode n) :=
  fun _ _ => ⟨fun _ h => .done h, fun _ => trivial⟩

theorem propagates_rewrite (n : Tree) : Propagates failure? (ask (Code.rewrite n)) :=
  fun _ _ => ⟨fun _ h => .done h, fun _ => trivial⟩

theorem propagates_processElement (e : Element) : Propagates failure? (processElement e) := by
  cases e with
  | atom a => exact fun _ => trivial
  | node n => exact fun _ _ => ⟨fun _ h => .done h, fun _ => trivial⟩

/-- A call whose result the script goes by. -/
theorem sound_attempt_bind {γ : Type} {x : Act α} {r : α → Except ProcessError γ}
    (h : x.Propagates fun a => failure? (r a)) {k : α → γ → Act β} (hk : ∀ a b, (k a b).Sound) :
    Sound (x >>= fun a => attempt (r a) >>= k a) :=
  propagates_bind h (fun a _ => sound_bind (sound_attempt _) (hk a))
    fun a _ ha => passesOn_attempt ha (k a)

theorem sound_processRest (es : List Element) : Sound (processRest es) := by
  induction es with
  | nil => exact sound_pure ()
  | cons e es ih =>
    refine sound_get fun f => sound_bind (sound_setNode _) fun _ => ?_
    exact sound_attempt_bind (propagates_processElement e) fun _ v =>
      sound_bind (sound_push v) fun _ => ih

theorem sound_inScope {body : Act Unit} (h : body.Sound) : Sound (inScope body) := by
  intro f e
  refine (h f).bind Request.leavesScope_calls (fun _ _ _ => trivial) fun r e hr => ?_
  exact ⟨⟨trivial, fun _ => ⟨trivial, trivial⟩⟩, fun _ => hr⟩

theorem sound_drain {body : Act Unit} (h : body.Sound) (fuel : Nat) : Sound (drain body fuel) := by
  induction fuel with
  | zero => exact fun _ => trivial
  | succ fuel ih =>
    refine sound_get fun f => ?_
    rcases f.node.shift with ⟨_ | e, n⟩
    · exact sound_pure ()
    · exact sound_bind (sound_setNode n) fun _ => sound_bind (sound_push e) fun _ =>
        sound_bind h fun _ => ih

/-! ### The handler for every node -/

theorem processAll_propagates {U : Request → Prop} (hU : ¬ U .process ∧ ¬ U .rewrite)
    (es : List Element) : (Code.processAll es : Code σ _).Propagates U fun r => failure? r.1 := by
  induction es with
  | nil => trivial
  | cons e es ih =>
    have next (v : Element) :
        ((Code.processAll es : Code σ _).bind fun r =>
          .done (r.1.map (v :: ·), r.2)).Propagates U fun r => failure? r.1 := by
      refine ih.bind hU (fun _ _ => trivial) ?_
      rintro ⟨r, left⟩ e he
      rw [show r = .error e from eq_error_of_failure he]
      exact .done rfl
    cases e with
    | atom a => exact next (.atom a)
    | node n =>
      rintro ⟨_ | v, rest⟩
      · exact ⟨fun e he => .done he, fun _ => trivial⟩
      · exact ⟨fun e he => (by cases he), fun _ => next v⟩

theorem dummy_propagates {U : Request → Prop} (hU : ¬ U .process ∧ ¬ U .rewrite) (n : Tree) :
    (Code.dummy n : Code σ _).Propagates U Reply.failure? := by
  refine (processAll_propagates hU n.elements).bind hU (fun _ _ => trivial) ?_
  rintro ⟨r, left⟩ e he
  rw [show r = .error e from eq_error_of_failure he]
  exact .done rfl

/-! ### Instructions -/

/-- What a call has come to: the node it left, and its result on the stack. -/
theorem sound_keep {x : Act Reply} (h : x.Propagates Reply.failure?) :
    Sound (do let r ← x; setNode r.rest; push (← attempt r.result)) :=
  propagates_bind h
    (fun r _ => sound_bind (sound_setNode r.rest) fun _ => sound_bind (sound_attempt _) sound_push)
    fun r e hr f => by
      have he : r.result = .error e := eq_error_of_failure hr
      rw [he]
      exact .done rfl

theorem sound_ofPlain (i : Instr) (hi : i ≠ .tryProcess) : Sound (ofPlain i) := by
  cases i with
  | tryProcess => exact absurd rfl hi
  | process =>
    exact sound_bind sound_pop fun e =>
      sound_attempt_bind (propagates_processElement e) fun _ => sound_push
  | processKeep =>
    refine sound_bind sound_pop fun e => ?_
    cases e with
    | atom a => exact sound_bind (sound_push _) fun _ => sound_push _
    | node n =>
      exact sound_attempt_bind (propagates_processNode n) fun _ v =>
        sound_bind (sound_push v) fun _ => sound_push _
  | processSelf => exact sound_get fun f => sound_keep (propagates_processNode f.node)
  | processRest => exact sound_get fun f => sound_processRest f.node.elements
  | rewrite =>
    refine sound_bind sound_pop fun e => ?_
    cases e with
    | atom a => exact sound_push _
    | node n => exact sound_attempt_bind (propagates_rewrite n) fun _ _ => sound_push _
  | dummy =>
    refine sound_get fun f => sound_keep fun g => ?_
    refine (dummy_propagates Request.leavesScope_calls f.node).bind Request.leavesScope_calls
      (fun _ _ => trivial) fun _ _ he => .done he
  | shift => exact sound_get fun _ => sound_bind (sound_setNode _) fun _ => sound_push _
  | shiftAtom | shiftNode =>
    exact sound_get fun _ => sound_bind (sound_attemptTree _) fun _ =>
      sound_bind (sound_setNode _) fun _ => sound_push _
  | clear | setLine line | replace old new => exact sound_get fun _ => sound_setNode _
  | clone | len | fields => exact sound_get fun _ => sound_push _
  | setTag tag =>
    exact sound_get fun _ => sound_bind (sound_attemptTree _) fun _ => sound_setNode _
  | field name => exact sound_get fun _ => sound_bind (sound_attemptTree _) fun _ => sound_push _
  | assertTag tag => exact sound_get fun _ => sound_attempt _
  | nodeAll tag => exact sound_get fun _ => sound_bind (sound_popMany _) fun _ => sound_push _
  | raise =>
    refine sound_get fun f => ?_
    cases f.given with
    | none => exact sound_pure ()
    | some e => exact sound_throw e
  | errorSnapshot =>
    refine sound_get fun f => ?_
    cases f.given.bind ProcessError.snapshot? with
    | none => exact sound_push _
    | some n => exact sound_push _
  | noteTop =>
    refine sound_get fun f => ?_
    cases f.stack with
    | nil => exact sound_addNote _
    | cons e es => exact sound_addNote _
  | append | unshift => exact sound_bind sound_pop fun _ => sound_get fun _ => sound_setNode _
  | setField name =>
    exact sound_bind sound_pop fun _ => sound_get fun _ =>
      sound_bind (sound_attemptTree _) fun _ => sound_setNode _
  | pop => exact sound_bind sound_pop fun _ => sound_pure ()
  | dup => exact sound_bind sound_pop fun e => sound_bind (sound_push e) fun _ => sound_push e
  | node tag count | group count => exact sound_bind (sound_popMany count) fun _ => sound_push _
  | arith tag =>
    exact sound_bind sound_pop fun _ => sound_bind sound_pop fun _ => sound_bind sound_pop fun _ =>
      sound_bind (sound_attempt _) fun _ => sound_push _
  | envSet name | envDefine name =>
    exact sound_bind sound_pop fun _ => sound_bind sound_getEnv fun _ => sound_setEnv _
  | localGet =>
    refine sound_bind sound_pop fun e => sound_bind sound_getEnv fun env => ?_
    cases e.name?.bind env.get? with
    | none => exact sound_throw _
    | some w => exact sound_push w
  | localSet =>
    refine sound_bind sound_pop fun w => sound_bind sound_pop fun e => ?_
    cases e.name? with
    | none => exact sound_throw _
    | some name =>
      exact sound_bind sound_getEnv fun _ => sound_bind (sound_setEnv _) fun _ => sound_push w
  | envGet name | envDepth | envAll => exact sound_bind sound_getEnv fun _ => sound_push _
  | envPush | envPop => exact sound_bind sound_getEnv fun _ => sound_setEnv _
  | context | notes | kind => exact sound_bind (fun _ _ => trivial) fun _ => sound_push _
  | parent =>
    refine sound_bind (fun _ _ => trivial) fun tags => ?_
    cases tags[1]? with
    | none => exact sound_push _
    | some tag => exact sound_push _
  | setConfig settings => exact sound_configure settings
  | note text => exact sound_addNote text
  | push e => exact sound_push e
  | fail tag message => exact sound_throw _
  | each body | ifTag tag yes no | ifTop e yes no | ifLen count yes no | scope body =>
    exact sound_pure ()

end Act

mutual

/-- Whether the instruction, or one inside it, goes on when a call has failed. -/
def Instr.tries : Instr → Bool
  | .tryProcess => true
  | .each body => Instr.anyTries body
  | .ifTag _ yes no => Instr.anyTries yes || Instr.anyTries no
  | .ifTop _ yes no => Instr.anyTries yes || Instr.anyTries no
  | .ifLen _ yes no => Instr.anyTries yes || Instr.anyTries no
  | .scope body => Instr.anyTries body
  | _ => false

def Instr.anyTries : List Instr → Bool
  | [] => false
  | i :: is => i.tries || Instr.anyTries is

end

namespace Act

mutual

theorem sound_ofInstr (limit : Nat) (i : Instr) (hi : i.tries = false) :
    Sound (ofInstr limit i) := by
  have plain : Sound (ofPlain i) := by
    refine sound_ofPlain i ?_
    rintro rfl
    cases hi
  cases i with
  | each body =>
    rw [Instr.tries] at hi
    exact sound_drain (sound_ofInstrs limit body hi) limit
  | ifTag tag yes no =>
    rw [Instr.tries, Bool.or_eq_false_iff] at hi
    refine sound_get fun f => ?_
    split
    · exact sound_ofInstrs limit yes hi.1
    · exact sound_ofInstrs limit no hi.2
  | ifTop e yes no =>
    rw [Instr.tries, Bool.or_eq_false_iff] at hi
    refine sound_get fun f => ?_
    split
    · split
      · exact sound_ofInstrs limit yes hi.1
      · exact sound_ofInstrs limit no hi.2
    · exact sound_ofInstrs limit no hi.2
  | ifLen count yes no =>
    rw [Instr.tries, Bool.or_eq_false_iff] at hi
    refine sound_get fun f => ?_
    split
    · exact sound_ofInstrs limit yes hi.1
    · exact sound_ofInstrs limit no hi.2
  | scope body =>
    rw [Instr.tries] at hi
    exact sound_inScope (sound_ofInstrs limit body hi)
  | _ => exact plain

theorem sound_ofInstrs (limit : Nat) (is : List Instr) (hi : Instr.anyTries is = false) :
    Sound (ofInstrs limit is) := by
  cases is with
  | nil => exact sound_pure ()
  | cons i is =>
    rw [Instr.anyTries, Bool.or_eq_false_iff] at hi
    exact sound_bind (sound_ofInstr limit i hi.1) fun _ => sound_ofInstrs limit is hi.2

end

end Act

namespace Script

def tries : Script → Bool
  | instrs code => Instr.anyTries code
  | dummy => false

theorem start_sound {code : List Instr} (hc : Instr.anyTries code = false) (f : Frame) :
    (start code f).Propagates Request.LeavesScope (Act.errorOf fun _ => none) :=
  Act.sound_bind (Act.sound_ofInstrs loopLimit code hc) (fun _ => Act.sound_pop) f

theorem handler_propagates (x : Script) (hx : x.tries = false) (n : Tree) :
    (x.handler n).Propagates Request.LeavesScope Reply.failure? := by
  cases x with
  | dummy => exact Act.dummy_propagates Request.leavesScope_calls n
  | instrs code =>
    refine (start_sound hx _).bind Request.leavesScope_calls (fun _ _ => trivial) ?_
    rintro ⟨_ | a, f⟩ e he
    · exact .done he
    · cases he

theorem rewriter_propagates (x : Script) (hx : x.tries = false) (n : Tree) :
    (x.rewriter n).Propagates Request.LeavesScope failure? := by
  cases x with
  | dummy => trivial
  | instrs code =>
    refine (start_sound hx _).bind Request.leavesScope_calls (fun _ _ => trivial) ?_
    rintro ⟨_ | a, f⟩ e he
    · exact .done he
    · cases he

end Script

/-- A registration of a handler or rewriter script that tries no call. -/
inductive Registration.Untrying : Registration Notes → Prop
  | handler (tag : String) (x : Script) (hx : x.tries = false) :
      Untrying (.handler tag x.handler)
  | rewriter (tag : String) (x : Script) (hx : x.tries = false) :
      Untrying (.rewriter tag x.rewriter)

/-- Scripts that try no call pass errors on. -/
theorem Registry.propagates_ofList {rs : List (Registration Notes)} (h : ∀ r ∈ rs, r.Untrying) :
    (Registry.ofList rs).Propagates Request.LeavesScope := by
  refine Registry.every_ofList fun r hr => ?_
  cases h r hr with
  | handler tag x hx => exact x.handler_propagates hx
  | rewriter tag x hx => exact x.rewriter_propagates hx

end TagDispatch
