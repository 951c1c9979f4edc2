import CommandBridge.Proofs.Bridge.Calls
import CommandBridge.Proofs.Dispatch.Answer
import CommandBridge.Proofs.Dispatch.Resolution
import CommandBridge.Script.Application

/-!
# One answer to a call

A call that is refused is answered at once, and no handler hears of it. Any other runs the handler
of its command once, from the state that the arguments give, and is answered when the handler
ends, with what it came to. The answer stands from then on, and nothing but the call itself and
the world of the handlers changes on the way. Only a handler that panics while it is still being
entered leaves its caller without an answer.
-/

set_option autoImplicit false

namespace CommandBridge.Bridge

variable {A : Application} {b : Bridge A} {i : Nat} {c : CallProgress A} {r : Registry A}
  {name : String} {payload : Json}

inductive CallEvent (A : Application) where
  | begun (state : A.Call)
  | ended (state : A.Call)

def CallProgress.opening : CallProgress A → List (CallEvent A)
  | .running _ t => [.begun t.state]
  | _ => []

def CallProgress.events : CallProgress A → CallProgress A → List (CallEvent A)
  | .running _ _, .running _ _ => []
  | .running _ t, _ => [.ended t.state]
  | _, .running _ t => [.begun t.state]
  | _, _ => []

def callRecords (A : Application) :
    Sessions A (CallProgress A) (A.World × Nat × Alternative) (List (CallEvent A)) where
  all := Bridge.calls
  seen? b i a := (b.callAct? i a).map fun x => (b.world, x)
  act _ c x := CallProgress.act x.1 c x.2
  note c l x := l ++ CallProgress.events c (CallProgress.act x.1 c x.2)
  Fresh c := ∃ r name payload, c = begunCall r name payload
  changed h a := by
    rw [act_call h a, Option.map_map]
    rfl
  added := act_fresh

def callOpening (i : Nat) (b : Bridge A) : List (CallEvent A) :=
  (b.calls[i]?.map CallProgress.opening).getD []

def callLog (i : Nat) (b : Bridge A) (acts : List (Act A)) : List (CallEvent A) :=
  (callRecords A).history i b acts (b.callOpening i)

inductive CallCourse (r : Registry A) (name : String) (payload : Json) :
    CallProgress A → List (CallEvent A) → Prop where
  | refused {e : BridgeError} (invoked : r.invocation name payload = .error e) :
      CallCourse r name payload (.answered (.error e)) []
  | running {v : Invocation A} {t : Task A.Call} (invoked : r.invocation name payload = .ok v)
      (descends : CallDescends A v.start t.state) :
      CallCourse r name payload (.running v.mode t) [.begun v.start]
  | answered {v : Invocation A} {s : A.Call} {outcome : Outcome Payload}
      (invoked : r.invocation name payload = .ok v) (descends : CallDescends A v.start s)
      (finished : A.call.next s = .finish outcome) (caught : uncaught? v.mode s outcome = none) :
      CallCourse r name payload (.answered (v.mode.answer outcome)) [.begun v.start, .ended s]
  | escaped {v : Invocation A} {s : A.Call} {outcome : Outcome Payload} {p : Panic}
      (invoked : r.invocation name payload = .ok v) (descends : CallDescends A v.start s)
      (finished : A.call.next s = .finish outcome) (uncaught : uncaught? v.mode s outcome = some p) :
      CallCourse r name payload (.escaped p) [.begun v.start, .ended s]

theorem callCourse_begunCall (r : Registry A) (name : String) (payload : Json) :
    CallCourse r name payload (begunCall r name payload)
      (CallProgress.opening (begunCall r name payload)) := by
  unfold begunCall
  split
  · next v invoked => exact .running (t := Task.at v.start) invoked .refl
  · next e invoked => exact .refused invoked

theorem CallProgress.events_self (c : CallProgress A) : CallProgress.events c c = [] := by
  cases c <;> rfl

theorem CallCourse.act {log : List (CallEvent A)} (h : CallCourse r name payload c log)
    (w : A.World) (x : Nat × Alternative) :
    CallCourse r name payload (CallProgress.act w c x)
      (log ++ CallProgress.events c (CallProgress.act w c x)) := by
  obtain same | ⟨mode, t, rfl, ⟨t', e, next⟩ | ⟨outcome, finished, e⟩⟩ := CallProgress.act_cases w c x
  · rw [same, CallProgress.events_self, List.append_nil]
    exact h
  · rw [e]
    cases h with | running invoked descends =>
    exact .running invoked (descends.trans next)
  · rw [e]
    cases h with | running invoked descends =>
    unfold CallProgress.ended
    split
    · next p uncaught => exact .escaped invoked descends finished uncaught
    · next caught => exact .answered invoked descends finished caught

/-- A call just begun comes to the end of its course, or as far as the run takes it. -/
theorem callCourse_run (b : Bridge A) (name : String) (payload : Json) (acts : List (Act A)) :
    let begun := b.act (.call name payload)
    ∃ c, (begun.run acts).calls[b.calls.length]? = some c ∧
      CallCourse b.registry name payload c (callLog b.calls.length begun acts) := by
  intro begun
  have there : begun.calls[b.calls.length]? = some (begunCall b.registry name payload) :=
    List.getElem?_concat_length
  have opening : begun.callOpening b.calls.length =
      CallProgress.opening (begunCall b.registry name payload) := by
    simp [callOpening, there]
  unfold callLog
  rw [opening]
  exact Sessions.history_kept (s := callRecords A) (P := CallCourse b.registry name payload)
    (fun _ _ _ x h => h.act x.1 x.2) acts there (callCourse_begunCall ..)

theorem answer?_of_answered {answer : Except BridgeError Json}
    (there : b.calls[i]? = some (.answered answer)) : b.answer? i = some answer := by
  simp [answer?, there]

theorem answered_of_answer? {answer : Except BridgeError Json} (h : b.answer? i = some answer) :
    b.calls[i]? = some (.answered answer) := by
  unfold answer? at h
  split at h
  · next found =>
    cases h
    exact found
  · cases h

/-- A call that is answered with a value is answered with what its handler came to, in transport
case. -/
theorem CallOf.value {v : Json} (h : CallOf r name payload (.answered (.ok v))) :
    ∃ i s u, r.invocation name payload = .ok i ∧ CallDescends A i.start s ∧
      A.call.next s = .finish (.done (.json u)) ∧ v = u.toTransportCase := by
  generalize same : CallProgress.answered (A := A) (.ok v) = c at h
  cases h with
  | refused | running | escaped => cases same
  | @answered i s outcome invoked descends finished =>
    obtain ⟨u, rfl, rfl⟩ := RunMode.answer_eq_ok.mp (CallProgress.answered.inj same).symm
    exact ⟨i, s, u, invoked, descends, finished, rfl⟩

theorem answer?_run {answer : Except BridgeError Json} (h : b.answer? i = some answer)
    (more : List (Act A)) : (b.run more).answer? i = some answer := by
  obtain ⟨c, there, rfl⟩ := Sessions.run_kept (s := callSessions A) (P := (· = .answered answer))
    (fun c w x same => by subst same; rfl) more (answered_of_answer? h) rfl
  exact answer?_of_answered there

theorem answer?_of_escaped {p : Panic} (there : b.calls[i]? = some (.escaped p))
    (more : List (Act A)) : (b.run more).answer? i = none := by
  obtain ⟨c, still, rfl⟩ := Sessions.run_kept (s := callSessions A) (P := (· = .escaped p))
    (fun c w x same => by subst same; rfl) more there rfl
  have still : (b.run more).calls[i]? = some (.escaped p) := still
  rw [answer?, still]

/-- What a call has come to whose handler ended there: an answer that reports the outcome, or none
for good when the outcome is a panic that nothing catches. -/
def CallSettled (b : Bridge A) (i : Nat) (mode : RunMode) (s : A.Call)
    (outcome : Outcome Payload) : Prop :=
  (uncaught? mode s outcome = none ∧
    ∃ answer, b.answer? i = some answer ∧ Answers outcome answer) ∨
  ∃ p, uncaught? mode s outcome = some p ∧ b.calls[i]? = some (.escaped p) ∧
    ∀ more, (b.run more).answer? i = none

theorem settled_of_answered {mode : RunMode} {s : A.Call} {outcome : Outcome Payload}
    (there : b.calls[i]? = some (.answered (mode.answer outcome)))
    (caught : uncaught? mode s outcome = none) : b.CallSettled i mode s outcome :=
  .inl ⟨caught, _, answer?_of_answered there, mode.answers outcome⟩

theorem settled_of_escaped {mode : RunMode} {s : A.Call} {outcome : Outcome Payload} {p : Panic}
    (there : b.calls[i]? = some (.escaped p)) (uncaught : uncaught? mode s outcome = some p) :
    b.CallSettled i mode s outcome :=
  .inr ⟨p, uncaught, there, answer?_of_escaped there⟩

/-- A handler that has ended settles its call with the next step of the call. -/
theorem settled_of_finish {mode : RunMode} {t : Task A.Call} {outcome : Outcome Payload}
    (there : b.calls[i]? = some (.running mode t)) (finished : A.call.next t.state = .finish outcome)
    (pick : Alternative) : (b.act (.move (.call i pick))).CallSettled i mode t.state outcome := by
  have moved : (b.act (.move (.call i pick))).calls[i]? =
      some (CallProgress.ended mode t.state outcome) := by
    rw [act_call there]
    simp [callAct?, CallProgress.act, CallProgress.move, Task.step, finished]
  unfold CallProgress.ended at moved
  split at moved
  · next p uncaught => exact settled_of_escaped moved uncaught
  · next caught => exact settled_of_answered moved caught

/-- A step of a call touches that call and the world of the handlers. -/
theorem act_moveCall (b : Bridge A) (i : Nat) (pick : Alternative) :
    b.act (.move (.call i pick)) = b ∨ ∃ w c,
      b.act (.move (.call i pick)) = { b with world := w, calls := b.calls.set i c } := by
  simp only [act, move?]
  cases b.calls[i]?.bind fun c => CallProgress.move b.now pick b.world c with
  | none => exact .inl rfl
  | some after => exact .inr ⟨after.1, after.2, rfl⟩

/-- A call comes to no more than one answer. Its handler runs once when the registry in force gives its
command arguments, and never otherwise; the answer reports the refusal, or what the handler came to,
and changes no more. There is an answer when the handler has ended, unless it panicked where nothing
catches it: on the caller's stack, before it gave what is then run. On the way each step of the call
leaves everything but the call and the world as it was. -/
theorem answered_unless_uncaught {d : Declarations A} {registry : Registry A}
    (built : Registry.build d = .ok registry) (config : Config) (world : A.World) (files : FileTree)
    (before : List (Act A)) (name : String) (payload : Json) (acts : List (Act A)) :
    let b₀ := (start config registry world files).run before
    let i := b₀.calls.length
    let begun := b₀.act (.call name payload)
    let b := begun.run acts
    (∃ resolved, b₀.registry.Resolution name payload resolved ∧
      match resolved with
      | .error e => callLog i begun acts = [] ∧ b.answer? i = some (.error e)
      | .ok v =>
        (∃ t, callLog i begun acts = [.begun v.start] ∧ b.answer? i = none ∧
          b.calls[i]? = some (.running v.mode t) ∧ CallDescends A v.start t.state ∧
          ∀ outcome, A.call.next t.state = .finish outcome → ∀ pick,
            (b.act (.move (.call i pick))).CallSettled i v.mode t.state outcome) ∨
        ∃ last outcome, callLog i begun acts = [.begun v.start, .ended last] ∧
          CallDescends A v.start last ∧ A.call.next last = .finish outcome ∧
          b.CallSettled i v.mode last outcome) ∧
    (∀ answer, b.answer? i = some answer → ∀ more, (b.run more).answer? i = some answer) ∧
    (∃ c, begun = { b₀ with calls := b₀.calls ++ [c] }) ∧
    ∀ pick, b.act (.move (.call i pick)) = b ∨ ∃ w c,
      b.act (.move (.call i pick)) = { b with world := w, calls := b.calls.set i c } := by
  intro b₀ i begun b
  refine ⟨?_, fun answer told more => answer?_run told more, ⟨_, rfl⟩, b.act_moveCall i⟩
  have inForce : b₀.Built := built_run ⟨d, built⟩ before
  obtain ⟨_, built⟩ := inForce
  refine ⟨_, (Registry.checked_of_build built).resolution name payload, ?_⟩
  obtain ⟨c, there, course⟩ := callCourse_run b₀ name payload acts
  generalize callLog i begun acts = log at course ⊢
  cases course with
  | refused invoked =>
    rw [invoked]
    exact ⟨rfl, answer?_of_answered there⟩
  | @running v t invoked descends =>
    rw [invoked]
    refine .inl ⟨t, rfl, ?_, there, descends, fun outcome finished pick =>
      settled_of_finish there finished pick⟩
    unfold answer?
    rw [there]
  | @answered v last outcome invoked descends finished caught =>
    rw [invoked]
    exact .inr ⟨last, outcome, rfl, descends, finished, settled_of_answered there caught⟩
  | @escaped v last outcome p invoked descends finished uncaught =>
    rw [invoked]
    exact .inr ⟨last, outcome, rfl, descends, finished, settled_of_escaped there uncaught⟩

def fainting : Command Script.application where
  name := "faint"
  kind := .unary
  params := []
  returns := .unknown
  doc := none
  module := none
  handler := some (.unary .inline (Script.CallRun.start [.panic .opaqueValue]))

def fainted : Bridge Script.application :=
  (start .default ⟨[("faint", fainting)], [], .empty⟩ .empty .empty).act (.call "faint" .null)

theorem faint_is_answered :
    Registry.build ⟨[], [fainting], []⟩ = .ok ⟨[("faint", fainting)], [], .empty⟩ ∧
      callLog 0 fainted [.move (.call 0 .ready)] =
        [.begun ⟨[.panic .opaqueValue], ⟨[]⟩, []⟩, .ended ⟨[.panic .opaqueValue], ⟨[]⟩, []⟩] ∧
      ∀ more, ((fainted.run [.move (.call 0 .ready)]).run more).answer? 0 =
        some (.error (.of .executionError "handler panicked")) := by
  have built : Registry.build ⟨[], [fainting], []⟩ = .ok ⟨[("faint", fainting)], [], .empty⟩ := rfl
  obtain ⟨-, stands, -⟩ := answered_unless_uncaught built .default .empty .empty [] "faint" .null
    [.move (.call 0 .ready)]
  exact ⟨built, rfl, stands _ rfl⟩

def hasty : Application where
  World := Unit
  Call := Unit
  Stream := Empty
  Socket := Empty
  call := ⟨fun _ => .finish (.panicked (.text "early")), fun _ w => w⟩
  stream := ⟨Empty.elim, fun _ w => w⟩
  socket := ⟨Empty.elim, fun _ w => w⟩
  entering _ := true

def rash : Command hasty where
  name := "rash"
  kind := .unary
  params := []
  returns := .null
  doc := none
  module := none
  handler := some (.unary .inline fun _ => ())

/-- A call that the registry accepts has no answer, and never will have one. -/
theorem rash_is_unanswered :
    Registry.build ⟨[], [rash], []⟩ = .ok ⟨[("rash", rash)], [], .empty⟩ ∧
      Registry.invocation ⟨[("rash", rash)], [], .empty⟩ "rash" .null = .ok ⟨.inline, ()⟩ ∧
      let b : Bridge hasty := (start .default ⟨[("rash", rash)], [], .empty⟩ () .empty).run
        [.call "rash" .null, .move (.call 0 .ready)]
      b.calls[0]? = some (.escaped (.text "early")) ∧ ∀ more, (b.run more).answer? 0 = none := by
  exact ⟨rfl, rfl, rfl, answer?_of_escaped rfl⟩

end CommandBridge.Bridge
