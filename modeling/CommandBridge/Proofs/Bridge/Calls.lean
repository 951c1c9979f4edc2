import CommandBridge.Proofs.Bridge.Sessions
import CommandBridge.Proofs.Session.Descent

/-!
# The calls of a bridge

What each act on a bridge is to one of its unary calls: a step of its handler or nothing. A call
is begun by one registry, which finds the command, checks the arguments and gives the state in
which the handler starts; its answer is the refusal, or what the handler came to from there.
-/

set_option autoImplicit false

namespace CommandBridge.Bridge

variable {A : Application} {b : Bridge A} {i : Nat} {c d : CallProgress A} {r : Registry A}
  {name : String} {payload : Json}

def begunCall (r : Registry A) (name : String) (payload : Json) : CallProgress A :=
  match r.invocation name payload with
  | .ok i => .running i.mode (Task.at i.start)
  | .error e => .answered (.error e)

def CallDescends (A : Application) : A.Call → A.Call → Prop :=
  A.call.Descends Empty.elim

inductive CallOf (r : Registry A) (name : String) (payload : Json) : CallProgress A → Prop where
  | refused {e : BridgeError} (invoked : r.invocation name payload = .error e) :
      CallOf r name payload (.answered (.error e))
  | running {i : Invocation A} {t : Task A.Call} (invoked : r.invocation name payload = .ok i)
      (descends : CallDescends A i.start t.state) : CallOf r name payload (.running i.mode t)
  | answered {i : Invocation A} {s : A.Call} {outcome : Outcome Payload}
      (invoked : r.invocation name payload = .ok i) (descends : CallDescends A i.start s)
      (finished : A.call.next s = .finish outcome) (caught : uncaught? i.mode s outcome = none) :
      CallOf r name payload (.answered (i.mode.answer outcome))
  | escaped {i : Invocation A} {s : A.Call} {outcome : Outcome Payload} {p : Panic}
      (invoked : r.invocation name payload = .ok i) (descends : CallDescends A i.start s)
      (finished : A.call.next s = .finish outcome) (uncaught : uncaught? i.mode s outcome = some p) :
      CallOf r name payload (.escaped p)

theorem CallOf.ended {i : Invocation A} {s : A.Call} {outcome : Outcome Payload}
    (invoked : r.invocation name payload = .ok i) (descends : CallDescends A i.start s)
    (finished : A.call.next s = .finish outcome) :
    CallOf r name payload (CallProgress.ended i.mode s outcome) := by
  unfold CallProgress.ended
  split
  · next p uncaught => exact .escaped invoked descends finished uncaught
  · next caught => exact .answered invoked descends finished caught

theorem callOf_begunCall (r : Registry A) (name : String) (payload : Json) :
    CallOf r name payload (begunCall r name payload) := by
  unfold begunCall
  split
  · next i invoked => exact .running invoked .refl
  · next e invoked => exact .refused invoked

theorem CallProgress.move_cases {now : Nat} {pick : Alternative} {w w' : A.World}
    (moved : CallProgress.move now pick w c = some (w', d)) :
    ∃ mode t, c = .running mode t ∧
      ((∃ t', d = .running mode t' ∧ CallDescends A t.state t'.state) ∨
        ∃ outcome, A.call.next t.state = .finish outcome ∧
          d = CallProgress.ended mode t.state outcome) := by
  cases c with
  | answered | escaped => cases moved
  | running mode t =>
    obtain ⟨⟨w₁, turn⟩, step, e⟩ := Option.map_eq_some_iff.mp moved
    refine ⟨mode, t, rfl, ?_⟩
    cases turn with
    | onward t' =>
      cases e
      exact .inl ⟨t', rfl, Task.step_descends step _ List.mem_cons_self⟩
    | forked start t' =>
      cases e
      exact .inl ⟨t', rfl, Task.step_descends step _ (List.mem_cons_of_mem _ List.mem_cons_self)⟩
    | ended outcome =>
      cases e
      exact .inr ⟨outcome, Task.step_ended step, rfl⟩

/-- What an act on the bridge is to the call of number `i`: when, and which alternative it takes. -/
def callAct? (b : Bridge A) (i : Nat) : Act A → Option (Nat × Alternative)
  | .move (.call j pick) => if j = i then some (b.now, pick) else none
  | _ => none

def CallProgress.act (w : A.World) (c : CallProgress A) (x : Nat × Alternative) : CallProgress A :=
  ((CallProgress.move x.1 x.2 w c).map Prod.snd).getD c

theorem CallProgress.act_cases (w : A.World) (c : CallProgress A) (x : Nat × Alternative) :
    CallProgress.act w c x = c ∨ ∃ mode t, c = .running mode t ∧
      ((∃ t', CallProgress.act w c x = .running mode t' ∧ CallDescends A t.state t'.state) ∨
        ∃ outcome, A.call.next t.state = .finish outcome ∧
          CallProgress.act w c x = CallProgress.ended mode t.state outcome) := by
  unfold CallProgress.act
  cases moved : CallProgress.move x.1 x.2 w c with
  | none => exact .inl rfl
  | some after => exact .inr (CallProgress.move_cases moved)

/-- A step of its handler leaves a call to the registry that began it. -/
theorem CallOf.act (h : CallOf r name payload c) (w : A.World) (x : Nat × Alternative) :
    CallOf r name payload (CallProgress.act w c x) := by
  obtain same | ⟨mode, t, rfl, ⟨t', e, next⟩ | ⟨outcome, finished, e⟩⟩ := CallProgress.act_cases w c x
  · rwa [same]
  · rw [e]
    cases h with | running invoked descends =>
    exact .running invoked (descends.trans next)
  · rw [e]
    cases h with | running invoked descends =>
    exact .ended invoked descends finished

theorem act_call (h : b.calls[i]? = some c) (a : Act A) :
    (b.act a).calls[i]? = some (((b.callAct? i a).map (CallProgress.act b.world c)).getD c) := by
  obtain ⟨bound, -⟩ := List.getElem?_eq_some_iff.mp h
  have touched := b.act_touched a
  cases a with
  | call name payload => exact (List.getElem?_append_left bound).trans h
  | move m =>
    cases m with
    | call j pick =>
      simp only [act, move?, callAct?]
      by_cases same : j = i
      · subst same
        simp only [h, Option.bind_some, if_true, Option.map_some, Option.getD_some, CallProgress.act]
        cases CallProgress.move b.now pick b.world c with
        | none => exact h
        | some r => simp [bound]
      · simp only [if_neg same, Option.map_none, Option.getD_none]
        cases b.calls[j]?.bind fun c => CallProgress.move b.now pick b.world c with
        | none => exact h
        | some r => simpa [List.getElem?_set_ne same] using h
    | channel | connection => rw [touched.calls_eq (by simp [Act.part])]; exact h
  | _ => rw [touched.calls_eq (by simp [Act.part])]; exact h

/-- An act adds no call but one that the registry in force begins. -/
theorem act_calls (b : Bridge A) (a : Act A) :
    (b.act a).calls.length = b.calls.length ∨
      ∃ name payload, a = .call name payload ∧
        (b.act a).calls = b.calls ++ [begunCall b.registry name payload] := by
  have touched := b.act_touched a
  cases a with
  | call name payload => exact .inr ⟨name, payload, rfl, rfl⟩
  | move m =>
    cases m with
    | call j pick =>
      simp only [act, move?]
      cases b.calls[j]?.bind fun c => CallProgress.move b.now pick b.world c <;> simp
    | channel | connection => exact .inl (by rw [touched.calls_eq (by simp [Act.part])])
  | _ => exact .inl (by rw [touched.calls_eq (by simp [Act.part])])

theorem act_begun (h : b.calls[i]? = none) (a : Act A) (added : (b.act a).calls[i]? = some c) :
    ∃ name payload, a = .call name payload ∧ b.calls.length = i ∧
      c = begunCall b.registry name payload := by
  rcases b.act_calls a with same | ⟨name, payload, begins, e⟩
  · exact absurd added (getElem?_ne_some_of_length h same)
  · rw [e] at added
    exact ⟨name, payload, begins, length_of_getElem?_concat h added, eq_of_getElem?_concat h added⟩

theorem act_fresh (h : b.calls[i]? = none) (a : Act A) (added : (b.act a).calls[i]? = some c) :
    ∃ r name payload, c = begunCall r name payload := by
  obtain ⟨name, payload, -, -, same⟩ := act_begun h a added
  exact ⟨_, name, payload, same⟩

def callSessions (A : Application) : Sessions A (CallProgress A) (Nat × Alternative) Unit where
  all := Bridge.calls
  seen? := callAct?
  act := CallProgress.act
  note _ _ _ := ()
  Fresh c := ∃ r name payload, c = begunCall r name payload
  changed := act_call
  added := act_fresh

end CommandBridge.Bridge
