import CommandBridge.Handler.Turn
import CommandBridge.Proofs.Twins.Related

/-!
# Applications that differ in their internal errors

Two errors are alike when nobody who is kept from internal causes can tell them apart. Two
applications are twins when some relation between their worlds and between their states is
kept by whatever their handlers do: related states ask for the same, and only the errors by
which they fail, or which they send, need be no more than alike. One step of a handler then
keeps the relation.
-/

set_option autoImplicit false

open scoped Relator

namespace CommandBridge

/-- Told without their internal causes, the errors are the same. -/
def BridgeError.Alike (e e' : BridgeError) : Prop := e.redact false = e'.redact false

/-- The same failure, or two internal ones. -/
inductive CommandError.Alike : CommandError → CommandError → Prop where
  | same (e : CommandError) : Alike e e
  | internal (message message' : String) (details details' : Option Json) :
      Alike ⟨some .internalError, message, details⟩ ⟨some .internalError, message', details'⟩

namespace BridgeError

theorem alike_iff {e e' : BridgeError} :
    e.Alike e' ↔ e = e' ∨ e.code = .internalError ∧ e'.code = .internalError := by
  unfold Alike redact
  by_cases first : e.code = .internalError <;> by_cases second : e'.code = .internalError
  · simp [first, second]
  · simp only [first, second, true_and, if_true, if_false, false_and, and_false, or_false]
    constructor
    · intro same
      exact absurd (congrArg code same).symm second
    · rintro rfl
      exact absurd first second
  · simp only [first, second, true_and, if_true, if_false, false_and, or_false]
    constructor
    · intro same
      exact absurd (congrArg code same) first
    · rintro rfl
      exact absurd second first
  · simp [first, second]

theorem Alike.code_eq {e e' : BridgeError} (h : e.Alike e') : e.code = e'.code := by
  rcases alike_iff.mp h with rfl | ⟨first, second⟩
  · rfl
  · exact first.trans second.symm

theorem Alike.status_eq {e e' : BridgeError} (h : e.Alike e') : e.status = e'.status := by
  simp only [status, h.code_eq]

end BridgeError

theorem CommandError.Alike.toBridgeError {e e' : CommandError} (h : e.Alike e')
    (default : ErrorCode) : (e.toBridgeError default).Alike (e'.toBridgeError default) := by
  cases h with
  | same => rfl
  | internal => rfl

/-- The same end, but for the internal cause of a failure. -/
inductive Outcome.Alike {Res : Type} : Outcome Res → Outcome Res → Prop where
  | done (result : Res) : Alike (.done result) (.done result)
  | failed {e e' : CommandError} (error : e.Alike e') : Alike (.failed e) (.failed e')
  | panicked (panic : Panic) : Alike (.panicked panic) (.panicked panic)

section Behaviours

variable {W W' S S' Out Out' Req Req' Res : Type} (World : W → W' → Prop) (State : S → S' → Prop)
  (Request : Out → Out' → Prop)

structure Alarm.Alike (a : Alarm S) (a' : Alarm S') : Prop where
  delay : a.delay = a'.delay
  next : State a.next a'.next

/-- The same demand, made of related worlds and followed by related states. -/
inductive Action.Alike : Action W Out Res S → Action W' Out' Res S' → Prop where
  | finish {o o' : Outcome Res} (outcome : o.Alike o') : Alike (.finish o) (.finish o')
  | update {f : W → W × S} {f' : W' → W' × S'} (step : (World ⇒ Both World State) f f') :
      Alike (.update f) (.update f')
  | clock {n : Nat → S} {n' : Nat → S'} (next : ∀ now, State (n now) (n' now)) :
      Alike (.clock n) (.clock n')
  | wait {a : Option (Alarm S)} {a' : Option (Alarm S')} {r : W → Option (W × S)}
      {r' : W' → Option (W' × S')} (alarm : Option.Rel (Alarm.Alike State) a a')
      (ready : (World ⇒ Option.Rel (Both World State)) r r') : Alike (.wait a r) (.wait a' r')
  | client {q : Out} {q' : Out'} (request : Request q q') : Alike (.client q) (.client q')

/-- The same request to the client, followed by related states. -/
inductive Outlet.Alike (Pushed : Req → Req' → Prop) : Outlet W Req S → Outlet W' Req' S' → Prop where
  | push {q : Req} {q' : Req'} {n : Option SendError → S} {n' : Option SendError → S'}
      (request : Pushed q q') (next : ∀ failure, State (n failure) (n' failure)) :
      Alike Pushed (.push q n) (.push q' n')
  | probe {n : Bool → S} {n' : Bool → S'} (next : ∀ closed, State (n closed) (n' closed)) :
      Alike Pushed (.probe n) (.probe n')
  | fork {s n : S} {s' n' : S'} (task : State s s') (next : State n n') :
      Alike Pushed (.fork s n) (.fork s' n')
  | waitClosed {s : S} {s' : S'} {a : Option (Alarm S)} {a' : Option (Alarm S')}
      {r : W → Option (W × S)} {r' : W' → Option (W' × S')} (closed : State s s')
      (alarm : Option.Rel (Alarm.Alike State) a a')
      (ready : (World ⇒ Option.Rel (Both World State)) r r') :
      Alike Pushed (.waitClosed s a r) (.waitClosed s' a' r')

structure Behaviour.Alike (b : Behaviour W Out Res S) (b' : Behaviour W' Out' Res S') : Prop where
  next : (State ⇒ Action.Alike World State Request) b.next b'.next
  release : (State ⇒ World ⇒ World) b.release b'.release

end Behaviours

/-- The same request of a socket handler, but for the internal cause of an error. -/
inductive SocketRequest.Alike : SocketRequest → SocketRequest → Prop where
  | event (name : String) (data : Payload) : Alike (.event name data) (.event name data)
  | error {e e' : BridgeError} (error : e.Alike e') : Alike (.error e) (.error e')
  | close : Alike .close .close

structure Twins (A B : Application) where
  World : A.World → B.World → Prop
  Call : A.Call → B.Call → Prop
  Stream : A.Stream → B.Stream → Prop
  Socket : A.Socket → B.Socket → Prop
  call : Behaviour.Alike World Call Eq A.call B.call
  stream : Behaviour.Alike World Stream (Outlet.Alike World Stream Eq) A.stream B.stream
  socket : Behaviour.Alike World Socket (Outlet.Alike World Socket SocketRequest.Alike)
    A.socket B.socket
  entering : ∀ {s s'}, Call s s' → A.entering s = B.entering s'

section Steps

variable {W W' S S' C C' Req Req' Res : Type} {World : W → W' → Prop} {State : S → S' → Prop}
  {Client : C → C' → Prop} {Pushed : Req → Req' → Prop}

structure Task.Alike (State : S → S' → Prop) (t : Task S) (t' : Task S') : Prop where
  state : State t.state t'.state
  since : t.since = t'.since

inductive Turn.Alike (State : S → S' → Prop) : Turn S Res → Turn S' Res → Prop where
  | onward {t : Task S} {t' : Task S'} (task : t.Alike State t') : Alike State (.onward t) (.onward t')
  | forked {s : S} {s' : S'} {t : Task S} {t' : Task S'} (start : State s s')
      (task : t.Alike State t') : Alike State (.forked s t) (.forked s' t')
  | ended {o o' : Outcome Res} (outcome : o.Alike o') : Alike State (.ended o) (.ended o')

inductive Attempt.Alike (Client : C → C' → Prop) : Attempt C → Attempt C' → Prop where
  | settled {c : C} {c' : C'} (client : Client c c') (failure : Option SendError) :
      Alike Client (.settled c failure) (.settled c' failure)
  | queued {c : C} {c' : C'} (client : Client c c') : Alike Client (.queued c) (.queued c')
  | blocked : Alike Client .blocked .blocked

/-- Related clients take related requests in the same way. -/
structure ClientView.Alike (Client : C → C' → Prop) (Pushed : Req → Req' → Prop)
    (v : ClientView C Req) (v' : ClientView C' Req') : Prop where
  push : ∀ {c c'}, Client c c' → ∀ ticket {q q'}, Pushed q q' →
    Attempt.Alike Client (v.push c ticket q) (v'.push c' ticket q')
  isClosed : ∀ {c c'}, Client c c' → v.isClosed c = v'.isClosed c'

namespace Task

theorem at_alike {s : S} {s' : S'} (h : State s s') : (Task.at s).Alike State (Task.at s') := ⟨h, rfl⟩

variable {t : Task S} {t' : Task S'} {w : W} {w' : W'} {c : C} {c' : C'} {now ticket : Nat}
  {pick : Alternative}

theorem awaited_alike {since : Nat} {a : Option (Alarm S)} {a' : Option (Alarm S')}
    {r : W → Option (W × S)} {r' : W' → Option (W' × S')}
    (alarm : Option.Rel (Alarm.Alike State) a a')
    (ready : (World ⇒ Option.Rel (Both World State)) r r') (worlds : World w w') :
    Option.Rel (Both World State) (awaited now since pick a r w) (awaited now since pick a' r' w') := by
  cases pick with
  | ready => exact ready worlds
  | closed => exact .none
  | alarm =>
    cases alarm with
    | none => exact .none
    | @some a a' same =>
      simp only [awaited, same.delay]
      split
      · exact .some ⟨worlds, same.next⟩
      · exact .none

theorem waitStep_alike {a : Option (Alarm S)} {a' : Option (Alarm S')}
    {r : W → Option (W × S)} {r' : W' → Option (W' × S')}
    (alarm : Option.Rel (Alarm.Alike State) a a')
    (ready : (World ⇒ Option.Rel (Both World State)) r r') (worlds : World w w')
    (tasks : t.Alike State t') :
    Option.Rel (Both World (Turn.Alike State))
      (waitStep now pick a r w t : Option (W × Turn S Res)) (waitStep now pick a' r' w' t') := by
  unfold waitStep
  rw [← tasks.since]
  cases t.since with
  | none => exact .some ⟨worlds, .onward ⟨tasks.state, rfl⟩⟩
  | some since =>
    apply (awaited_alike alarm ready worlds).map
    intro _ _ next
    exact ⟨next.1, .onward (at_alike next.2)⟩

/-- Tasks that are alike take the same step without a client. -/
theorem step_alike {b : Behaviour W Empty Res S} {b' : Behaviour W' Empty Res S'}
    (h : Behaviour.Alike World State Eq b b') (worlds : World w w') (tasks : t.Alike State t') :
    Option.Rel (Both World (Turn.Alike State)) (t.step b now pick w) (t'.step b' now pick w') := by
  unfold step
  match b.next t.state, b'.next t'.state, h.next tasks.state with
  | _, _, .finish outcome => exact .some ⟨h.release tasks.state worlds, .ended outcome⟩
  | _, _, .update f => exact .some ⟨(f worlds).1, .onward (at_alike (f worlds).2)⟩
  | _, _, .clock next => exact .some ⟨worlds, .onward (at_alike (next now))⟩
  | _, _, .wait alarm ready => exact waitStep_alike alarm ready worlds tasks

theorem clientStep_alike {b : Behaviour W (Outlet W Req S) Res S}
    {b' : Behaviour W' (Outlet W' Req' S') Res S'} {v : ClientView C Req} {v' : ClientView C' Req'}
    (h : Behaviour.Alike World State (Outlet.Alike World State Pushed) b b')
    (views : v.Alike Client Pushed v') (worlds : World w w') (clients : Client c c')
    (tasks : t.Alike State t') :
    Option.Rel (Both World (Both Client (Turn.Alike State)))
      (t.clientStep b v now pick ticket w c) (t'.clientStep b' v' now pick ticket w' c') := by
  -- A wait leaves the client alone, with an end of listening among its alternatives or not.
  have waited {a : Option (Alarm S)} {a' : Option (Alarm S')} {r : W → Option (W × S)}
      {r' : W' → Option (W' × S')} (alarm : Option.Rel (Alarm.Alike State) a a')
      (ready : (World ⇒ Option.Rel (Both World State)) r r') :
      Option.Rel (Both World (Both Client (Turn.Alike State)))
        ((waitStep now pick a r w t : Option (W × Turn S Res)).map fun x => (x.1, c, x.2))
        ((waitStep now pick a' r' w' t').map fun x => (x.1, c', x.2)) := by
    apply (waitStep_alike alarm ready worlds tasks).map
    intro _ _ turn
    exact ⟨turn.1, clients, turn.2⟩
  unfold clientStep
  match b.next t.state, b'.next t'.state, h.next tasks.state with
  | _, _, .finish outcome => exact .some ⟨h.release tasks.state worlds, clients, .ended outcome⟩
  | _, _, .update f => exact .some ⟨(f worlds).1, clients, .onward (at_alike (f worlds).2)⟩
  | _, _, .clock next => exact .some ⟨worlds, clients, .onward (at_alike (next now))⟩
  | _, _, .wait alarm ready => exact waited alarm ready
  | .client (.push q n), .client (.push q' n'), .client (.push request next) =>
    dsimp only
    match v.push c ticket q, v'.push c' ticket q', views.push clients ticket request with
    | _, _, .settled client failure => exact .some ⟨worlds, client, .onward (at_alike (next failure))⟩
    | _, _, .queued client => exact .some ⟨worlds, client, .onward tasks⟩
    | _, _, .blocked => exact .none
  | _, _, .client (.probe next) =>
    simp only [views.isClosed clients]
    exact .some ⟨worlds, clients, .onward (at_alike (next _))⟩
  | _, _, .client (.fork task next) => exact .some ⟨worlds, clients, .forked task (at_alike next)⟩
  | _, _, .client (.waitClosed closed alarm ready) =>
    simp only [views.isClosed clients]
    rw [tasks.since]
    split
    · exact ite_related Iff.rfl (.some ⟨worlds, clients, .onward (at_alike closed)⟩) .none
    · exact waited alarm ready

end Task
end Steps
end CommandBridge
