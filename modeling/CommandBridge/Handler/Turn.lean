import CommandBridge.Handler.Action

/-!
# One step of a task

A task does one thing its behaviour asks for and stops there, so that anything else may
happen before its next step. A wait first notes the time; later steps try one of its
alternatives each. A step that is not possible now is `none`.
-/

set_option autoImplicit false

namespace CommandBridge

inductive Turn (S Res : Type) where
  | onward (task : Task S)
  | forked (start : S) (task : Task S)
  | ended (outcome : Outcome Res)

inductive Attempt (C : Type) where
  | settled (client : C) (failure : Option SendError)
  | queued (client : C)
  | blocked

structure ClientView (C Req : Type) where
  push : C → Nat → Req → Attempt C
  isClosed : C → Bool

namespace Task

variable {W C Req Res S : Type}

def waitStep (now : Nat) (pick : Alternative) (alarm : Option (Alarm S))
    (ready : W → Option (W × S)) (w : W) (t : Task S) : Option (W × Turn S Res) :=
  match t.since with
  | none => some (w, .onward { t with since := some now })
  | some since => (awaited now since pick alarm ready w).map fun r => (r.1, .onward (Task.at r.2))

def step (b : Behaviour W Empty Res S) (now : Nat) (pick : Alternative) (w : W) (t : Task S) :
    Option (W × Turn S Res) :=
  match b.next t.state with
  | .finish outcome => some (b.release t.state w, .ended outcome)
  | .update f => some ((f w).1, .onward (Task.at (f w).2))
  | .clock next => some (w, .onward (Task.at (next now)))
  | .wait alarm ready => waitStep now pick alarm ready w t

def clientStep (b : Behaviour W (Outlet W Req S) Res S) (view : ClientView C Req) (now : Nat)
    (pick : Alternative) (ticket : Nat) (w : W) (c : C) (t : Task S) :
    Option (W × C × Turn S Res) :=
  match b.next t.state with
  | .finish outcome => some (b.release t.state w, c, .ended outcome)
  | .update f => some ((f w).1, c, .onward (Task.at (f w).2))
  | .clock next => some (w, c, .onward (Task.at (next now)))
  | .wait alarm ready => (waitStep now pick alarm ready w t).map fun r => (r.1, c, r.2)
  | .client (.push request next) =>
    match view.push c ticket request with
    | .settled c failure => some (w, c, .onward (Task.at (next failure)))
    | .queued c => some (w, c, .onward t)
    | .blocked => none
  | .client (.probe next) => some (w, c, .onward (Task.at (next (view.isClosed c))))
  | .client (.fork task next) => some (w, c, .forked task (Task.at next))
  | .client (.waitClosed closed alarm ready) =>
    match t.since, pick with
    | some _, .closed => if view.isClosed c then some (w, c, .onward (Task.at closed)) else none
    | _, _ => (waitStep now pick alarm ready w t).map fun r => (r.1, c, r.2)

def timer? {Out : Type} (alarmOf : Out → Option (Alarm S)) (b : Behaviour W Out Res S)
    (t : Task S) : Option Nat :=
  match b.next t.state with
  | .wait alarm _ => deadline? alarm t.since
  | .client request => deadline? (alarmOf request) t.since
  | _ => none

end Task

def Outlet.alarm? {W Req S : Type} : Outlet W Req S → Option (Alarm S)
  | .waitClosed _ alarm _ => alarm
  | _ => none

end CommandBridge
