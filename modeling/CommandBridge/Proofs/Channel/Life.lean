import CommandBridge.Channel.Move
import CommandBridge.Proofs.Session.Line

/-!
# The life of one channel

All that may befall a channel, one act at a time, and an account of what its sender and its
subscription saw of it. `Channel.step` says once what an act can do; invariants of channels
are derived from it by cases.
-/

set_option autoImplicit false

namespace CommandBridge

inductive ChannelAct where
  | attach (id : String)
  | close (id : String)
  | shut
  | receive
  | drop
  | move (now : Nat) (m : ChannelMove)

/-- How the handler ended: what had been accepted by then, and whether the channel was
cancelled already. -/
structure Ending where
  outcome : Outcome Unit
  accepted : List Json
  cancelled : Bool

structure Account where
  accepted : List Json
  /-- What the subscription was given, in order; `none` stands for "nothing any more". -/
  returned : List (Option ChannelMessage)
  ending : Option Ending

namespace Account

def empty : Account := ⟨[], [], none⟩

def give (acc : Account) (m : Option ChannelMessage) : Account :=
  { acc with returned := acc.returned ++ [m] }

def accept (acc : Account) (vs : List Json) : Account :=
  { acc with accepted := acc.accepted ++ vs }

def conclude (acc : Account) (outcome : Outcome Unit) (cancelled : Bool) : Account :=
  { acc with ending := some ⟨outcome, acc.accepted, cancelled⟩ }

@[simp] theorem give_accepted (acc : Account) (m : Option ChannelMessage) :
    (acc.give m).accepted = acc.accepted := rfl

@[simp] theorem give_returned (acc : Account) (m : Option ChannelMessage) :
    (acc.give m).returned = acc.returned ++ [m] := rfl

@[simp] theorem give_ending (acc : Account) (m : Option ChannelMessage) :
    (acc.give m).ending = acc.ending := rfl

@[simp] theorem accept_accepted (acc : Account) (vs : List Json) :
    (acc.accept vs).accepted = acc.accepted ++ vs := rfl

@[simp] theorem accept_returned (acc : Account) (vs : List Json) :
    (acc.accept vs).returned = acc.returned := rfl

@[simp] theorem accept_ending (acc : Account) (vs : List Json) :
    (acc.accept vs).ending = acc.ending := rfl

@[simp] theorem accept_nil (acc : Account) : acc.accept [] = acc := by simp [accept]

@[simp] theorem conclude_accepted (acc : Account) (o : Outcome Unit) (x : Bool) :
    (acc.conclude o x).accepted = acc.accepted := rfl

@[simp] theorem conclude_returned (acc : Account) (o : Outcome Unit) (x : Bool) :
    (acc.conclude o x).returned = acc.returned := rfl

@[simp] theorem conclude_ending (acc : Account) (o : Outcome Unit) (x : Bool) :
    (acc.conclude o x).ending = some ⟨o, acc.accepted, x⟩ := rfl

end Account

namespace Channel

variable {W S : Type}

def act (b : Behaviour W (Outlet W Payload S) Unit S) (w : W) (c : Channel S) :
    ChannelAct → Channel S
  | .attach id => (c.attach id).toOption.getD c
  | .close id => (c.close id).toOption.getD c
  | .shut => c.shut
  | .receive => c.receive.1
  | .drop => c.drop
  | .move now m => ((c.move b now w m).map Prod.snd).getD c

/-- The value that the task's next step gets into the queue: one that it pushes, in transport
case, if the push goes through. -/
def accepted (b : Behaviour W (Outlet W Payload S) Unit S) (o : Outbox ChannelMessage)
    (ticket : Nat) (t : Task S) : List Json :=
  match t.pushes? b with
  | some (.json v) =>
    match view.push o ticket (.json v) with
    | .settled _ none => [v.toTransportCase]
    | _ => []
  | _ => []

def note (b : Behaviour W (Outlet W Payload S) Unit S) (c : Channel S) (acc : Account) :
    ChannelAct → Account
  | .receive =>
    if c.subscription = .live ∨ c.subscription = .complete then
      match c.receive.2 with
      | .message m => acc.give (some m)
      | .finished => acc.give none
      | .pending => acc
    else acc
  | .move _ (.drive _) =>
    match c.drive with
    | .running t =>
      match t.outcome? b with
      | some outcome => acc.conclude outcome c.outbox.cancelled
      | none => acc.accept (accepted b c.outbox driveTicket t)
    | _ => acc
  | .move _ (.fork index _) =>
    match c.forks[index]? with
    | some (some t) => acc.accept (accepted b c.outbox (index + 1) t)
    | _ => acc
  | _ => acc

def frame? : Payload → Option ChannelMessage
  | .json v => some (.data v.toTransportCase)
  | .unserializable _ => none

theorem view_serves : Outbox.Serves view frame? where
  bare o k r h := by
    cases r with
    | json v => cases h
    | unserializable reason =>
      by_cases c : o.cancelled = true
      · exact ⟨o.leave k, _, by simp [view, push, c]; rfl, rfl, rfl, rfl, id,
          fun j hj => (Outbox.mem_leave.mp hj).1⟩
      · exact ⟨o, _, by simp [view, push, c]; rfl, rfl, rfl, rfl, id, fun j hj => hj⟩
  refused o k r f h closed := by
    cases r with
    | json v =>
      cases h
      by_cases c : o.cancelled = true
      · exact ⟨_, by simp [view, push, c]; rfl⟩
      · exact ⟨_, by simp [view, push, c, Outbox.offer, closed]; rfl⟩
    | unserializable reason => cases h
  offered o k r f h closed := by
    cases r with
    | json v =>
      cases h
      have c : o.cancelled = false := by simp_all [Outbox.isClosed]
      obtain ⟨x, -⟩ | ⟨-, -, -, e⟩ | ⟨-, -, e⟩ | ⟨-, -, -, e⟩ :=
        o.offer_cases k (.data v.toTransportCase)
      · rw [closed] at x; cases x
      all_goals simp [view, push, c, e]
    | unserializable reason => cases h

theorem push_cancelled {o o' : Outbox ChannelMessage} {k : Nat} {v : Payload}
    {failure : Option SendError} (h : view.push o k v = .settled o' failure) :
    o'.cancelled = o.cancelled := by
  simp only [view, push] at h
  split at h
  · cases h; rfl
  split at h
  · cases h; rfl
  split at h
  · next e =>
    cases h
    obtain ⟨-, e'⟩ | ⟨-, -, -, e'⟩ | ⟨-, -, e'⟩ | ⟨-, -, -, e'⟩ := o.offer_cases k _ <;>
      rw [e'] at e <;> cases e
    rfl
  · next e =>
    cases h
    obtain ⟨-, e'⟩ | ⟨-, -, -, e'⟩ | ⟨-, -, e'⟩ | ⟨-, -, -, e'⟩ := o.offer_cases k _ <;>
      rw [e'] at e <;> cases e
    rfl
  · cases h
  · cases h

end Channel
end CommandBridge
