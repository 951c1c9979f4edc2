import CommandBridge.Proofs.Session.Line
import CommandBridge.Socket.Move

/-!
# The life of one connection

All that may befall a connection, one act at a time, and a log of what its reader did: the
frames it looked at, the callbacks it ran, the errors it sent and how it left.
-/

set_option autoImplicit false

namespace CommandBridge

inductive ConnectionAct where
  | drop
  | move (now : Nat) (m : ConnectionMove)

inductive Departure where
  | rejected
  | closed
  | interrupted
  | ended
  | dropped
deriving DecidableEq

inductive ReaderEvent where
  | looked (text : String)
  | invoked (event : String) (data : Json)
  | returned (outcome : Outcome Unit)
  | reported (error : BridgeError)
  | left (cause : Departure)

def Inbound.frames (line : Inbound) : List String :=
  line.arrivals.filterMap fun a => match a with
    | .frame text => some text
    | _ => none

namespace Connection

variable {A : Application}

def act (w : A.World) (c : Connection A) : ConnectionAct → Connection A
  | .drop => (c.drop w).2
  | .move now m => ((c.move now w m).map Prod.snd).getD c

def frame? (handler : SocketHandler A) : SocketRequest → Option String
  | .event name (.json v) =>
    if Keyed.contains name handler.serverEvents then
      some (SocketEnvelope.text ⟨name, v.toTransportCase⟩)
    else none
  | .event _ (.unserializable _) => none
  | .error e => some (SocketEnvelope.ofError e).text
  | .close => none

theorem offerFrame_refused {o : Outbox String} (closed : o.isClosed = true) (k : Nat)
    (e : SocketEnvelope) : offerFrame o k e = .settled (o.leave k) (some (.closed .socket)) := by
  simp [offerFrame, Outbox.offer, closed]

theorem offerFrame_open {o : Outbox String} (going : o.isClosed = false) (k : Nat)
    (e : SocketEnvelope) :
    offerFrame o k e = match o.offer k e.text with
      | .refused o' => .settled o' none
      | .taken o' => .settled o' none
      | .queued o' => .queued o'
      | .blocked => .blocked := by
  rcases o.offer_cases k e.text with ⟨closed, -⟩ | ⟨-, -, -, he⟩ | ⟨-, -, he⟩ | ⟨-, -, -, he⟩
  · rw [going] at closed; cases closed
  all_goals simp [offerFrame, he]

theorem view_serves (handler : SocketHandler A) : Outbox.Serves (view handler) (frame? handler) where
  bare o k r h := by
    cases r with
    | event name data =>
      by_cases declared : Keyed.contains name handler.serverEvents = true
      · cases data with
        | json v => simp [frame?, declared] at h
        | unserializable reason =>
          exact ⟨o, _, by simp [view, push, declared]; rfl, rfl, rfl, rfl, id, fun j => id⟩
      · exact ⟨o, _, by simp [view, push, declared]; rfl, rfl, rfl, rfl, id, fun j => id⟩
    | error e => cases h
    | close => exact ⟨o.cancel, none, rfl, rfl, rfl, rfl, fun _ => rfl, fun j => id⟩
  refused o k r f h closed := by
    cases r with
    | event name data =>
      cases data with
      | json v =>
        by_cases declared : Keyed.contains name handler.serverEvents = true
        · exact ⟨_, by simp [view, push, declared, offerFrame_refused closed]; rfl⟩
        · simp [frame?, declared] at h
      | unserializable reason => cases h
    | error e => exact ⟨_, offerFrame_refused closed k _⟩
    | close => cases h
  offered o k r f h going := by
    cases r with
    | event name data =>
      cases data with
      | json v =>
        by_cases declared : Keyed.contains name handler.serverEvents = true
        · simp only [frame?, declared, if_true, Option.some.injEq] at h
          subst h
          simp only [view, push, declared, Bool.not_true, Bool.false_eq_true, if_false]
          rw [offerFrame_open going k ⟨name, v.toTransportCase⟩]
          cases o.offer k (SocketEnvelope.text ⟨name, v.toTransportCase⟩) <;> rfl
        · simp [frame?, declared] at h
      | unserializable reason => cases h
    | error e =>
      cases h
      change offerFrame o k (.ofError e) = _
      rw [offerFrame_open going k (.ofError e)]
      cases o.offer k (SocketEnvelope.ofError e).text <;> rfl
    | close => cases h

def settles (o : Outbox String) (e : BridgeError) : Bool :=
  match offerFrame o readerTicket (.ofError e) with
  | .settled .. => true
  | _ => false

def noteFrame (c : Connection A) (text : String) : List ReaderEvent :=
  if c.outbox.cancelled then [.left .closed]
  else
    match frameWork c.handler c.definitions text with
    | .callback event data _ => [.looked text, .invoked event data]
    | _ => [.looked text]

def noteMove (now : Nat) (c : Connection A) : ConnectionMove → List ReaderEvent
  | .release => if c.guardedWork?.isSome && c.outbox.cancelled then [.left .closed] else []
  | .work _ =>
    match c.reader with
    | .connecting (.reporting e) => if settles c.outbox e then [.left .rejected] else []
    | .handling (.running t) => ((t.outcome? A.socket).map ReaderEvent.returned).toList
    | .handling (.reporting e) => if settles c.outbox e then [.reported e] else []
    | _ => []
  | .arrive =>
    if c.guardedWork?.isSome && decide (c.backlog.length < c.outbox.capacity) then
      match c.inbound.next now with
      | .gone => [.left .interrupted]
      | _ => []
    else []
  | .listen =>
    match c.reader, c.backlog with
    | .listening, text :: _ => c.noteFrame text
    | .listening, [] =>
      if c.outbox.cancelled then [.left .closed]
      else
        match c.inbound.next now with
        | .frame text _ => c.noteFrame text
        | .gone => [.left .ended]
        | _ => []
    | _, _ => []
  | .write | .fork .. => []

def IsPast (c : Connection A) : Prop :=
  match c.reader with
  | .disconnecting .. | .ended => True
  | _ => False

instance (c : Connection A) : Decidable c.IsPast := by
  unfold IsPast
  split <;> infer_instance

def noteAct (c : Connection A) (log : List ReaderEvent) : ConnectionAct → List ReaderEvent
  | .drop => if c.IsPast then log else log ++ [.left .dropped]
  | .move now m => log ++ c.noteMove now m

end Connection
end CommandBridge
