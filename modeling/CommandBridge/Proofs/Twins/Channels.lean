import CommandBridge.Channel.Move
import CommandBridge.Proofs.Twins.Handlers

/-!
# Channels of twins

Channels are alike when everything about them is the same but the states of their handlers,
which are related, and the internal causes of the errors that they have yet to tell. Every move
of a channel and everything that is done to it keeps them alike: when a move is open, where it
leads and what the subscription gets depend on nothing else.
-/

set_option autoImplicit false

open scoped Relator

namespace CommandBridge

/-- The same outbox, but that its frames are only related. -/
structure Outbox.Alike {F : Type} (Frame : F → F → Prop) (o o' : Outbox F) : Prop where
  capacity : o.capacity = o'.capacity
  queue : List.Forall₂ Frame o.queue o'.queue
  waiting : o.waiting = o'.waiting
  cancelled : o.cancelled = o'.cancelled
  receiving : o.receiving = o'.receiving

inductive Offer.Alike {F : Type} (Frame : F → F → Prop) : Offer F → Offer F → Prop where
  | refused {o o' : Outbox F} (outbox : o.Alike Frame o') : Alike Frame (.refused o) (.refused o')
  | taken {o o' : Outbox F} (outbox : o.Alike Frame o') : Alike Frame (.taken o) (.taken o')
  | queued {o o' : Outbox F} (outbox : o.Alike Frame o') : Alike Frame (.queued o) (.queued o')
  | blocked : Alike Frame .blocked .blocked

namespace Outbox

variable {F : Type} {Frame : F → F → Prop} {o o' : Outbox F} {ticket : Nat}

theorem empty_alike (capacity : Nat) : (empty capacity).Alike Frame (empty capacity) :=
  ⟨rfl, .nil, rfl, rfl, rfl⟩

namespace Alike

theorem isClosed_eq (h : o.Alike Frame o') : o.isClosed = o'.isClosed := by
  simp only [isClosed, h.cancelled, h.receiving]

theorem leave (h : o.Alike Frame o') : (o.leave ticket).Alike Frame (o'.leave ticket) where
  capacity := h.capacity
  queue := h.queue
  waiting := congrArg (List.filter fun t => decide (t ≠ ticket)) h.waiting
  cancelled := h.cancelled
  receiving := h.receiving

theorem cancel (h : o.Alike Frame o') : o.cancel.Alike Frame o'.cancel :=
  { h with cancelled := rfl }

theorem offer (h : o.Alike Frame o') {f f' : F} (frames : Frame f f') :
    (o.offer ticket f).Alike Frame (o'.offer ticket f') := by
  unfold Outbox.offer
  apply ite_related (by rw [h.isClosed_eq])
  · exact .refused h.leave
  apply ite_related (by rw [isTurn, isTurn, h.waiting, h.capacity, h.queue.length_eq])
  · have left : (o.leave ticket).Alike Frame (o'.leave ticket) := h.leave
    exact .taken { left with queue := h.queue.concat frames }
  apply ite_related (by rw [h.waiting])
  · exact .blocked
  · exact .queued { h with waiting := congrArg (· ++ [ticket]) h.waiting }

theorem take? (h : o.Alike Frame o') :
    Option.Rel (Both Frame (Outbox.Alike Frame)) o.take? o'.take? := by
  unfold Outbox.take?
  match o.queue, o'.queue, h.queue with
  | _, _, .nil => exact .none
  | _, _, .cons first rest => exact .some ⟨first, { h with queue := rest }⟩

end Alike
end Outbox

/-- The same message, but for the internal cause of an error. -/
inductive ChannelMessage.Alike : ChannelMessage → ChannelMessage → Prop where
  | data (v : Json) : Alike (.data v) (.data v)
  | error {e e' : BridgeError} (error : e.Alike e') : Alike (.error e) (.error e')
  | close : Alike .close .close

inductive Received.Alike : Received → Received → Prop where
  | message {m m' : ChannelMessage} (message : m.Alike m') : Alike (.message m) (.message m')
  | pending : Alike .pending .pending
  | finished : Alike .finished .finished

section Channels

variable {W W' S S' : Type} {World : W → W' → Prop} {State : S → S' → Prop}

inductive Drive.Alike (State : S → S' → Prop) : Drive S → Drive S' → Prop where
  | idle : Alike State .idle .idle
  | running {t : Task S} {t' : Task S'} (task : t.Alike State t') :
      Alike State (.running t) (.running t')
  | ending {m m' : ChannelMessage} (last : m.Alike m') : Alike State (.ending m) (.ending m')
  | finished : Alike State .finished .finished

structure Channel.Alike (State : S → S' → Prop) (c : Channel S) (c' : Channel S') : Prop where
  command : c.command = c'.command
  phase : c.phase = c'.phase
  listed : c.listed = c'.listed
  parked : Option.Rel State c.parked c'.parked
  expiry : c.expiry = c'.expiry
  outbox : c.outbox.Alike ChannelMessage.Alike c'.outbox
  drive : c.drive.Alike State c'.drive
  forks : List.Forall₂ (Option.Rel (Task.Alike State)) c.forks c'.forks
  subscription : c.subscription = c'.subscription

namespace Channel

theorem create_alike (command : String) {s : S} {s' : S'} (states : State s s')
    (capacity expiry : Nat) :
    (create command s capacity expiry).Alike State (create command s' capacity expiry) where
  command := rfl
  phase := rfl
  listed := rfl
  parked := .some states
  expiry := rfl
  outbox := Outbox.empty_alike capacity
  drive := .idle
  forks := .nil
  subscription := rfl

theorem view_alike :
    (view.Alike (Outbox.Alike ChannelMessage.Alike) Eq view) where
  isClosed h := h.isClosed_eq
  push := by
    rintro o o' h ticket q _ rfl
    apply ite_related (by rw [h.cancelled])
    · exact .settled h.leave _
    cases q with
    | unserializable reason => exact .settled h _
    | json v =>
      dsimp only
      match o.offer ticket (.data v.toTransportCase), o'.offer ticket (.data v.toTransportCase),
        h.offer (.data v.toTransportCase) with
      | _, _, .refused outbox => exact .settled outbox _
      | _, _, .taken outbox => exact .settled outbox _
      | _, _, .queued outbox => exact .queued outbox
      | _, _, .blocked => exact .blocked

namespace Alike

variable {c : Channel S} {c' : Channel S'}

theorem advance (h : c.Alike State c') (next : Lifecycle) :
    (c.advance next).Alike State (c'.advance next) :=
  { h with phase := congrArg (Lifecycle.advance · next) h.phase }

theorem setOutbox (h : c.Alike State c') {o o' : Outbox ChannelMessage}
    (outbox : o.Alike ChannelMessage.Alike o') :
    ({ c with outbox := o } : Channel S).Alike State { c' with outbox := o' } :=
  { h with outbox := outbox }

theorem discard (h : c.Alike State c') : c.discard.Alike State c'.discard :=
  { (h.advance .closing).advance .closed with listed := rfl, parked := .none }

theorem expire (h : c.Alike State c') : c.expire.Alike State c'.expire := by
  have after : ({ c with expiry := none } : Channel S).Alike State { c' with expiry := none } :=
    { h with expiry := rfl }
  exact ite_related (by rw [after.listed, after.parked.isSome_eq]) after.discard after

theorem cancel (h : c.Alike State c') : c.cancel.Alike State c'.cancel := by
  exact ite_related (by rw [h.phase]) { h.advance .closing with outbox := h.outbox.cancel } h

theorem shut (h : c.Alike State c') : c.shut.Alike State c'.shut := by
  exact ite_related (by rw [h.listed]) h.cancel h

theorem attach (h : c.Alike State c') (id : String) :
    Except.Rel (Channel.Alike State) (c.attach id) (c'.attach id) := by
  apply ite_related (by rw [h.listed])
  · exact .error _
  match c.parked, c'.parked, h.parked with
  | _, _, .none => exact .error _
  | _, _, .some states =>
    exact .ok { h.advance .open with
      parked := .none, drive := .running (Task.at_alike states), subscription := rfl }

theorem close (h : c.Alike State c') (id : String) :
    Except.Rel (Channel.Alike State) (c.close id) (c'.close id) := by
  apply ite_related (by rw [h.listed])
  · exact .error _
  apply ite_related (by rw [h.parked.isSome_eq])
  · exact .ok h.discard
  · exact .ok h.cancel

theorem isSilent_eq (h : c.Alike State c') : c.isSilent = c'.isSilent := by
  unfold isSilent
  rw [h.forks.all_isNone_eq]
  match c.drive, c'.drive, h.drive with
  | _, _, .idle | _, _, .running _ | _, _, .ending _ | _, _, .finished => rfl

theorem deliver (h : c.Alike State c') {m m' : ChannelMessage} (messages : m.Alike m') :
    Both (Channel.Alike State) Received.Alike (c.deliver m) (c'.deliver m') := by
  have told : Received.Alike (.message m) (.message m') := .message messages
  cases messages with
  | data v => exact ⟨h, told⟩
  | error e =>
    exact ⟨{ h.advance .failed with
      outbox := h.outbox.cancel, listed := rfl, subscription := rfl }, told⟩
  | close =>
    exact ⟨{ (h.advance .closing).advance .closed with
      outbox := h.outbox.cancel, listed := rfl, subscription := rfl }, told⟩

theorem receive (h : c.Alike State c') :
    Both (Channel.Alike State) Received.Alike c.receive c'.receive := by
  apply ite_related (by rw [h.subscription])
  · exact ⟨h, .finished⟩
  apply ite_related (by rw [h.outbox.cancelled])
  · exact h.deliver .close
  match c.outbox.take?, c'.outbox.take?, h.outbox.take? with
  | _, _, .none =>
    apply ite_related (by rw [h.isSilent_eq])
    · exact h.deliver (.error rfl)
    · exact ⟨h, .pending⟩
  | _, _, .some next => exact (h.setOutbox next.2).deliver next.1

theorem drop (h : c.Alike State c') : c.drop.Alike State c'.drop := by
  apply ite_related (by rw [h.subscription])
  · exact h
  · have cancelled := h.outbox.cancel
    exact { (h.advance .closing).advance .closed with
      outbox := { cancelled with receiving := rfl }, listed := rfl, subscription := rfl }

theorem lastMessage_alike {o o' : Outcome Unit} (h : o.Alike o') :
    (lastMessage o).Alike (lastMessage o') := by
  cases h with
  | done => exact .close
  | failed error => exact .error (error.toBridgeError _)
  | panicked => exact .error rfl

theorem phaseOf_eq {m m' : ChannelMessage} (h : m.Alike m') : phaseOf m = phaseOf m' := by
  cases h <;> rfl

theorem conclude (h : c.Alike State c') {o o' : Outcome Unit} (outcomes : o.Alike o') :
    (c.conclude o).Alike State (c'.conclude o') := by
  have last := lastMessage_alike outcomes
  have phases := phaseOf_eq last
  apply ite_related (by rw [h.phase, phases])
  · rw [phases]
    exact { h.advance _ with drive := .ending last }
  · exact { h with drive := .finished }

variable {b : Behaviour W (Outlet W Payload S) Unit S} {b' : Behaviour W' (Outlet W' Payload S') Unit S'}
  (behaviours : Behaviour.Alike World State (Outlet.Alike World State Eq) b b') {w : W} {w' : W'}
  (worlds : World w w') {now : Nat} {pick : Alternative}
include behaviours worlds

theorem driveStep (h : c.Alike State c') :
    Option.Rel (Both World (Channel.Alike State)) (c.driveStep b now pick w)
      (c'.driveStep b' now pick w') := by
  unfold Channel.driveStep
  match c.drive, c'.drive, h.drive with
  | _, _, .idle => exact .none
  | _, _, .finished => exact .none
  | _, _, .running task =>
    apply (Task.clientStep_alike behaviours view_alike worlds h.outbox task).map
    rintro ⟨u, o, turn⟩ ⟨u', o', turn'⟩ ⟨world, outbox, turns⟩
    cases turns with
    | onward task => exact ⟨world, { h with outbox := outbox, drive := .running task }⟩
    | forked start task =>
      exact ⟨world, { h with
        outbox := outbox, drive := .running task
        forks := h.forks.concat (.some (Task.at_alike start)) }⟩
    | ended outcome => exact ⟨world, (h.setOutbox outbox).conclude outcome⟩
  | .ending m, .ending m', .ending last =>
    dsimp only
    match c.outbox.offer driveTicket m, c'.outbox.offer driveTicket m', h.outbox.offer last with
    | _, _, .refused outbox => exact .some ⟨worlds, { h with outbox := outbox, drive := .finished }⟩
    | _, _, .taken outbox => exact .some ⟨worlds, { h with outbox := outbox, drive := .finished }⟩
    | _, _, .queued outbox => exact .some ⟨worlds, { h with outbox := outbox, drive := .ending last }⟩
    | _, _, .blocked => exact .none

theorem forkStep (h : c.Alike State c') (index : Nat) :
    Option.Rel (Both World (Channel.Alike State)) (c.forkStep b now index pick w)
      (c'.forkStep b' now index pick w') := by
  unfold Channel.forkStep
  match c.forks[index]?, c'.forks[index]?, h.forks.getElem? index with
  | _, _, .none => exact .none
  | _, _, .some .none => exact .none
  | _, _, .some (.some task) =>
    apply (Task.clientStep_alike behaviours view_alike worlds h.outbox task).map
    rintro ⟨u, o, turn⟩ ⟨u', o', turn'⟩ ⟨world, outbox, turns⟩
    cases turns with
    | onward task =>
      exact ⟨world, { h with outbox := outbox, forks := h.forks.set index (.some task) }⟩
    | forked start task =>
      exact ⟨world, { h with
        outbox := outbox
        forks := (h.forks.set index (.some task)).concat (.some (Task.at_alike start)) }⟩
    | ended _ => exact ⟨world, { h with outbox := outbox, forks := h.forks.set index .none }⟩

theorem releaseStep (h : c.Alike State c') :
    Option.Rel (Both World (Channel.Alike State)) (c.releaseStep b w) (c'.releaseStep b' w') := by
  apply ite_related (by rw [h.outbox.cancelled])
  · match c.drive, c'.drive, h.drive with
    | _, _, .idle => exact .none
    | _, _, .finished => exact .none
    | _, _, .running task =>
      exact .some ⟨behaviours.release task.state worlds,
        { h with drive := .finished, outbox := h.outbox.leave }⟩
    | _, _, .ending _ => exact .some ⟨worlds, { h with drive := .finished, outbox := h.outbox.leave }⟩
  · exact .none

/-- The moves of channels that are alike are open together and lead to channels alike. -/
theorem move (h : c.Alike State c') (m : ChannelMove) :
    Option.Rel (Both World (Channel.Alike State)) (c.move b now w m) (c'.move b' now w' m) := by
  cases m with
  | expire =>
    simp only [Channel.move, h.expiry]
    cases c'.expiry with
    | none => exact .none
    | some due => exact ite_related Iff.rfl (.some ⟨worlds, h.expire⟩) .none
  | release => exact h.releaseStep behaviours worlds
  | drive pick => exact h.driveStep behaviours worlds
  | fork index pick => exact h.forkStep behaviours worlds index

end Alike
end Channel
end Channels
end CommandBridge
