import CommandBridge.Proofs.Channel.Step

/-!
# The history of one channel

What befell a channel, one event after another: what was asked of it, its attach timer, the
start and the end of its handler, and the end of its subscription. `passage` says once what an
act does to the table, the phase and the subscription, and as which event it is noted.
-/

set_option autoImplicit false

namespace CommandBridge

inductive ChannelEvent where
  | attached
  | closed
  | shut
  | expired
  | started
  | ended (outcome : Outcome Unit) (phase : Lifecycle)
  | told (message : ChannelMessage)
  | dropped

namespace ChannelEvent

def isAttached : ChannelEvent → Bool
  | attached => true
  | _ => false

def isStarted : ChannelEvent → Bool
  | started => true
  | _ => false

end ChannelEvent

def Drive.begins {S : Type} : Drive S → Drive S → Bool
  | .running _, _ => false
  | _, .running _ => true
  | _, _ => false

@[simp] theorem Drive.begins_self {S : Type} (d : Drive S) : d.begins d = false := by
  cases d <;> rfl

def FailedIn (phase : Lifecycle) (log : List ChannelEvent) : Prop :=
  ∃ outcome, .ended outcome phase ∈ log ∧ outcome ≠ .done ()

theorem failedIn_append {phase : Lifecycle} {log more : List ChannelEvent} :
    FailedIn phase (log ++ more) ↔ FailedIn phase log ∨ FailedIn phase more := by
  simp only [FailedIn, List.mem_append, or_and_right, exists_or]

namespace Channel

variable {W S : Type} {b : Behaviour W (Outlet W Payload S) Unit S}

def eventOf (b : Behaviour W (Outlet W Payload S) Unit S) (c : Channel S) :
    ChannelAct → List ChannelEvent
  | .attach id => if (c.attach id).isOk then [.attached] else []
  | .close _ => [.closed]
  | .shut => [.shut]
  | .receive =>
    match c.receive.2 with
    | .message m => if m.isTerminal then [.told m] else []
    | _ => []
  | .drop => if c.subscription = .live then [.dropped] else []
  | .move now .expire => if c.expiry.any fun due => decide (due ≤ now) then [.expired] else []
  | .move _ (.drive _) =>
    match c.drive with
    | .running t => ((t.outcome? b).map fun outcome => .ended outcome c.phase).toList
    | _ => []
  | .move _ _ => []

def starts (c d : Channel S) : List ChannelEvent :=
  if c.drive.begins d.drive then [.started] else []

def events (b : Behaviour W (Outlet W Payload S) Unit S) (w : W) (c : Channel S) (x : ChannelAct) :
    List ChannelEvent :=
  c.eventOf b x ++ c.starts (c.act b w x)

structure Still (c d : Channel S) : Prop where
  listed : d.listed = c.listed
  parked : d.parked = c.parked
  subscription : d.subscription = c.subscription
  phase : d.phase = c.phase
  cancelled : d.outbox.cancelled = c.outbox.cancelled
  idle : d.drive = .idle ↔ c.drive = .idle
  begins : c.drive.begins d.drive = false

theorem Still.refl (c : Channel S) : Still c c := by
  exact ⟨rfl, rfl, rfl, rfl, rfl, Iff.rfl, c.drive.begins_self⟩

inductive Passage (b : Behaviour W (Outlet W Payload S) Unit S) (c : Channel S) :
    Channel S → List ChannelEvent → Prop
  | still {d : Channel S} (still : Still c d) : Passage b c d []
  | attached {start : S} (listed : c.listed = true) (parked : c.parked = some start) :
      Passage b c { c.advance .open with
        parked := none, drive := .running (Task.at start), subscription := .live } [.attached]
  | expired (listed : c.listed = true) (parked : c.parked.isSome = true) :
      Passage b c { c.discard with expiry := none } [.expired]
  | overdue (late : ¬(c.listed = true ∧ c.parked.isSome = true)) :
      Passage b c { c with expiry := none } [.expired]
  | discarded (listed : c.listed = true) (parked : c.parked.isSome = true) :
      Passage b c c.discard [.closed]
  | cancelled (listed : c.listed = true) (taken : c.parked = none) : Passage b c c.cancel [.closed]
  | missed (gone : c.listed = false) : Passage b c c [.closed]
  | shut (listed : c.listed = true) : Passage b c c.cancel [.shut]
  | spared (gone : c.listed = false) : Passage b c c [.shut]
  /-- The subscription is given its terminal message: the channel was cancelled, the message was
  the oldest in the queue, or every task is gone. -/
  | told {o : Outbox ChannelMessage} {m : ChannelMessage} (live : c.subscription = .live)
      (terminal : m.isTerminal = true) (cancelled : o.cancelled = c.outbox.cancelled)
      (why : (c.outbox.cancelled = true ∧ m = .close) ∨
        (c.outbox.cancelled = false ∧ ((∃ rest, c.outbox.queue = m :: rest) ∨
          (c.outbox.queue = [] ∧ c.isSilent = true)))) :
      Passage b c ({ c with outbox := o }.complete m) [.told m]
  | dropped (live : c.subscription = .live) : Passage b c c.drop [.dropped]
  | ended {t : Task S} {outcome : Outcome Unit} (running : c.drive = .running t) :
      Passage b c (c.conclude outcome) [.ended outcome c.phase]

theorem passage_attach (c : Channel S) (id : String) (w : W) :
    Passage b c (c.act b w (.attach id)) (c.eventOf b (.attach id)) := by
  simp only [act, eventOf, Channel.attach]
  by_cases listed : c.listed = true
  · simp only [listed, Bool.not_true, Bool.false_eq_true, if_false]
    cases parked : c.parked with
    | none => exact .still (.refl c)
    | some start => exact .attached listed parked
  · simp only [listed, Bool.not_false, if_true]
    exact .still (.refl c)

theorem passage_close (c : Channel S) (id : String) (w : W) :
    Passage b c (c.act b w (.close id)) (c.eventOf b (.close id)) := by
  simp only [act, eventOf, Channel.close]
  by_cases listed : c.listed = true
  · simp only [listed, Bool.not_true, Bool.false_eq_true, if_false]
    by_cases parked : c.parked.isSome = true
    · rw [if_pos parked]
      exact .discarded listed parked
    · rw [if_neg parked]
      exact .cancelled listed (Option.not_isSome_iff_eq_none.mp parked)
  · simp only [listed, Bool.not_false, if_true]
    exact .missed (Bool.not_eq_true _ ▸ listed)

theorem passage_receive (c : Channel S) (w : W) :
    Passage b c (c.act b w .receive) (c.eventOf b .receive) := by
  have quiet {rest : List ChannelMessage} :
      Still c { c with outbox := { c.outbox with queue := rest } } :=
    { Still.refl c with }
  simp only [act, eventOf, receive]
  by_cases live : c.subscription = .live
  · rw [if_neg (not_not_intro live)]
    by_cases cancelled : c.outbox.cancelled = true
    · rw [if_pos cancelled]
      exact .told (o := c.outbox) live rfl rfl (.inl ⟨cancelled, rfl⟩)
    rw [if_neg cancelled]
    rw [Bool.not_eq_true] at cancelled
    cases taken : c.outbox.take? with
    | some r =>
      obtain ⟨m, o⟩ := r
      obtain ⟨rest, queue, rfl⟩ := Outbox.take?_eq_some.mp taken
      by_cases terminal : m.isTerminal = true
      · simp only [deliver, terminal, if_true]
        exact .told live terminal rfl (.inr ⟨cancelled, .inl ⟨rest, queue⟩⟩)
      · simp only [deliver, terminal, Bool.false_eq_true, if_false]
        exact .still quiet
    | none =>
      have queue := Outbox.take?_eq_none.mp taken
      by_cases silent : c.isSilent = true
      · simp only [silent, if_true, deliver, terminated, ChannelMessage.isTerminal]
        exact .told (o := c.outbox) live rfl rfl (.inr ⟨cancelled, .inr ⟨queue, silent⟩⟩)
      · simp only [silent, Bool.false_eq_true, if_false]
        exact .still (.refl c)
  · rw [if_pos live]
    exact .still (.refl c)

theorem passage_drop (c : Channel S) (w : W) :
    Passage b c (c.act b w .drop) (c.eventOf b .drop) := by
  simp only [act, eventOf]
  by_cases live : c.subscription = .live
  · rw [if_pos live]
    exact .dropped live
  · rw [Channel.drop, if_pos live, if_neg live]
    exact .still (.refl c)

theorem passage_expire (c : Channel S) (now : Nat) (w : W) :
    Passage b c (c.act b w (.move now .expire)) (c.eventOf b (.move now .expire)) := by
  simp only [act, move, eventOf]
  cases c.expiry with
  | none => exact .still (.refl c)
  | some due =>
    by_cases elapsed : due ≤ now
    · simp only [Option.any_some, elapsed, decide_true, if_true, Option.map_some,
        Option.getD_some, expire]
      by_cases alone : c.listed = true ∧ c.parked.isSome = true
      · rw [if_pos (by simpa using alone)]
        exact .expired alone.1 alone.2
      · rw [if_neg (by simpa using alone)]
        exact .overdue alone
    · simp only [Option.any_some, elapsed, decide_false, Bool.false_eq_true, if_false]
      exact .still (.refl c)

/-- A task that goes on, or the terminal message on its way, leaves the channel as it is. -/
theorem Still.of_onward {c : Channel S} {o : Outbox ChannelMessage} {drive : Drive S}
    (forks : List (Option (Task S))) (cancelled : o.cancelled = c.outbox.cancelled)
    (goesOn : GoesOn c.drive drive ∨ ∃ m, c.drive = .ending m ∧ drive = .finished) :
    Still c { c with outbox := o, drive := drive, forks := forks } := by
  refine ⟨rfl, rfl, rfl, rfl, cancelled, ?_, ?_⟩
  · rcases goesOn with (same | ⟨t, t', before, after⟩) | ⟨m, before, after⟩
    · rw [same]
    · simp [before, after]
    · simp [before, after]
  · rcases goesOn with (same | ⟨t, t', before, after⟩) | ⟨m, before, after⟩
    · rw [same, Drive.begins_self]
    · rw [before, after]; rfl
    · rw [before, after]; rfl

theorem eventOf_running {c : Channel S} {t : Task S} (running : c.drive = .running t) (now : Nat)
    (pick : Alternative) : c.eventOf b (.move now (.drive pick)) =
      ((t.outcome? b).map fun outcome => .ended outcome c.phase).toList := by
  simp only [eventOf, running]

theorem eventOf_not_running {c : Channel S} (idle : ¬∃ t, c.drive = .running t) (now : Nat)
    (pick : Alternative) : c.eventOf b (.move now (.drive pick)) = [] := by
  simp only [eventOf]
  split
  · next t running => exact absurd ⟨t, running⟩ idle
  · rfl

theorem passage_running {c : Channel S} {t : Task S} (running : c.drive = .running t) (now : Nat)
    (pick : Alternative) (w : W) :
    Passage b c (c.act b w (.move now (.drive pick))) (c.eventOf b (.move now (.drive pick))) := by
  rw [eventOf_running running]
  simp only [act, move, driveStep]
  split
  case h_2 e => rw [running] at e; cases e
  case h_3 ne _ => exact absurd running (ne t)
  next t' e =>
  obtain rfl : t = t' := by rw [running] at e; cases e; rfl
  cases h : t.clientStep b view now pick driveTicket w c.outbox with
  | none =>
    rw [Task.outcome?_of_clientStep_none h]
    exact .still (.refl c)
  | some r =>
    obtain ⟨w', o, turn⟩ := r
    have cancelled := (accepted_eq h).1
    have goesOn (t' : Task S) : GoesOn c.drive (.running t') := .inr ⟨t, t', running, rfl⟩
    rcases Task.clientStep_cases h with ⟨_, -, onward, ⟨_, t', -, rfl⟩ | ⟨-, rfl⟩⟩ |
      ⟨-, rfl, ⟨outcome, ends, rfl⟩ | ⟨onward, ⟨t', rfl⟩ | ⟨start, t', rfl⟩⟩⟩
    · rw [onward]
      exact .still (.of_onward c.forks cancelled (.inl (goesOn t')))
    · rw [onward]
      exact .still (.of_onward c.forks cancelled (.inl (goesOn t)))
    · rw [ends]
      exact .ended running
    · rw [onward]
      exact .still (.of_onward c.forks cancelled (.inl (goesOn t')))
    · rw [onward]
      exact .still (.of_onward _ cancelled (.inl (goesOn t')))

theorem passage_drive (c : Channel S) (now : Nat) (pick : Alternative) (w : W) :
    Passage b c (c.act b w (.move now (.drive pick))) (c.eventOf b (.move now (.drive pick))) := by
  by_cases running : ∃ t, c.drive = .running t
  · obtain ⟨t, running⟩ := running
    exact passage_running running now pick w
  rw [eventOf_not_running running]
  simp only [act, move, driveStep]
  split
  · next t e => exact absurd ⟨t, e⟩ running
  · next last ending =>
    have gone {o : Outbox ChannelMessage} (same : o.cancelled = c.outbox.cancelled) :
        Still c { c with outbox := o, drive := .finished } :=
      .of_onward c.forks same (.inr ⟨last, ending, rfl⟩)
    obtain ⟨-, e⟩ | ⟨-, -, -, e⟩ | ⟨-, -, e⟩ | ⟨-, -, -, e⟩ := c.outbox.offer_cases driveTicket last
    · rw [e]
      exact .still (gone (o := c.outbox.leave driveTicket) rfl)
    · rw [e]
      exact .still (gone (o := c.outbox.accept driveTicket last) rfl)
    · rw [e]
      exact .still (.of_onward (o := c.outbox.line driveTicket) c.forks rfl (.inl (.inl rfl)))
    · rw [e]
      exact .still (.refl c)
  · exact .still (.refl c)

theorem passage_fork (c : Channel S) (now index : Nat) (pick : Alternative) (w : W) :
    Passage b c (c.act b w (.move now (.fork index pick)))
      (c.eventOf b (.move now (.fork index pick))) := by
  simp only [act, move, eventOf, forkStep]
  split
  · next t alive =>
    cases h : t.clientStep b view now pick (index + 1) w c.outbox with
    | none => exact .still (.refl c)
    | some r =>
      obtain ⟨w', o, turn⟩ := r
      have cancelled := (accepted_eq h).1
      cases turn with
      | onward | forked | ended => exact .still (.of_onward _ cancelled (.inl (.inl rfl)))
  · exact .still (.refl c)

theorem passage_release (c : Channel S) (now : Nat) (w : W) :
    Passage b c (c.act b w (.move now .release)) (c.eventOf b (.move now .release)) := by
  simp only [act, move, eventOf, releaseStep]
  by_cases cancelled : c.outbox.cancelled = true
  · rw [if_pos cancelled]
    split
    · next t running =>
      refine .still ⟨rfl, rfl, rfl, rfl, rfl, ?_, ?_⟩ <;> simp [running, Drive.begins]
    · next m ending => exact .still (.of_onward c.forks rfl (.inr ⟨m, ending, rfl⟩))
    · exact .still (.refl c)
  · rw [if_neg cancelled]
    exact .still (.refl c)

theorem passage (b : Behaviour W (Outlet W Payload S) Unit S) (c : Channel S) (w : W)
    (x : ChannelAct) : Passage b c (c.act b w x) (c.eventOf b x) := by
  cases x with
  | attach id => exact passage_attach c id w
  | close id => exact passage_close c id w
  | shut =>
    simp only [act, eventOf, Channel.shut]
    by_cases listed : c.listed = true
    · rw [if_pos listed]
      exact .shut listed
    · rw [if_neg listed]
      exact .spared (by simpa using listed)
  | receive => exact passage_receive c w
  | drop => exact passage_drop c w
  | move now m =>
    cases m with
    | expire => exact passage_expire c now w
    | release => exact passage_release c now w
    | drive pick => exact passage_drive c now pick w
    | fork index pick => exact passage_fork c now index pick w

end Channel
end CommandBridge
