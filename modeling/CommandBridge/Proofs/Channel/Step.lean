import CommandBridge.Proofs.Channel.Life

/-!
# What one act does to a channel

Every act is one of a few steps on the channel and its account, each with the condition under
which it is taken. A task's step is told by its effect on the queue alone.
-/

set_option autoImplicit false

namespace CommandBridge.Channel

variable {W S : Type} {b : Behaviour W (Outlet W Payload S) Unit S}

def GoesOn (before after : Drive S) : Prop :=
  after = before ∨ ∃ t t', before = .running t ∧ after = .running t'

def Busy (c : Channel S) : Prop :=
  (∃ t, c.drive = .running t) ∨ ∃ (k : Nat) (t : Task S), c.forks[k]? = some (some t)

inductive Step (b : Behaviour W (Outlet W Payload S) Unit S) (c : Channel S) (acc : Account) :
    Channel S → Account → Prop
  | stay (expiry : Option Nat) : Step b c acc { c with expiry := expiry } acc
  | discard (expiry : Option Nat) (listed : c.listed = true) (parked : c.parked.isSome = true) :
      Step b c acc { c.discard with expiry := expiry } acc
  | attach {start : S} (listed : c.listed = true) (parked : c.parked = some start) :
      Step b c acc { c.advance .open with
        parked := none, drive := .running (Task.at start), subscription := .live } acc
  | cancel (listed : c.listed = true) (may : c.phase.canMove .closing = true) :
      Step b c acc { c.advance .closing with outbox := c.outbox.cancel } acc
  | late (complete : c.subscription = .complete) : Step b c acc c (acc.give none)
  | told (live : c.subscription = .live) (cancelled : c.outbox.cancelled = true) :
      Step b c acc (c.complete .close) (acc.give (some .close))
  | value {m : ChannelMessage} {rest : List ChannelMessage} (live : c.subscription = .live)
      (going : c.outbox.cancelled = false) (queue : c.outbox.queue = m :: rest)
      (data : m.isTerminal = false) :
      Step b c acc { c with outbox := { c.outbox with queue := rest } } (acc.give (some m))
  | last {m : ChannelMessage} {rest : List ChannelMessage} (live : c.subscription = .live)
      (going : c.outbox.cancelled = false) (queue : c.outbox.queue = m :: rest)
      (terminal : m.isTerminal = true) :
      Step b c acc ({ c with outbox := { c.outbox with queue := rest } }.complete m)
        (acc.give (some m))
  | silent (live : c.subscription = .live) (going : c.outbox.cancelled = false)
      (queue : c.outbox.queue = []) (silent : c.isSilent = true) :
      Step b c acc (c.complete terminated) (acc.give (some terminated))
  | drop (live : c.subscription = .live) : Step b c acc c.drop acc
  | release (cancelled : c.outbox.cancelled = true)
      (busy : (∃ t, c.drive = .running t) ∨ ∃ m, c.drive = .ending m) :
      Step b c acc { c with drive := .finished, outbox := c.outbox.leave driveTicket } acc
  | idle {o : Outbox ChannelMessage} {drive : Drive S} {forks : List (Option (Task S))}
      (queue : o.queue = c.outbox.queue) (cancelled : o.cancelled = c.outbox.cancelled)
      (receiving : o.receiving = c.outbox.receiving) (goesOn : GoesOn c.drive drive)
      (busy : c.Busy) :
      Step b c acc { c with outbox := o, drive := drive, forks := forks } acc
  | accept {o : Outbox ChannelMessage} {drive : Drive S} {forks : List (Option (Task S))}
      {v : Json} (going : c.outbox.cancelled = false)
      (queue : o.queue = c.outbox.queue ++ [.data v]) (cancelled : o.cancelled = c.outbox.cancelled)
      (receiving : o.receiving = c.outbox.receiving) (goesOn : GoesOn c.drive drive)
      (busy : c.Busy) :
      Step b c acc { c with outbox := o, drive := drive, forks := forks } (acc.accept [v])
  | conclude {t : Task S} {outcome : Outcome Unit} (running : c.drive = .running t) :
      Step b c acc (c.conclude outcome) (acc.conclude outcome c.outbox.cancelled)
  | wait {m : ChannelMessage} (ending : c.drive = .ending m) :
      Step b c acc { c with outbox := c.outbox.line driveTicket } acc
  | finish {m : ChannelMessage} (ending : c.drive = .ending m)
      (going : c.outbox.cancelled = false) :
      Step b c acc { c with outbox := c.outbox.accept driveTicket m, drive := .finished } acc
  | giveUp {m : ChannelMessage} (ending : c.drive = .ending m)
      (closed : c.outbox.isClosed = true) :
      Step b c acc { c with outbox := c.outbox.leave driveTicket, drive := .finished } acc

theorem step_cancel (c : Channel S) (acc : Account) (listed : c.listed = true) :
    Step b c acc c.cancel acc := by
  unfold cancel
  split
  · next may => exact .cancel listed may
  · exact .stay c.expiry

theorem step_receive (c : Channel S) (acc : Account) (w : W) :
    Step b c acc (c.act b w .receive) (c.note b acc .receive) := by
  by_cases live : c.subscription = .live
  · have asked : c.subscription = .live ∨ c.subscription = .complete := .inl live
    simp only [act, note, receive, if_neg (not_not_intro live), if_pos asked]
    by_cases cancelled : c.outbox.cancelled = true
    · simp only [cancelled, if_true, deliver, ChannelMessage.isTerminal]
      exact .told live cancelled
    simp only [cancelled, Bool.false_eq_true, if_false]
    rw [Bool.not_eq_true] at cancelled
    split
    · next m o h =>
      obtain ⟨rest, queue, rfl⟩ := Outbox.take?_eq_some.mp h
      by_cases terminal : m.isTerminal = true
      · simp only [deliver, terminal, if_true]
        exact .last live cancelled queue terminal
      · simp only [deliver, terminal, Bool.false_eq_true, if_false]
        exact .value live cancelled queue (by simpa using terminal)
    · next h =>
      have queue := Outbox.take?_eq_none.mp h
      by_cases silent : c.isSilent = true
      · simp only [silent, if_true, deliver]
        exact .silent live cancelled queue silent
      · simp only [silent, Bool.false_eq_true, if_false]
        exact .stay c.expiry
  · simp only [act, note, receive, if_pos live]
    by_cases complete : c.subscription = .complete
    · simp only [complete, or_true, if_true]
      exact .late complete
    · simp only [live, complete, or_self, if_false]
      exact .stay c.expiry

/-- The value that a task's step gets into the queue is the frame that it offers. -/
theorem accepted_eq {o o' : Outbox ChannelMessage} {k : Nat} {t : Task S} {w w' : W} {now : Nat}
    {pick : Alternative} {turn : Turn S Unit}
    (h : t.clientStep b view now pick k w o = some (w', o', turn)) :
    o'.cancelled = o.cancelled ∧ o'.receiving = o.receiving ∧
      ((o'.queue = o.queue ∧ accepted b o k t = []) ∨
        (∃ v, o.cancelled = false ∧ o'.queue = o.queue ++ [.data v] ∧ accepted b o k t = [v])) := by
  rcases Task.clientStep_cases h with ⟨r, push, -, ⟨failure, t', ha, -⟩ | ⟨ha, -⟩⟩ | ⟨push, same, -⟩
  · have cancelled := push_cancelled ha
    cases r with
    | unserializable reason =>
      obtain ⟨o₁, f, e, queue, -, receiving, -⟩ := view_serves.bare o k (.unserializable reason) rfl
      rw [e] at ha
      cases ha
      exact ⟨cancelled, receiving, .inl ⟨queue, by simp [accepted, push]⟩⟩
    | json v =>
      by_cases closed : o.isClosed = true
      · obtain ⟨f, e⟩ := view_serves.refused o k (.json v) _ rfl closed
        rw [e] at ha
        cases ha
        exact ⟨rfl, rfl, .inl ⟨rfl, by simp [accepted, push, e]⟩⟩
      rw [Bool.not_eq_true] at closed
      have e := view_serves.offered o k (.json v) _ rfl closed
      have going : o.cancelled = false := by simp_all [Outbox.isClosed]
      obtain ⟨x, -⟩ | ⟨-, -, -, he⟩ | ⟨-, -, he⟩ | ⟨-, -, -, he⟩ :=
        o.offer_cases k (.data v.toTransportCase)
      · rw [closed] at x; cases x
      · rw [e, he] at ha
        cases ha
        exact ⟨rfl, rfl, .inr ⟨v.toTransportCase, going, rfl, by simp [accepted, push, e, he]⟩⟩
      · rw [e, he] at ha; cases ha
      · rw [e, he] at ha; cases ha
  · cases r with
    | unserializable reason =>
      obtain ⟨o₁, f, e, -⟩ := view_serves.bare o k (.unserializable reason) rfl
      rw [e] at ha
      cases ha
    | json v =>
      by_cases closed : o.isClosed = true
      · obtain ⟨f, e⟩ := view_serves.refused o k (.json v) _ rfl closed
        rw [e] at ha
        cases ha
      rw [Bool.not_eq_true] at closed
      have e := view_serves.offered o k (.json v) _ rfl closed
      obtain ⟨x, -⟩ | ⟨-, -, -, he⟩ | ⟨-, -, he⟩ | ⟨-, -, -, he⟩ :=
        o.offer_cases k (.data v.toTransportCase)
      · rw [closed] at x; cases x
      · rw [e, he] at ha; cases ha
      · rw [e, he] at ha
        cases ha
        exact ⟨rfl, rfl, .inl ⟨rfl, by simp [accepted, push, e, he]⟩⟩
      · rw [e, he] at ha; cases ha
  · subst same
    exact ⟨rfl, rfl, .inl ⟨rfl, by simp [accepted, push]⟩⟩

theorem step_task {c : Channel S} {acc : Account} {k : Nat} {t : Task S} {w w' : W} {now : Nat}
    {pick : Alternative} {turn : Turn S Unit} {o : Outbox ChannelMessage} {drive : Drive S}
    {forks : List (Option (Task S))}
    (h : t.clientStep b view now pick k w c.outbox = some (w', o, turn))
    (goesOn : GoesOn c.drive drive) (busy : c.Busy) :
    Step b c acc { c with outbox := o, drive := drive, forks := forks }
      (acc.accept (accepted b c.outbox k t)) := by
  obtain ⟨cancelled, receiving, ⟨queue, nothing⟩ | ⟨v, going, queue, one⟩⟩ := accepted_eq h
  · rw [nothing, Account.accept_nil]
    exact .idle queue cancelled receiving goesOn busy
  · rw [one]
    exact .accept going queue cancelled receiving goesOn busy

/-- A task whose step is not open neither ends nor gets anything into the queue. -/
theorem accepted_of_none {o : Outbox ChannelMessage} {k : Nat} {t : Task S} {w : W} {now : Nat}
    {pick : Alternative} (h : t.clientStep b view now pick k w o = none) :
    t.outcome? b = none ∧ accepted b o k t = [] := by
  refine ⟨Task.outcome?_of_clientStep_none h, ?_⟩
  · cases hp : t.pushes? b with
    | none => simp [accepted, hp]
    | some r =>
      have blocked : view.push o k r = .blocked := by
        by_contra ne
        have open' : (t.clientStep b view now pick k w o).isSome = true :=
          Task.clientStep_of_push hp ne
        rw [h] at open'
        cases open'
      cases r with
      | json v => simp [accepted, hp, blocked]
      | unserializable reason => simp [accepted, hp]

theorem step_running {c : Channel S} {acc : Account} {now : Nat} {w : W} {pick : Alternative}
    {t : Task S} (running : c.drive = .running t) :
    Step b c acc (c.act b w (.move now (.drive pick))) (c.note b acc (.move now (.drive pick))) := by
  have onward (goesOn : t.outcome? b = none) : c.note b acc (.move now (.drive pick)) =
      acc.accept (accepted b c.outbox driveTicket t) := by
    simp [note, running, goesOn]
  have last {outcome : Outcome Unit} (ends : t.outcome? b = some outcome) :
      c.note b acc (.move now (.drive pick)) = acc.conclude outcome c.outbox.cancelled := by
    simp [note, running, ends]
  have busy : c.Busy := .inl ⟨t, running⟩
  simp only [act, move, driveStep]
  split
  case h_2 e => rw [running] at e; cases e
  case h_3 ne _ => exact absurd running (ne t)
  next t' e =>
  obtain rfl : t = t' := by rw [running] at e; cases e; rfl
  cases h : t.clientStep b view now pick driveTicket w c.outbox with
  | none =>
    obtain ⟨goesOn, nothing⟩ := accepted_of_none h
    rw [onward goesOn, nothing, Account.accept_nil]
    exact .stay c.expiry
  | some r =>
    obtain ⟨w', o, turn⟩ := r
    obtain ⟨goesOn, stays⟩ | ⟨outcome, ends, rfl, rfl⟩ :
        (t.outcome? b = none ∧ ∀ outcome, turn ≠ .ended outcome) ∨
          ∃ outcome, t.outcome? b = some outcome ∧ o = c.outbox ∧ turn = .ended outcome := by
      obtain ⟨_, -, goesOn, ⟨_, _, -, rfl⟩ | ⟨-, rfl⟩⟩ |
        ⟨-, rfl, ⟨outcome, ends, rfl⟩ | ⟨goesOn, ⟨_, rfl⟩ | ⟨_, _, rfl⟩⟩⟩ := Task.clientStep_cases h
      · exact .inl ⟨goesOn, by simp⟩
      · exact .inl ⟨goesOn, by simp⟩
      · exact .inr ⟨outcome, ends, rfl, rfl⟩
      · exact .inl ⟨goesOn, by simp⟩
      · exact .inl ⟨goesOn, by simp⟩
    · rw [onward goesOn]
      cases turn with
      | onward t' => exact step_task h (.inr ⟨t, t', running, rfl⟩) busy
      | forked start t' => exact step_task h (.inr ⟨t, t', running, rfl⟩) busy
      | ended outcome => exact absurd rfl (stays outcome)
    · rw [last ends]
      exact .conclude running

theorem step_drive (c : Channel S) (acc : Account) (now : Nat) (w : W) (pick : Alternative) :
    Step b c acc (c.act b w (.move now (.drive pick))) (c.note b acc (.move now (.drive pick))) := by
  by_cases running : ∃ t, c.drive = .running t
  · obtain ⟨t, running⟩ := running
    exact step_running running
  have noted : c.note b acc (.move now (.drive pick)) = acc := by
    simp only [note]
    split
    · next t e => exact absurd ⟨t, e⟩ running
    · rfl
  rw [noted]
  simp only [act, move, driveStep]
  split
  · next t e => exact absurd ⟨t, e⟩ running
  · next m ending =>
    obtain ⟨closed, e⟩ | ⟨closed, -, -, e⟩ | ⟨-, -, e⟩ | ⟨-, -, -, e⟩ :=
      c.outbox.offer_cases driveTicket m
    · rw [e]; exact .giveUp ending closed
    · rw [e]; exact .finish ending (by simp_all [Outbox.isClosed])
    · rw [e]; exact .wait ending
    · rw [e]; exact .stay c.expiry
  · exact .stay c.expiry

theorem step_fork (c : Channel S) (acc : Account) (now index : Nat) (w : W) (pick : Alternative) :
    Step b c acc (c.act b w (.move now (.fork index pick)))
      (c.note b acc (.move now (.fork index pick))) := by
  match alive : c.forks[index]? with
  | some (some t) =>
    have noted : c.note b acc (.move now (.fork index pick)) =
        acc.accept (accepted b c.outbox (index + 1) t) := by
      simp only [note, alive]
    have busy : c.Busy := .inr ⟨index, t, alive⟩
    rw [noted]
    simp only [act, move, forkStep, alive]
    cases h : t.clientStep b view now pick (index + 1) w c.outbox with
    | none =>
      rw [(accepted_of_none h).2, Account.accept_nil]
      exact .stay c.expiry
    | some r =>
      obtain ⟨w', o, turn⟩ := r
      cases turn with
      | onward t' => exact step_task h (.inl rfl) busy
      | forked start t' => exact step_task h (.inl rfl) busy
      | ended outcome => exact step_task h (.inl rfl) busy
  | some none | none =>
    simp only [act, note, move, forkStep, alive]
    exact .stay c.expiry

theorem step_expire (c : Channel S) (acc : Account) : Step b c acc c.expire acc := by
  simp only [expire]
  split
  · next h =>
    simp only [Bool.and_eq_true] at h
    exact .discard none h.1 h.2
  · exact .stay none

theorem step_release (c : Channel S) (acc : Account) (now : Nat) (w : W) :
    Step b c acc (c.act b w (.move now .release)) acc := by
  simp only [act, move, releaseStep]
  by_cases cancelled : c.outbox.cancelled = true
  · rw [if_pos cancelled]
    split
    · next t running => exact .release cancelled (.inl ⟨t, running⟩)
    · next m ending => exact .release cancelled (.inr ⟨m, ending⟩)
    · exact .stay c.expiry
  · rw [if_neg cancelled]
    exact .stay c.expiry

theorem step_attach (c : Channel S) (acc : Account) (id : String) (w : W) :
    Step b c acc (c.act b w (.attach id)) acc := by
  simp only [act, Channel.attach]
  by_cases listed : c.listed = true
  · simp only [listed, Bool.not_true, Bool.false_eq_true, if_false]
    split
    · exact .stay c.expiry
    · next start parked => exact .attach listed parked
  · simp only [listed, Bool.not_false, if_true]
    exact .stay c.expiry

theorem step_close (c : Channel S) (acc : Account) (id : String) (w : W) :
    Step b c acc (c.act b w (.close id)) acc := by
  simp only [act, Channel.close]
  by_cases listed : c.listed = true
  · simp only [listed, Bool.not_true, Bool.false_eq_true, if_false]
    by_cases parked : c.parked.isSome = true
    · rw [if_pos parked]
      exact .discard c.expiry listed parked
    · rw [if_neg parked]
      exact step_cancel c acc listed
  · simp only [listed, Bool.not_false, if_true]
    exact .stay c.expiry

theorem step (b : Behaviour W (Outlet W Payload S) Unit S) (c : Channel S) (acc : Account) (w : W)
    (x : ChannelAct) : Step b c acc (c.act b w x) (c.note b acc x) := by
  cases x with
  | attach id => exact step_attach c acc id w
  | close id => exact step_close c acc id w
  | shut =>
    simp only [act, note, shut]
    split
    · next listed => exact step_cancel c acc listed
    · exact .stay c.expiry
  | receive => exact step_receive c acc w
  | drop =>
    simp only [act, note]
    by_cases live : c.subscription = .live
    · exact .drop live
    · rw [Channel.drop, if_pos live]
      exact .stay c.expiry
  | move now m =>
    cases m with
    | expire =>
      simp only [act, note, move]
      split
      · split
        · exact step_expire c acc
        · exact .stay c.expiry
      · exact .stay c.expiry
    | release => exact step_release c acc now w
    | drive pick => exact step_drive c acc now w pick
    | fork index pick => exact step_fork c acc now index w pick

end CommandBridge.Channel
