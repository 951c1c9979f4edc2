import CommandBridge.Proofs.Bridge.Table

/-!
# Channels that nobody closed

A handler ends once. Where nobody asked for a close, the end of the subscription comes after that of
the handler and tells of it. The account of a channel and its history are kept side by side.
-/

set_option autoImplicit false

namespace CommandBridge

namespace Channel

variable {W S : Type} {b : Behaviour W (Outlet W Payload S) Unit S} {c d : Channel S}
  {acc acc' : Account} {log es : List ChannelEvent}

def EndedOpenly (acc : Account) : Prop := ∃ e, acc.ending = some e ∧ e.cancelled = false

structure Unclosed (c : Channel S) (acc : Account) (log : List ChannelEvent) : Prop where
  once : ∀ t, c.drive = .running t → acc.ending = none
  complete : c.subscription = .complete → ¬Asked log → EndedOpenly acc

theorem unclosed_create (name : String) (start : S) (capacity expiry : Nat) :
    Unclosed (create name start capacity expiry) .empty [] := ⟨nofun, nofun⟩

theorem Unclosed.frame (h : Unclosed c acc log)
    (running : ∀ t, d.drive = .running t → ∃ t', c.drive = .running t')
    (complete : d.subscription = .complete → c.subscription = .complete)
    (ending : acc'.ending = acc.ending) : Unclosed d acc' (log ++ es) where
  once t now := by
    obtain ⟨t', before⟩ := running t now
    exact ending.trans (h.once t' before)
  complete now unasked := by
    obtain ⟨e, ended, going⟩ := h.complete (complete now) fun asked => unasked (asked.append es)
    exact ⟨e, ending.trans ended, going⟩

theorem GoesOn.running {before after : Drive S} (h : GoesOn before after) {t : Task S}
    (now : after = .running t) : ∃ t', before = .running t' := by
  rcases h with rfl | ⟨t', -, there, -⟩
  · exact ⟨t, now⟩
  · exact ⟨t', there⟩

/-- The end that a live channel is about to tell was noted while it still took messages. -/
theorem Flow.endedOpenly {vs : List Json} (h : Flow c acc vs) {m : ChannelMessage}
    {rest : List ChannelMessage} (queue : c.outbox.queue = m :: rest)
    (terminal : m.isTerminal = true) : EndedOpenly acc := by
  cases h with
  | running _ _ _ hq _ =>
    obtain ⟨_, _, -, rfl, -⟩ := data_of_head (queue.symm.trans hq)
    cases terminal
  | ending ended going => exact ⟨_, ended, going⟩
  | finished ended going => exact ⟨_, ended, going⟩

theorem complete_drive (c : Channel S) (m : ChannelMessage) : (c.complete m).drive = c.drive := by
  cases m <;> rfl

theorem conclude_not_running (c : Channel S) (outcome : Outcome Unit) (t : Task S) :
    (c.conclude outcome).drive ≠ .running t := by
  simp only [Channel.conclude]
  split
  all_goals
    intro running
    cases running

/-- A channel whose subscription is told its end when the handler's was noted. -/
theorem Unclosed.tell (h : Unclosed c acc log) {o : Outbox ChannelMessage} {m : ChannelMessage}
    (ended : ¬Asked log → EndedOpenly acc) :
    Unclosed ({ c with outbox := o }.complete m) (acc.give (some m)) (log ++ es) where
  once t now := by
    rw [complete_drive] at now
    exact h.once t now
  complete _ unasked := ended fun asked => unasked (asked.append es)

theorem unclosed_step (h : Unclosed c acc log) (f : Delivery c acc) (p : Phased c log)
    (s : Step b c acc d acc') : Unclosed d acc' (log ++ es) := by
  have same (t : Task S) (now : c.drive = .running t) : ∃ t', c.drive = .running t' := ⟨t, now⟩
  cases s with
  | stay => exact h.frame same id rfl
  | discard => exact h.frame same id rfl
  | cancel => exact h.frame same id rfl
  | late => exact h.frame same id rfl
  | attach listed parked =>
    obtain ⟨rfl, -⟩ := f.fresh (f.alone_of_parked (by simp [parked]))
    exact ⟨fun _ _ => rfl, fun complete => by cases complete⟩
  | told live cancelled =>
    exact h.tell (o := c.outbox) (fun unasked => absurd (p.cancelling live cancelled).2 unasked)
  | value => exact h.frame same id rfl
  | last live going queue terminal =>
    obtain ⟨-, vs, -, -, ⟨-, -, flow⟩ | ⟨late, -⟩⟩ := f.live live
    · exact h.tell (fun _ => flow.endedOpenly queue terminal)
    · rw [going] at late; cases late
  | silent live going queue silent =>
    obtain ⟨-, vs, -, -, ⟨-, -, flow⟩ | ⟨late, -⟩⟩ := f.live live
    · rw [flow.not_silent queue] at silent; cases silent
    · rw [going] at late; cases late
  | drop live =>
    rw [Channel.drop, if_neg (not_not_intro live)]
    exact h.frame same (fun complete => by cases complete) rfl
  | release => exact h.frame (fun t now => by cases now) id rfl
  | idle _ _ _ goesOn => exact h.frame (fun _ => goesOn.running) id rfl
  | accept _ _ _ _ goesOn => exact h.frame (fun _ => goesOn.running) id rfl
  | conclude running =>
    refine ⟨fun t now => absurd now (conclude_not_running c _ t), fun complete unasked => ?_⟩
    rw [(conclude_subscription c _).1] at complete
    obtain ⟨e, ended, -⟩ := h.complete complete fun asked => unasked (asked.append es)
    cases (h.once _ running).symm.trans ended
  | wait => exact h.frame same id rfl
  | finish => exact h.frame (fun t now => by cases now) id rfl
  | giveUp => exact h.frame (fun t now => by cases now) id rfl

theorem unclosed_act (h : Unclosed c acc log) (f : Delivery c acc) (p : Phased c log) (w : W)
    (x : ChannelAct) : Unclosed (c.act b w x) (c.note b acc x) (log ++ c.events b w x) :=
  unclosed_step h f p (step b c acc w x)

theorem isClosed_step (s : Step b c acc d acc') (closed : c.outbox.isClosed = true) :
    d.outbox.isClosed = true := by
  have same {o : Outbox ChannelMessage} (cancelled : o.cancelled = c.outbox.cancelled)
      (receiving : o.receiving = c.outbox.receiving) : o.isClosed = true := by
    rwa [Outbox.isClosed, cancelled, receiving]
  cases s with
  | told | last | silent => exact Outbox.isClosed_of_cancelled (complete_subscription _ _).2.2.2
  | drop live =>
    rw [Channel.drop, if_neg (not_not_intro live)]
    rfl
  | idle _ cancelled receiving => exact same cancelled receiving
  | accept _ _ cancelled receiving => exact same cancelled receiving
  | conclude => rwa [(conclude_subscription c _).2.2.1]
  | cancel => rfl
  | stay | discard | attach | late | value | release | wait | finish | giveUp => exact closed

theorem Delivery.cancelled_of_isClosed (h : Delivery c acc) (closed : c.outbox.isClosed = true) :
    c.outbox.cancelled = true := by
  simp only [Outbox.isClosed, Bool.or_eq_true, Bool.not_eq_true'] at closed
  cases h with
  | unattached _ _ _ _ _ receiving => simpa [receiving] using closed
  | flowing _ _ going receiving => simp [going, receiving] at closed
  | cancelled _ _ cancelled => exact cancelled
  | complete _ _ _ cancelled => exact cancelled
  | dropped _ _ _ cancelled => exact cancelled

end Channel

namespace Bridge

open Channel

variable {A : Application} {i : Nat}

def channelChronicles (A : Application) :
    Sessions A (Channel A.Stream) (A.World × ChannelAct) (Account × List ChannelEvent) where
  __ := channelRecords A
  note c l x := (c.note A.stream l.1 x.2, (channelRecords A).note c l.2 x)

theorem chronicle_noted (b : Bridge A) (acc : Account) (log : List ChannelEvent) (a : Act A) :
    (channelChronicles A).noted i b (acc, log) a =
      ((channelSessions A).noted i b acc a, (channelRecords A).noted i b log a) := by
  simp only [Sessions.noted, channelChronicles, channelSessions, channelRecords]
  cases b.channels[i]? with
  | none => rfl
  | some c => cases b.channelAct? i a <;> rfl

theorem chronicle_history (b : Bridge A) (acts : List (Act A)) (acc : Account)
    (log : List ChannelEvent) : (channelChronicles A).history i b acts (acc, log) =
      (account i b acts acc, (channelRecords A).history i b acts log) := by
  induction acts generalizing b acc log with
  | nil => rfl
  | cons a rest ih =>
    rw [Sessions.history, chronicle_noted, ih]
    rfl

/-- What holds of a channel with its account and its history and is kept by every act on it holds of
it after every run. -/
theorem chronicle_kept {P : Channel A.Stream → Account → List ChannelEvent → Prop}
    (step : ∀ c acc log w x, P c acc log →
      P (c.act A.stream w x) (c.note A.stream acc x) (log ++ c.events A.stream w x))
    (acts : List (Act A)) {b : Bridge A} {c : Channel A.Stream} {acc : Account}
    {log : List ChannelEvent} (there : b.channels[i]? = some c) (h : P c acc log) :
    ∃ d, (b.run acts).channels[i]? = some d ∧
      P d (account i b acts acc) ((channelRecords A).history i b acts log) := by
  obtain ⟨d, after, kept⟩ := Sessions.history_kept (s := channelChronicles A) (l := (acc, log))
    (P := fun c l => P c l.1 l.2) (fun c l _ x holds => step c l.1 l.2 x.1 x.2 holds) acts there h
  rw [chronicle_history] at kept
  exact ⟨d, after, kept⟩

end Bridge
end CommandBridge
