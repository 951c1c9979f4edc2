import CommandBridge.Proofs.Channel.Progress

/-!
# Channels that close

A live channel is settled on `close` when it is cancelled, or when `close` is the oldest
message of its queue: nothing else is delivered from then on. A channel whose `close` still
waits to be queued is settled by the next step, unless a task that outlives the handler gets
a value in first.
-/

set_option autoImplicit false

namespace CommandBridge.Channel

variable {W S : Type} {b : Behaviour W (Outlet W Payload S) Unit S} {c c' : Channel S}
  {acc acc' : Account}

def CloseOnly (returned : List (Option ChannelMessage)) : Prop :=
  returned = [] ∨ ∃ n, returned = some .close :: List.replicate n none

theorem CloseOnly.eq_close {returned : List (Option ChannelMessage)} (h : CloseOnly returned)
    {m : ChannelMessage} (given : some m ∈ returned) : m = .close := by
  rcases h with rfl | ⟨n, rfl⟩
  · cases given
  · rcases List.mem_cons.mp given with first | later
    · exact Option.some.inj first
    · cases (List.mem_replicate.mp later).2

/-- Nothing but `close` can be delivered any more; `returned` is what was given meanwhile. -/
inductive Settled (c : Channel S) (returned : List (Option ChannelMessage)) : Prop where
  | next (live : c.subscription = .live) (parked : c.parked = none)
      (head : c.outbox.cancelled = true ∨ c.outbox.queue.head? = some .close)
      (none : returned = [])
  | closed {n : Nat} (complete : c.subscription = .complete) (parked : c.parked = none)
      (told : returned = some .close :: List.replicate n none)
  | dropped (dropped : c.subscription = .dropped) (parked : c.parked = none) (none : returned = [])

theorem Settled.closeOnly {returned : List (Option ChannelMessage)} (h : Settled c returned) :
    CloseOnly returned := by
  cases h with
  | next _ _ _ none => exact .inl none
  | closed _ _ told => exact .inr ⟨_, told⟩
  | dropped _ _ none => exact .inl none

theorem Settled.parked {returned : List (Option ChannelMessage)} (h : Settled c returned) :
    c.parked = none := by
  cases h with
  | next _ hp => exact hp
  | closed _ hp => exact hp
  | dropped _ hp => exact hp

theorem Settled.of_live {returned : List (Option ChannelMessage)} (h : Settled c returned)
    (live : c.subscription = .live) : c.parked = none ∧
      (c.outbox.cancelled = true ∨ c.outbox.queue.head? = some .close) ∧ returned = [] := by
  cases h with
  | next _ parked head none => exact ⟨parked, head, none⟩
  | closed hs => rw [live] at hs; cases hs
  | dropped hs => rw [live] at hs; cases hs

/-- A subscription that is told `close` before anything else is settled. -/
theorem settled_complete {returned : List (Option ChannelMessage)} (parked : c.parked = none)
    (none : returned = []) : Settled (c.complete .close) (returned ++ [some .close]) := by
  obtain ⟨complete, same, -, -⟩ := complete_subscription c .close
  have told : returned ++ [some .close] = some .close :: List.replicate 0 .none := by rw [none]; rfl
  exact .closed complete (same.trans parked) told

/-- Whatever keeps the subscription and the head of the queue keeps a channel settled. -/
theorem Settled.frame {returned : List (Option ChannelMessage)} (h : Settled c returned)
    (subscription : c'.subscription = c.subscription) (parked : c'.parked = c.parked)
    (cancelled : c.outbox.cancelled = true → c'.outbox.cancelled = true)
    (head : c.outbox.queue.head? = some .close →
      c'.outbox.cancelled = true ∨ c'.outbox.queue.head? = some .close) :
    Settled c' returned := by
  cases h with
  | next hs hp hd hn =>
    refine .next (subscription.trans hs) (parked.trans hp) ?_ hn
    rcases hd with late | first
    · exact .inl (cancelled late)
    · exact head first
  | closed hs hp ht => exact .closed (subscription.trans hs) (parked.trans hp) ht
  | dropped hs hp hn => exact .dropped (subscription.trans hs) (parked.trans hp) hn

theorem head?_append_of_head? {queue : List ChannelMessage} {m : ChannelMessage}
    (h : queue.head? = some m) (more : List ChannelMessage) : (queue ++ more).head? = some m := by
  cases queue with
  | nil => cases h
  | cons first rest => exact h

theorem settled_step (h : Settled c acc.returned) (s : Step b c acc c' acc') :
    Settled c' acc'.returned := by
  cases s with
  | stay expiry => exact h.frame rfl rfl id .inr
  | discard expiry listed parked => rw [h.parked] at parked; cases parked
  | attach listed parked => rw [h.parked] at parked; cases parked
  | cancel listed may => exact h.frame rfl rfl (fun _ => rfl) (fun _ => .inl rfl)
  | late complete =>
    cases h with
    | next hs => rw [complete] at hs; cases hs
    | dropped hs => rw [complete] at hs; cases hs
    | @closed n hs hp ht =>
      refine .closed (n := n + 1) hs hp ?_
      rw [Account.give_returned, ht, List.cons_append, ← List.replicate_succ']
  | told live cancelled =>
    obtain ⟨parked, -, none⟩ := h.of_live live
    exact settled_complete parked none
  | value live going queue data =>
    obtain ⟨-, late | first, -⟩ := h.of_live live
    · rw [going] at late; cases late
    · rw [queue] at first; cases first; cases data
  | last live going queue terminal =>
    obtain ⟨parked, late | first, none⟩ := h.of_live live
    · rw [going] at late; cases late
    · rw [queue] at first
      cases first
      exact settled_complete parked none
  | silent live going queue silent =>
    obtain ⟨-, late | first, -⟩ := h.of_live live
    · rw [going] at late; cases late
    · rw [queue] at first; cases first
  | drop live =>
    obtain ⟨parked, -, none⟩ := h.of_live live
    simp only [Channel.drop, if_neg (not_not_intro live)]
    exact .dropped rfl parked none
  | release cancelled busy => exact h.frame rfl rfl id .inr
  | idle queue cancelled receiving goesOn busy =>
    exact h.frame rfl rfl (fun late => cancelled.trans late) fun first => .inr (queue ▸ first)
  | accept going queue cancelled receiving goesOn busy =>
    refine h.frame rfl rfl (fun late => cancelled.trans late) fun first => .inr ?_
    rw [queue]
    exact head?_append_of_head? first _
  | conclude running =>
    obtain ⟨hs, hp, ho, -⟩ := conclude_subscription c _
    exact h.frame hs hp (fun late => ho ▸ late) fun first => .inr (ho ▸ first)
  | wait ending => exact h.frame rfl rfl id .inr
  | finish ending going => exact h.frame rfl rfl id fun first => .inr (head?_append_of_head? first _)
  | giveUp ending closed => exact h.frame rfl rfl id .inr

structure Waiting (c : Channel S) : Prop where
  live : c.subscription = .live
  parked : c.parked = none
  going : c.outbox.cancelled = false
  receiving : c.outbox.receiving = true
  drive : c.drive = .ending .close
  queue : c.outbox.queue = []

/-- A value is the next message of the subscription. -/
def Holds (c : Channel S) : Prop :=
  c.subscription = .live ∧ c.outbox.cancelled = false ∧ ∃ v rest, c.outbox.queue = .data v :: rest

theorem waiting_step (h : Waiting c) (none : acc.returned = []) (s : Step b c acc c' acc') :
    (Waiting c' ∧ acc'.returned = []) ∨ Settled c' acc'.returned ∨ Holds c' := by
  cases s with
  | stay expiry => exact .inl ⟨⟨h.live, h.parked, h.going, h.receiving, h.drive, h.queue⟩, none⟩
  | discard expiry listed parked => rw [h.parked] at parked; cases parked
  | attach listed parked => rw [h.parked] at parked; cases parked
  | cancel listed may => exact .inr (.inl (.next h.live h.parked (.inl rfl) none))
  | late complete => rw [h.live] at complete; cases complete
  | told live cancelled => rw [h.going] at cancelled; cases cancelled
  | value live going queue data => rw [h.queue] at queue; cases queue
  | last live going queue terminal => rw [h.queue] at queue; cases queue
  | silent live going queue silent => simp [isSilent, h.drive] at silent
  | drop live =>
    simp only [Channel.drop, if_neg (not_not_intro live)]
    exact .inr (.inl (.dropped rfl h.parked none))
  | release cancelled busy => rw [h.going] at cancelled; cases cancelled
  | idle queue cancelled receiving goesOn busy =>
    rcases goesOn with rfl | ⟨t, t', running, -⟩
    · exact .inl ⟨⟨h.live, h.parked, cancelled.trans h.going, receiving.trans h.receiving, h.drive,
        queue.trans h.queue⟩, none⟩
    · rw [h.drive] at running; cases running
  | @accept o drive forks v going queue cancelled receiving goesOn busy =>
    refine .inr (.inr ⟨h.live, cancelled.trans h.going, v, [], ?_⟩)
    rw [queue, h.queue]
    rfl
  | conclude running => rw [h.drive] at running; cases running
  | wait ending => exact .inl ⟨⟨h.live, h.parked, h.going, h.receiving, h.drive, h.queue⟩, none⟩
  | finish ending going =>
    rw [h.drive] at ending
    cases ending
    refine .inr (.inl (.next h.live h.parked (.inr ?_) none))
    simp [Outbox.accept, h.queue]
  | giveUp ending closed => simp [Outbox.isClosed, h.going, h.receiving] at closed

structure Quiet (c : Channel S) : Prop where
  parked : c.parked = none
  idle : ¬c.Busy
  ending : ∀ m, c.drive = .ending m → m = .close
  queue : ∀ m, m ∈ c.outbox.queue → m = .close

theorem Quiet.frame (h : Quiet c) (parked : c'.parked = c.parked) (forks : c'.forks = c.forks)
    (drive : c'.drive = c.drive ∨ c'.drive = .finished)
    (queue : ∀ m, m ∈ c'.outbox.queue → m ∈ c.outbox.queue) : Quiet c' where
  parked := parked.trans h.parked
  idle := by
    rintro (⟨t, e⟩ | ⟨k, t, e⟩)
    · rcases drive with same | finished
      · exact h.idle (.inl ⟨t, same ▸ e⟩)
      · rw [finished] at e; cases e
    · exact h.idle (.inr ⟨k, t, forks ▸ e⟩)
  ending m e := by
    rcases drive with same | finished
    · exact h.ending m (same ▸ e)
    · rw [finished] at e; cases e
  queue m hm := h.queue m (queue m hm)

theorem quiet_complete (h : Quiet c) (m : ChannelMessage) : Quiet (c.complete m) := by
  cases m <;> exact h.frame rfl rfl (.inl rfl) fun _ => id

theorem quiet_step (h : Quiet c) (s : Step b c acc c' acc') : Quiet c' := by
  cases s with
  | stay expiry => exact h.frame rfl rfl (.inl rfl) fun _ => id
  | discard expiry listed parked => rw [h.parked] at parked; cases parked
  | attach listed parked => rw [h.parked] at parked; cases parked
  | cancel listed may => exact h.frame rfl rfl (.inl rfl) fun _ => id
  | late complete => exact h
  | told live cancelled => exact quiet_complete h .close
  | @value m rest live going queue data =>
    exact h.frame rfl rfl (.inl rfl) fun m hm => queue ▸ List.mem_cons_of_mem _ hm
  | @last m rest live going queue terminal =>
    apply quiet_complete
    exact h.frame rfl rfl (.inl rfl) fun m hm => queue ▸ List.mem_cons_of_mem _ hm
  | silent live going queue silent => exact quiet_complete h terminated
  | drop live =>
    simp only [Channel.drop, if_neg (not_not_intro live)]
    exact h.frame rfl rfl (.inl rfl) fun _ => id
  | release cancelled busy => exact h.frame rfl rfl (.inr rfl) fun _ => id
  | idle queue cancelled receiving goesOn busy => exact absurd busy h.idle
  | accept going queue cancelled receiving goesOn busy => exact absurd busy h.idle
  | conclude running => exact absurd (.inl ⟨_, running⟩) h.idle
  | wait ending => exact h.frame rfl rfl (.inl rfl) fun _ => id
  | @finish m ending going =>
    have popped : Quiet { c with drive := .finished } := h.frame rfl rfl (.inr rfl) fun _ => id
    refine ⟨popped.parked, popped.idle, by simp, fun x hx => ?_⟩
    rcases List.mem_append.mp hx with old | new
    · exact h.queue x old
    · rw [List.mem_singleton.mp new]
      exact h.ending m ending
  | giveUp ending closed => exact h.frame rfl rfl (.inr rfl) fun _ => id

theorem Quiet.not_holds (h : Quiet c) : ¬Holds c := by
  rintro ⟨-, -, v, rest, queue⟩
  cases h.queue (.data v) (by simp [queue])

end CommandBridge.Channel
