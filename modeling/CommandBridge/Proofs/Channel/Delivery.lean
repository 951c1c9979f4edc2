import CommandBridge.Proofs.Bridge.Channels
import CommandBridge.Proofs.Channel.Step

/-!
# What a subscription is told

While the channel lives, the values accepted are those delivered and those queued, and the
place of the handler tells where its terminal message is. A subscription hears values in
order, one terminal message and then nothing, and a handler that ends before the channel is
cancelled is heard to its end.
-/

set_option autoImplicit false

namespace CommandBridge.Channel

variable {W S : Type} {b : Behaviour W (Outlet W Payload S) Unit S}

def heard (vs : List Json) : List (Option ChannelMessage) := vs.map fun v => some (.data v)

theorem heard_append (vs ws : List Json) : heard (vs ++ ws) = heard vs ++ heard ws :=
  List.map_append

theorem lastMessage_isTerminal (outcome : Outcome Unit) : (lastMessage outcome).isTerminal = true := by
  cases outcome <;> rfl

theorem not_canMove_phaseOf (m : ChannelMessage) : (phaseOf m).canMove .closing = false := by
  cases m <;> rfl

theorem canMove_phaseOf (outcome : Outcome Unit) :
    Lifecycle.open.canMove (phaseOf (lastMessage outcome)) = true := by
  cases outcome <;> rfl

theorem data_of_not_isTerminal {m : ChannelMessage} (h : m.isTerminal = false) :
    ∃ v, m = .data v := by
  cases m with
  | data v => exact ⟨v, rfl⟩
  | error e => cases h
  | close => cases h

theorem data_of_head {m : ChannelMessage} {rest : List ChannelMessage} {ws : List Json}
    (h : m :: rest = ws.map .data) : ∃ v ws', ws = v :: ws' ∧ m = .data v ∧ rest = ws'.map .data := by
  cases ws with
  | nil => cases h
  | cons v ws' =>
    cases h
    exact ⟨v, ws', rfl, rfl, rfl⟩

/-- Where the values and the terminal message of a live channel are; `vs` were delivered. -/
inductive Flow (c : Channel S) (acc : Account) (vs : List Json) : Prop where
  | running {t : Task S} {ws : List Json} (drive : c.drive = .running t) (phase : c.phase = .open)
      (ending : acc.ending = none) (queue : c.outbox.queue = ws.map .data)
      (accepted : acc.accepted = vs ++ ws)
  | ending {e : Ending} {ws : List Json} (ended : acc.ending = some e) (going : e.cancelled = false)
      (drive : c.drive = .ending (lastMessage e.outcome))
      (phase : c.phase = phaseOf (lastMessage e.outcome)) (queue : c.outbox.queue = ws.map .data)
      (accepted : acc.accepted = vs ++ ws) (covered : e.accepted <+: vs ++ ws)
  | finished {e : Ending} {before after : List Json} (ended : acc.ending = some e)
      (going : e.cancelled = false) (drive : c.drive = .finished)
      (phase : c.phase = phaseOf (lastMessage e.outcome))
      (queue : c.outbox.queue = before.map .data ++ lastMessage e.outcome :: after.map .data)
      (accepted : acc.accepted = vs ++ before ++ after) (covered : e.accepted <+: vs ++ before)

inductive Delivery (c : Channel S) (acc : Account) : Prop where
  | unattached (subscription : c.subscription = .unattached) (fresh : acc = .empty)
      (drive : c.drive = .idle) (forks : c.forks = []) (queue : c.outbox.queue = [])
      (receiving : c.outbox.receiving = true)
      (table : c.listed = true → c.parked.isSome = true)
      (phase : c.listed = true → c.outbox.cancelled = false → c.phase = .initializing)
  | flowing {vs : List Json} (subscription : c.subscription = .live) (parked : c.parked = none)
      (going : c.outbox.cancelled = false) (receiving : c.outbox.receiving = true)
      (told : acc.returned = heard vs) (flow : Flow c acc vs)
  | cancelled {vs : List Json} (subscription : c.subscription = .live) (parked : c.parked = none)
      (cancelled : c.outbox.cancelled = true) (told : acc.returned = heard vs)
      (taken : vs <+: acc.accepted) (ending : ∀ e, acc.ending = some e → e.cancelled = true)
  | complete {vs : List Json} {m : ChannelMessage} {n : Nat}
      (subscription : c.subscription = .complete) (parked : c.parked = none)
      (table : c.listed = false) (cancelled : c.outbox.cancelled = true)
      (told : acc.returned = heard vs ++ some m :: List.replicate n none)
      (taken : vs <+: acc.accepted) (terminal : m.isTerminal = true)
      (ending : ∀ e, acc.ending = some e → e.cancelled = false →
        m = lastMessage e.outcome ∧ e.accepted <+: vs)
  | dropped {vs : List Json} (subscription : c.subscription = .dropped) (parked : c.parked = none)
      (table : c.listed = false) (cancelled : c.outbox.cancelled = true)
      (told : acc.returned = heard vs) (taken : vs <+: acc.accepted)

theorem delivery_create (name : String) (start : S) (capacity expiry : Nat) :
    Delivery (create name start capacity expiry) .empty :=
  .unattached rfl rfl rfl rfl rfl rfl (fun _ => rfl) (fun _ _ => rfl)

/-- The flow is a matter of the queue, the handler and the phase. -/
theorem Flow.frame {c d : Channel S} {acc : Account} {vs : List Json} (h : Flow c acc vs)
    (drive : d.drive = c.drive) (phase : d.phase = c.phase)
    (queue : d.outbox.queue = c.outbox.queue) : Flow d acc vs := by
  cases h with
  | running hd hp he hq ha => exact .running (drive.trans hd) (phase.trans hp) he (queue.trans hq) ha
  | ending he hg hd hp hq ha hc =>
    exact .ending he hg (drive.trans hd) (phase.trans hp) (queue.trans hq) ha hc
  | finished he hg hd hp hq ha hc =>
    exact .finished he hg (drive.trans hd) (phase.trans hp) (queue.trans hq) ha hc

theorem Flow.goesOn {c : Channel S} {acc : Account} {vs : List Json} (h : Flow c acc vs)
    {drive : Drive S} (goesOn : GoesOn c.drive drive) : Flow { c with drive := drive } acc vs := by
  rcases goesOn with rfl | ⟨t, t', before, rfl⟩
  · exact h
  cases h with
  | running hd hp he hq ha => exact .running rfl hp he hq ha
  | ending he hg hd hp hq ha hc => rw [before] at hd; cases hd
  | finished he hg hd hp hq ha hc => rw [before] at hd; cases hd

theorem Flow.taken {c : Channel S} {acc : Account} {vs : List Json} (h : Flow c acc vs) :
    vs <+: acc.accepted := by
  cases h with
  | running _ _ _ _ ha => exact ha ▸ List.prefix_append ..
  | ending _ _ _ _ _ ha _ => exact ha ▸ List.prefix_append ..
  | finished _ _ _ _ _ ha _ => exact ha ▸ List.append_assoc .. ▸ List.prefix_append ..

/-- A value that gets into the queue stands behind all that was accepted before. -/
theorem Flow.accept {c : Channel S} {acc : Account} {vs : List Json} (h : Flow c acc vs)
    {o : Outbox ChannelMessage} {v : Json} (queue : o.queue = c.outbox.queue ++ [.data v]) :
    Flow { c with outbox := o } (acc.accept [v]) vs := by
  cases h with
  | @running t ws hd hp he hq ha =>
    have accepted : (acc.accept [v]).accepted = vs ++ (ws ++ [v]) := by simp [ha]
    exact .running hd hp he (by simp [queue, hq]) accepted
  | @ending e ws he hg hd hp hq ha hc =>
    have accepted : (acc.accept [v]).accepted = vs ++ (ws ++ [v]) := by simp [ha]
    refine .ending he hg hd hp (by simp [queue, hq]) accepted ?_
    exact hc.trans (by simp)
  | @finished e before after he hg hd hp hq ha hc =>
    have accepted : (acc.accept [v]).accepted = vs ++ before ++ (after ++ [v]) := by simp [ha]
    exact .finished he hg hd hp (by simp [queue, hq]) accepted hc

/-- The oldest message of the queue, when it is a value, is the next to be delivered. -/
theorem Flow.value {c : Channel S} {acc : Account} {vs : List Json} (h : Flow c acc vs) {v : Json}
    {rest : List ChannelMessage} (queue : c.outbox.queue = .data v :: rest) :
    Flow { c with outbox := { c.outbox with queue := rest } } (acc.give (some (.data v)))
      (vs ++ [v]) := by
  cases h with
  | @running t ws hd hp he hq ha =>
    obtain ⟨_, ws, rfl, hv, rfl⟩ := data_of_head (queue.symm.trans hq)
    cases hv
    exact .running hd hp he rfl (by simp [ha])
  | @ending e ws he hg hd hp hq ha hc =>
    obtain ⟨_, ws, rfl, hv, rfl⟩ := data_of_head (queue.symm.trans hq)
    cases hv
    exact .ending he hg hd hp rfl (by simp [ha]) (by simpa using hc)
  | @finished e before after he hg hd hp hq ha hc =>
    cases before with
    | nil =>
      rw [queue] at hq
      have := lastMessage_isTerminal e.outcome
      injection hq with hm
      rw [← hm] at this
      cases this
    | cons w before =>
      rw [queue] at hq
      cases hq
      exact .finished he hg hd hp rfl (by simp [ha]) (by simpa using hc)

/-- The first terminal message of the queue is the handler's, and the values before it were
all delivered. -/
theorem Flow.last {c : Channel S} {acc : Account} {vs : List Json} (h : Flow c acc vs)
    {m : ChannelMessage} {rest : List ChannelMessage} (queue : c.outbox.queue = m :: rest)
    (terminal : m.isTerminal = true) :
    ∃ e, acc.ending = some e ∧ m = lastMessage e.outcome ∧ e.accepted <+: vs := by
  cases h with
  | running hd hp he hq ha =>
    obtain ⟨_, _, -, rfl, -⟩ := data_of_head (queue.symm.trans hq)
    cases terminal
  | ending he hg hd hp hq ha hc =>
    obtain ⟨_, _, -, rfl, -⟩ := data_of_head (queue.symm.trans hq)
    cases terminal
  | @finished e before after he hg hd hp hq ha hc =>
    cases before with
    | nil =>
      rw [queue] at hq
      injection hq with hm
      exact ⟨e, he, hm, by simpa using hc⟩
    | cons w before => rw [queue] at hq; cases hq; cases terminal

/-- A live channel that is not cancelled was open or has ended; only an open one may close. -/
theorem Flow.ending_of_canMove {c : Channel S} {acc : Account} {vs : List Json} (h : Flow c acc vs)
    (may : c.phase.canMove .closing = true) : acc.ending = none := by
  cases h with
  | running _ _ he _ _ => exact he
  | ending _ _ _ hp _ _ _ => rw [hp, not_canMove_phaseOf] at may; cases may
  | finished _ _ _ hp _ _ _ => rw [hp, not_canMove_phaseOf] at may; cases may

/-- While the channel is not cancelled its handler's end is on the way to the subscription. -/
theorem Flow.not_silent {c : Channel S} {acc : Account} {vs : List Json} (h : Flow c acc vs)
    (queue : c.outbox.queue = []) : c.isSilent = false := by
  cases h with
  | running hd _ _ _ _ => simp [isSilent, hd]
  | ending _ _ hd _ _ _ _ => simp [isSilent, hd]
  | finished _ _ _ _ hq _ _ => simp [queue] at hq

theorem Flow.conclude {c : Channel S} {acc : Account} {vs : List Json} (h : Flow c acc vs)
    (going : c.outbox.cancelled = false) {t : Task S} (running : c.drive = .running t)
    (outcome : Outcome Unit) :
    Flow (c.conclude outcome) (acc.conclude outcome c.outbox.cancelled) vs := by
  cases h with
  | running hd hp he hq ha =>
    have may : c.phase.canMove (phaseOf (lastMessage outcome)) = true := by
      rw [hp, canMove_phaseOf]
    simp only [Channel.conclude, if_pos may]
    exact .ending rfl going rfl (by simp [advance, Lifecycle.advance, may]) hq ha (ha ▸ List.prefix_rfl)
  | ending _ _ hd _ _ _ _ => rw [running] at hd; cases hd
  | finished _ _ hd _ _ _ _ => rw [running] at hd; cases hd

theorem Flow.finish {c : Channel S} {acc : Account} {vs : List Json} (h : Flow c acc vs)
    {m : ChannelMessage} (ending : c.drive = .ending m) :
    Flow { c with outbox := c.outbox.accept driveTicket m, drive := .finished } acc vs := by
  cases h with
  | running hd _ _ _ _ => rw [ending] at hd; cases hd
  | @ending e ws he hg hd hp hq ha hc =>
    rw [ending] at hd
    cases hd
    have accepted : acc.accepted = vs ++ ws ++ [] := by simp [ha]
    exact .finished he hg rfl hp (by simp [Outbox.accept, hq]) accepted hc
  | finished _ _ hd _ _ _ _ => rw [ending] at hd; cases hd

theorem conclude_subscription (c : Channel S) (outcome : Outcome Unit) :
    (c.conclude outcome).subscription = c.subscription ∧ (c.conclude outcome).parked = c.parked ∧
      (c.conclude outcome).outbox = c.outbox ∧ (c.conclude outcome).listed = c.listed := by
  simp only [Channel.conclude]
  split <;> exact ⟨rfl, rfl, rfl, rfl⟩

/-- A cancelled channel stays as it is told, whatever its tasks still do. -/
theorem Delivery.afterwards {c d : Channel S} {acc acc' : Account} (h : Delivery c acc)
    (attached : c.subscription ≠ .unattached) (cancelled : c.outbox.cancelled = true)
    (subscription : d.subscription = c.subscription) (parked : d.parked = c.parked)
    (listed : d.listed = c.listed) (still : d.outbox.cancelled = true)
    (returned : acc'.returned = acc.returned) (accepted : acc'.accepted = acc.accepted)
    (ending : acc'.ending = acc.ending ∨ ∃ e, acc'.ending = some e ∧ e.cancelled = true) :
    Delivery d acc' := by
  cases h with
  | unattached hs => exact absurd hs attached
  | flowing _ _ hg => rw [cancelled] at hg; cases hg
  | cancelled hs hp hc ht hv he =>
    refine .cancelled (subscription.trans hs) (parked.trans hp) still (returned.trans ht)
      (accepted ▸ hv) ?_
    intro e h
    rcases ending with same | ⟨e', last, late⟩
    · exact he e (same ▸ h)
    · rw [last] at h
      cases h
      exact late
  | complete hs hp hl hc ht hv hm he =>
    refine .complete (subscription.trans hs) (parked.trans hp) (listed.trans hl) still
      (returned.trans ht) (accepted ▸ hv) hm ?_
    intro e h going
    rcases ending with same | ⟨e', last, late⟩
    · exact he e (same ▸ h) going
    · rw [last] at h
      cases h
      rw [late] at going
      cases going
  | dropped hs hp hl hc ht hv =>
    exact .dropped (subscription.trans hs) (parked.trans hp) (listed.trans hl) still
      (returned.trans ht) (accepted ▸ hv)

theorem Delivery.fresh {c : Channel S} {acc : Account} (h : Delivery c acc)
    (alone : c.subscription = .unattached) : acc = .empty ∧ c.drive = .idle ∧ c.forks = [] ∧
      c.outbox.queue = [] ∧ c.outbox.receiving = true ∧
      (c.listed = true → c.outbox.cancelled = false → c.phase = .initializing) := by
  cases h with
  | unattached _ hf hd hk hq hr _ hp => exact ⟨hf, hd, hk, hq, hr, hp⟩
  | flowing hs => rw [alone] at hs; cases hs
  | cancelled hs => rw [alone] at hs; cases hs
  | complete hs => rw [alone] at hs; cases hs
  | dropped hs => rw [alone] at hs; cases hs

theorem Delivery.alone_of_parked {c : Channel S} {acc : Account} (h : Delivery c acc)
    (parked : c.parked ≠ none) : c.subscription = .unattached := by
  cases h with
  | unattached hs => exact hs
  | flowing _ hp => exact absurd hp parked
  | cancelled _ hp => exact absurd hp parked
  | complete _ hp => exact absurd hp parked
  | dropped _ hp => exact absurd hp parked

theorem Delivery.running_attached {c : Channel S} {acc : Account} (h : Delivery c acc)
    (drive : c.drive ≠ .idle) : c.subscription ≠ .unattached := by
  intro alone
  obtain ⟨-, idle, -⟩ := h.fresh alone
  exact drive idle

theorem Delivery.attached_of_busy {c : Channel S} {acc : Account} (h : Delivery c acc)
    (busy : c.Busy) : c.subscription ≠ .unattached := by
  intro alone
  obtain ⟨-, idle, none, -⟩ := h.fresh alone
  rcases busy with ⟨t, e⟩ | ⟨k, t, e⟩
  · rw [idle] at e; cases e
  · simp [none] at e

theorem Delivery.live {c : Channel S} {acc : Account} (h : Delivery c acc)
    (live : c.subscription = .live) : c.parked = none ∧ ∃ vs, acc.returned = heard vs ∧
      vs <+: acc.accepted ∧
      ((c.outbox.cancelled = false ∧ c.outbox.receiving = true ∧ Flow c acc vs) ∨
        (c.outbox.cancelled = true ∧ ∀ e, acc.ending = some e → e.cancelled = true)) := by
  cases h with
  | unattached hs => rw [live] at hs; cases hs
  | flowing _ hp hg hr ht hf => exact ⟨hp, _, ht, hf.taken, .inl ⟨hg, hr, hf⟩⟩
  | cancelled _ hp hc ht hv he => exact ⟨hp, _, ht, hv, .inr ⟨hc, he⟩⟩
  | complete hs => rw [live] at hs; cases hs
  | dropped hs => rw [live] at hs; cases hs

theorem complete_subscription (c : Channel S) (m : ChannelMessage) :
    (c.complete m).subscription = .complete ∧ (c.complete m).parked = c.parked ∧
      (c.complete m).listed = false ∧ (c.complete m).outbox.cancelled = true := by
  cases m <;> exact ⟨rfl, rfl, rfl, rfl⟩

/-- The subscription of a live channel is told its terminal message. -/
theorem Delivery.ends {c d : Channel S} {acc : Account} {vs : List Json} {m : ChannelMessage}
    (parked : c.parked = none) (same : d.parked = c.parked) (told : acc.returned = heard vs)
    (taken : vs <+: acc.accepted) (terminal : m.isTerminal = true)
    (ending : ∀ e, acc.ending = some e → e.cancelled = false →
      m = lastMessage e.outcome ∧ e.accepted <+: vs) :
    Delivery (d.complete m) (acc.give (some m)) := by
  obtain ⟨hs, hp, hl, hc⟩ := complete_subscription d m
  exact .complete (n := 0) hs (hp.trans (same.trans parked)) hl hc (by simp [told]) taken terminal
    ending

theorem Delivery.stay {c : Channel S} {acc : Account} (h : Delivery c acc) (expiry : Option Nat) :
    Delivery { c with expiry := expiry } acc := by
  cases h with
  | unattached hs hf hd hk hq hr ht hp => exact .unattached hs hf hd hk hq hr ht hp
  | flowing hs hp hg hr ht hf => exact .flowing hs hp hg hr ht (hf.frame rfl rfl rfl)
  | cancelled hs hp hc ht hv he => exact .cancelled hs hp hc ht hv he
  | complete hs hp hl hc ht hv hm he => exact .complete hs hp hl hc ht hv hm he
  | dropped hs hp hl hc ht hv => exact .dropped hs hp hl hc ht hv

theorem Delivery.cancel {c : Channel S} {acc : Account} (h : Delivery c acc)
    (may : c.phase.canMove .closing = true) :
    Delivery { c.advance .closing with outbox := c.outbox.cancel } acc := by
  cases h with
  | unattached hs hf hd hk hq hr ht _ => exact .unattached hs hf hd hk hq hr ht nofun
  | flowing hs hp hg hr ht hf =>
    have none := hf.ending_of_canMove may
    exact .cancelled hs hp rfl ht hf.taken (by simp [none])
  | cancelled hs hp hc ht hv he => exact .cancelled hs hp rfl ht hv he
  | complete hs hp hl hc ht hv hm he => exact .complete hs hp hl rfl ht hv hm he
  | dropped hs hp hl hc ht hv => exact .dropped hs hp hl rfl ht hv

theorem Delivery.discard {c : Channel S} {acc : Account} (h : Delivery c acc) (expiry : Option Nat)
    (parked : c.parked ≠ none) : Delivery { c.discard with expiry := expiry } acc := by
  have alone := h.alone_of_parked parked
  obtain ⟨empty, idle, none, queue, receiving, -⟩ := h.fresh alone
  exact .unattached alone empty idle none queue receiving nofun nofun

theorem Delivery.attach {c : Channel S} {acc : Account} (h : Delivery c acc) {start : S}
    (listed : c.listed = true) (parked : c.parked = some start) :
    Delivery { c.advance .open with
      parked := none, drive := .running (Task.at start), subscription := .live } acc := by
  obtain ⟨rfl, -, -, queue, receiving, phase⟩ := h.fresh (h.alone_of_parked (by simp [parked]))
  have told : Account.empty.returned = heard [] := rfl
  by_cases cancelled : c.outbox.cancelled = true
  · exact .cancelled rfl rfl cancelled told List.prefix_rfl nofun
  · rw [Bool.not_eq_true] at cancelled
    have opened : c.phase.advance .open = .open := by rw [phase listed cancelled]; rfl
    have queue : c.outbox.queue = [].map .data := queue
    exact .flowing rfl rfl cancelled receiving told (.running rfl opened rfl queue rfl)

theorem Delivery.drop {c : Channel S} {acc : Account} (h : Delivery c acc)
    (live : c.subscription = .live) : Delivery c.drop acc := by
  obtain ⟨parked, vs, told, taken, -⟩ := h.live live
  simp only [Channel.drop, if_neg (not_not_intro live)]
  exact .dropped rfl parked rfl rfl told taken

/-- A subscription that was told its terminal message hears of nothing more. -/
theorem Delivery.again {c : Channel S} {acc : Account} (h : Delivery c acc)
    (complete : c.subscription = .complete) : Delivery c (acc.give none) := by
  cases h with
  | unattached hs => rw [complete] at hs; cases hs
  | flowing hs => rw [complete] at hs; cases hs
  | cancelled hs => rw [complete] at hs; cases hs
  | @complete vs m n hs hp hl hc ht hv hm he =>
    refine .complete (n := n + 1) hs hp hl hc ?_ hv hm he
    rw [Account.give_returned, ht, List.append_assoc, List.cons_append, ← List.replicate_succ']
  | dropped hs => rw [complete] at hs; cases hs

theorem Delivery.conclude {c : Channel S} {acc : Account} (h : Delivery c acc) {t : Task S}
    (running : c.drive = .running t) (outcome : Outcome Unit) :
    Delivery (c.conclude outcome) (acc.conclude outcome c.outbox.cancelled) := by
  obtain ⟨hs, hp, ho, hl⟩ := conclude_subscription c outcome
  have attached := h.running_attached (by simp [running])
  by_cases late : c.outbox.cancelled = true
  · exact h.afterwards attached late hs hp hl (ho ▸ late) rfl rfl (.inr ⟨_, rfl, late⟩)
  · cases h with
    | unattached hs' => exact absurd hs' attached
    | flowing hs' hp' hg hr ht hf =>
      exact .flowing (hs.trans hs') (hp.trans hp') (ho ▸ hg) (ho ▸ hr) ht (hf.conclude hg running outcome)
    | cancelled _ _ hc => exact absurd hc late
    | complete _ _ _ hc => exact absurd hc late
    | dropped _ _ _ hc => exact absurd hc late

/-- A step of a task, or of queueing the terminal message, at a live channel. -/
theorem Delivery.onward {c : Channel S} {acc acc' : Account} (h : Delivery c acc)
    {o : Outbox ChannelMessage} {drive : Drive S} {forks : List (Option (Task S))}
    (attached : c.subscription ≠ .unattached) (cancelled : o.cancelled = c.outbox.cancelled)
    (receiving : o.receiving = c.outbox.receiving) (returned : acc'.returned = acc.returned)
    (accepted : c.outbox.cancelled = true → acc'.accepted = acc.accepted)
    (ending : acc'.ending = acc.ending)
    (flow : ∀ vs, c.outbox.cancelled = false → c.outbox.receiving = true → Flow c acc vs →
      Flow { c with outbox := o, drive := drive, forks := forks } acc' vs) :
    Delivery { c with outbox := o, drive := drive, forks := forks } acc' := by
  by_cases late : c.outbox.cancelled = true
  · exact h.afterwards attached late rfl rfl rfl (cancelled.trans late) returned (accepted late)
      (.inl ending)
  · cases h with
    | unattached hs => exact absurd hs attached
    | flowing hs hp hg hr ht hf =>
      exact .flowing hs hp (cancelled.trans hg) (receiving.trans hr) (returned.trans ht)
        (flow _ hg hr hf)
    | cancelled _ _ hc => exact absurd hc late
    | complete _ _ _ hc => exact absurd hc late
    | dropped _ _ _ hc => exact absurd hc late

theorem delivery_step {c c' : Channel S} {acc acc' : Account} (h : Delivery c acc)
    (s : Step b c acc c' acc') : Delivery c' acc' := by
  cases s with
  | stay expiry => exact h.stay expiry
  | discard expiry listed parked => exact h.discard expiry (Option.isSome_iff_ne_none.mp parked)
  | attach listed parked => exact h.attach listed parked
  | cancel listed may => exact h.cancel may
  | late complete => exact h.again complete
  | told live cancelled =>
    obtain ⟨parked, vs, told, taken, ⟨going, -⟩ | ⟨-, late⟩⟩ := h.live live
    · rw [cancelled] at going; cases going
    · refine .ends parked rfl told taken rfl ?_
      intro e ended going
      rw [late e ended] at going
      cases going
  | value live going queue data =>
    obtain ⟨v, rfl⟩ := data_of_not_isTerminal data
    obtain ⟨parked, vs, told, taken, ⟨-, receiving, flow⟩ | ⟨late, -⟩⟩ := h.live live
    · have heard' : (acc.give (some (.data v))).returned = heard (vs ++ [v]) := by
        rw [Account.give_returned, told, heard_append]
        rfl
      exact .flowing live parked going receiving heard' (flow.value queue)
    · rw [going] at late; cases late
  | last live going queue terminal =>
    obtain ⟨parked, vs, told, taken, ⟨-, -, flow⟩ | ⟨late, -⟩⟩ := h.live live
    · obtain ⟨e, ended, last, covered⟩ := flow.last queue terminal
      refine .ends parked rfl told taken terminal ?_
      intro e' ended' _
      rw [ended] at ended'
      cases ended'
      exact ⟨last, covered⟩
    · rw [going] at late; cases late
  | silent live going queue silent =>
    obtain ⟨-, vs, -, -, ⟨-, -, flow⟩ | ⟨late, -⟩⟩ := h.live live
    · rw [flow.not_silent queue] at silent; cases silent
    · rw [going] at late; cases late
  | drop live => exact h.drop live
  | release cancelled busy =>
    have drive : c.drive ≠ .idle := by
      rcases busy with ⟨t, e⟩ | ⟨m, e⟩ <;> simp [e]
    exact h.afterwards (h.running_attached drive) cancelled rfl rfl rfl cancelled rfl rfl (.inl rfl)
  | idle queue cancelled receiving goesOn busy =>
    refine h.onward (h.attached_of_busy busy) cancelled receiving rfl (fun _ => rfl) rfl ?_
    intro vs _ _ flow
    exact (flow.goesOn goesOn).frame rfl rfl queue
  | accept going queue cancelled receiving goesOn busy =>
    refine h.onward (h.attached_of_busy busy) cancelled receiving rfl ?_ rfl ?_
    · intro late
      rw [going] at late
      cases late
    · intro vs _ _ flow
      exact ((flow.goesOn goesOn).accept queue).frame rfl rfl rfl
  | conclude running => exact h.conclude running _
  | wait ending =>
    refine h.onward (h.running_attached (by simp [ending])) rfl rfl rfl (fun _ => rfl) rfl ?_
    intro vs _ _ flow
    exact flow.frame rfl rfl rfl
  | finish ending going =>
    refine h.onward (h.running_attached (by simp [ending])) rfl rfl rfl (fun _ => rfl) rfl ?_
    intro vs _ _ flow
    exact flow.finish ending
  | giveUp ending closed =>
    refine h.onward (h.running_attached (by simp [ending])) rfl rfl rfl (fun _ => rfl) rfl ?_
    intro vs going receiving flow
    simp [Outbox.isClosed, going, receiving] at closed

end CommandBridge.Channel
