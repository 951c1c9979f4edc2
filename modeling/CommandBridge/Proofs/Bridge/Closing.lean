import CommandBridge.Proofs.Bridge.Delivery
import CommandBridge.Proofs.Channel.Closing

/-!
# Closing an attached channel

A close that finds the handler at work cancels the channel, and the subscription hears of
nothing but the end. A close that comes after the handler has ended changes nothing: what is
queued is still delivered, so such a close is final only if nothing but `close` was left.
-/

set_option autoImplicit false

namespace CommandBridge.Bridge

open Channel

variable {A : Application} {b b' : Bridge A} {i : Nat} {c : Channel A.Stream}

def ClosesOnly (b : Bridge A) (i : Nat) : Prop :=
  ∀ acts, CloseOnly (account i b acts .empty).returned

def Overtaken (b : Bridge A) (i : Nat) : Prop :=
  ∃ acts c, (b.run acts).channels[i]? = some c ∧ Holds c

theorem settled_kept (acts : List (Act A)) {acc : Account} (there : b.channels[i]? = some c)
    (h : Settled c acc.returned) :
    ∃ d, (b.run acts).channels[i]? = some d ∧ Settled d (account i b acts acc).returned :=
  Sessions.history_kept (s := channelSessions A) (P := fun c acc => Settled c acc.returned)
    (fun c acc w x h => settled_step h (step A.stream c acc w x)) acts there h

theorem closesOnly_of_settled (there : b.channels[i]? = some c) (h : Settled c []) :
    ClosesOnly b i := by
  intro acts
  have begins : Settled c Account.empty.returned := h
  obtain ⟨d, -, settled⟩ := settled_kept acts there begins
  exact settled.closeOnly

/-- A `close` that waits is delivered alone if no value gets in before it. -/
theorem closesOnly_of_waiting (there : b.channels[i]? = some c) (h : Waiting c)
    (never : ¬Overtaken b i) : ClosesOnly b i := by
  intro acts
  suffices ∀ acc : Account, acc.returned = [] → CloseOnly (account i b acts acc).returned from
    this .empty rfl
  induction acts generalizing b c with
  | nil => exact fun acc none => .inl none
  | cons a rest ih =>
    intro acc none
    have later : ¬Overtaken (b.act a) i := by
      rintro ⟨more, d, same, holds⟩
      exact never ⟨a :: more, d, same, holds⟩
    have next := act_channel there a
    change CloseOnly (account i (b.act a) rest ((channelSessions A).noted i b acc a)).returned
    cases seen : b.channelAct? i a with
    | none =>
      rw [seen] at next
      have unseen : (channelSessions A).noted i b acc a = acc := by
        simp only [Sessions.noted, channelSessions, there, seen]
      rw [unseen]
      exact ih next h later acc none
    | some x =>
      rw [seen] at next
      have noted : (channelSessions A).noted i b acc a = c.note A.stream acc x := by
        simp only [Sessions.noted, channelSessions, there, seen]
      rw [noted]
      obtain ⟨waiting, none'⟩ | settled | holds :=
        waiting_step h none (step A.stream c acc b.world x)
      · exact ih next waiting later _ none'
      · obtain ⟨d, -, kept⟩ := settled_kept rest next settled
        exact kept.closeOnly
      · exact absurd ⟨[], _, next, holds⟩ later

/-- Where only the end may be heard of, no queue of a run starts with anything else. -/
theorem head_of_closesOnly (h : ClosesOnly b i) (acts : List (Act A))
    (there : (b.run acts).channels[i]? = some c) (live : c.subscription = .live)
    (going : c.outbox.cancelled = false) {m : ChannelMessage} {rest : List ChannelMessage}
    (queue : c.outbox.queue = m :: rest) : m = .close := by
  have given : (c.receive).2 = .message m := by
    simp [Channel.receive, live, going, Outbox.take?, queue, deliver]
  have noted : (account i b (acts ++ [.receive i]) .empty).returned =
      (account i b acts .empty).returned ++ [some m] := by
    unfold account
    rw [Sessions.history_append]
    simp [Sessions.history, Sessions.noted, channelSessions, there, channelAct?, Channel.note, live,
      given]
  have only := h (acts ++ [.receive i])
  rw [noted] at only
  exact only.eq_close (by simp)

theorem not_overtaken_of_closesOnly (h : ClosesOnly b i) : ¬Overtaken b i := by
  rintro ⟨acts, c, there, live, going, v, rest, queue⟩
  cases head_of_closesOnly h acts there live going queue

theorem not_overtaken_of_quiet (there : b.channels[i]? = some c) (h : Quiet c) : ¬Overtaken b i := by
  rintro ⟨acts, d, same, holds⟩
  obtain ⟨d', same', quiet⟩ := Sessions.history_kept (s := channelSessions A) (l := .empty)
    (P := fun c _ => Quiet c) (fun c acc w x h => quiet_step h (step A.stream c acc w x)) acts there h
  cases same.symm.trans same'
  exact quiet.not_holds holds

theorem closeChannel_attached {id : Uuid} (there : b.channels[i]? = some c)
    (attached : c.parked = none) (closed : b.closeChannel id = .ok (b', i)) :
    c.listed = true ∧ b' = b.setChannel i c.cancel := by
  simp only [closeChannel, withChannel] at closed
  split at closed
  · cases closed
  next j found =>
  split at closed
  · cases closed
  next d same =>
  cases changed : d.close id.text with
  | error e => rw [changed] at closed; cases closed
  | ok d' =>
    rw [changed] at closed
    cases closed
    rw [there] at same
    cases same
    simp only [Channel.close, attached] at changed
    split at changed
    · cases changed
    next listed =>
    cases changed
    exact ⟨by simpa using listed, rfl⟩

theorem setChannel_same (there : b.channels[i]? = some c) : b.setChannel i c = b := by
  obtain ⟨bound, same⟩ := List.getElem?_eq_some_iff.mp there
  simp [setChannel, ← same]

theorem live_of_listed {acc : Account} (d : Delivery c acc) (listed : c.listed = true)
    (attached : c.parked = none) : c.subscription = .live := by
  cases d with
  | unattached _ _ _ _ _ _ table =>
    have parked := table listed
    rw [attached] at parked
    cases parked
  | flowing hs => exact hs
  | cancelled hs => exact hs
  | complete _ _ table => rw [listed] at table; cases table
  | dropped _ _ table => rw [listed] at table; cases table

/-- A cancel that finds the channel open, or cancelled already, leaves it settled. -/
theorem settled_cancel (live : c.subscription = .live) (attached : c.parked = none)
    (early : c.phase = .open ∨ c.outbox.cancelled = true) :
    c.cancel.outbox.cancelled = true ∧ Settled c.cancel [] := by
  unfold cancel
  split
  · exact ⟨rfl, .next live attached (.inl rfl) rfl⟩
  · next may =>
    rcases early with phase | cancelled
    · rw [phase] at may; exact absurd rfl may
    · exact ⟨cancelled, .next live attached (.inl cancelled) rfl⟩

/-- Neither open nor cancelled, a live channel is past the end of its handler. -/
theorem cancel_of_late {acc : Account} {vs : List Json} (flow : Flow c acc vs)
    (late : c.phase ≠ .open) : c.cancel = c := by
  have phase : ∃ m, c.phase = phaseOf m := by
    cases flow with
    | running _ hp _ _ _ => exact absurd hp late
    | ending _ _ _ hp _ _ _ => exact ⟨_, hp⟩
    | finished _ _ _ hp _ _ _ => exact ⟨_, hp⟩
  obtain ⟨m, phase⟩ := phase
  simp [cancel, phase, not_canMove_phaseOf]

/-- What is left past the end of a handler tells whether only the end is heard of. -/
theorem closesOnly_iff_of_late {acc : Account} {vs : List Json} (l : Lined A.stream c)
    (there : b.channels[i]? = some c) (live : c.subscription = .live) (attached : c.parked = none)
    (going : c.outbox.cancelled = false) (receiving : c.outbox.receiving = true)
    (flow : Flow c acc vs) (late : c.phase ≠ .open) :
    ClosesOnly b i ↔ c.outbox.queue.head? = some .close ∨
      (c.outbox.queue = [] ∧ c.drive = .ending .close ∧ ¬Overtaken b i) := by
  constructor
  · intro only
    cases queue : c.outbox.queue with
    | cons m rest =>
      left
      rw [head_of_closesOnly only [] there live going queue]
      rfl
    | nil =>
      right
      refine ⟨rfl, ?_, not_overtaken_of_closesOnly only⟩
      cases flow with
      | running _ hp _ _ _ => exact absurd hp late
      | finished _ _ _ _ hq _ _ => simp [queue] at hq
      | ending _ _ drive _ _ _ _ =>
        have closed : c.outbox.isClosed = false := by simp [Outbox.isClosed, going, receiving]
        obtain ⟨m, w, d, x, moved, filled, which, same, subscription⟩ :=
          exists_move_fills l closed drive queue b.now b.world
        have next : (b.run [.move (.channel i m)]).channels[i]? = some d := by
          rw [run_cons, run_nil, act_channel there]
          simp [channelAct?, Channel.act, moved]
        have head := head_of_closesOnly only _ next (subscription.trans live) (same.trans going) filled
        subst head
        rcases which with last | data
        · rw [drive, ← last]
        · cases data
  · rintro (head | ⟨queue, drive, never⟩)
    · exact closesOnly_of_settled there (.next live attached (.inr head) rfl)
    · exact closesOnly_of_waiting there ⟨live, attached, going, receiving, drive, queue⟩ never

/-- When a close that succeeds on an attached channel is final, and that it changes nothing
when it comes too late. -/
theorem close_final_iff (config : Config) (registry : Registry A) (world : A.World)
    (files : FileTree) (acts : List (Act A)) (id : Uuid) (i : Nat) (c : Channel A.Stream)
    (b' : Bridge A)
    (there : ((start config registry world files).run acts).channels[i]? = some c)
    (attached : c.parked = none)
    (closed : ((start config registry world files).run acts).closeChannel id = .ok (b', i)) :
    let b := (start config registry world files).run acts
    (ClosesOnly b' i ↔ c.phase = .open ∨ c.outbox.cancelled = true ∨
      c.outbox.queue.head? = some .close ∨
      (c.outbox.queue = [] ∧ c.drive = .ending .close ∧ ¬Overtaken b i)) ∧
    (c.phase = .open ∨ c.outbox.cancelled = true → (b'.receive i).2 = .message .close) ∧
    (¬(c.phase = .open ∨ c.outbox.cancelled = true) → b' = b) ∧
    (¬c.Busy → c.outbox.queue = [] → c.drive = .ending .close → ¬Overtaken b i) := by
  intro b
  obtain ⟨d, l⟩ := delivery_run config registry world files acts there
  obtain ⟨listed, changed⟩ := closeChannel_attached there attached closed
  have live := live_of_listed d listed attached
  have cancelled : b'.channels[i]? = some c.cancel := by
    rw [changed, setChannel_self there, if_pos rfl]
  have subscription : c.cancel.subscription = .live := by
    unfold cancel
    split <;> exact live
  have after (late : ¬(c.phase = .open ∨ c.outbox.cancelled = true)) :
      b' = b ∧ c.outbox.receiving = true ∧ ∃ vs, Flow c
        (account i (start config registry world files) acts .empty) vs := by
    obtain ⟨-, vs, -, -, ⟨-, receiving, flow⟩ | ⟨cancelled, -⟩⟩ := d.live live
    · have same := cancel_of_late flow fun phase => late (.inl phase)
      exact ⟨by rw [changed, same, setChannel_same there], receiving, vs, flow⟩
    · exact absurd (.inr cancelled) late
  refine ⟨?_, ?_, ?_, ?_⟩
  · by_cases early : c.phase = .open ∨ c.outbox.cancelled = true
    · have final := closesOnly_of_settled cancelled (settled_cancel live attached early).2
      rw [← or_assoc]
      exact ⟨fun _ => .inl early, fun _ => final⟩
    · obtain ⟨same, receiving, vs, flow⟩ := after early
      have going : c.outbox.cancelled = false := by simpa using fun h => early (.inr h)
      rw [same, closesOnly_iff_of_late l there live attached going receiving flow
        fun phase => early (.inl phase), ← or_assoc (a := c.phase = .open)]
      exact ⟨.inr, fun h => h.resolve_left early⟩
  · intro early
    have told := (settled_cancel live attached early).1
    simp [receive, cancelled, Channel.receive, subscription, told, deliver]
  · exact fun late => (after late).1
  · intro idle queue drive
    refine not_overtaken_of_quiet there ⟨attached, idle, fun m e => ?_, by simp [queue]⟩
    rw [drive] at e
    cases e
    rfl

/-- A close while the handler is at work is final, although its value is queued. -/
theorem sole_close_final : ∃ b',
    (sole.run (soleRuns.take 3)).closeChannel (Uuid.nth 0) = .ok (b', 0) ∧ ClosesOnly b' 0 := by
  have found : ((sole.run (soleRuns.take 3)).closeChannel (Uuid.nth 0)).toOption.map Prod.snd =
      some 0 := by decide
  have open' : (sole.run (soleRuns.take 3)).channels[0]?.map
      (fun c => (c.phase, c.parked.isNone)) = some (.open, true) := by decide
  obtain ⟨c, there, state⟩ := Option.map_eq_some_iff.mp open'
  injection state with phase attached
  cases closed : (sole.run (soleRuns.take 3)).closeChannel (Uuid.nth 0) with
  | error e => rw [closed] at found; cases found
  | ok r =>
    obtain ⟨b', i⟩ := r
    rw [closed] at found
    cases found
    have final := close_final_iff _ _ _ _ _ _ 0 c b' there (by simpa using attached) closed
    exact ⟨b', rfl, final.1.mpr (.inl phase)⟩

/-- The handler has ended with its value still queued: a close is accepted, and yet the
subscription is given the value. -/
theorem sole_value_after_close :
    (sole.run soleRuns).channels[0]?.map (fun c => c.parked.isNone) = some true ∧
      ((sole.run soleRuns).closeChannel (Uuid.nth 0)).toOption.map Prod.snd = some 0 ∧
      ¬ClosesOnly ((sole.run soleRuns).act (.close (Uuid.nth 0))) 0 := by
  refine ⟨by decide, by decide, fun only => ?_⟩
  have given : (account 0 ((sole.run soleRuns).act (.close (Uuid.nth 0))) [.receive 0]
      .empty).returned = [some (.data (.bool true))] := by decide
  have all := only [.receive 0]
  rw [given] at all
  cases all.eq_close (List.mem_singleton.mpr rfl)

end CommandBridge.Bridge
