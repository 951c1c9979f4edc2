import CommandBridge.Proofs.Showcase.Updates

/-!
# What the subscription of a series is told

The first readings, each once, and the end after the last of them. Nothing but a close keeps the series
from its end: whenever the subscription has read all that is queued, the handler can go on after some
time, and each of its steps and each message that is read brings the end nearer.
-/

set_option autoImplicit false

namespace CommandBridge

def Bridge.Act.Tends {A : Application} (i : Nat) : Bridge.Act A → Prop
  | .pass _ => True
  | .receive j | .move (.channel j _) => j = i
  | _ => False

namespace Showcase.Updates

open Bridge Channel

variable {u : Updates}

variable {c : Channel application.Stream} {acc : Account} {log : List ChannelEvent}

structure Watched (u : Updates) (c : Channel application.Stream) (acc : Account)
    (log : List ChannelEvent) : Prop where
  delivery : Delivery c acc
  lined : Lined application.stream c
  told : Told c log
  unclosed : Unclosed c acc log
  gapless : Gapless u c acc

theorem watched_create (u : Updates) (name : String) (capacity expiry : Nat) :
    Watched u (create name (.sending (u.upTo 0)) capacity expiry) .empty [] where
  delivery := delivery_create name _ capacity expiry
  lined := lined_create name _ capacity expiry
  told := told_create name _ capacity expiry
  unclosed := unclosed_create name _ capacity expiry
  gapless := gapless_create u name capacity expiry

theorem watched_act (h : Watched u c acc log) (w : application.World) (x : ChannelAct) :
    Watched u (c.act application.stream w x) (c.note application.stream acc x)
      (log ++ c.events application.stream w x) where
  delivery := delivery_step h.delivery (step application.stream c acc w x)
  lined := lined_act h.delivery h.lined w x
  told := told_act h.told h.delivery w x
  unclosed := unclosed_act h.unclosed h.delivery h.told.phased w x
  gapless := h.gapless.act h.delivery h.unclosed w x

/-- The beginnings of a list of readings are the shorter lists of readings. -/
theorem prefix_readings {city : String} {k : Nat} {vs : List Json} (h : vs <+: readings city k) :
    ∃ j, vs = readings city j ∧ j ≤ k := by
  have fits : vs.length ≤ k := by simpa [length_readings] using h.length_le
  refine ⟨vs.length, ?_, fits⟩
  calc vs
    _ = (readings city k).take vs.length := List.prefix_iff_eq_take.mp h
    _ = readings city vs.length := by
      rw [readings, ← List.map_take, List.take_range, Nat.min_eq_left fits, readings]

/-- The subscription has been told the first readings, then at most one terminal message. -/
theorem Watched.first_readings (h : Watched u c acc log) :
    ∃ k rest, acc.returned = heard (readings u.city k) ++ rest ∧ k ≤ u.limit ∧
      (rest = [] ∨ ∃ m j, m.isTerminal = true ∧ rest = some m :: List.replicate j none) := by
  obtain ⟨n, first, within, -⟩ := h.gapless.through
  have taken {vs : List Json} (taken : vs <+: acc.accepted) :
      ∃ k, vs = readings u.city k ∧ k ≤ u.limit := by
    obtain ⟨k, same, fewer⟩ := prefix_readings (first ▸ taken)
    exact ⟨k, same, Nat.le_trans fewer within⟩
  cases h.delivery with
  | unattached _ fresh => exact ⟨0, [], by rw [fresh]; rfl, Nat.zero_le _, .inl rfl⟩
  | flowing _ _ _ _ told flow =>
    obtain ⟨k, rfl, within⟩ := taken flow.taken
    exact ⟨k, [], by rw [told, List.append_nil], within, .inl rfl⟩
  | cancelled _ _ _ told before =>
    obtain ⟨k, rfl, within⟩ := taken before
    exact ⟨k, [], by rw [told, List.append_nil], within, .inl rfl⟩
  | complete _ _ _ _ told before terminal =>
    obtain ⟨k, rfl, within⟩ := taken before
    exact ⟨k, _, told, within, .inr ⟨_, _, terminal, rfl⟩⟩
  | dropped _ _ _ _ told before =>
    obtain ⟨k, rfl, within⟩ := taken before
    exact ⟨k, [], by rw [told, List.append_nil], within, .inl rfl⟩

/-- A subscription that was read to its end on a channel that nobody closed. -/
theorem Watched.all_readings (h : Watched u c acc log) (unasked : ¬Asked log)
    (complete : c.subscription = .complete) {n : UInt32} (count : u.count = some n) :
    ∃ j, acc.returned = heard (readings u.city n.toNat) ++ some .close :: List.replicate j none := by
  obtain ⟨e, ended, going⟩ := h.unclosed.complete complete unasked
  obtain ⟨outcome, all, nothing⟩ := h.gapless.ended e ended going
  have limit : u.limit = n.toNat := by simp [Updates.limit, count]
  have done : e.outcome = .done () := by simpa [EndsWith, count] using outcome
  cases h.delivery with
  | unattached hs | flowing hs | cancelled hs | dropped hs => rw [complete] at hs; cases hs
  | complete _ _ _ _ told taken _ ending =>
    obtain ⟨rfl, covered⟩ := ending e ended going
    have same := covered.eq_of_length_le (nothing ▸ taken.length_le)
    rw [told, ← same, all, limit, done]
    exact ⟨_, rfl⟩

def taskRank (u : Updates) (t : Task application.Stream) : Nat :=
  match t.state with
  | .sending v => 5 * (u.limit - v.sequence.toNat) + 3
  | .pausing v => 5 * (u.limit - v.sequence.toNat) + if t.since.isNone then 5 else 4
  | _ => 3

def rank (u : Updates) (c : Channel application.Stream) : Nat :=
  c.outbox.queue.length +
    match c.drive with
    | .running t => u.taskRank t
    | .ending _ => 2
    | _ => 0

theorem isTurn_handler (lined : Lined application.stream c) (alone : c.forks = []) :
    c.outbox.isTurn driveTicket = true := by
  unfold Outbox.isTurn
  split
  · rfl
  · next first rest line =>
    cases first with
    | zero => rfl
    | succ k =>
      obtain ⟨t, there, -⟩ := lined.forks k (by simp [line])
      rw [alone] at there
      cases there

theorem push_taken {o : Outbox ChannelMessage} {ticket : Nat} (going : o.isClosed = false)
    (turn : o.isTurn ticket = true) (room : o.queue.length < o.capacity) (v : Json) :
    view.push o ticket (.json v) = .settled (o.accept ticket (.data v.toTransportCase)) none := by
  have open' : o.cancelled = false := by simp_all [Outbox.isClosed]
  simp [view, push, open', Outbox.offer, going, turn, room, Outbox.accept]

theorem act_drive_subscription (c : Channel application.Stream) (w : application.World) (now : Nat)
    (pick : Alternative) :
    (c.act application.stream w (.move now (.drive pick))).subscription = c.subscription := by
  by_cases running : ∃ t, c.drive = .running t
  · obtain ⟨t, running⟩ := running
    simp only [Channel.act, Channel.move, driveStep, running]
    cases t.clientStep application.stream view now pick driveTicket w c.outbox with
    | none => rfl
    | some r =>
      obtain ⟨w', o, turn⟩ := r
      cases turn with
      | onward | forked => rfl
      | ended outcome => exact (conclude_subscription _ outcome).1
  · simp only [Channel.act, Channel.move, driveStep]
    split
    · next t there => exact absurd ⟨t, there⟩ running
    · next last ending => cases c.outbox.offer driveTicket last <;> rfl
    · rfl

section Step

variable {t t' : Task application.Stream} {w w' : application.World} {now : Nat} {pick : Alternative}
  {o : Outbox ChannelMessage}

theorem rank_running (running : c.drive = .running t) :
    u.rank c = c.outbox.queue.length + u.taskRank t := by
  simp only [rank, running]

theorem rank_onward (running : c.drive = .running t)
    (stepped : t.clientStep application.stream view now pick driveTicket w c.outbox =
      some (w', o, .onward t')) :
    u.rank (c.act application.stream w (.move now (.drive pick))) =
      o.queue.length + u.taskRank t' := by
  simp only [Channel.act, Channel.move, driveStep, running, stepped]
  rfl

theorem rank_ended (running : c.drive = .running t) {outcome : Outcome Unit}
    (stepped : t.clientStep application.stream view now pick driveTicket w c.outbox =
      some (w', o, .ended outcome)) :
    u.rank (c.act application.stream w (.move now (.drive pick))) ≤ o.queue.length + 2 := by
  simp only [Channel.act, Channel.move, driveStep, running, stepped, Option.map_some,
    Option.getD_some, Channel.conclude]
  split
  · exact Nat.le_refl _
  · exact Nat.le_add_right _ 2

theorem taskRank_sending {k : Nat} (word : k < UInt32.size) {since : Option Nat} :
    u.taskRank ⟨.sending (u.upTo k), since⟩ = 5 * (u.limit - k) + 3 := by
  simp only [taskRank, upTo]
  rw [show (UInt32.ofNat k).toNat = k from Nat.mod_eq_of_lt word]

theorem taskRank_pausing {k : Nat} (word : k < UInt32.size) {since : Option Nat} :
    u.taskRank ⟨.pausing (u.upTo k), since⟩ =
      5 * (u.limit - k) + if since.isNone then 5 else 4 := by
  simp only [taskRank, upTo]
  rw [show (UInt32.ofNat k).toNat = k from Nat.mod_eq_of_lt word]

variable {k : Nat} {since : Option Nat}

theorem pausing_rings (since now : Nat) : Task.clientStep application.stream view
      (now + (since + u.interval)) .alarm driveTicket w o ⟨.pausing (u.upTo k), some since⟩ =
    some (w, o, .onward ⟨.sending (u.upTo k), none⟩) := by
  have due : since + u.interval ≤ now + (since + u.interval) := Nat.le_add_left _ _
  exact congrArg (Option.map _) (congrArg (Option.map _) (if_pos due))

theorem sending_ends (word : k < UInt32.size) (complete : u.count ≠ none ∧ u.limit ≤ k) :
    Task.clientStep application.stream view now pick driveTicket w o ⟨.sending (u.upTo k), since⟩ =
      some (w, o, .ended (.done ())) := by
  have finished : application.stream.next (.sending (u.upTo k)) = .finish (.done ()) :=
    if_pos ((isComplete_upTo word).mpr complete)
  simp only [Task.clientStep, finished]
  rfl

/-- Where there is room, a reading that is not the last number there is gets through. -/
theorem sending_sends (word : k + 1 < UInt32.size) (more : ¬(u.count ≠ none ∧ u.limit ≤ k))
    (open' : o.isClosed = false) (turn : o.isTurn driveTicket = true)
    (room : o.queue.length < o.capacity) :
    Task.clientStep application.stream view now pick driveTicket w o ⟨.sending (u.upTo k), since⟩ =
      some (w, o.accept driveTicket (.data (reading u.city (.ofNat k)).toJson.toTransportCase),
        .onward ⟨.pausing (u.upTo (k + 1)), none⟩) := by
  simp only [Task.clientStep, next_sending (Nat.lt_of_succ_lt word) more,
    push_taken open' turn room, afterPush, if_neg (Nat.ne_of_lt word)]
  rfl

/-- A handler that nothing holds up comes nearer to its end. -/
theorem Stage.exists_step (h : Stage u c.outbox k t.state) (running : c.drive = .running t)
    (open' : c.outbox.isClosed = false) (turn : c.outbox.isTurn driveTicket = true)
    (room : c.outbox.queue.length < c.outbox.capacity) (queue : c.outbox.queue = []) {n : UInt32}
    (count : u.count = some n) (w : application.World) (now : Nat) : ∃ delay pick,
      u.rank (c.act application.stream w (.move (now + delay) (.drive pick))) < u.rank c := by
  rw [rank_running running]
  obtain ⟨s, since⟩ := t
  cases h with
  | stopped closed | refused closed => rw [open'] at closed; cases closed
  | overflowed endless => rw [count] at endless; cases endless
  | pausing word =>
    cases since with
    | none =>
      refine ⟨0, .alarm, ?_⟩
      rw [rank_onward running rfl, taskRank_pausing word, taskRank_pausing word]
      simp
    | some since =>
      refine ⟨since + u.interval, .alarm, ?_⟩
      rw [rank_onward running (pausing_rings since now), taskRank_sending word,
        taskRank_pausing word]
      simp
  | sending word =>
    refine ⟨0, .ready, ?_⟩
    rw [taskRank_sending word]
    by_cases complete : u.count ≠ none ∧ u.limit ≤ k
    · have ends : u.rank (c.act application.stream w (.move (now + 0) (.drive .ready))) ≤
          c.outbox.queue.length + 2 := rank_ended running (sending_ends word complete)
      omega
    · have below := lt_limit word complete
      have word' : k + 1 < UInt32.size := by
        have limit : u.limit = n.toNat := by simp [Updates.limit, count]
        have word : n.toNat < UInt32.size := n.toNat_lt
        omega
      rw [rank_onward running (sending_sends word' complete open' turn room),
        taskRank_pausing word']
      simp only [Outbox.accept, queue, List.nil_append, List.length_singleton, List.length_nil,
        Option.isNone_none, if_true]
      omega

end Step

/-- With an empty queue, the handler comes nearer to its end by a step that is open after some time. -/
theorem Watched.exists_step (h : Watched u c acc log) (live : c.subscription = .live)
    (going : c.outbox.cancelled = false) (queue : c.outbox.queue = []) {n : UInt32}
    (count : u.count = some n) (w : application.World) (now : Nat) : ∃ delay pick,
      u.rank (c.act application.stream w (.move (now + delay) (.drive pick))) < u.rank c := by
  obtain ⟨-, vs, -, -, ⟨-, receiving, flow⟩ | ⟨late, -⟩⟩ := h.delivery.live live
  case inr => rw [going] at late; cases late
  have open' : c.outbox.isClosed = false := by simp [Outbox.isClosed, going, receiving]
  have turn := isTurn_handler h.lined h.gapless.alone
  have room : c.outbox.queue.length < c.outbox.capacity := by
    rw [queue]
    exact h.lined.room
  cases flow with
  | finished _ _ _ _ hq => simp [queue] at hq
  | @ending e _ _ _ ending =>
    have taken : c.outbox.offer driveTicket (lastMessage e.outcome) =
        .taken (c.outbox.accept driveTicket (lastMessage e.outcome)) := by
      simp [Outbox.offer, open', turn, room, Outbox.accept]
    refine ⟨0, .ready, ?_⟩
    simp only [Channel.act, Channel.move, driveStep, ending, taken, rank]
    simp [Outbox.accept, queue]
  | @running t _ running =>
    obtain ⟨k, -, -, stage⟩ := h.gapless.through
    exact (stage t running).exists_step running open' turn room queue count w now

theorem asked_append {log es : List ChannelEvent} : Asked (log ++ es) ↔ Asked log ∨ Asked es := by
  simp only [Asked, List.mem_append]
  exact or_or_or_comm

theorem not_asked_events {x : ChannelAct}
    (quiet : x = .receive ∨ ∃ now pick, x = .move now (.drive pick)) (w : application.World) :
    ¬Asked (c.events application.stream w x) := by
  have elsewhere : ∀ e ∈ c.eventOf application.stream x, e ≠ .closed ∧ e ≠ .shut := by
    intro e noted
    rcases quiet with rfl | ⟨now, pick, rfl⟩
    · simp only [eventOf] at noted
      split at noted
      · split at noted
        · rw [List.mem_singleton.mp noted]
          exact ⟨ChannelEvent.noConfusion, ChannelEvent.noConfusion⟩
        · cases noted
      · cases noted
    · simp only [eventOf] at noted
      split at noted
      · obtain ⟨outcome, -, rfl⟩ := Option.map_eq_some_iff.mp (Option.mem_toList.mp noted)
        exact ⟨ChannelEvent.noConfusion, ChannelEvent.noConfusion⟩
      · cases noted
  rintro (closed | shut)
  · rcases List.mem_append.mp closed with noted | started
    · exact (elsewhere _ noted).1 rfl
    · cases eq_started_of_mem_starts started
  · rcases List.mem_append.mp shut with noted | started
    · exact (elsewhere _ noted).2 rfl
    · cases eq_started_of_mem_starts started

variable {b : Bridge application} {i : Nat}

def Concludes (u : Updates) (i : Nat) (b : Bridge application) (acc : Account)
    (log : List ChannelEvent) : Prop :=
  ∃ more d, (∀ a ∈ more, a.Tends i) ∧ (b.run more).channels[i]? = some d ∧
    Watched u d (account i b more acc) ((channelRecords application).history i b more log) ∧
    d.subscription = .complete ∧ ¬Asked ((channelRecords application).history i b more log)

theorem Concludes.of_act {a : Act application} (tends : a.Tends i)
    (h : Concludes u i (b.act a) ((channelSessions application).noted i b acc a)
      ((channelRecords application).noted i b log a)) : Concludes u i b acc log := by
  obtain ⟨more, d, others, there, watched, complete, unasked⟩ := h
  exact ⟨a :: more, d, List.forall_mem_cons.mpr ⟨tends, others⟩, there, watched, complete, unasked⟩

theorem Concludes.of_pass (delay : Nat) (there : b.channels[i]? = some c)
    (h : Concludes u i (b.act (.pass delay)) acc log) : Concludes u i b acc log := by
  refine .of_act (a := .pass delay) trivial ?_
  have nothing : (channelSessions application).noted i b acc (.pass delay) = acc ∧
      (channelRecords application).noted i b log (.pass delay) = log := by
    simp [Sessions.noted, channelSessions, channelRecords, there, channelAct?]
  rwa [nothing.1, nothing.2]

theorem Watched.after (h : Watched u c acc log) (there : b.channels[i]? = some c)
    {a : Act application} {x : ChannelAct} (seen : b.channelAct? i a = some x)
    (quiet : x = .receive ∨ ∃ now pick, x = .move now (.drive pick)) (unasked : ¬Asked log) :
    (b.act a).channels[i]? = some (c.act application.stream b.world x) ∧
      Watched u (c.act application.stream b.world x)
        ((channelSessions application).noted i b acc a)
        ((channelRecords application).noted i b log a) ∧
      ¬Asked ((channelRecords application).noted i b log a) := by
  have noted : (channelSessions application).noted i b acc a = c.note application.stream acc x ∧
      (channelRecords application).noted i b log a =
        log ++ c.events application.stream b.world x := by
    simp [Sessions.noted, channelSessions, channelRecords, there, seen]
  rw [noted.1, noted.2, asked_append, act_channel there, seen]
  exact ⟨rfl, watched_act h b.world x, not_or.mpr ⟨unasked, not_asked_events quiet b.world⟩⟩

theorem act_receive (live : c.subscription = .live) (going : c.outbox.cancelled = false)
    {m : ChannelMessage} {rest : List ChannelMessage} (queue : c.outbox.queue = m :: rest)
    (w : application.World) :
    (c.act application.stream w .receive).subscription = .complete ∨
      ((c.act application.stream w .receive).subscription = .live ∧
        u.rank (c.act application.stream w .receive) < u.rank c) := by
  have taken : c.outbox.take? = some (m, { c.outbox with queue := rest }) :=
    Outbox.take?_eq_some.mpr ⟨rest, queue, rfl⟩
  have read : c.act application.stream w .receive =
      ({ c with outbox := { c.outbox with queue := rest } }.deliver m).1 := by
    simp [Channel.act, Channel.receive, live, going, taken]
  rw [read, deliver]
  by_cases terminal : m.isTerminal = true
  · rw [if_pos terminal]
    exact .inl (complete_subscription _ m).1
  · rw [if_neg terminal]
    exact .inr ⟨live, by simp [rank, queue]⟩

/-- The subscription of a channel that nobody closed can be read to its end. -/
theorem Watched.concludes (there : b.channels[i]? = some c) (h : Watched u c acc log)
    (live : c.subscription = .live) (unasked : ¬Asked log) {n : UInt32} (count : u.count = some n) :
    Concludes u i b acc log := by
  induction measure : u.rank c using Nat.strong_induction_on generalizing b c acc log with
  | _ r ih =>
    subst measure
    have going : c.outbox.cancelled = false := by
      rw [Bool.eq_false_iff]
      exact fun cancelled => unasked (h.told.phased.cancelling live cancelled).2
    cases queue : c.outbox.queue with
    | cons m rest =>
      have seen : b.channelAct? i (.receive i) = some .receive := if_pos rfl
      obtain ⟨next, watched, unasked'⟩ := h.after there seen (.inl rfl) unasked
      refine .of_act (a := .receive i) rfl ?_
      rcases act_receive (u := u) live going queue b.world with complete | ⟨live', nearer⟩
      · exact ⟨[], _, nofun, next, watched, complete, unasked'⟩
      · exact ih _ nearer next watched live' unasked' rfl
    | nil =>
      obtain ⟨delay, pick, nearer⟩ := h.exists_step live going queue count b.world b.now
      have later : (b.act (.pass delay)).channels[i]? = some c := there
      have seen : (b.act (.pass delay)).channelAct? i (.move (.channel i (.drive pick))) =
          some (.move (b.now + delay) (.drive pick)) := if_pos rfl
      obtain ⟨next, watched, unasked'⟩ := h.after later seen (.inr ⟨_, _, rfl⟩) unasked
      refine .of_pass delay there (.of_act (a := .move (.channel i (.drive pick))) rfl ?_)
      exact ih _ nearer next watched ((act_drive_subscription c _ _ pick).trans live) unasked' rfl

end Showcase.Updates
end CommandBridge
