import CommandBridge.Proofs.Channel.Origin
import CommandBridge.Proofs.Channel.Unclosed
import CommandBridge.Proofs.Showcase.Values
import CommandBridge.Showcase.Application

/-!
# A series of readings

The handler of weather updates gets its readings through one by one. Between two of them it waits for
its interval or for the end of the channel, and it stops only when all readings asked for are through
or the channel is closed. So whatever befalls the channel, what was accepted are the first readings.
-/

set_option autoImplicit false

namespace CommandBridge

namespace Channel

variable {o o' : Outbox ChannelMessage} {ticket : Nat} {v : Json}

theorem push_json_cases (o : Outbox ChannelMessage) (ticket : Nat) (v : Json) :
    (o.isClosed = true ∧
      view.push o ticket (.json v) = .settled (o.leave ticket) (some (.closed .channel))) ∨
    (o.isClosed = false ∧ o.isTurn ticket = true ∧ o.queue.length < o.capacity ∧
      view.push o ticket (.json v) = .settled (o.accept ticket (.data v.toTransportCase)) none) ∨
    (o.isClosed = false ∧ ticket ∉ o.waiting ∧
      view.push o ticket (.json v) = .queued (o.line ticket)) ∨
    (o.isClosed = false ∧ view.push o ticket (.json v) = .blocked) := by
  simp only [view, push]
  by_cases cancelled : o.cancelled = true
  · exact .inl ⟨Outbox.isClosed_of_cancelled cancelled, if_pos cancelled⟩
  rw [if_neg cancelled]
  rcases o.offer_cases ticket (.data v.toTransportCase) with ⟨closed, e⟩ | ⟨going, turn, room, e⟩ |
    ⟨going, fresh, e⟩ | ⟨going, -, -, e⟩
  · exact .inl ⟨closed, by rw [e]⟩
  · exact .inr (.inl ⟨going, turn, room, by rw [e]⟩)
  · exact .inr (.inr (.inl ⟨going, fresh, by rw [e]⟩))
  · exact .inr (.inr (.inr ⟨going, by rw [e]⟩))

/-- When the handler has ended, or has not begun, a move of its own starts nothing. -/
theorem drive_dwindles {W S : Type} {b : Behaviour W (Outlet W Payload S) Unit S} {c : Channel S}
    (idle : ¬∃ t, c.drive = .running t) (now : Nat) (pick : Alternative) (w : W) :
    Dwindles c (c.act b w (.move now (.drive pick))) := by
  simp only [act, move, driveStep]
  split
  · next t running => exact absurd ⟨t, running⟩ idle
  · next last ending =>
    cases c.outbox.offer driveTicket last with
    | refused | taken => exact ⟨rfl, fun _ => id, .inr rfl, rfl⟩
    | queued => exact ⟨rfl, fun _ => id, .inl rfl, rfl⟩
    | blocked => exact .refl c
  · exact .refl c

end Channel

namespace Showcase

open Channel

def readings (city : String) (k : Nat) : List Json :=
  (List.range k).map fun j => (reading city (.ofNat j)).toJson

theorem readings_succ (city : String) (k : Nat) :
    readings city (k + 1) = readings city k ++ [(reading city (.ofNat k)).toJson] := by
  rw [readings, List.range_succ, List.map_append]
  rfl

theorem length_readings (city : String) (k : Nat) : (readings city k).length = k := by
  simp [readings]

namespace Updates

def limit (u : Updates) : Nat := (u.count.map UInt32.toNat).getD UInt32.size

def upTo (u : Updates) (k : Nat) : Updates := { u with sequence := .ofNat k }

variable {u : Updates} {k : Nat} {o o' : Outbox ChannelMessage}

theorem isComplete_upTo (word : k < UInt32.size) :
    Stream.isComplete (u.upTo k) = true ↔ u.count ≠ none ∧ u.limit ≤ k := by
  unfold Stream.isComplete upTo limit
  cases u.count with
  | none => simp
  | some n => simp [UInt32.le_iff_toNat_le, Nat.mod_eq_of_lt word]

inductive Stage (u : Updates) (o : Outbox ChannelMessage) (k : Nat) : Stream → Prop where
  | sending (word : k < UInt32.size) : Stage u o k (.sending (u.upTo k))
  | pausing (word : k < UInt32.size) : Stage u o k (.pausing (u.upTo k))
  | stopped (closed : o.isClosed = true) : Stage u o k .stopped
  | refused (closed : o.isClosed = true) (e : CommandError) : Stage u o k (.refused e)
  | overflowed (endless : u.count = none) (last : k = UInt32.size) : Stage u o k .overflowed

def EndsWith (u : Updates) (outcome : Outcome Unit) : Prop :=
  outcome = if u.count = none then .panicked overflow else .done ()

theorem Stage.of_closed {s : Stream} (h : Stage u o k s)
    (closed : o.isClosed = true → o'.isClosed = true) : Stage u o' k s := by
  cases h with
  | sending word => exact .sending word
  | pausing word => exact .pausing word
  | stopped late => exact .stopped (closed late)
  | refused late e => exact .refused (closed late) e
  | overflowed endless last => exact .overflowed endless last

def afterPush (u : Updates) (k : Nat) : Option SendError → Stream
  | none => if k + 1 = UInt32.size then .overflowed else .pausing (u.upTo (k + 1))
  | some e => .refused e.toCommandError

theorem next_upTo (word : k < UInt32.size) :
    nextUInt32? (u.upTo k).sequence =
      if k + 1 = UInt32.size then none else some (u.upTo (k + 1)).sequence := by
  have number : (UInt32.ofNat k).toNat = k := Nat.mod_eq_of_lt word
  simp only [nextUInt32?, upTo, number, UInt32.ofNat_add]
  rfl

theorem next_sending (word : k < UInt32.size) (more : ¬(u.count ≠ none ∧ u.limit ≤ k)) :
    application.stream.next (.sending (u.upTo k)) =
      .client (.push (.json (reading u.city (.ofNat k)).toJson) (u.afterPush k)) := by
  have going : ¬Stream.isComplete (u.upTo k) = true := (isComplete_upTo word).not.mpr more
  change Stream.next (.sending (u.upTo k)) = _
  rw [Stream.next, if_neg going, next_upTo word]
  congr 2
  funext failure
  cases failure with
  | some e => rfl
  | none =>
    by_cases last : k + 1 = UInt32.size
    · simp only [if_pos last, afterPush]
    · simp only [if_neg last, afterPush, upTo]

theorem lt_limit (word : k < UInt32.size) (more : ¬(u.count ≠ none ∧ u.limit ≤ k)) :
    k < u.limit := by
  by_contra past
  by_cases endless : u.count = none
  · simp only [limit, endless, Option.map_none, Option.getD_none] at past
    exact past word
  · exact more ⟨endless, Nat.le_of_not_lt past⟩

theorem next_stage (word : k < UInt32.size) (more : ¬(u.count ≠ none ∧ u.limit ≤ k)) :
    Stage u o (k + 1) (u.afterPush k none) := by
  simp only [afterPush]
  split
  · next last =>
    refine .overflowed ?_ last
    by_contra counted
    obtain ⟨n, count⟩ := Option.ne_none_iff_exists'.mp counted
    have below : k < n.toNat := by simpa [limit, count] using lt_limit word more
    have word : n.toNat < UInt32.size := n.toNat_lt
    omega
  · next inner => exact .pausing (Nat.lt_of_le_of_ne word inner)

section Step

variable {w w' : application.World} {now : Nat} {pick : Alternative} {since : Option Nat}
  {turn : Turn application.Stream Unit}

/-- A handler at its pause stays there or goes on to the reading. It stops only on a closed channel. -/
theorem pausing_step (stepped : Task.clientStep application.stream view now pick driveTicket w o
      ⟨.pausing (u.upTo k), since⟩ = some (w', o', turn)) :
    o' = o ∧ ∃ s since', turn = .onward ⟨s, since'⟩ ∧
      (s = .pausing (u.upTo k) ∨ s = .sending (u.upTo k) ∨ (s = .stopped ∧ o.isClosed = true)) := by
  cases since with
  | none =>
    cases stepped
    exact ⟨rfl, _, _, rfl, .inl rfl⟩
  | some since =>
    cases pick with
    | ready => cases stepped
    | alarm =>
      change Option.map _ (Option.map _ (if _ then _ else _)) = _ at stepped
      split at stepped
      · cases stepped
        exact ⟨rfl, _, _, rfl, .inr (.inl rfl)⟩
      · cases stepped
    | closed =>
      change (if _ then _ else _) = _ at stepped
      split at stepped
      · next closed =>
        cases stepped
        exact ⟨rfl, _, _, rfl, .inr (.inr ⟨rfl, closed⟩)⟩
      · cases stepped

/-- A handler with a reading to send gets it through and goes on, or stands in line for it, or is
refused by a closed channel. -/
theorem sending_step (word : k < UInt32.size) (more : ¬(u.count ≠ none ∧ u.limit ≤ k))
    (stepped : Task.clientStep application.stream view now pick driveTicket w o
      ⟨.sending (u.upTo k), since⟩ = some (w', o', turn)) :
    ∃ s since', turn = .onward ⟨s, since'⟩ ∧
      ((s = u.afterPush k none ∧ accepted application.stream o driveTicket
          ⟨.sending (u.upTo k), since⟩ = [(reading u.city (.ofNat k)).toJson]) ∨
        (accepted application.stream o driveTicket ⟨.sending (u.upTo k), since⟩ = [] ∧
          (s = .sending (u.upTo k) ∨ ∃ e, s = .refused e ∧ o'.isClosed = true))) := by
  have asked := next_sending word more
  simp only [Task.clientStep, asked] at stepped
  simp only [accepted, Task.pushes?, asked]
  obtain ⟨closed, pushed⟩ | ⟨-, -, -, pushed⟩ | ⟨-, -, pushed⟩ | ⟨-, pushed⟩ :=
    push_json_cases o driveTicket (reading u.city (.ofNat k)).toJson
  · rw [pushed] at stepped ⊢
    cases stepped
    exact ⟨_, _, rfl, .inr ⟨rfl, .inr ⟨_, rfl, closed⟩⟩⟩
  · rw [pushed] at stepped ⊢
    cases stepped
    have fits : Json.Fits .empty Reading.type (reading u.city (.ofNat k)).toJson := fits_reading _
    exact ⟨_, _, rfl, .inl ⟨rfl, congrArg List.singleton fits.fixed⟩⟩
  · rw [pushed] at stepped ⊢
    cases stepped
    exact ⟨_, _, rfl, .inr ⟨rfl, .inl rfl⟩⟩
  · rw [pushed] at stepped
    cases stepped

/-- The next step of the handler, when it goes on and when it ends. -/
theorem stage_step {t : Task application.Stream} (h : Stage u o k t.state) (within : k ≤ u.limit)
    (stepped : t.clientStep application.stream view now pick driveTicket w o = some (w', o', turn)) :
    (∃ t' k', turn = .onward t' ∧ t.outcome? application.stream = none ∧
      readings u.city k' = readings u.city k ++ accepted application.stream o driveTicket t ∧
      k' ≤ u.limit ∧ Stage u o' k' t'.state) ∨
    (∃ outcome, turn = .ended outcome ∧ t.outcome? application.stream = some outcome ∧ o' = o ∧
      (o.isClosed = true ∨ u.EndsWith outcome ∧ k = u.limit)) := by
  obtain ⟨s, since⟩ := t
  cases h with
  | stopped closed =>
    cases stepped
    exact .inr ⟨_, rfl, rfl, rfl, .inl closed⟩
  | refused closed e =>
    cases stepped
    exact .inr ⟨_, rfl, rfl, rfl, .inl closed⟩
  | overflowed endless last =>
    cases stepped
    have ends : u.EndsWith (.panicked overflow) := by simp [EndsWith, endless]
    exact .inr ⟨_, rfl, rfl, rfl, .inr ⟨ends, by simp [last, limit, endless]⟩⟩
  | pausing word =>
    obtain ⟨rfl, s, since', rfl, goes⟩ := pausing_step stepped
    refine .inl ⟨_, k, rfl, rfl, (List.append_nil _).symm, within, ?_⟩
    rcases goes with rfl | rfl | ⟨rfl, closed⟩
    · exact .pausing word
    · exact .sending word
    · exact .stopped closed
  | sending word =>
    by_cases complete : u.count ≠ none ∧ u.limit ≤ k
    · have finished : application.stream.next (.sending (u.upTo k)) = .finish (.done ()) :=
        if_pos ((isComplete_upTo word).mpr complete)
      simp only [Task.clientStep, finished] at stepped
      cases stepped
      refine .inr ⟨.done (), rfl, by simp [Task.outcome?, finished], rfl, .inr ⟨?_, ?_⟩⟩
      · simp [EndsWith, complete.1]
      · exact Nat.le_antisymm within complete.2
    · have goesOn : Task.outcome? application.stream ⟨.sending (u.upTo k), since⟩ = none := by
        simp [Task.outcome?, next_sending word complete]
      left
      obtain ⟨s, since', rfl, ⟨rfl, sent⟩ | ⟨quiet, goes⟩⟩ := sending_step word complete stepped
      · rw [sent, ← readings_succ]
        exact ⟨_, k + 1, rfl, goesOn, rfl, lt_limit word complete, next_stage word complete⟩
      · rw [quiet, List.append_nil]
        refine ⟨_, k, rfl, goesOn, rfl, within, ?_⟩
        rcases goes with rfl | ⟨e, rfl, closed⟩
        · exact .sending word
        · exact .refused closed e

end Step

/-- What was accepted are the first readings, and all of them if the handler ended on a channel that
still took messages. -/
structure Gapless (u : Updates) (c : Channel application.Stream) (acc : Account) : Prop where
  parked : ∀ s, c.parked = some s → s = .sending (u.upTo 0)
  alone : c.forks = []
  through : ∃ k, acc.accepted = readings u.city k ∧ k ≤ u.limit ∧
    ∀ t, c.drive = .running t → Stage u c.outbox k t.state
  ended : ∀ e, acc.ending = some e → e.cancelled = false →
    u.EndsWith e.outcome ∧ e.accepted = readings u.city u.limit ∧ acc.accepted = e.accepted

variable {c d : Channel application.Stream} {acc acc' : Account} {log : List ChannelEvent}

theorem gapless_create (u : Updates) (name : String) (capacity expiry : Nat) :
    Gapless u (create name (.sending (u.upTo 0)) capacity expiry) .empty where
  parked _ same := (Option.some.inj same).symm
  alone := rfl
  through := ⟨0, rfl, Nat.zero_le _, nofun⟩
  ended := nofun

theorem Gapless.dwindle (h : Gapless u c acc) (dwindles : Dwindles c d)
    (closed : c.outbox.isClosed = true → d.outbox.isClosed = true)
    (accepted : acc'.accepted = acc.accepted) (ending : acc'.ending = acc.ending) :
    Gapless u d acc' where
  parked s there := h.parked s (dwindles.parked s there)
  alone := dwindles.forks.trans h.alone
  through := by
    obtain ⟨k, first, within, stage⟩ := h.through
    refine ⟨k, accepted.trans first, within, fun t now => ?_⟩
    rcases dwindles.drive with same | finished
    · exact (stage t (same ▸ now)).of_closed closed
    · rw [finished] at now
      cases now
  ended e now going := by
    obtain ⟨outcome, all, same⟩ := h.ended e (ending ▸ now) going
    exact ⟨outcome, all, accepted.trans same⟩

theorem Gapless.attach (h : Gapless u c acc) (d : Delivery c acc) (id : String)
    (w : application.World) :
    Gapless u (c.act application.stream w (.attach id)) acc := by
  simp only [Channel.act, Channel.attach]
  split
  · exact h
  split
  · exact h
  next start parked =>
  obtain ⟨rfl, -⟩ := d.fresh (d.alone_of_parked (by simp [parked]))
  refine ⟨fun s waits => ?_, h.alone, ⟨0, rfl, Nat.zero_le _, ?_⟩, fun e ended => ?_⟩
  · cases waits
  · rintro t ⟨⟩
    rw [h.parked start parked]
    exact .sending (by decide)
  · cases ended

/-- The handler ends with all readings through, or on a channel that takes nothing more. -/
theorem Gapless.conclude (h : Gapless u c acc) {outcome : Outcome Unit}
    (all : c.outbox.cancelled = false →
      u.EndsWith outcome ∧ acc.accepted = readings u.city u.limit) :
    Gapless u (c.conclude outcome) (acc.conclude outcome c.outbox.cancelled) := by
  obtain ⟨k, first, within, -⟩ := h.through
  have ended : ∀ e, (acc.conclude outcome c.outbox.cancelled).ending = some e →
      e.cancelled = false → u.EndsWith e.outcome ∧
        e.accepted = readings u.city u.limit ∧ acc.accepted = e.accepted := by
    rintro e ⟨⟩ going
    obtain ⟨outcome, last⟩ := all going
    exact ⟨outcome, last, rfl⟩
  simp only [Channel.conclude]
  split
  all_goals
    refine ⟨h.parked, h.alone, ⟨k, first, within, fun t now => ?_⟩, ended⟩
    cases now

theorem Gapless.running (h : Gapless u c acc) (d : Delivery c acc) (n : Unclosed c acc log)
    {t : Task application.Stream} (running : c.drive = .running t) (w : application.World) (now : Nat)
    (pick : Alternative) :
    Gapless u (c.act application.stream w (.move now (.drive pick)))
      (c.note application.stream acc (.move now (.drive pick))) := by
  obtain ⟨k, first, within, stage⟩ := h.through
  have unended := n.once t running
  simp only [Channel.act, Channel.move, driveStep, note, running]
  cases stepped : t.clientStep application.stream view now pick driveTicket w c.outbox with
  | none =>
    obtain ⟨goesOn, nothing⟩ := accepted_of_none stepped
    rw [goesOn, nothing]
    exact h.dwindle (.refl c) id (List.append_nil _) rfl
  | some r =>
    obtain ⟨w', o, turn⟩ := r
    obtain ⟨t', k', rfl, goesOn, more, within', stage'⟩ | ⟨outcome, rfl, ends, rfl, last⟩ :=
      stage_step (stage t running) within stepped
    · rw [goesOn]
      refine ⟨h.parked, h.alone, ⟨k', ?_, within', ?_⟩, ?_⟩
      · rw [more, ← first]
        rfl
      · rintro t'' ⟨⟩
        exact stage'
      · intro e ended
        cases unended.symm.trans ended
    · rw [ends]
      refine h.conclude fun going => ?_
      rcases last with closed | ⟨outcome, rfl⟩
      · rw [d.cancelled_of_isClosed closed] at going
        cases going
      · exact ⟨outcome, first⟩

theorem Gapless.act (h : Gapless u c acc) (d : Delivery c acc) (n : Unclosed c acc log)
    (w : application.World) (x : ChannelAct) :
    Gapless u (c.act application.stream w x) (c.note application.stream acc x) := by
  have closed := isClosed_step (step application.stream c acc w x)
  cases x with
  | attach id => exact h.attach d id w
  | close id => exact h.dwindle (close_dwindles c id) closed rfl rfl
  | shut =>
    refine h.dwindle ?_ closed rfl rfl
    simp only [Channel.act, Channel.shut]
    split
    · exact cancel_dwindles c
    · exact .refl c
  | receive =>
    have untouched : (c.note application.stream acc .receive).accepted = acc.accepted ∧
        (c.note application.stream acc .receive).ending = acc.ending := by
      simp only [note]
      split
      · split <;> exact ⟨rfl, rfl⟩
      · exact ⟨rfl, rfl⟩
    exact h.dwindle (receive_dwindles c) closed untouched.1 untouched.2
  | drop => exact h.dwindle (drop_dwindles c) closed rfl rfl
  | move now m =>
    cases m with
    | expire =>
      refine h.dwindle ?_ closed rfl rfl
      simp only [Channel.act, Channel.move]
      split
      · split
        · exact expire_dwindles c
        · exact .refl c
      · exact .refl c
    | release =>
      refine h.dwindle ?_ closed rfl rfl
      simp only [Channel.act, Channel.move]
      cases released : c.releaseStep application.stream w with
      | none => exact .refl c
      | some r => exact release_dwindles released
    | drive pick =>
      by_cases running : ∃ t, c.drive = .running t
      · obtain ⟨t, running⟩ := running
        exact h.running d n running w now pick
      · have unheard : c.note application.stream acc (.move now (.drive pick)) = acc := by
          simp only [note]
          split
          · next t there => exact absurd ⟨t, there⟩ running
          · rfl
        rw [unheard]
        exact h.dwindle (drive_dwindles running now pick w) closed rfl rfl
    | fork index pick =>
      have nobody : c.forks[index]? = none := by rw [h.alone]; rfl
      simp only [note, nobody]
      refine h.dwindle ?_ closed rfl rfl
      simp only [Channel.act, Channel.move, forkStep, nobody]
      exact .refl c

end Updates
end Showcase
end CommandBridge
