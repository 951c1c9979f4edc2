import CommandBridge.Proofs.Bridge.Table

/-!
# When handlers start

A handler starts with the attach of its channel and at no other time. The attach opens a
channel that nobody closed. One that was shut with all others while it waited is attached all
the same: its handler starts on a channel that is closing already.
-/

set_option autoImplicit false

namespace CommandBridge.Bridge

open Channel

variable {A : Application} {b : Bridge A} {i : Nat} {c d : Channel A.Stream}
  {log : List ChannelEvent}

def Starts (c d : Channel A.Stream) : Prop := c.drive.begins d.drive = true

theorem channelAct?_eq_attach {a : Act A} {text : String}
    (seen : b.channelAct? i a = some (.attach text)) :
    ∃ id, a = .attach id ∧ b.channelIndex? id = some i ∧ text = id.text := by
  cases a with
  | attach id =>
    simp only [channelAct?] at seen
    split at seen
    · next found =>
      simp only [Option.some.injEq, ChannelAct.attach.injEq] at seen
      exact ⟨id, rfl, found, seen.symm⟩
    · simp at seen
  | close id | receive j | dropSubscription j =>
    simp only [channelAct?] at seen
    split at seen <;> simp at seen
  | move m =>
    cases m with
    | channel j m =>
      simp only [channelAct?] at seen
      split at seen <;> simp at seen
    | call | connection => simp [channelAct?] at seen
  | _ => simp [channelAct?] at seen

theorem attach_of_starts {a : Act A} (there : b.channels[i]? = some c)
    (after : (b.act a).channels[i]? = some d) (starts : Starts c d) :
    ∃ id, a = .attach id ∧ b.channelIndex? id = some i ∧ (c.attach id.text).isOk = true := by
  rw [act_channel there] at after
  cases seen : b.channelAct? i a with
  | none =>
    simp only [seen, Option.map_none, Option.getD_none, Option.some.injEq] at after
    rw [Starts, ← after, Drive.begins_self] at starts
    exact absurd starts Bool.false_ne_true
  | some x =>
    simp only [seen, Option.map_some, Option.getD_some, Option.some.injEq] at after
    rw [Starts, ← after] at starts
    obtain ⟨noted, -⟩ := attached_of_begins (passage A.stream c b.world x) starts
    obtain ⟨text, rfl, done⟩ := attach_of_eventOf noted
    obtain ⟨id, same, found, rfl⟩ := channelAct?_eq_attach seen
    exact ⟨id, same, found, done⟩

theorem attach_phases (t : Told c log) {id : String} (done : c.attach id = .ok d) :
    Starts c d ∧
      ((.shut ∉ log ∧ c.phase = .initializing ∧ d.phase = .open) ∨
        (.shut ∈ log ∧ c.phase = .closing ∧ d.phase = .closing ∧ d.subscription = .live ∧
          d.outbox.cancelled = true)) := by
  simp only [Channel.attach] at done
  split at done
  · cases done
  split at done
  · cases done
  next start parked =>
  cases done
  have waits : c.parked.isSome = true := by simp [parked]
  have idle : c.drive = .idle := t.recorded.idle.mpr (t.recorded.parked.mp waits).1
  refine ⟨by simp [Starts, idle, Drive.begins], ?_⟩
  rcases t.phased.waiting waits with ⟨phase, -, spared⟩ | ⟨phase, late, shut⟩
  · exact .inl ⟨spared, phase, by simp [advance, phase, Lifecycle.advance, Lifecycle.canMove]⟩
  · exact .inr ⟨shut, phase, by simp [advance, phase, Lifecycle.advance, Lifecycle.canMove], rfl, late⟩

theorem attach_done {id : Uuid} (there : b.channels[i]? = some c)
    (found : b.channelIndex? id = some i) :
    (b.attach id).isOk = true ↔ (c.attach id.text).isOk = true := by
  rw [attach, withChannel_isOk]
  constructor
  · rintro ⟨j, d, same, there', done⟩
    cases found.symm.trans same
    cases there.symm.trans there'
    exact done
  · exact fun done => ⟨i, c, found, there, done⟩

/-- A handler starts with the attach of its channel and at no other time. It starts on a channel
that moves from initializing to open, unless the channel was shut while it waited. -/
theorem handler_starts_iff (config : Config) (registry : Registry A) (world : A.World)
    (files : FileTree) (acts : List (Act A)) :
    let b := (start config registry world files).run acts
    let log i := channelLog i (start config registry world files) acts
    (∀ a i c d, b.channels[i]? = some c → (b.act a).channels[i]? = some d →
      (Starts c d ↔ ∃ id, a = .attach id ∧ b.channelIndex? id = some i ∧
        (b.attach id).isOk = true)) ∧
    (∀ a i c d, b.channels[i]? = some c → (b.act a).channels[i]? = some d → Starts c d →
      ((c.phase = .initializing ∧ d.phase = .open) ↔ .shut ∉ log i) ∧
      (.shut ∈ log i → c.phase = .closing ∧ d.phase = .closing ∧ d.receive.2 = .message .close ∧
        ∀ ticket v, ∃ o, view.push d.outbox ticket v = .settled o (some (.closed .channel)))) ∧
    (∀ id i, b.channelIndex? id = some i → .closed ∈ log i → .attached ∉ log i →
      b.attach id = .error (.notFound id.text)) := by
  intro b log
  have told {i : Nat} {c : Channel A.Stream} (there : b.channels[i]? = some c) : Told c (log i) :=
    (told_run config registry world files acts there).1
  -- A successful attach, as the channel sees it.
  have attached {i : Nat} {c d : Channel A.Stream} {id : Uuid} (there : b.channels[i]? = some c)
      (after : (b.act (.attach id)).channels[i]? = some d) (found : b.channelIndex? id = some i)
      (done : (c.attach id.text).isOk = true) : c.attach id.text = .ok d := by
    rw [act_channel there] at after
    simp only [channelAct?, found, if_true, Option.map_some, Option.getD_some, Channel.act,
      Option.some.injEq] at after
    cases e : c.attach id.text with
    | error f => simp [e, Except.isOk, Except.toBool] at done
    | ok d' =>
      rw [e] at after
      cases after
      rfl
  refine ⟨?_, ?_, ?_⟩
  · intro a i c d there after
    constructor
    · intro starts
      obtain ⟨id, same, found, done⟩ := attach_of_starts there after starts
      exact ⟨id, same, found, (attach_done there found).mpr done⟩
    · rintro ⟨id, rfl, found, done⟩
      exact (attach_phases (told there)
        (attached there after found ((attach_done there found).mp done))).1
  · intro a i c d there after starts
    obtain ⟨id, rfl, found, done⟩ := attach_of_starts there after starts
    obtain ⟨-, ⟨spared, before, opened⟩ | ⟨shut, before, closing, live, late⟩⟩ :=
      attach_phases (told there) (attached there after found done)
    · exact ⟨iff_of_true ⟨before, opened⟩ spared, fun shut => absurd shut spared⟩
    · refine ⟨iff_of_false (by simp [before]) (not_not_intro shut), fun _ => ⟨before, closing, ?_, ?_⟩⟩
      · simp [Channel.receive, live, late, deliver, ChannelMessage.isTerminal]
      · exact fun ticket v => ⟨_, push_of_cancelled late ticket v⟩
  · intro id i found closed unattached
    cases there : b.channels[i]? with
    | none => simp [attach, withChannel, found, there]
    | some c =>
      have r := (told there).recorded
      have gone : c.listed = false := by
        rw [Bool.eq_false_iff]
        intro listed
        rcases (listed_iff r).mp listed with ⟨-, open', -⟩ | ⟨before, -⟩
        · exact open' closed
        · exact unattached before
      simp [attach, withChannel, found, there, Channel.attach, gone, Except.map]

theorem sole_starts : ∃ c d, (sole.run (soleRuns.take 1)).channels[0]? = some c ∧
    (sole.run (soleRuns.take 2)).channels[0]? = some d ∧ Starts c d ∧
    c.phase = .initializing ∧ d.phase = .open := by
  have created : (sole.run (soleRuns.take 1)).channels[0]?.isSome = true := by decide
  have attached : (sole.run (soleRuns.take 2)).channels[0]?.isSome = true := by decide
  have done : ((sole.run (soleRuns.take 1)).attach (Uuid.nth 0)).isOk = true := by decide
  have spared : channelLog 0 sole (soleRuns.take 1) = [] := rfl
  obtain ⟨c, there⟩ := Option.isSome_iff_exists.mp created
  obtain ⟨d, after⟩ := Option.isSome_iff_exists.mp attached
  obtain ⟨starts_iff, phases, -⟩ := handler_starts_iff .default sole.registry .empty .empty
    (soleRuns.take 1)
  have starts := (starts_iff (.attach (Uuid.nth 0)) 0 c d there after).mpr ⟨_, rfl, by decide, done⟩
  have opened := (phases (.attach (Uuid.nth 0)) 0 c d there after starts).1.mpr (by
    show .shut ∉ channelLog 0 sole (soleRuns.take 1)
    simp [spared])
  exact ⟨c, d, there, after, starts, opened⟩

def streaming (capacity : Nat) (steps : List Script.StreamStep) : Bridge Script.application :=
  start { Config.default with channelCapacity := capacity }
    { commands := [("once", {
        name := "once", kind := .stream, params := [], returns := .stream .boolean, doc := none,
        module := none, handler := some (.stream (Script.StreamRun.start steps)) })]
      sockets := [], definitions := .empty } .empty .empty

def shutRuns : List (Act Script.application) := [.create "once" (.object []), .closeAll]

/-- The channel is closing, and yet an attach starts its handler, which gets to its first step. -/
theorem shut_channel_starts :
    let b := streaming 16 [.note (.bool true)]
    ∃ c d, (b.run shutRuns).channels[0]? = some c ∧
      ((b.run shutRuns).act (.attach (Uuid.nth 0))).channels[0]? = some d ∧ Starts c d ∧
      c.phase = .closing ∧ d.phase = .closing ∧
      (b.run (shutRuns ++ [Act.attach (Uuid.nth 0), .move (.channel 0 (.drive .ready))])).world.toList =
        [.bool true] := by
  exact ⟨_, _, rfl, rfl, rfl, rfl, rfl, rfl⟩

end CommandBridge.Bridge
