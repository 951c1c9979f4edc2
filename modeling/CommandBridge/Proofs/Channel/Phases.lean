import CommandBridge.Proofs.Channel.Table

/-!
# Phases and terminal messages

How far a channel has come by the time it is told of its end. A channel fails only because its
handler does, and the subscription of a handler that failed while the channel was open is told
so. A handler that fails while its channel is closing fails the channel unheard.
-/

set_option autoImplicit false

namespace CommandBridge

def ChannelEvent.isQuiet : ChannelEvent → Bool
  | ended .. | told _ => false
  | _ => true

theorem failedIn_quiet {phase : Lifecycle} {log es : List ChannelEvent}
    (quiet : ∀ e ∈ es, e.isQuiet = true) : FailedIn phase (log ++ es) ↔ FailedIn phase log := by
  have none : ¬FailedIn phase es := fun ⟨_, he, _⟩ => by cases quiet _ he
  simp only [failedIn_append, none, or_false]

theorem failedIn_told {phase : Lifecycle} {log : List ChannelEvent} {m : ChannelMessage} :
    FailedIn phase (log ++ [ChannelEvent.told m]) ↔ FailedIn phase log := by
  simp [FailedIn]

theorem told_quiet {m : ChannelMessage} {log es : List ChannelEvent}
    (quiet : ∀ e ∈ es, e.isQuiet = true) : .told m ∈ log ++ es ↔ .told m ∈ log := by
  have none : .told m ∉ es := fun he => by cases quiet _ he
  simp only [List.mem_append, none, or_false]

namespace Lifecycle

theorem advance_eq_failed {s n : Lifecycle} (other : n ≠ .failed) :
    s.advance n = .failed ↔ s = .failed := by
  cases s <;> cases n <;> simp_all [advance, canMove]

theorem isTerminal_advance_closed (s : Lifecycle) :
    ((s.advance .closing).advance .closed).isTerminal = true := by
  cases s <;> rfl

def IsPastOpen (s : Lifecycle) : Prop := s = .closing ∨ s.isTerminal = true

theorem isPastOpen_advance {s : Lifecycle} (h : s.IsPastOpen) (n : Lifecycle) :
    (s.advance n).IsPastOpen := by
  cases s <;> cases n <;> simp_all [IsPastOpen, advance, canMove, isTerminal]

theorem foldl_advance_induction {P : Lifecycle → Prop} (step : ∀ s n, P s → P (s.advance n))
    {s : Lifecycle} (h : P s) (moves : List Lifecycle) : P (moves.foldl advance s) := by
  induction moves generalizing s with
  | nil => exact h
  | cons n rest ih => exact ih (step s n h)

end Lifecycle

namespace Channel

variable {W S : Type} {b : Behaviour W (Outlet W Payload S) Unit S} {c d : Channel S}
  {acc : Account} {log es : List ChannelEvent}

def Asked (log : List ChannelEvent) : Prop := .closed ∈ log ∨ .shut ∈ log

theorem Asked.append (h : Asked log) (more : List ChannelEvent) : Asked (log ++ more) :=
  h.imp (List.mem_append_left more) (List.mem_append_left more)

structure Phased (c : Channel S) (log : List ChannelEvent) : Prop where
  waiting : c.parked.isSome = true →
    (c.phase = .initializing ∧ c.outbox.cancelled = false ∧ .shut ∉ log) ∨
      (c.phase = .closing ∧ c.outbox.cancelled = true ∧ .shut ∈ log)
  begun : c.subscription ≠ .unattached → c.phase ≠ .created ∧ c.phase ≠ .initializing
  cancelling : c.subscription = .live → c.outbox.cancelled = true →
    (c.phase = .closing ∨ (c.phase = .failed ∧ FailedIn .closing log)) ∧ Asked log
  past : c.subscription = .complete ∨ c.subscription = .dropped → c.phase.isTerminal = true

structure Concluded (c : Channel S) (log : List ChannelEvent) : Prop where
  failed : c.phase = .failed ↔ FailedIn .open log ∨ FailedIn .closing log
  late : FailedIn .closing log → c.outbox.cancelled = true ∧ Asked log
  close : .told .close ∈ log → c.phase = .closed ∨ (c.phase = .failed ∧ FailedIn .closing log)
  error : ∀ e, .told (.error e) ∈ log → FailedIn .open log

theorem phased_create (name : String) (start : S) (capacity expiry : Nat) :
    Phased (create name start capacity expiry) [] := by
  constructor <;> simp [create, Lifecycle.advance, Lifecycle.canMove, Outbox.empty]

theorem concluded_create (name : String) (start : S) (capacity expiry : Nat) :
    Concluded (create name start capacity expiry) [] := by
  constructor <;> simp [create, Lifecycle.advance, Lifecycle.canMove, FailedIn]

theorem Concluded.frame (h : Concluded c log) (quiet : ∀ e ∈ es, e.isQuiet = true)
    (failed : d.phase = .failed ↔ c.phase = .failed)
    (closed : c.phase = .closed → d.phase = .closed)
    (cancelled : c.outbox.cancelled = true → d.outbox.cancelled = true) :
    Concluded d (log ++ es) := by
  constructor
  case failed => rw [failed, failedIn_quiet quiet, failedIn_quiet quiet, h.failed]
  case late =>
    intro late
    obtain ⟨before, asked⟩ := h.late ((failedIn_quiet quiet).mp late)
    exact ⟨cancelled before, asked.append es⟩
  case close =>
    intro told
    rw [failedIn_quiet quiet, failed]
    exact (h.close ((told_quiet quiet).mp told)).imp_left closed
  case error =>
    intro e told
    exact (failedIn_quiet quiet).mpr (h.error e ((told_quiet quiet).mp told))

theorem Phased.frame (h : Phased c log) (quiet : ∀ e ∈ es, e.isQuiet = true)
    (parked : d.parked = c.parked) (subscription : d.subscription = c.subscription)
    (phase : d.phase = c.phase) (cancelled : d.outbox.cancelled = c.outbox.cancelled)
    (spared : c.parked.isSome = true → .shut ∉ es) : Phased d (log ++ es) := by
  constructor
  case waiting =>
    intro alone
    rw [parked] at alone
    simpa [phase, cancelled, spared alone] using h.waiting alone
  case begun => rw [subscription, phase]; exact h.begun
  case cancelling =>
    rw [subscription, phase, cancelled, failedIn_quiet quiet]
    intro live late
    exact (h.cancelling live late).imp_right fun asked => asked.append es
  case past => rw [subscription, phase]; exact h.past

theorem Phased.discard (h : Phased c log) (r : Recorded c log) (parked : c.parked.isSome = true)
    (expiry : Option Nat) : { c.discard with expiry := expiry }.phase = .closed ∧
      Phased { c.discard with expiry := expiry } (log ++ es) := by
  obtain ⟨alone, -⟩ := r.parked.mp parked
  have phase : c.discard.phase = .closed := by
    rcases h.waiting parked with ⟨e, -⟩ | ⟨e, -⟩ <;>
      simp [Channel.discard, advance, Lifecycle.advance, Lifecycle.canMove, e]
  have same : c.discard.subscription = c.subscription := rfl
  have unparked : c.discard.parked = none := rfl
  refine ⟨phase, ?_⟩
  constructor
  case waiting => simp [unparked]
  case begun => simp [phase]
  case cancelling => simp [same, alone]
  case past => simp [phase, Lifecycle.isTerminal]

/-- An attach opens a channel that nobody closed, and leaves one closing that was shut. -/
theorem Phased.attach (h : Phased c log) {start : S} (parked : c.parked = some start) :
    Phased { c.advance .open with
      parked := none, drive := .running (Task.at start), subscription := .live }
      (log ++ [ChannelEvent.attached]) := by
  rcases h.waiting (by simp [parked]) with ⟨phase, going, spared⟩ | ⟨phase, late, shut⟩
  · constructor <;> simp [advance, Lifecycle.advance, Lifecycle.canMove, phase, going]
  · constructor <;> simp [advance, Lifecycle.advance, Lifecycle.canMove, phase, late, Asked, shut]

theorem cancel_failed (c : Channel S) : c.cancel.phase = .failed ↔ c.phase = .failed := by
  simp only [cancel]
  split
  · exact Lifecycle.advance_eq_failed (by decide)
  · exact Iff.rfl

theorem cancel_closed (c : Channel S) (closed : c.phase = .closed) : c.cancel = c := by
  simp [cancel, closed, Lifecycle.canMove]

theorem cancel_cancelled (c : Channel S) (cancelled : c.outbox.cancelled = true) :
    c.cancel.outbox.cancelled = true := by
  simp only [cancel]
  split
  · rfl
  · exact cancelled

theorem Phased.cancel (h : Phased c log) (quiet : ∀ e ∈ es, e.isQuiet = true) (asked : Asked es)
    (shut : c.parked.isSome = true → .shut ∈ es) : Phased c.cancel (log ++ es) := by
  simp only [Channel.cancel]
  by_cases may : c.phase.canMove .closing = true
  · rw [if_pos may]
    have moved : c.phase.advance .closing = .closing := by simp [Lifecycle.advance, may]
    constructor
    case waiting =>
      intro parked
      exact .inr ⟨moved, rfl, List.mem_append_right log (shut parked)⟩
    case begun => simp [advance, moved]
    case cancelling =>
      intro _ _
      exact ⟨.inl moved, asked.imp (List.mem_append_right log) (List.mem_append_right log)⟩
    case past =>
      intro past
      have terminal := h.past past
      cases e : c.phase <;> simp_all [Lifecycle.isTerminal, Lifecycle.canMove]
  · rw [if_neg may]
    constructor
    case waiting =>
      intro parked
      rcases h.waiting parked with ⟨phase, -⟩ | ⟨phase, late, -⟩
      · exact absurd (by rw [phase]; rfl) may
      · exact .inr ⟨phase, late, List.mem_append_right log (shut parked)⟩
    case begun => exact h.begun
    case cancelling =>
      rw [failedIn_quiet quiet]
      intro live late
      exact (h.cancelling live late).imp_right fun before => before.append es
    case past => exact h.past

theorem Flow.phase_of_last {vs : List Json} (h : Flow c acc vs) {m : ChannelMessage}
    {rest : List ChannelMessage} (queue : c.outbox.queue = m :: rest)
    (terminal : m.isTerminal = true) : c.phase = phaseOf m := by
  cases h with
  | running hd hp he hq ha =>
    obtain ⟨_, _, -, rfl, -⟩ := data_of_head (queue.symm.trans hq)
    cases terminal
  | ending he hg hd hp hq ha hc =>
    obtain ⟨_, _, -, rfl, -⟩ := data_of_head (queue.symm.trans hq)
    cases terminal
  | @finished e before after he hg hd hp hq ha hc =>
    cases before with
    | nil =>
      rw [queue] at hq
      injection hq with hm
      rw [hm, hp]
    | cons w before => rw [queue] at hq; cases hq; cases terminal

/-- How far a channel has come when its subscription is told a terminal message. -/
theorem Phased.when_told (h : Phased c log) (d : Delivery c acc) {m : ChannelMessage}
    (live : c.subscription = .live) (terminal : m.isTerminal = true)
    (why : (c.outbox.cancelled = true ∧ m = .close) ∨
      (c.outbox.cancelled = false ∧ ((∃ rest, c.outbox.queue = m :: rest) ∨
        (c.outbox.queue = [] ∧ c.isSilent = true)))) :
    (m = .close ∧ (c.phase = .closing ∨ (c.phase = .failed ∧ FailedIn .closing log))) ∨
      ∃ e, m = .error e ∧ c.phase = .failed ∧ c.outbox.cancelled = false := by
  obtain ⟨-, vs, -, -, flow⟩ := d.live live
  rcases why with ⟨late, rfl⟩ | ⟨going, ⟨rest, queue⟩ | ⟨queue, silent⟩⟩
  · exact .inl ⟨rfl, (h.cancelling live late).1⟩
  · obtain ⟨-, -, flow⟩ | ⟨late, -⟩ := flow
    · have phase := flow.phase_of_last queue terminal
      cases m with
      | data v => cases terminal
      | error e => exact .inr ⟨e, rfl, phase, going⟩
      | close => exact .inl ⟨rfl, .inl phase⟩
    · rw [going] at late; cases late
  · obtain ⟨-, -, flow⟩ | ⟨late, -⟩ := flow
    · rw [flow.not_silent queue] at silent; cases silent
    · rw [going] at late; cases late

def phaseWhenTold (s : Lifecycle) : ChannelMessage → Lifecycle
  | .close => (s.advance .closing).advance .closed
  | _ => s.advance .failed

theorem complete_phase (c : Channel S) (m : ChannelMessage) :
    (c.complete m).phase = phaseWhenTold c.phase m := by
  cases m <;> rfl

theorem Phased.ended (parked : d.parked = none) (phase : d.phase.isTerminal = true)
    (gone : d.subscription ≠ .live) : Phased d log := by
  constructor
  case waiting => simp [parked]
  case begun =>
    intro _
    cases e : d.phase <;> simp_all [Lifecycle.isTerminal]
  case cancelling => exact fun live => absurd live gone
  case past => exact fun _ => phase

theorem Concluded.tell (h : Concluded c log) {m : ChannelMessage}
    (failed : d.phase = .failed ↔ c.phase = .failed)
    (closed : c.phase = .closed → d.phase = .closed) (cancelled : d.outbox.cancelled = true)
    (close : m = .close → d.phase = .closed ∨ (d.phase = .failed ∧ FailedIn .closing log))
    (error : ∀ e, m = .error e → FailedIn .open log) : Concluded d (log ++ [ChannelEvent.told m]) := by
  constructor
  case failed => rw [failed, failedIn_told, failedIn_told, h.failed]
  case late =>
    intro late
    exact ⟨cancelled, (h.late (failedIn_told.mp late)).2.append _⟩
  case close =>
    intro told
    rw [failedIn_told]
    rcases List.mem_append.mp told with old | new
    · rw [failed]
      exact (h.close old).imp_left closed
    · cases List.mem_singleton.mp new
      exact close rfl
  case error =>
    intro e told
    rw [failedIn_told]
    rcases List.mem_append.mp told with old | new
    · exact h.error e old
    · cases List.mem_singleton.mp new
      exact error e rfl

theorem told_step {o : Outbox ChannelMessage} {m : ChannelMessage} (p : Phased c log)
    (k : Concluded c log) (d : Delivery c acc) (live : c.subscription = .live)
    (terminal : m.isTerminal = true)
    (why : (c.outbox.cancelled = true ∧ m = .close) ∨
      (c.outbox.cancelled = false ∧ ((∃ rest, c.outbox.queue = m :: rest) ∨
        (c.outbox.queue = [] ∧ c.isSilent = true)))) :
    Phased ({ c with outbox := o }.complete m) (log ++ [ChannelEvent.told m]) ∧
      Concluded ({ c with outbox := o }.complete m) (log ++ [ChannelEvent.told m]) := by
  obtain ⟨complete, same, -, cancelled⟩ := complete_subscription { c with outbox := o } m
  have gone : ({ c with outbox := o }.complete m).subscription ≠ .live := by simp [complete]
  have parked := same.trans (d.live live).1
  have phase : ({ c with outbox := o }.complete m).phase = phaseWhenTold c.phase m :=
    complete_phase _ m
  generalize { c with outbox := o }.complete m = after at *
  rcases p.when_told d live terminal why with ⟨rfl, closing | ⟨failed, late⟩⟩ | ⟨e, rfl, failed, going⟩
  · simp only [closing] at phase
    refine ⟨.ended parked (by rw [phase]; rfl) gone, k.tell ?_ ?_ cancelled ?_ nofun⟩
    · rw [phase, closing]
      decide
    · rw [closing]
      nofun
    · exact fun _ => .inl phase
  · simp only [failed] at phase
    refine ⟨.ended parked (by rw [phase]; rfl) gone, k.tell ?_ ?_ cancelled ?_ nofun⟩
    · rw [phase, failed]
      decide
    · rw [failed]
      nofun
    · exact fun _ => .inr ⟨phase, late⟩
  · simp only [failed] at phase
    refine ⟨.ended parked (by rw [phase]; rfl) gone, k.tell ?_ ?_ cancelled nofun ?_⟩
    · rw [phase, failed]
      exact iff_of_true rfl rfl
    · rw [failed]
      nofun
    · intro e _
      -- The channel is not cancelled, so its handler did not fail while it was closing.
      refine (k.failed.mp failed).resolve_right fun late => ?_
      have cancelled := (k.late late).1
      rw [going] at cancelled
      cases cancelled

theorem conclude_failed (c : Channel S) (outcome : Outcome Unit) :
    (c.conclude outcome).phase = .failed ↔
      c.phase = .failed ∨ (c.phase.isTerminal = false ∧ outcome ≠ .done ()) := by
  cases outcome <;> cases e : c.phase <;>
    simp [conclude, lastMessage, phaseOf, e, advance, Lifecycle.canMove, Lifecycle.advance,
      Lifecycle.isTerminal]

theorem conclude_of_terminal {c : Channel S} (terminal : c.phase.isTerminal = true)
    (outcome : Outcome Unit) : (c.conclude outcome).phase = c.phase := by
  cases outcome <;> cases e : c.phase <;>
    simp_all [conclude, lastMessage, phaseOf, Lifecycle.canMove, Lifecycle.isTerminal]

theorem conclude_of_closing {c : Channel S} (closing : c.phase = .closing) :
    (c.conclude (.done ())).phase = .closing := by
  simp [conclude, lastMessage, phaseOf, closing, Lifecycle.canMove]

theorem conclude_begun {c : Channel S} (begun : c.phase ≠ .created ∧ c.phase ≠ .initializing)
    (outcome : Outcome Unit) : (c.conclude outcome).phase ≠ .created ∧
      (c.conclude outcome).phase ≠ .initializing := by
  cases outcome <;> cases e : c.phase <;>
    simp_all [conclude, lastMessage, phaseOf, advance, Lifecycle.canMove, Lifecycle.advance]

theorem failedIn_ended {phase before : Lifecycle} {outcome : Outcome Unit} :
    FailedIn phase (log ++ [ChannelEvent.ended outcome before]) ↔
      FailedIn phase log ∨ (before = phase ∧ outcome ≠ .done ()) := by
  rw [failedIn_append]
  refine or_congr_right ?_
  constructor
  · rintro ⟨outcome', h, failure⟩
    cases List.mem_singleton.mp h
    exact ⟨rfl, failure⟩
  · rintro ⟨rfl, failure⟩
    exact ⟨outcome, List.mem_singleton_self _, failure⟩

/-- A handler ends while its channel is open, or later. A channel that is closing then was
closed by somebody. -/
theorem Phased.when_ended (h : Phased c log) (d : Delivery c acc) {t : Task S}
    (running : c.drive = .running t) : c.parked = none ∧ c.subscription ≠ .unattached ∧
      (c.phase = .open ∨ c.phase.isTerminal = true ∨
        (c.phase = .closing ∧ c.outbox.cancelled = true ∧ Asked log)) := by
  have attached := d.running_attached (by simp [running])
  have begun := h.begun attached
  cases d with
  | unattached hs => exact absurd hs attached
  | flowing hs hp hg hr ht hf =>
    cases hf with
    | running _ phase => exact ⟨hp, attached, .inl phase⟩
    | ending _ _ hd => rw [running] at hd; cases hd
    | finished _ _ hd => rw [running] at hd; cases hd
  | cancelled hs hp hc =>
    obtain ⟨phase | ⟨phase, -⟩, asked⟩ := h.cancelling hs hc
    · exact ⟨hp, attached, .inr (.inr ⟨phase, hc, asked⟩)⟩
    · exact ⟨hp, attached, .inr (.inl (by rw [phase]; rfl))⟩
  | complete hs hp => exact ⟨hp, attached, .inr (.inl (h.past (.inl hs)))⟩
  | dropped hs hp => exact ⟨hp, attached, .inr (.inl (h.past (.inr hs)))⟩

theorem Phased.conclude (h : Phased c log) (d : Delivery c acc) {t : Task S}
    (running : c.drive = .running t) (outcome : Outcome Unit) :
    Phased (c.conclude outcome) (log ++ [ChannelEvent.ended outcome c.phase]) := by
  obtain ⟨parked, attached, -⟩ := h.when_ended d running
  obtain ⟨subscription, same, outbox, -⟩ := conclude_subscription c outcome
  have failed := conclude_failed c outcome
  constructor
  case waiting => simp [same, parked]
  case begun =>
    intro _
    exact conclude_begun (h.begun attached) outcome
  case cancelling =>
    rw [subscription, outbox]
    intro live late
    obtain ⟨phase, asked⟩ := h.cancelling live late
    refine ⟨?_, asked.append _⟩
    rw [failedIn_ended]
    rcases phase with closing | ⟨before, late⟩
    · by_cases failure : outcome = .done ()
      · exact .inl (failure ▸ conclude_of_closing closing)
      · exact .inr ⟨failed.mpr (.inr ⟨by rw [closing]; rfl, failure⟩), .inr ⟨closing, failure⟩⟩
    · exact .inr ⟨failed.mpr (.inl before), .inl late⟩
  case past =>
    rw [subscription]
    intro past
    have terminal := h.past past
    rw [conclude_of_terminal terminal, terminal]

theorem Concluded.conclude (h : Concluded c log) (p : Phased c log) (d : Delivery c acc) {t : Task S}
    (running : c.drive = .running t) (outcome : Outcome Unit) :
    Concluded (c.conclude outcome) (log ++ [ChannelEvent.ended outcome c.phase]) := by
  obtain ⟨-, -, phase⟩ := p.when_ended d running
  have untold (m : ChannelMessage) : .told m ∈ log ++ [ChannelEvent.ended outcome c.phase] ↔ .told m ∈ log := by
    simp
  constructor
  case failed =>
    rw [conclude_failed, h.failed, failedIn_ended, failedIn_ended]
    rcases phase with e | e | ⟨e, -⟩
    · simp [e, Lifecycle.isTerminal]
      tauto
    · cases e' : c.phase <;> simp_all [Lifecycle.isTerminal]
    · simp [e, Lifecycle.isTerminal]
      tauto
  case late =>
    rw [failedIn_ended, (conclude_subscription c outcome).2.2.1]
    rintro (before | ⟨closing, -⟩)
    · obtain ⟨late, asked⟩ := h.late before
      exact ⟨late, asked.append _⟩
    · rcases phase with e | e | ⟨-, late, asked⟩
      · rw [e] at closing; cases closing
      · rw [closing] at e; cases e
      · exact ⟨late, asked.append _⟩
  case close =>
    rw [untold, failedIn_ended]
    intro told
    rcases h.close told with closed | ⟨failed, late⟩
    · exact .inl ((conclude_of_terminal (by rw [closed]; rfl) outcome).trans closed)
    · exact .inr ⟨(conclude_of_terminal (by rw [failed]; rfl) outcome).trans failed, .inl late⟩
  case error =>
    intro e told
    rw [untold] at told
    exact failedIn_ended.mpr (.inl (h.error e told))

structure Told (c : Channel S) (log : List ChannelEvent) : Prop where
  recorded : Recorded c log
  phased : Phased c log
  concluded : Concluded c log

theorem told_create (name : String) (start : S) (capacity expiry : Nat) :
    Told (create name start capacity expiry) [] :=
  ⟨recorded_create name start capacity expiry, phased_create name start capacity expiry,
    concluded_create name start capacity expiry⟩

theorem eq_started_of_mem_starts {e : ChannelEvent} (h : e ∈ c.starts d) : e = .started := by
  simp only [starts] at h
  split at h
  · exact List.mem_singleton.mp h
  · cases h

theorem phased_step (h : Told c log) (d : Delivery c acc) {after : Channel S}
    (s : Passage b c after es) : Phased after (log ++ es) ∧ Concluded after (log ++ es) := by
  obtain ⟨r, p, k⟩ := h
  have unchanged {e : ChannelEvent} (quiet : e.isQuiet = true)
      (spared : c.parked.isSome = true → .shut ∉ [e]) :
      Phased c (log ++ [e]) ∧ Concluded c (log ++ [e]) := by
    have quiet : ∀ e' ∈ [e], e'.isQuiet = true := by simpa using quiet
    exact ⟨p.frame quiet rfl rfl rfl rfl spared, k.frame quiet Iff.rfl id id⟩
  have cancel {e : ChannelEvent} (quiet : e.isQuiet = true) (asked : Asked [e])
      (shut : c.parked.isSome = true → .shut ∈ [e]) :
      Phased c.cancel (log ++ [e]) ∧ Concluded c.cancel (log ++ [e]) := by
    have quiet : ∀ e' ∈ [e], e'.isQuiet = true := by simpa using quiet
    refine ⟨p.cancel quiet asked shut, k.frame quiet (cancel_failed c) ?_ (cancel_cancelled c)⟩
    intro closed
    rw [cancel_closed c closed, closed]
  have discard {e : ChannelEvent} (quiet : e.isQuiet = true) (parked : c.parked.isSome = true)
      (expiry : Option Nat) : Phased { c.discard with expiry := expiry } (log ++ [e]) ∧
        Concluded { c.discard with expiry := expiry } (log ++ [e]) := by
    have quiet : ∀ e' ∈ [e], e'.isQuiet = true := by simpa using quiet
    obtain ⟨closed, after⟩ := p.discard r parked expiry
    refine ⟨after, k.frame quiet ?_ (fun _ => closed) id⟩
    rw [closed]
    rcases p.waiting parked with ⟨phase, -⟩ | ⟨phase, -⟩ <;> simp [phase]
  cases s with
  | still s =>
    exact ⟨p.frame (by simp) s.parked s.subscription s.phase s.cancelled (by simp),
      k.frame (by simp) (by rw [s.phase]) (fun closed => s.phase.trans closed)
        (fun late => s.cancelled.trans late)⟩
  | attached listed parked =>
    refine ⟨p.attach parked, k.frame (by simp [ChannelEvent.isQuiet]) ?_ ?_ id⟩
    · exact Lifecycle.advance_eq_failed (by decide)
    · intro closed
      simp [advance, closed, Lifecycle.advance, Lifecycle.canMove]
  | expired listed parked => exact discard rfl parked none
  | overdue late =>
    have quiet : ∀ e ∈ [ChannelEvent.expired], e.isQuiet = true := by simp [ChannelEvent.isQuiet]
    exact ⟨p.frame quiet rfl rfl rfl rfl (by simp), k.frame quiet Iff.rfl id id⟩
  | discarded listed parked => exact discard rfl parked c.expiry
  | cancelled listed taken => exact cancel rfl (.inl (by simp)) (by simp [taken])
  | missed gone => exact unchanged rfl (by simp)
  | shut listed => exact cancel rfl (.inr (by simp)) (by simp)
  | spared gone =>
    refine unchanged rfl fun parked => ?_
    have listed := (r.parked.mp parked).2
    rw [gone] at listed
    cases listed
  | told live terminal cancelled why => exact told_step p k d live terminal why
  | dropped live =>
    have quiet : ∀ e ∈ [ChannelEvent.dropped], e.isQuiet = true := by simp [ChannelEvent.isQuiet]
    rw [Channel.drop, if_neg (not_not_intro live)]
    refine ⟨.ended (d.live live).1 (Lifecycle.isTerminal_advance_closed c.phase) (by simp),
      k.frame quiet ?_ ?_ fun _ => rfl⟩
    · exact (Lifecycle.advance_eq_failed (by decide)).trans (Lifecycle.advance_eq_failed (by decide))
    · intro closed
      simp [advance, closed, Lifecycle.advance, Lifecycle.canMove]
  | ended running => exact ⟨p.conclude d running _, k.conclude p d running _⟩

/-- Every act keeps what holds of a channel and its history. -/
theorem told_act (h : Told c log) (d : Delivery c acc) (w : W) (x : ChannelAct) :
    Told (c.act b w x) (log ++ c.events b w x) := by
  have s := passage b c w x
  have quiet : ∀ e ∈ c.starts (c.act b w x), e.isQuiet = true := by
    intro e h
    rw [eq_started_of_mem_starts h]
    rfl
  obtain ⟨phased, concluded⟩ := phased_step h d s
  refine ⟨recorded_step h.recorded s, ?_, ?_⟩
  · rw [events, ← List.append_assoc]
    exact phased.frame quiet rfl rfl rfl rfl fun _ shut => nomatch eq_started_of_mem_starts shut
  · rw [events, ← List.append_assoc]
    exact concluded.frame quiet Iff.rfl id id

theorem phase_of_passage (s : Passage b c d es) :
    ∃ moves : List Lifecycle, d.phase = moves.foldl Lifecycle.advance c.phase := by
  have cancel : ∃ moves : List Lifecycle, c.cancel.phase = moves.foldl Lifecycle.advance c.phase := by
    simp only [Channel.cancel]
    split
    · exact ⟨[.closing], rfl⟩
    · exact ⟨[], rfl⟩
  cases s with
  | still s => exact ⟨[], s.phase⟩
  | attached => exact ⟨[.open], rfl⟩
  | expired | discarded => exact ⟨[.closing, .closed], rfl⟩
  | overdue | missed | spared => exact ⟨[], rfl⟩
  | cancelled | shut => exact cancel
  | @told o m =>
    cases m with
    | close => exact ⟨[.closing, .closed], rfl⟩
    | data | error => exact ⟨[.failed], rfl⟩
  | dropped live =>
    rw [Channel.drop, if_neg (not_not_intro live)]
    exact ⟨[.closing, .closed], rfl⟩
  | @ended t outcome =>
    simp only [Channel.conclude]
    split
    · exact ⟨[phaseOf (lastMessage outcome)], rfl⟩
    · exact ⟨[], rfl⟩

/-- A handler is noted to end in the phase in which it does. -/
theorem phase_of_ended (s : Passage b c d es) {outcome : Outcome Unit} {phase : Lifecycle}
    (ended : .ended outcome phase ∈ es) : phase = c.phase := by
  cases s <;> simp_all

theorem failed_act (failed : c.phase = .failed) (w : W) (x : ChannelAct) :
    (c.act b w x).phase = .failed := by
  obtain ⟨moves, phase⟩ := phase_of_passage (passage b c w x)
  rw [phase]
  refine Lifecycle.foldl_advance_induction (P := fun s => s = .failed) ?_ failed moves
  rintro s n rfl
  exact Lifecycle.advance_of_terminal rfl n

/-- A channel that closed without a failure while it was open cannot fail that way any more. -/
theorem pastOpen_act (h : c.phase.IsPastOpen ∧ ¬FailedIn .open log) (w : W) (x : ChannelAct) :
    (c.act b w x).phase.IsPastOpen ∧ ¬FailedIn .open (log ++ c.events b w x) := by
  have s := passage b c w x
  obtain ⟨moves, phase⟩ := phase_of_passage s
  constructor
  · rw [phase]
    exact Lifecycle.foldl_advance_induction (P := Lifecycle.IsPastOpen)
      (fun _ n past => Lifecycle.isPastOpen_advance past n) h.1 moves
  · rw [failedIn_append]
    rintro (before | ⟨outcome, now, -⟩)
    · exact h.2 before
    · rcases List.mem_append.mp now with now | now
      · rcases phase_of_ended s now ▸ h.1 with e | e <;> cases e
      · cases eq_started_of_mem_starts now

end Channel
end CommandBridge
