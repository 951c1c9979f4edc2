import CommandBridge.Proofs.Channel.Delivery
import CommandBridge.Proofs.Channel.History

/-!
# Channels in the table

A channel that waits for its attach stays in the table until it is closed or its timer goes
off, and an attached one until its subscription ends. `Recorded` ties this to the history of
the channel; every act keeps it.
-/

set_option autoImplicit false

namespace CommandBridge

def ChannelEvent.isAside : ChannelEvent → Bool
  | closed | shut | expired | ended .. => true
  | attached | started | told _ | dropped => false

namespace Channel

variable {W S : Type} {b : Behaviour W (Outlet W Payload S) Unit S} {c d : Channel S}
  {log es : List ChannelEvent}

structure Recorded (c : Channel S) (log : List ChannelEvent) : Prop where
  attached : log.countP ChannelEvent.isAttached = if c.subscription = .unattached then 0 else 1
  started : log.countP ChannelEvent.isStarted = if c.subscription = .unattached then 0 else 1
  idle : c.drive = .idle ↔ c.subscription = .unattached
  parked : c.parked.isSome = true ↔ c.subscription = .unattached ∧ c.listed = true
  waiting : c.subscription = .unattached → (c.listed = true ↔ .closed ∉ log ∧ .expired ∉ log)
  bound : c.subscription ≠ .unattached → (c.listed = true ↔ c.subscription = .live)
  told : (∃ m, .told m ∈ log) ↔ c.subscription = .complete
  dropped : .dropped ∈ log ↔ c.subscription = .dropped

theorem recorded_create (name : String) (start : S) (capacity expiry : Nat) :
    Recorded (create name start capacity expiry) [] := by
  constructor <;> simp [create]

theorem countP_append_aside (log : List ChannelEvent) (aside : ∀ e ∈ es, e.isAside = true) :
    (log ++ es).countP ChannelEvent.isAttached = log.countP ChannelEvent.isAttached ∧
      (log ++ es).countP ChannelEvent.isStarted = log.countP ChannelEvent.isStarted := by
  have attached : es.countP ChannelEvent.isAttached = 0 := by
    rw [List.countP_eq_zero]
    intro e he
    have := aside e he
    cases e <;> simp_all [ChannelEvent.isAside, ChannelEvent.isAttached]
  have started : es.countP ChannelEvent.isStarted = 0 := by
    rw [List.countP_eq_zero]
    intro e he
    have := aside e he
    cases e <;> simp_all [ChannelEvent.isAside, ChannelEvent.isStarted]
  simp [List.countP_append, attached, started]

/-- An event aside changes nothing about a channel that is where it was. A close or the timer
is one only where no attach is waited for. -/
theorem Recorded.frame (h : Recorded c log) (listed : d.listed = c.listed)
    (parked : d.parked = c.parked) (subscription : d.subscription = c.subscription)
    (idle : d.drive = .idle ↔ c.drive = .idle) (aside : ∀ e ∈ es, e.isAside = true)
    (early : c.subscription = .unattached → c.listed = true → .closed ∉ es ∧ .expired ∉ es) :
    Recorded d (log ++ es) := by
  obtain ⟨attached, started⟩ := countP_append_aside log aside
  have untold (m : ChannelMessage) : .told m ∉ es := fun he => by cases aside _ he
  have undropped : .dropped ∉ es := fun he => by cases aside _ he
  constructor
  case attached => rw [attached, subscription, h.attached]
  case started => rw [started, subscription, h.started]
  case idle => rw [idle, subscription, h.idle]
  case parked => rw [parked, subscription, listed, h.parked]
  case waiting =>
    intro alone
    rw [subscription] at alone
    rw [listed, h.waiting alone]
    simp only [List.mem_append, not_or]
    constructor
    · intro present
      obtain ⟨unclosed, unexpired⟩ := early alone ((h.waiting alone).mpr present)
      exact ⟨⟨present.1, unclosed⟩, present.2, unexpired⟩
    · exact fun present => ⟨present.1.1, present.2.1⟩
  case bound => rw [subscription, listed]; exact h.bound
  case told => simp only [List.mem_append, untold, or_false, subscription, h.told]
  case dropped => simp only [List.mem_append, undropped, or_false, subscription, h.dropped]

/-- A channel that waits is discarded, on a close or by its timer. -/
theorem Recorded.discard (h : Recorded c log) (parked : c.parked.isSome = true)
    (listed : d.listed = false) (unparked : d.parked = none) (drive : d.drive = c.drive)
    (subscription : d.subscription = c.subscription) (aside : ∀ e ∈ es, e.isAside = true)
    (gone : .closed ∈ es ∨ .expired ∈ es) : Recorded d (log ++ es) := by
  obtain ⟨alone, -⟩ := h.parked.mp parked
  obtain ⟨attached, started⟩ := countP_append_aside log aside
  have untold (m : ChannelMessage) : .told m ∉ es := fun he => by cases aside _ he
  have undropped : .dropped ∉ es := fun he => by cases aside _ he
  constructor
  case attached => rw [attached, subscription, h.attached]
  case started => rw [started, subscription, h.started]
  case idle => rw [drive, subscription, h.idle]
  case parked => simp [unparked, listed]
  case waiting =>
    intro _
    simp only [listed, Bool.false_eq_true, List.mem_append]
    tauto
  case bound => simp [subscription, alone]
  case told => simp only [List.mem_append, untold, or_false, subscription, h.told]
  case dropped => simp only [List.mem_append, undropped, or_false, subscription, h.dropped]

theorem Recorded.attach (h : Recorded c log) {start : S} (listed : c.listed = true)
    (parked : c.parked = some start) :
    Recorded { c.advance .open with
      parked := none, drive := .running (Task.at start), subscription := .live }
      (log ++ [ChannelEvent.attached, .started]) := by
  obtain ⟨alone, -⟩ := h.parked.mp (Option.isSome_iff_exists.mpr ⟨start, parked⟩)
  have attached := h.attached
  have started := h.started
  rw [if_pos alone] at attached started
  constructor
  case attached => simp [List.countP_append, attached, List.countP_cons, ChannelEvent.isAttached]
  case started => simp [List.countP_append, started, List.countP_cons, ChannelEvent.isStarted]
  case told => simpa [alone] using h.told
  case dropped => simpa [alone] using h.dropped
  case bound => simpa [advance] using listed
  all_goals simp

/-- A live subscription ends, by what it is told or because it is dropped. -/
theorem Recorded.finish (h : Recorded c log) (live : c.subscription = .live)
    (listed : d.listed = false) (parked : d.parked = c.parked) (drive : d.drive = c.drive)
    (subscription : (d.subscription = .complete ∧ ∃ m, es = [.told m]) ∨
      (d.subscription = .dropped ∧ es = [.dropped])) : Recorded d (log ++ es) := by
  have attached := h.attached
  have started := h.started
  have idle := h.idle
  have parked' := h.parked
  have told := h.told
  have dropped := h.dropped
  simp only [live, reduceCtorEq, if_false, iff_false, false_and] at attached started idle parked' told dropped
  rcases subscription with ⟨complete, m, rfl⟩ | ⟨gone, rfl⟩
  · constructor
    case told => simp [complete]
    all_goals simp_all [List.countP_append, ChannelEvent.isAttached, ChannelEvent.isStarted]
  · constructor
    case told => simpa [gone] using told
    all_goals simp_all [List.countP_append, ChannelEvent.isAttached, ChannelEvent.isStarted]

theorem cancel_place (c : Channel S) : c.cancel.listed = c.listed ∧ c.cancel.parked = c.parked ∧
    c.cancel.subscription = c.subscription ∧ c.cancel.drive = c.drive := by
  simp only [cancel]
  split <;> exact ⟨rfl, rfl, rfl, rfl⟩

theorem Recorded.cancel (h : Recorded c log) (aside : ∀ e ∈ es, e.isAside = true)
    (early : c.subscription = .unattached → c.listed = true → .closed ∉ es ∧ .expired ∉ es) :
    Recorded c.cancel (log ++ es) := by
  obtain ⟨listed, parked, subscription, drive⟩ := cancel_place c
  exact h.frame listed parked subscription (by rw [drive]) aside early

/-- A channel that is not waiting keeps its place, whatever is asked of it. -/
theorem Recorded.elsewhere (h : Recorded c log) (settled : ¬c.parked.isSome = true) :
    c.subscription = .unattached → c.listed = true → .closed ∉ es ∧ .expired ∉ es :=
  fun alone listed => absurd (h.parked.mpr ⟨alone, listed⟩) settled

theorem recorded_step (h : Recorded c log) (s : Passage b c d es) :
    Recorded d (log ++ (es ++ c.starts d)) := by
  have quiet {d : Channel S} (same : d.drive = c.drive) : c.starts d = [] := by simp [starts, same]
  cases s with
  | still s =>
    rw [starts, s.begins]
    exact h.frame s.listed s.parked s.subscription s.idle (by simp) (by simp)
  | attached listed parked =>
    have idle : c.drive = .idle :=
      h.idle.mpr (h.parked.mp (Option.isSome_iff_exists.mpr ⟨_, parked⟩)).1
    have started {d : Channel S} {t : Task S} (after : d.drive = .running t) :
        c.starts d = [.started] := by
      simp [starts, idle, after, Drive.begins]
    rw [started (d := { c.advance .open with
      parked := none, drive := .running (Task.at _), subscription := .live }) rfl]
    exact h.attach listed parked
  | expired listed parked =>
    rw [quiet (d := { c.discard with expiry := none }) rfl]
    exact h.discard parked rfl rfl rfl rfl (by simp [ChannelEvent.isAside]) (by simp)
  | overdue late =>
    rw [quiet (d := { c with expiry := none }) rfl]
    refine h.frame rfl rfl rfl Iff.rfl (by simp [ChannelEvent.isAside]) ?_
    intro alone listed
    exact absurd ⟨listed, h.parked.mpr ⟨alone, listed⟩⟩ late
  | discarded listed parked =>
    rw [quiet (d := c.discard) rfl]
    exact h.discard parked rfl rfl rfl rfl (by simp [ChannelEvent.isAside]) (by simp)
  | cancelled listed taken =>
    rw [quiet (cancel_place c).2.2.2]
    exact h.cancel (by simp [ChannelEvent.isAside]) (h.elsewhere (by simp [taken]))
  | missed gone =>
    rw [quiet rfl]
    exact h.frame rfl rfl rfl Iff.rfl (by simp [ChannelEvent.isAside]) (by simp [gone])
  | shut listed =>
    rw [quiet (cancel_place c).2.2.2]
    exact h.cancel (by simp [ChannelEvent.isAside]) (by simp)
  | spared gone =>
    rw [quiet rfl]
    exact h.frame rfl rfl rfl Iff.rfl (by simp [ChannelEvent.isAside]) (by simp)
  | @told o m live terminal cancelled why =>
    obtain ⟨complete, parked, listed, -⟩ := complete_subscription { c with outbox := o } m
    have drive : ({ c with outbox := o }.complete m).drive = c.drive := by cases m <;> rfl
    rw [quiet drive]
    exact h.finish live listed parked drive (.inl ⟨complete, m, by simp⟩)
  | dropped live =>
    have gone : c.drop.listed = false ∧ c.drop.parked = c.parked ∧ c.drop.drive = c.drive ∧
        c.drop.subscription = .dropped := by
      rw [Channel.drop, if_neg (not_not_intro live)]
      exact ⟨rfl, rfl, rfl, rfl⟩
    rw [quiet gone.2.2.1]
    exact h.finish live gone.1 gone.2.1 gone.2.2.1 (.inr ⟨gone.2.2.2, by simp⟩)
  | @ended t outcome running =>
    obtain ⟨subscription, parked, -, listed⟩ := conclude_subscription c outcome
    have busy : (c.conclude outcome).drive ≠ .idle ∧ c.starts (c.conclude outcome) = [] := by
      simp only [conclude, starts]
      split <;> simp [running, Drive.begins]
    rw [busy.2]
    refine h.frame listed parked subscription ?_ (by simp [ChannelEvent.isAside]) (by simp)
    simp [busy.1, running]

theorem attached_of_begins (s : Passage b c d es) (begins : c.drive.begins d.drive = true) :
    es = [.attached] ∧ ∃ start, c.listed = true ∧ c.parked = some start ∧
      d = { c.advance .open with
        parked := none, drive := .running (Task.at start), subscription := .live } := by
  cases s with
  | still s => rw [s.begins] at begins; cases begins
  | attached listed parked => exact ⟨rfl, _, listed, parked, rfl⟩
  | cancelled | shut => rw [(cancel_place c).2.2.2, Drive.begins_self] at begins; cases begins
  | @told o m => cases m <;> simp [complete, advance] at begins
  | dropped live => simp [Channel.drop, live, advance] at begins
  | ended running => simp [running, Drive.begins] at begins
  | expired | overdue | discarded => simp [discard, advance] at begins
  | missed | spared => simp at begins

theorem attach_of_eventOf {x : ChannelAct} (h : c.eventOf b x = [.attached]) :
    ∃ id, x = .attach id ∧ (c.attach id).isOk = true := by
  cases x with
  | attach id =>
    by_cases done : (c.attach id).isOk = true
    · exact ⟨id, rfl, done⟩
    · simp [eventOf, done] at h
  | close id | shut => simp [eventOf] at h
  | receive =>
    simp only [eventOf] at h
    split at h
    · split at h <;> simp at h
    · cases h
  | drop =>
    simp only [eventOf] at h
    split at h <;> simp at h
  | move now m =>
    cases m with
    | expire =>
      simp only [eventOf] at h
      split at h <;> simp at h
    | drive pick =>
      by_cases running : ∃ t, c.drive = .running t
      · obtain ⟨t, running⟩ := running
        rw [eventOf_running running] at h
        cases e : t.outcome? b <;> simp [e] at h
      · simp [eventOf_not_running running] at h
    | release | fork index pick => simp [eventOf] at h

end Channel
end CommandBridge
