import CommandBridge.Proofs.Bridge.Starting

/-!
# What a channel comes to

The terminal message of a subscription against the phase that its channel ends in. An error
means that the handler failed while the channel was open. After `close` the channel is closed,
unless its handler failed while the channel was closing: then the channel has failed, and
nobody is told.
-/

set_option autoImplicit false

namespace CommandBridge.Bridge

open Channel

variable {A : Application} {b : Bridge A} {i : Nat} {c : Channel A.Stream}

theorem channelLog_append (i : Nat) (b : Bridge A) (acts more : List (Act A)) :
    channelLog i b (acts ++ more) =
      (channelRecords A).history i (b.run acts) more (channelLog i b acts) :=
  Sessions.history_append ..

theorem failed_run (there : b.channels[i]? = some c) (failed : c.phase = .failed)
    (acts : List (Act A)) : ∃ d, (b.run acts).channels[i]? = some d ∧ d.phase = .failed :=
  Sessions.history_kept (s := channelRecords A) (P := fun c _ => c.phase = .failed) (l := [])
    (fun _ _ _ x failed => failed_act failed x.1 x.2) acts there failed

/-- A close takes an open channel past `open`, for good; its handler has not failed before and
cannot fail while the channel is open any more. -/
theorem close_open_run {id : Uuid} {log : List ChannelEvent} (told : Told c log)
    (there : b.channels[i]? = some c) (found : b.channelIndex? id = some i)
    (listed : c.listed = true) (opened : c.phase = .open) (after : List (Act A)) :
    ∃ d, (b.run (.close id :: after)).channels[i]? = some d ∧
      ¬FailedIn .open ((channelRecords A).history i b (.close id :: after) log) := by
  have attached : c.parked = none := by
    rw [← Option.not_isSome_iff_eq_none]
    intro waits
    rcases told.phased.waiting waits with ⟨phase, -⟩ | ⟨phase, -⟩ <;> rw [opened] at phase <;> cases phase
  have unfailed : ¬FailedIn .open log := fun early => by
    have failed := told.concluded.failed.mpr (.inl early)
    rw [opened] at failed
    cases failed
  -- The close itself: the channel is closing, and its handler neither started nor ended.
  have closing : (c.act A.stream b.world (.close id.text)).phase = .closing := by
    simp [Channel.act, Channel.close, listed, attached, Except.toOption, cancel, opened, advance,
      Lifecycle.advance, Lifecycle.canMove]
  have noted : (channelRecords A).noted i b log (.close id) =
      log ++ c.events A.stream b.world (.close id.text) := by
    simp [Sessions.noted, channelRecords, there, channelAct?, found]
  have quiet : ∀ e ∈ c.events A.stream b.world (.close id.text), e.isQuiet = true := by
    intro e h
    rcases List.mem_append.mp h with h | h
    · cases List.mem_singleton.mp h
      rfl
    · rw [eq_started_of_mem_starts h]
      rfl
  have next := act_channel there (.close id)
  simp only [channelAct?, found, if_true, Option.map_some, Option.getD_some] at next
  obtain ⟨d, same, -, early⟩ := Sessions.history_kept (s := channelRecords A)
    (P := fun c log => c.phase.IsPastOpen ∧ ¬FailedIn .open log)
    (fun _ _ _ x h => pastOpen_act h x.1 x.2) after next
    ⟨.inl closing, noted ▸ (failedIn_quiet quiet).not.mpr unfailed⟩
  exact ⟨d, same, early⟩

/-- How the terminal message of a channel and the phase of the channel agree, and when they do
not. -/
theorem terminal_message_phase (config : Config) (registry : Registry A) (world : A.World)
    (files : FileTree) (acts : List (Act A)) (i : Nat) (c : Channel A.Stream)
    (there : ((start config registry world files).run acts).channels[i]? = some c) :
    let b := start config registry world files
    let log := channelLog i b acts
    (∀ e, .told (.error e) ∈ log → c.phase = .failed ∧ FailedIn .open log) ∧
    (.told .close ∈ log → (c.phase = .closed ↔ ¬FailedIn .closing log) ∧
      (c.phase = .failed ↔ FailedIn .closing log)) ∧
    (FailedIn .closing log → .closed ∈ log ∨ .shut ∈ log) ∧
    (c.phase ≠ .failed → ∀ before, before <+: acts → ∀ d, (b.run before).channels[i]? = some d →
      d.phase ≠ .failed) ∧
    (∀ before id after d, acts = before ++ .close id :: after →
      (b.run before).channels[i]? = some d → (b.run before).channelIndex? id = some i →
      d.listed = true → d.phase = .open → (c.phase = .failed ↔ FailedIn .closing log)) := by
  intro b log
  obtain ⟨⟨recorded, phased, concluded⟩, -⟩ := told_run config registry world files acts there
  refine ⟨?_, ?_, ?_, ?_, ?_⟩
  · intro e told
    have failure := concluded.error e told
    exact ⟨concluded.failed.mpr (.inl failure), failure⟩
  · intro told
    have outcome := concluded.close told
    have failed : FailedIn .closing log → c.phase = .failed := fun late =>
      concluded.failed.mpr (.inr late)
    constructor
    · constructor
      · intro closed late
        rw [failed late] at closed
        cases closed
      · exact fun early => outcome.resolve_right fun late => early late.2
    · constructor
      · intro phase
        rcases outcome with closed | ⟨-, late⟩
        · rw [phase] at closed; cases closed
        · exact late
      · exact failed
  · exact fun late => (concluded.late late).2
  · rintro alive before ⟨after, rfl⟩ d same failed
    obtain ⟨c', there', failed'⟩ := failed_run same failed after
    rw [← run_append] at there'
    cases there.symm.trans there'
    exact alive failed'
  · rintro before id after d rfl same found listed opened
    obtain ⟨told, -⟩ := told_run config registry world files before same
    obtain ⟨-, -, early⟩ := close_open_run told same found listed opened after
    rw [← channelLog_append] at early
    rw [concluded.failed]
    exact or_iff_right early

def soleHeard : List (Act Script.application) := soleRuns ++ [Act.receive 0, .receive 0]

theorem sole_closed : ∃ c, (sole.run soleHeard).channels[0]? = some c ∧ c.phase = .closed := by
  have created : (sole.run soleHeard).channels[0]?.isSome = true := by decide
  obtain ⟨c, there⟩ := Option.isSome_iff_exists.mp created
  have log : channelLog 0 sole soleHeard =
      [.attached, .started, .ended (.done ()) .open, .told .close] := rfl
  have told : .told .close ∈ channelLog 0 sole soleHeard := by simp [log]
  have unfailed : ¬FailedIn .closing (channelLog 0 sole soleHeard) := by simp [FailedIn, log]
  have phases := (terminal_message_phase _ _ _ _ _ 0 c there).2.1 told
  exact ⟨c, there, phases.1.mpr unfailed⟩

def failing : Bridge Script.application :=
  streaming 1 [.note (.bool true), .fail (.of "late")]

def workingRuns : List (Act Script.application) :=
  [Act.create "once" (.object []), .attach (Uuid.nth 0), .move (.channel 0 (.drive .ready))]

/-- A close takes effect on an open channel while its handler is at work, and the channel fails
although its subscription is told `close`. -/
theorem close_then_failed :
    let acts := workingRuns ++ .close (Uuid.nth 0) ::
      [Act.move (.channel 0 (.drive .ready)), .receive 0]
    (failing.run workingRuns).channels[0]?.map (fun c => (c.listed, c.phase)) =
        some (true, .open) ∧
      ((failing.run workingRuns).closeChannel (Uuid.nth 0)).toOption.map Prod.snd = some 0 ∧
      (failing.run acts).channels[0]?.map (·.phase) = some .failed ∧
      .told .close ∈ channelLog 0 failing acts := by
  refine ⟨by decide, by decide, by decide, ?_⟩
  have log : channelLog 0 failing (workingRuns ++ .close (Uuid.nth 0) ::
      [Act.move (.channel 0 (.drive .ready)), .receive 0]) =
        [.attached, .started, .closed, .ended (.failed (.of "late")) .closing, .told .close] := rfl
  rw [log]
  simp

end CommandBridge.Bridge
