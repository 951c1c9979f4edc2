import CommandBridge.Proofs.Channel.Life
import CommandBridge.Proofs.Session.Descent

/-!
# Where the tasks of a channel come from

A channel is created with the state in which its handler will start. Nothing that befalls it later
brings another: what is parked is that state, and all that runs descends from it.
-/

set_option autoImplicit false

namespace CommandBridge.Channel

variable {W S : Type} {b : Behaviour W (Outlet W Payload S) Unit S} {command : String} {start : S}
  {c d : Channel S}

/-- How far the handler has come: where it is descends from the state in which it starts, and
when it has ended, so does the state in which it finished. -/
inductive DriveFrom (b : Behaviour W (Outlet W Payload S) Unit S) (start : S) : Drive S → Prop where
  | idle : DriveFrom b start .idle
  | running {t : Task S} (origin : b.From (· = start) t.state) : DriveFrom b start (.running t)
  | ending {s : S} {outcome : Outcome Unit} (origin : b.From (· = start) s)
      (finished : b.next s = .finish outcome) : DriveFrom b start (.ending (lastMessage outcome))
  | finished : DriveFrom b start .finished

structure OfStart (b : Behaviour W (Outlet W Payload S) Unit S) (command : String) (start : S)
    (c : Channel S) : Prop where
  command_eq : c.command = command
  parked : ∀ s, c.parked = some s → s = start
  drive : DriveFrom b start c.drive
  forks : ForksFrom b (· = start) c.forks

theorem ofStart_create (capacity expiry : Nat) :
    OfStart b command start (create command start capacity expiry) :=
  ⟨rfl, fun _ same => (Option.some.inj same).symm, .idle, nofun⟩

structure Dwindles (c d : Channel S) : Prop where
  command : d.command = c.command
  parked : ∀ s, d.parked = some s → c.parked = some s
  drive : d.drive = c.drive ∨ d.drive = .finished
  forks : d.forks = c.forks

theorem Dwindles.refl (c : Channel S) : Dwindles c c := ⟨rfl, fun _ => id, .inl rfl, rfl⟩

theorem OfStart.dwindle (h : OfStart b command start c) (dwindles : Dwindles c d) :
    OfStart b command start d where
  command_eq := dwindles.command.trans h.command_eq
  parked := fun s there => h.parked s (dwindles.parked s there)
  drive := by
    rcases dwindles.drive with same | finished
    · exact same ▸ h.drive
    · exact finished ▸ .finished
  forks := dwindles.forks ▸ h.forks

theorem discard_dwindles (c : Channel S) : Dwindles c c.discard := ⟨rfl, nofun, .inl rfl, rfl⟩

theorem cancel_dwindles (c : Channel S) : Dwindles c c.cancel := by
  unfold cancel
  split
  · exact ⟨rfl, fun _ => id, .inl rfl, rfl⟩
  · exact .refl c

theorem complete_dwindles (c : Channel S) (m : ChannelMessage) : Dwindles c (c.complete m) := by
  cases m <;> exact ⟨rfl, fun _ => id, .inl rfl, rfl⟩

theorem deliver_dwindles (c : Channel S) (m : ChannelMessage) : Dwindles c (c.deliver m).1 := by
  unfold deliver
  split
  · exact complete_dwindles c m
  · exact .refl c

theorem receive_dwindles (c : Channel S) : Dwindles c c.receive.1 := by
  unfold receive
  split
  · exact .refl c
  split
  · exact deliver_dwindles c .close
  split
  · next m outbox _ =>
    have h := deliver_dwindles { c with outbox := outbox } m
    exact ⟨h.command, h.parked, h.drive, h.forks⟩
  · split
    · exact deliver_dwindles c terminated
    · exact .refl c

theorem close_dwindles (c : Channel S) (id : String) : Dwindles c ((c.close id).toOption.getD c) := by
  unfold close
  split
  · exact .refl c
  split
  · exact discard_dwindles c
  · exact cancel_dwindles c

theorem drop_dwindles (c : Channel S) : Dwindles c c.drop := by
  unfold drop
  split
  · exact .refl c
  · exact ⟨rfl, fun _ => id, .inl rfl, rfl⟩

theorem expire_dwindles (c : Channel S) : Dwindles c c.expire := by
  simp only [expire]
  split
  · exact ⟨rfl, nofun, .inl rfl, rfl⟩
  · exact ⟨rfl, fun _ => id, .inl rfl, rfl⟩

theorem release_dwindles {w w' : W} (h : c.releaseStep b w = some (w', d)) : Dwindles c d := by
  unfold releaseStep at h
  split at h
  · split at h <;> cases h <;> exact ⟨rfl, fun _ => id, .inr rfl, rfl⟩
  · cases h

theorem OfStart.attach (h : OfStart b command start c) (id : String) :
    OfStart b command start ((c.attach id).toOption.getD c) := by
  unfold Channel.attach
  split
  · exact h
  split
  · exact h
  · next s parked =>
    exact ⟨h.command_eq, nofun, .running (Behaviour.from_origin (h.parked s parked)), h.forks⟩

theorem OfStart.conclude (h : OfStart b command start c) {s : S} {outcome : Outcome Unit}
    (origin : b.From (· = start) s) (finished : b.next s = .finish outcome) :
    OfStart b command start (c.conclude outcome) := by
  simp only [Channel.conclude]
  split
  · exact ⟨h.command_eq, h.parked, .ending origin finished, h.forks⟩
  · exact ⟨h.command_eq, h.parked, .finished, h.forks⟩

theorem OfStart.driveStep (h : OfStart b command start c) {now : Nat} {pick : Alternative} {w w' : W}
    (stepped : c.driveStep b now pick w = some (w', d)) : OfStart b command start d := by
  have drive := h.drive
  unfold Channel.driveStep at stepped
  split at stepped
  · next t running =>
    rw [running] at drive
    cases drive with | running origin =>
    obtain ⟨⟨w₁, outbox, turn⟩, step, e⟩ := Option.map_eq_some_iff.mp stepped
    have states := Task.clientStep_from step origin
    cases turn with
    | onward t' =>
      cases e
      exact ⟨h.command_eq, h.parked, .running (states _ List.mem_cons_self), h.forks⟩
    | forked s t' =>
      cases e
      exact ⟨h.command_eq, h.parked,
        .running (states _ (List.mem_cons_of_mem s List.mem_cons_self)),
        h.forks.append (states s List.mem_cons_self)⟩
    | ended outcome =>
      cases e
      have before : OfStart b command start { c with outbox := outbox } :=
        ⟨h.command_eq, h.parked, h.drive, h.forks⟩
      exact before.conclude origin (Task.clientStep_ended step)
  · next last ending =>
    split at stepped
    · cases stepped
      exact ⟨h.command_eq, h.parked, .finished, h.forks⟩
    · cases stepped
      exact ⟨h.command_eq, h.parked, .finished, h.forks⟩
    · cases stepped
      exact ⟨h.command_eq, h.parked, h.drive, h.forks⟩
    · cases stepped
  · cases stepped

theorem OfStart.forkStep (h : OfStart b command start c) {now index : Nat} {pick : Alternative}
    {w w' : W} (stepped : c.forkStep b now index pick w = some (w', d)) :
    OfStart b command start d := by
  unfold Channel.forkStep at stepped
  split at stepped
  · next t alive =>
    obtain ⟨⟨w₁, outbox, turn⟩, step, e⟩ := Option.map_eq_some_iff.mp stepped
    have states := Task.clientStep_from step (h.forks t (List.mem_of_getElem? alive))
    have forks := h.forks.after index states
    cases turn <;> cases e <;> exact ⟨h.command_eq, h.parked, h.drive, forks⟩
  · cases stepped

theorem OfStart.act (h : OfStart b command start c) (w : W) (x : ChannelAct) :
    OfStart b command start (c.act b w x) := by
  cases x with
  | attach id => exact h.attach id
  | close id => exact h.dwindle (close_dwindles c id)
  | shut =>
    simp only [Channel.act, shut]
    split
    · exact h.dwindle (cancel_dwindles c)
    · exact h
  | receive => exact h.dwindle (receive_dwindles c)
  | drop => exact h.dwindle (drop_dwindles c)
  | move now m =>
    simp only [Channel.act]
    cases moved : c.move b now w m with
    | none => exact h
    | some r =>
      obtain ⟨w', d⟩ := r
      change OfStart b command start d
      cases m with
      | expire =>
        simp only [move] at moved
        split at moved
        · split at moved
          · cases moved
            exact h.dwindle (expire_dwindles c)
          · cases moved
        · cases moved
      | release => exact h.dwindle (release_dwindles moved)
      | drive pick => exact h.driveStep moved
      | fork index pick => exact h.forkStep moved

end CommandBridge.Channel
