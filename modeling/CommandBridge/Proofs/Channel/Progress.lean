import CommandBridge.Proofs.Channel.Delivery

/-!
# The line before the queue of a channel

Whoever stands in line is a task that still wants to push, or the handler's end. So while
the terminal message waits to be queued, an empty queue is filled by one step of whoever
stands first.
-/

set_option autoImplicit false

namespace CommandBridge.Channel

variable {W S : Type} {b : Behaviour W (Outlet W Payload S) Unit S} {c : Channel S}

def WantsRoom (b : Behaviour W (Outlet W Payload S) Unit S) : Drive S → Prop
  | .running t => (t.offers? b frame?).isSome = true
  | .ending _ => True
  | _ => False

structure Lined (b : Behaviour W (Outlet W Payload S) Unit S) (c : Channel S) : Prop where
  room : 1 ≤ c.outbox.capacity
  own : driveTicket ∈ c.outbox.waiting → WantsRoom b c.drive
  forks : Task.ForksLined b frame? c.outbox c.forks

theorem lined_create (name : String) (start : S) (capacity expiry : Nat) :
    Lined b (create name start capacity expiry) where
  room := Nat.le_max_left 1 capacity
  own h := nomatch h
  forks _ h := nomatch h

theorem Lined.frame {d : Channel S} (h : Lined b c) (capacity : d.outbox.capacity = c.outbox.capacity)
    (waiting : d.outbox.waiting = c.outbox.waiting) (drive : d.drive = c.drive)
    (forks : d.forks = c.forks) : Lined b d where
  room := capacity ▸ h.room
  own inLine := drive ▸ h.own (waiting ▸ inLine)
  forks k hk := forks ▸ h.forks k (waiting ▸ hk)

/-- The handler's task, or its end, gives up its place in line. -/
theorem Lined.leave (h : Lined b c) {o : Outbox ChannelMessage} {drive : Drive S}
    (capacity : o.capacity = c.outbox.capacity)
    (waiting : ∀ j, j ∈ o.waiting → j ∈ c.outbox.waiting ∧ j ≠ driveTicket) :
    Lined b { c with outbox := o, drive := drive } where
  room := capacity ▸ h.room
  own inLine := absurd rfl (waiting _ inLine).2
  forks k hk := h.forks k (waiting _ hk).1

theorem lined_drive (h : Lined b c) {now : Nat} {pick : Alternative} {w w' : W} {d : Channel S}
    (moved : c.driveStep b now pick w = some (w', d)) : Lined b d := by
  unfold driveStep at moved
  split at moved
  · next t running =>
    obtain ⟨⟨w₁, o, turn⟩, stepped, e⟩ := Option.map_eq_some_iff.mp moved
    have s := Task.outboxStep view_serves stepped
    have room : 1 ≤ o.capacity := Task.capacity_of_outboxStep s ▸ h.room
    have line {j : Nat} (hj : j ∈ o.waiting) := Task.waiting_of_outboxStep s
      (fun inLine => by have wants := h.own inLine; rwa [running] at wants) hj
    have forks (more : List (Option (Task S))) : Task.ForksLined b frame? o (c.forks ++ more) :=
      h.forks.mono (fun k hk => (line hk).elim And.left fun own => nomatch own.1) more
    cases turn with
    | onward t' =>
      cases e
      refine ⟨room, fun inLine => ?_, List.append_nil c.forks ▸ forks []⟩
      rcases line inLine with ⟨-, ne⟩ | ⟨-, same, offers⟩
      · exact absurd rfl ne
      · cases same
        exact offers
    | forked start t' =>
      cases e
      refine ⟨room, fun inLine => ?_, forks _⟩
      rcases line inLine with ⟨-, ne⟩ | ⟨-, same, -⟩
      · exact absurd rfl ne
      · cases same
    | ended outcome =>
      have gone : driveTicket ∉ o.waiting := by
        intro inLine
        rcases line inLine with ⟨-, ne⟩ | ⟨-, same, -⟩
        · exact ne rfl
        · cases same
      cases e
      simp only [conclude]
      split <;>
        exact ⟨room, fun inLine => absurd inLine gone, List.append_nil c.forks ▸ forks []⟩
  · next m ending =>
    obtain ⟨-, e⟩ | ⟨-, -, -, e⟩ | ⟨-, -, e⟩ | ⟨-, -, -, e⟩ := c.outbox.offer_cases driveTicket m <;>
      rw [e] at moved <;> cases moved
    · exact h.leave rfl fun j hj => Outbox.mem_leave.mp hj
    · exact h.leave rfl fun j hj => Outbox.mem_leave.mp hj
    · refine ⟨h.room, fun _ => by rw [ending]; trivial, fun k hk => ?_⟩
      rcases List.mem_append.mp hk with old | new
      · exact h.forks k old
      · cases List.mem_singleton.mp new
  · cases moved

theorem lined_fork (h : Lined b c) {now index : Nat} {pick : Alternative} {w w' : W} {d : Channel S}
    (moved : c.forkStep b now index pick w = some (w', d)) : Lined b d := by
  unfold forkStep at moved
  split at moved
  · next t alive =>
    obtain ⟨⟨w₁, o, turn⟩, stepped, e⟩ := Option.map_eq_some_iff.mp moved
    have s := Task.outboxStep view_serves stepped
    obtain ⟨forks, own⟩ := Task.forksLined_step h.forks alive s
    have lined : Lined b { c with outbox := o, forks := Task.forksAfter c.forks index turn } :=
      ⟨Task.capacity_of_outboxStep s ▸ h.room, fun inLine => h.own (own inLine), forks⟩
    cases turn <;> cases e <;> exact lined
  · cases moved

theorem lined_cancel (h : Lined b c) : Lined b c.cancel := by
  unfold cancel
  split
  · exact h.frame rfl rfl rfl rfl
  · exact h

theorem lined_complete (h : Lined b c) (m : ChannelMessage) : Lined b (c.complete m) := by
  cases m <;> exact h.frame rfl rfl rfl rfl

theorem lined_deliver (h : Lined b c) (m : ChannelMessage) : Lined b (c.deliver m).1 := by
  simp only [deliver]
  split
  · exact lined_complete h m
  · exact h

theorem lined_receive (h : Lined b c) : Lined b c.receive.1 := by
  unfold receive
  split
  · exact h
  split
  · exact lined_deliver h .close
  split
  · next m o taken =>
    obtain ⟨rest, -, rfl⟩ := Outbox.take?_eq_some.mp taken
    have popped : Lined b { c with outbox := { c.outbox with queue := rest } } :=
      h.frame rfl rfl rfl rfl
    exact lined_deliver popped m
  split
  · exact lined_deliver h terminated
  · exact h

theorem lined_move (h : Lined b c) {now : Nat} {w w' : W} {m : ChannelMove} {d : Channel S}
    (moved : c.move b now w m = some (w', d)) : Lined b d := by
  cases m with
  | expire =>
    simp only [move] at moved
    split at moved
    · split at moved
      · cases moved
        simp only [expire]
        split <;> exact h.frame rfl rfl rfl rfl
      · cases moved
    · cases moved
  | release =>
    simp only [move, releaseStep] at moved
    split at moved
    · split at moved <;> cases moved
      · exact h.leave rfl fun j hj => Outbox.mem_leave.mp hj
      · exact h.leave rfl fun j hj => Outbox.mem_leave.mp hj
    · cases moved
  | drive pick => exact lined_drive h moved
  | fork index pick => exact lined_fork h moved

theorem lined_act {acc : Account} (d : Delivery c acc) (h : Lined b c) (w : W) (x : ChannelAct) :
    Lined b (c.act b w x) := by
  cases x with
  | attach id =>
    simp only [act, Channel.attach]
    split
    · exact h
    split
    · exact h
    next start parked =>
    obtain ⟨-, idle, -⟩ := d.fresh (d.alone_of_parked (by simp [parked]))
    refine ⟨h.room, fun inLine => ?_, h.forks⟩
    have wants := h.own inLine
    rw [idle] at wants
    exact wants.elim
  | close id =>
    simp only [act, Channel.close]
    split
    · exact h
    split
    · exact h.frame (d := c.discard) rfl rfl rfl rfl
    · exact lined_cancel h
  | shut =>
    simp only [act, shut]
    split
    · exact lined_cancel h
    · exact h
  | receive => exact lined_receive h
  | drop =>
    simp only [act, Channel.drop]
    split
    · exact h
    · exact h.frame rfl rfl rfl rfl
  | move now m =>
    simp only [act]
    cases moved : c.move b now w m with
    | none => exact h
    | some r => exact lined_move h moved

theorem not_isTerminal_of_frame? {r : Payload} {f : ChannelMessage} (h : frame? r = some f) :
    f.isTerminal = false := by
  cases r with
  | json v => cases h; rfl
  | unserializable reason => cases h

/-- While the terminal message waits, whoever is first in line can fill the empty queue. -/
theorem exists_move_fills {last : ChannelMessage} (h : Lined b c) (going : c.outbox.isClosed = false)
    (ending : c.drive = .ending last) (queue : c.outbox.queue = []) (now : Nat) (w : W) :
    ∃ m w' d x, c.move b now w m = some (w', d) ∧ d.outbox.queue = [x] ∧
      (x = last ∨ x.isTerminal = false) ∧
      d.outbox.cancelled = c.outbox.cancelled ∧ d.subscription = c.subscription := by
  have room : c.outbox.queue.length < c.outbox.capacity := by
    rw [queue]
    exact h.room
  by_cases turn : c.outbox.isTurn driveTicket = true
  · have taken : c.outbox.offer driveTicket last = .taken (c.outbox.accept driveTicket last) := by
      simp [Outbox.offer, going, turn, room, Outbox.accept]
    refine ⟨.drive .ready, w,
      { c with outbox := c.outbox.accept driveTicket last, drive := .finished }, last, ?_, ?_, .inl rfl,
      rfl, rfl⟩
    · simp only [move, driveStep, ending, taken]
    · simp [Outbox.accept, queue]
  -- Somebody else stands first: a task that still wants to push.
  obtain ⟨k, rest, hw⟩ : ∃ k rest, c.outbox.waiting = (k + 1) :: rest := by
    cases hw : c.outbox.waiting with
    | nil => simp [Outbox.isTurn, hw] at turn
    | cons first rest =>
      cases first with
      | zero => exact absurd (Outbox.isTurn_of_head hw) turn
      | succ k => exact ⟨k, rest, rfl⟩
  obtain ⟨t, alive, offers⟩ := h.forks k (by simp [hw])
  obtain ⟨f, offer⟩ := Option.isSome_iff_exists.mp offers
  have steps : (t.clientStep b view now .ready (k + 1) w c.outbox).isSome = true :=
    Task.clientStep_of_offers view_serves offer (Outbox.admits_of_head room hw)
  obtain ⟨⟨w', o, turn'⟩, stepped⟩ := Option.isSome_iff_exists.mp steps
  obtain ⟨rfl, t', rfl⟩ := Task.taken_of_outboxStep (Task.outboxStep view_serves stepped) offer going
    (by simp [hw])
  obtain ⟨r, -, carries⟩ := Option.bind_eq_some_iff.mp offer
  refine ⟨.fork k .ready, w', { c with
    outbox := c.outbox.accept (k + 1) f, forks := c.forks.set k (some t') }, f, ?_, ?_,
    .inr (not_isTerminal_of_frame? carries), rfl, rfl⟩
  · simp only [move, forkStep, alive, stepped, Option.map_some]
  · simp [Outbox.accept, queue]

theorem push_of_cancelled {o : Outbox ChannelMessage} (h : o.cancelled = true) (ticket : Nat)
    (v : Payload) : view.push o ticket v = .settled (o.leave ticket) (some (.closed .channel)) := by
  simp [view, push, h]

end CommandBridge.Channel
