import CommandBridge.Proofs.Session.Outbox
import CommandBridge.Proofs.Session.Task

/-!
# Tasks at an outbox

Channels and connections show their outbox to their tasks in the same way: a request that
carries a frame is an offer of it, any other settles at once. From this follows what a step
of a task does to the queue and to the line, and that the first in line is never stuck while
there is room.
-/

set_option autoImplicit false

namespace CommandBridge

variable {F W Req Res S : Type}

structure Outbox.Serves (view : ClientView (Outbox F) Req) (frame? : Req → Option F) : Prop where
  bare : ∀ o k r, frame? r = none → ∃ o' failure, view.push o k r = .settled o' failure ∧
    o'.queue = o.queue ∧ o'.capacity = o.capacity ∧ o'.receiving = o.receiving ∧
    (o.cancelled = true → o'.cancelled = true) ∧
    ∀ j, j ∈ o'.waiting → j ∈ o.waiting
  refused : ∀ o k r f, frame? r = some f → o.isClosed = true →
    ∃ failure, view.push o k r = .settled (o.leave k) (some failure)
  offered : ∀ o k r f, frame? r = some f → o.isClosed = false →
    view.push o k r = match o.offer k f with
      | .refused o' => .settled o' none
      | .taken o' => .settled o' none
      | .queued o' => .queued o'
      | .blocked => .blocked

structure Outbox.RefusesQuietly (push : Outbox F → Nat → Req → Attempt (Outbox F)) : Prop where
  failed : ∀ {o o' : Outbox F} {ticket : Nat} {r : Req} {e : SendError},
    push o ticket r = .settled o' (some e) → o'.queue = o.queue
  queued : ∀ {o o' : Outbox F} {ticket : Nat} {r : Req},
    push o ticket r = .queued o' → o'.queue = o.queue

theorem Outbox.Serves.refusesQuietly {view : ClientView (Outbox F) Req} {frame? : Req → Option F}
    (law : Outbox.Serves view frame?) : RefusesQuietly view.push where
  failed {o o' k r e} failed := by
    cases carries : frame? r with
    | none =>
      obtain ⟨o₁, failure, settled, queue, -⟩ := law.bare o k r carries
      rw [settled] at failed
      cases failed
      exact queue
    | some f =>
      by_cases closed : o.isClosed = true
      · obtain ⟨failure, settled⟩ := law.refused o k r f carries closed
        rw [settled] at failed
        cases failed
        rfl
      · rw [law.offered o k r f carries (Bool.not_eq_true _ ▸ closed)] at failed
        split at failed <;> cases failed
  queued {o o' k r} queued := by
    cases carries : frame? r with
    | none =>
      obtain ⟨o₁, failure, settled, -⟩ := law.bare o k r carries
      rw [settled] at queued
      cases queued
    | some f =>
      by_cases closed : o.isClosed = true
      · obtain ⟨failure, settled⟩ := law.refused o k r f carries closed
        rw [settled] at queued
        cases queued
      · rw [law.offered o k r f carries (Bool.not_eq_true _ ▸ closed)] at queued
        rcases o.offer_cases k f with ⟨-, h⟩ | ⟨-, -, -, h⟩ | ⟨-, -, h⟩ | ⟨-, -, -, h⟩ <;>
          rw [h] at queued <;> cases queued
        rfl

namespace Task

variable {b : Behaviour W (Outlet W Req S) Res S} {view : ClientView (Outbox F) Req}
  {frame? : Req → Option F} {now k : Nat} {pick : Alternative} {w w' : W} {o o' : Outbox F}
  {t : Task S} {turn : Turn S Res}

def offers? (b : Behaviour W (Outlet W Req S) Res S) (frame? : Req → Option F) (t : Task S) :
    Option F :=
  (t.pushes? b).bind frame?

theorem offers?_of_outcome {outcome : Outcome Res} (h : t.outcome? b = some outcome) :
    t.offers? b frame? = none := by
  unfold outcome? at h
  unfold offers? pushes?
  split at h
  · next e => rw [e]; rfl
  · cases h

inductive OutboxStep (b : Behaviour W (Outlet W Req S) Res S) (frame? : Req → Option F) (k : Nat)
    (o : Outbox F) (t : Task S) : Outbox F → Turn S Res → Prop
  | bare {o' : Outbox F} {turn : Turn S Res} (idle : t.offers? b frame? = none)
      (queue : o'.queue = o.queue) (capacity : o'.capacity = o.capacity)
      (receiving : o'.receiving = o.receiving)
      (cancelled : o.cancelled = true → o'.cancelled = true)
      (waiting : ∀ j, j ∈ o'.waiting → j ∈ o.waiting)
      (ended : ∀ outcome, turn = .ended outcome ↔ t.outcome? b = some outcome) :
      OutboxStep b frame? k o t o' turn
  | refused {f : F} {t' : Task S} (offer : t.offers? b frame? = some f)
      (closed : o.isClosed = true) : OutboxStep b frame? k o t (o.leave k) (.onward t')
  | taken {f : F} {t' : Task S} (offer : t.offers? b frame? = some f)
      (closed : o.isClosed = false) (room : o.queue.length < o.capacity) :
      OutboxStep b frame? k o t (o.accept k f) (.onward t')
  | queued {f : F} (offer : t.offers? b frame? = some f) (closed : o.isClosed = false)
      (fresh : k ∉ o.waiting) : OutboxStep b frame? k o t (o.line k) (.onward t)

theorem outboxStep (law : Outbox.Serves view frame?)
    (h : t.clientStep b view now pick k w o = some (w', o', turn)) :
    OutboxStep b frame? k o t o' turn := by
  rcases clientStep_cases h with ⟨r, push, goesOn, answer⟩ | ⟨push, same, rest⟩
  · cases hf : frame? r with
    | none =>
      obtain ⟨o₁, failure, e, queue, capacity, receiving, cancelled, waiting⟩ := law.bare o k r hf
      rcases answer with ⟨_, t', ha, rfl⟩ | ⟨ha, -⟩
      · rw [e] at ha
        cases ha
        exact .bare (by simp [offers?, push, hf]) queue capacity receiving cancelled waiting
          (by simp [goesOn])
      · rw [e] at ha; cases ha
    | some f =>
      have offer : t.offers? b frame? = some f := by simp [offers?, push, hf]
      by_cases closed : o.isClosed = true
      · obtain ⟨failure, e⟩ := law.refused o k r f hf closed
        rcases answer with ⟨_, t', ha, rfl⟩ | ⟨ha, -⟩
        · rw [e] at ha
          cases ha
          exact .refused offer closed
        · rw [e] at ha; cases ha
      rw [Bool.not_eq_true] at closed
      have e := law.offered o k r f hf closed
      rcases o.offer_cases k f with ⟨c, -⟩ | ⟨-, -, room, he⟩ | ⟨-, fresh, he⟩ | ⟨-, -, -, he⟩
      · rw [closed] at c; cases c
      · rcases answer with ⟨_, t', ha, rfl⟩ | ⟨ha, -⟩
        · rw [e, he] at ha
          cases ha
          exact .taken offer closed room
        · rw [e, he] at ha; cases ha
      · rcases answer with ⟨_, t', ha, rfl⟩ | ⟨ha, rfl⟩
        · rw [e, he] at ha; cases ha
        · rw [e, he] at ha
          cases ha
          exact .queued offer closed fresh
      · rcases answer with ⟨_, t', ha, rfl⟩ | ⟨ha, rfl⟩
        · rw [e, he] at ha; cases ha
        · rw [e, he] at ha; cases ha
  · subst same
    refine .bare (by simp [offers?, push]) rfl rfl rfl id (fun _ => id) ?_
    intro outcome
    rcases rest with ⟨out, ho, rfl⟩ | ⟨ho, ⟨t', rfl⟩ | ⟨s, t', rfl⟩⟩
    · rw [ho]; simp [eq_comm]
    · simp [ho]
    · simp [ho]

theorem capacity_of_outboxStep (h : OutboxStep b frame? k o t o' turn) :
    o'.capacity = o.capacity := by
  cases h with
  | bare _ _ capacity _ _ _ _ => exact capacity
  | refused => rfl
  | taken => rfl
  | queued => rfl

theorem receiving_of_outboxStep (h : OutboxStep b frame? k o t o' turn) :
    o'.receiving = o.receiving := by
  cases h with
  | bare _ _ _ receiving _ _ _ => exact receiving
  | refused => rfl
  | taken => rfl
  | queued => rfl

theorem cancelled_of_outboxStep (h : OutboxStep b frame? k o t o' turn)
    (late : o.cancelled = true) : o'.cancelled = true := by
  cases h with
  | bare _ _ _ _ cancelled _ _ => exact cancelled late
  | refused => exact late
  | taken => exact late
  | queued => exact late

/-- After a step the line holds those who stood in it before and still want to push, and the
task itself only if it goes on asking for what it asked. -/
theorem waiting_of_outboxStep (h : OutboxStep b frame? k o t o' turn)
    (honest : k ∈ o.waiting → (t.offers? b frame?).isSome = true) {j : Nat} (hj : j ∈ o'.waiting) :
    (j ∈ o.waiting ∧ j ≠ k) ∨ (j = k ∧ turn = .onward t ∧ (t.offers? b frame?).isSome = true) := by
  cases h with
  | bare idle _ _ _ _ waiting _ =>
    refine .inl ⟨waiting j hj, ?_⟩
    rintro rfl
    have := honest (waiting j hj)
    rw [idle] at this
    cases this
  | refused => exact .inl (Outbox.mem_leave.mp hj)
  | taken => exact .inl (Outbox.mem_leave.mp hj)
  | queued offer _ fresh =>
    rcases List.mem_append.mp hj with old | new
    · exact .inl ⟨old, fun e => fresh (e ▸ old)⟩
    · exact .inr ⟨List.mem_singleton.mp new, rfl, by simp [offer]⟩

/-- A task that offers a frame can step unless something holds the offer up. -/
theorem clientStep_of_offers (law : Outbox.Serves view frame?) {f : F}
    (h : t.offers? b frame? = some f) (admits : o.Admits k) :
    (t.clientStep b view now pick k w o).isSome = true := by
  obtain ⟨r, hr, hf⟩ := Option.bind_eq_some_iff.mp h
  apply clientStep_of_push hr
  by_cases closed : o.isClosed = true
  · obtain ⟨failure, e⟩ := law.refused o k r f hf closed
    simp [e]
  rw [Bool.not_eq_true] at closed
  rw [law.offered o k r f hf closed]
  intro blocked
  cases offer : o.offer k f with
  | blocked => exact admits.not_blocked f offer
  | refused | taken | queued => simp [offer] at blocked

theorem clientStep_of_admits (law : Outbox.Serves view frame?) (waits : ¬t.Waits b)
    (admits : o.Admits k) : (t.clientStep b view now pick k w o).isSome = true := by
  cases offer : t.offers? b frame? with
  | some f => exact clientStep_of_offers law offer admits
  | none =>
    cases push : t.pushes? b with
    | none => exact clientStep_of_not_waits waits push
    | some r =>
      rw [offers?, push, Option.bind_some] at offer
      obtain ⟨o', failure, settled, -⟩ := law.bare o k r offer
      exact clientStep_of_push push (by simp [settled])

/-- The step of a task in line gets its frame into an open queue. -/
theorem taken_of_outboxStep (h : OutboxStep b frame? k o t o' turn) {f : F}
    (offer : t.offers? b frame? = some f) (open' : o.isClosed = false) (inLine : k ∈ o.waiting) :
    o' = o.accept k f ∧ ∃ t', turn = .onward t' := by
  cases h with
  | bare idle _ _ _ _ _ _ => rw [offer] at idle; cases idle
  | refused _ closed => rw [open'] at closed; cases closed
  | taken offer' _ _ =>
    rw [offer] at offer'
    cases offer'
    exact ⟨rfl, _, rfl⟩
  | queued _ _ fresh => exact absurd inLine fresh

section Forks

variable {forks : List (Option (Task S))} {index : Nat}

def forksAfter (forks : List (Option (Task S))) (index : Nat) : Turn S Res → List (Option (Task S))
  | .onward t => forks.set index (some t)
  | .forked start t => forks.set index (some t) ++ [some (Task.at start)]
  | .ended _ => forks.set index none

/-- Started tasks stand in line only for frames that they want to push. The task at index `i`
has ticket `i + 1`. -/
def ForksLined (b : Behaviour W (Outlet W Req S) Res S) (frame? : Req → Option F) (o : Outbox F)
    (forks : List (Option (Task S))) : Prop :=
  ∀ k, k + 1 ∈ o.waiting → ∃ t, forks[k]? = some (some t) ∧ (t.offers? b frame?).isSome = true

theorem getElem?_append_alive {k : Nat} (alive : forks[k]? = some (some t))
    (more : List (Option (Task S))) : (forks ++ more)[k]? = some (some t) := by
  obtain ⟨bound, -⟩ := List.getElem?_eq_some_iff.mp alive
  rw [List.getElem?_append_left bound, alive]

theorem ForksLined.mono (h : ForksLined b frame? o forks)
    (waiting : ∀ k, k + 1 ∈ o'.waiting → k + 1 ∈ o.waiting) (more : List (Option (Task S))) :
    ForksLined b frame? o' (forks ++ more) := by
  intro k hk
  obtain ⟨t, alive, offers⟩ := h k (waiting k hk)
  exact ⟨t, getElem?_append_alive alive more, offers⟩

/-- A step of a started task leaves nobody in line for nothing. -/
theorem forksLined_step (h : ForksLined b frame? o forks) (alive : forks[index]? = some (some t))
    (s : OutboxStep b frame? (index + 1) o t o' turn) :
    ForksLined b frame? o' (forksAfter forks index turn) ∧ (0 ∈ o'.waiting → 0 ∈ o.waiting) := by
  have honest : index + 1 ∈ o.waiting → (t.offers? b frame?).isSome = true := by
    intro inLine
    obtain ⟨t', e, offers⟩ := h index inLine
    rw [alive] at e
    cases e
    exact offers
  have line {j : Nat} (hj : j ∈ o'.waiting) := waiting_of_outboxStep s honest hj
  obtain ⟨bound, -⟩ := List.getElem?_eq_some_iff.mp alive
  -- Whoever else stands in line is untouched by what becomes of this task.
  have others {k : Nat} (old : k + 1 ∈ o.waiting) (ne : k + 1 ≠ index + 1) (slot : Option (Task S)) :
      ∃ t', (forks.set index slot)[k]? = some (some t') ∧ (t'.offers? b frame?).isSome = true := by
    obtain ⟨t', alive', offers⟩ := h k old
    exact ⟨t', by rw [List.getElem?_set_ne (by omega), alive'], offers⟩
  refine ⟨fun k hk => ?_, fun zero => ?_⟩
  · cases turn with
    | onward t' =>
      rcases line hk with ⟨old, ne⟩ | ⟨same, e, offers⟩
      · exact others old ne (some t')
      · cases e
        cases same
        exact ⟨t, List.getElem?_set_self bound, offers⟩
    | forked start t' =>
      rcases line hk with ⟨old, ne⟩ | ⟨-, e, -⟩
      · obtain ⟨t'', alive', offers⟩ := others old ne (some t')
        exact ⟨t'', getElem?_append_alive alive' _, offers⟩
      · cases e
    | ended outcome =>
      rcases line hk with ⟨old, ne⟩ | ⟨-, e, -⟩
      · exact others old ne none
      · cases e
  · rcases line zero with ⟨old, -⟩ | ⟨e, -⟩
    · exact old
    · cases e

end Forks

end Task
end CommandBridge
