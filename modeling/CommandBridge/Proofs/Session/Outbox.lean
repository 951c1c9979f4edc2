import CommandBridge.Session.Outbox
import Mathlib.Tactic.Common

/-!
# What an offer does to an outbox

An offer is refused, taken, put in line or left where it is, and nothing but an offer that
is taken adds a frame. The line is fair: whoever stands first in it is taken as soon as
there is room, so a line blocks nobody for good while the far end reads.
-/

set_option autoImplicit false

namespace CommandBridge.Outbox

variable {F : Type}

theorem mem_leave {o : Outbox F} {k j : Nat} :
    j ∈ (o.leave k).waiting ↔ j ∈ o.waiting ∧ j ≠ k := by
  simp [leave]

theorem isClosed_of_cancelled {o : Outbox F} (h : o.cancelled = true) : o.isClosed = true := by
  simp [isClosed, h]

def accept (o : Outbox F) (k : Nat) (frame : F) : Outbox F :=
  { o.leave k with queue := o.queue ++ [frame] }

def line (o : Outbox F) (k : Nat) : Outbox F := { o with waiting := o.waiting ++ [k] }

theorem offer_cases (o : Outbox F) (k : Nat) (frame : F) :
    (o.isClosed = true ∧ o.offer k frame = .refused (o.leave k)) ∨
    (o.isClosed = false ∧ o.isTurn k = true ∧ o.queue.length < o.capacity ∧
      o.offer k frame = .taken (o.accept k frame)) ∨
    (o.isClosed = false ∧ k ∉ o.waiting ∧ o.offer k frame = .queued (o.line k)) ∨
    (o.isClosed = false ∧ k ∈ o.waiting ∧ ¬(o.isTurn k = true ∧ o.queue.length < o.capacity) ∧
      o.offer k frame = .blocked) := by
  by_cases closed : o.isClosed = true
  · exact .inl ⟨closed, by simp [offer, closed]⟩
  rw [Bool.not_eq_true] at closed
  by_cases room : o.isTurn k = true ∧ o.queue.length < o.capacity
  · exact .inr (.inl ⟨closed, room.1, room.2, by simp [offer, closed, room, accept]⟩)
  by_cases inLine : k ∈ o.waiting
  · refine .inr (.inr (.inr ⟨closed, inLine, room, ?_⟩))
    simp only [offer, closed, Bool.false_eq_true, if_false, if_neg room]
    simp [inLine]
  · refine .inr (.inr (.inl ⟨closed, inLine, ?_⟩))
    simp only [offer, closed, Bool.false_eq_true, if_false, if_neg room]
    simp [inLine, line]

theorem isTurn_of_head {o : Outbox F} {k : Nat} {rest : List Nat} (h : o.waiting = k :: rest) :
    o.isTurn k = true := by
  simp [isTurn, h]

/-- An offer is blocked only by a full queue or by somebody who stands before it in line. -/
theorem offer_blocked {o : Outbox F} {k : Nat} {frame : F} (h : o.offer k frame = .blocked) :
    o.isClosed = false ∧
      (o.capacity ≤ o.queue.length ∨ ∃ j rest, o.waiting = j :: rest ∧ j ≠ k) := by
  rcases o.offer_cases k frame with ⟨_, e⟩ | ⟨_, _, _, e⟩ | ⟨_, _, e⟩ | ⟨closed, inLine, room, -⟩
  · rw [e] at h; cases h
  · rw [e] at h; cases h
  · rw [e] at h; cases h
  refine ⟨closed, ?_⟩
  by_cases full : o.capacity ≤ o.queue.length
  · exact .inl full
  right
  match hw : o.waiting with
  | [] => rw [hw] at inLine; exact absurd inLine List.not_mem_nil
  | j :: rest =>
    refine ⟨j, rest, rfl, fun e => room ⟨?_, by omega⟩⟩
    subst e
    exact isTurn_of_head hw

/-- Nothing holds up an offer under the ticket: the outbox is closed, or it has room and nobody
else stands first in line. -/
def Admits (o : Outbox F) (k : Nat) : Prop :=
  o.isClosed = false → o.queue.length < o.capacity ∧ ∀ j rest, o.waiting = j :: rest → j = k

theorem admits_of_head {o : Outbox F} {k : Nat} {rest : List Nat}
    (room : o.queue.length < o.capacity) (line : o.waiting = k :: rest) : o.Admits k := by
  refine fun _ => ⟨room, fun j rest' e => ?_⟩
  rw [line] at e
  cases e
  rfl

theorem Admits.not_blocked {o : Outbox F} {k : Nat} (h : o.Admits k) (frame : F) :
    o.offer k frame ≠ .blocked := by
  intro blocked
  obtain ⟨going, full | ⟨j, rest, line, ne⟩⟩ := offer_blocked blocked
  · have room := (h going).1
    omega
  · exact ne ((h going).2 j rest line)

theorem take?_eq_none {o : Outbox F} : o.take? = none ↔ o.queue = [] := by
  unfold take?
  split <;> simp_all

theorem take?_eq_some {o o' : Outbox F} {frame : F} :
    o.take? = some (frame, o') ↔ ∃ rest, o.queue = frame :: rest ∧ o' = { o with queue := rest } := by
  unfold take?
  split
  · simp_all
  · next f rest h =>
    rw [h]
    simp only [Option.some.injEq, Prod.mk.injEq, List.cons.injEq]
    constructor
    · rintro ⟨rfl, rfl⟩; exact ⟨rest, ⟨rfl, rfl⟩, rfl⟩
    · rintro ⟨r, ⟨rfl, rfl⟩, rfl⟩; exact ⟨rfl, rfl⟩

end CommandBridge.Outbox
