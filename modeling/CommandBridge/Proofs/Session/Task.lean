import CommandBridge.Handler.Turn
import Mathlib.Tactic.Common

/-!
# What a step of a task does to its client

A step that is not a push leaves the client alone. A push that settles moves the task on, and
one that takes a place in line leaves it at the same request.
-/

set_option autoImplicit false

namespace CommandBridge.Task

variable {W C Req Res S : Type} {b : Behaviour W (Outlet W Req S) Res S} {view : ClientView C Req}
  {now ticket : Nat} {pick : Alternative} {w w' : W} {c c' : C} {t : Task S} {turn : Turn S Res}

def pushes? (b : Behaviour W (Outlet W Req S) Res S) (t : Task S) : Option Req :=
  match b.next t.state with
  | .client (.push request _) => some request
  | _ => none

def outcome? (b : Behaviour W (Outlet W Req S) Res S) (t : Task S) : Option (Outcome Res) :=
  match b.next t.state with
  | .finish outcome => some outcome
  | _ => none

theorem waitStep_onward {alarm : Option (Alarm S)} {ready : W → Option (W × S)}
    (h : waitStep now pick alarm ready w t = some (w', turn)) : ∃ t', turn = .onward t' := by
  unfold waitStep at h
  split at h
  · cases h; exact ⟨_, rfl⟩
  · simp only [Option.map_eq_some_iff, Prod.mk.injEq] at h
    obtain ⟨_, _, _, rfl⟩ := h
    exact ⟨_, rfl⟩

theorem clientStep_cases (h : t.clientStep b view now pick ticket w c = some (w', c', turn)) :
    (∃ r, t.pushes? b = some r ∧ t.outcome? b = none ∧
      ((∃ failure t', view.push c ticket r = .settled c' failure ∧ turn = .onward t') ∨
        (view.push c ticket r = .queued c' ∧ turn = .onward t))) ∨
    (t.pushes? b = none ∧ c' = c ∧
      ((∃ outcome, t.outcome? b = some outcome ∧ turn = .ended outcome) ∨
        (t.outcome? b = none ∧
          ((∃ t', turn = .onward t') ∨ ∃ start t', turn = .forked start t')))) := by
  unfold clientStep at h
  unfold pushes? outcome?
  split at h
  · next o e => cases h; right; simp [e]
  · next f e => cases h; right; simp [e]
  · next n e => cases h; right; simp [e]
  · next a r e =>
    simp only [Option.map_eq_some_iff, Prod.mk.injEq] at h
    obtain ⟨⟨w₁, turn₁⟩, hs, rfl, rfl, rfl⟩ := h
    right
    simp [e, waitStep_onward hs]
  · next r n e =>
    left
    refine ⟨r, by rw [e], by rw [e], ?_⟩
    split at h
    · next c₁ f hp => cases h; exact .inl ⟨f, _, hp, rfl⟩
    · next c₁ hp => cases h; exact .inr ⟨hp, rfl⟩
    · cases h
  · next n e => cases h; right; simp [e]
  · next s n e => cases h; right; simp [e]
  · next cl a r e =>
    right
    split at h
    · split at h
      · cases h; simp [e]
      · cases h
    · simp only [Option.map_eq_some_iff, Prod.mk.injEq] at h
      obtain ⟨⟨w₁, turn₁⟩, hs, rfl, rfl, rfl⟩ := h
      simp [e, waitStep_onward hs]

/-- A task that can take no step now does not end with its next one. -/
theorem outcome?_of_clientStep_none (h : t.clientStep b view now pick ticket w c = none) :
    t.outcome? b = none := by
  by_contra ends
  obtain ⟨outcome, ho⟩ := Option.ne_none_iff_exists'.mp ends
  simp only [outcome?] at ho
  split at ho
  · next e => simp [clientStep, e] at h
  · cases ho

theorem clientStep_of_push {r : Req} (h : t.pushes? b = some r)
    (open' : view.push c ticket r ≠ .blocked) :
    (t.clientStep b view now pick ticket w c).isSome = true := by
  unfold pushes? at h
  unfold clientStep
  split at h
  · next r' n e =>
    cases h
    rw [e]
    cases hp : view.push c ticket r with
    | settled => simp [hp]
    | queued => simp [hp]
    | blocked => exact absurd hp open'
  · cases h

/-- The task waits, with its next step, for a timer or for the world. -/
def Waits (b : Behaviour W (Outlet W Req S) Res S) (t : Task S) : Prop :=
  match b.next t.state with
  | .wait .. | .client (.waitClosed ..) => True
  | _ => False

theorem clientStep_of_not_waits (waits : ¬t.Waits b) (pushes : t.pushes? b = none) :
    (t.clientStep b view now pick ticket w c).isSome = true := by
  unfold Waits at waits
  unfold pushes? at pushes
  unfold clientStep
  split <;> simp_all

end CommandBridge.Task
