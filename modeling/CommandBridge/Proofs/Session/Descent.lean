import CommandBridge.Proofs.Session.Line
import Mathlib.Logic.Relation
import Mathlib.Tactic.Common

/-!
# Where the state of a task comes from

A task goes from one state of its behaviour to the next, as the answer to what it asked for has it.
So whatever a task is at, and whatever it starts, descends from the state in which it was started.
-/

set_option autoImplicit false

namespace CommandBridge

variable {W C Req Out Res S : Type}

def WaitLeads (alarm : Option (Alarm S)) (ready : W → Option (W × S)) (s : S) : Prop :=
  (∃ a, alarm = some a ∧ s = a.next) ∨ ∃ w w', ready w = some (w', s)

def Outlet.Leads : Outlet W Req S → S → Prop
  | .push _ next, s => ∃ failure, s = next failure
  | .probe next, s => ∃ closed, s = next closed
  | .fork task next, s => s = task ∨ s = next
  | .waitClosed closed alarm ready, s => s = closed ∨ WaitLeads alarm ready s

def Action.Leads (outlet : Out → S → Prop) : Action W Out Res S → S → Prop
  | .finish _, _ => False
  | .update f, s => ∃ w, s = (f w).2
  | .clock next, s => ∃ now, s = next now
  | .wait alarm ready, s => WaitLeads alarm ready s
  | .client request, s => outlet request s

def Behaviour.Descends (b : Behaviour W Out Res S) (outlet : Out → S → Prop) : S → S → Prop :=
  Relation.ReflTransGen fun s s' => (b.next s).Leads outlet s'

def Turn.states : Turn S Res → List S
  | .onward t => [t.state]
  | .forked start t => [start, t.state]
  | .ended _ => []

namespace Task

variable {w w' : W} {now : Nat} {pick : Alternative} {t : Task S} {turn : Turn S Res}

theorem waitStep_states {alarm : Option (Alarm S)} {ready : W → Option (W × S)}
    (h : waitStep now pick alarm ready w t = some (w', turn)) :
    ∀ s ∈ turn.states, s = t.state ∨ WaitLeads alarm ready s := by
  unfold waitStep at h
  split at h
  · cases h
    exact List.forall_mem_singleton.mpr (.inl rfl)
  · obtain ⟨⟨w₁, s⟩, waited, e⟩ := Option.map_eq_some_iff.mp h
    cases e
    refine List.forall_mem_singleton.mpr (.inr ?_)
    unfold awaited at waited
    split at waited
    · exact .inr ⟨w, w₁, waited⟩
    · split at waited
      · next a =>
        split at waited
        · cases waited
          exact .inl ⟨a, rfl, rfl⟩
        · cases waited
      · cases waited
    · cases waited

theorem waitStep_ne_ended {alarm : Option (Alarm S)} {ready : W → Option (W × S)}
    {outcome : Outcome Res} : waitStep now pick alarm ready w t ≠ some (w', .ended outcome) := by
  intro h
  unfold waitStep at h
  split at h
  · cases h
  · obtain ⟨r, -, e⟩ := Option.map_eq_some_iff.mp h
    cases e

/-- A task without a client ends where its behaviour finishes. -/
theorem step_ended {b : Behaviour W Empty Res S} {outcome : Outcome Res}
    (h : t.step b now pick w = some (w', .ended outcome)) : b.next t.state = .finish outcome := by
  unfold step at h
  split at h
  · next asked =>
    cases h
    exact asked
  · cases h
  · cases h
  · exact absurd h waitStep_ne_ended

/-- The states after a step of a task without a client descend from the state before. -/
theorem step_descends {b : Behaviour W Empty Res S} {outlet : Empty → S → Prop}
    (h : t.step b now pick w = some (w', turn)) :
    ∀ s ∈ turn.states, b.Descends outlet t.state s := by
  have one {s : S} (leads : (b.next t.state).Leads outlet s) : b.Descends outlet t.state s :=
    .single leads
  unfold step at h
  split at h
  · cases h
    exact nofun
  · next f asked =>
    cases h
    exact List.forall_mem_singleton.mpr (one (asked ▸ ⟨w, rfl⟩))
  · next next asked =>
    cases h
    exact List.forall_mem_singleton.mpr (one (asked ▸ ⟨now, rfl⟩))
  · next alarm ready asked =>
    intro s there
    rcases waitStep_states h s there with rfl | leads
    · exact .refl
    · exact one (asked ▸ leads)

theorem clientStep_ended {b : Behaviour W (Outlet W Req S) Res S} {view : ClientView C Req}
    {ticket : Nat} {c c' : C} {outcome : Outcome Res}
    (h : t.clientStep b view now pick ticket w c = some (w', c', .ended outcome)) :
    b.next t.state = .finish outcome := by
  have waits {alarm : Option (Alarm S)} {ready : W → Option (W × S)} :
      (waitStep now pick alarm ready w t).map (fun r => (r.1, c, r.2)) ≠
        some (w', c', Turn.ended outcome) := by
    intro h
    obtain ⟨⟨w₁, turn⟩, waited, e⟩ := Option.map_eq_some_iff.mp h
    cases e
    exact waitStep_ne_ended waited
  unfold clientStep at h
  split at h
  · next asked =>
    cases h
    exact asked
  · cases h
  · cases h
  · exact absurd h waits
  · split at h <;> cases h
  · cases h
  · cases h
  · split at h
    · split at h <;> cases h
    · exact absurd h waits

/-- The states after a step of a task descend from the state before. -/
theorem clientStep_descends {b : Behaviour W (Outlet W Req S) Res S} {view : ClientView C Req}
    {ticket : Nat} {c c' : C} (h : t.clientStep b view now pick ticket w c = some (w', c', turn)) :
    ∀ s ∈ turn.states, b.Descends Outlet.Leads t.state s := by
  have one {s : S} (leads : (b.next t.state).Leads Outlet.Leads s) :
      b.Descends Outlet.Leads t.state s := .single leads
  have waited {alarm : Option (Alarm S)} {ready : W → Option (W × S)}
      (leads : ∀ s, WaitLeads alarm ready s → (b.next t.state).Leads Outlet.Leads s)
      (h : (waitStep now pick alarm ready w t).map (fun r => (r.1, c, r.2)) = some (w', c', turn)) :
      ∀ s ∈ turn.states, b.Descends Outlet.Leads t.state s := by
    obtain ⟨⟨w₁, turn₁⟩, waited, e⟩ := Option.map_eq_some_iff.mp h
    cases e
    intro s there
    rcases waitStep_states waited s there with rfl | next
    · exact .refl
    · exact one (leads s next)
  unfold clientStep at h
  split at h
  · cases h
    exact nofun
  · next f asked =>
    cases h
    exact List.forall_mem_singleton.mpr (one (asked ▸ ⟨w, rfl⟩))
  · next next asked =>
    cases h
    exact List.forall_mem_singleton.mpr (one (asked ▸ ⟨now, rfl⟩))
  · next alarm ready asked =>
    exact waited (fun s leads => asked ▸ leads) h
  · next request next asked =>
    split at h
    · next failure settled =>
      cases h
      exact List.forall_mem_singleton.mpr (one (asked ▸ ⟨failure, rfl⟩))
    · cases h
      exact List.forall_mem_singleton.mpr .refl
    · cases h
  · next next asked =>
    cases h
    exact List.forall_mem_singleton.mpr (one (asked ▸ ⟨_, rfl⟩))
  · next start next asked =>
    cases h
    simp only [Turn.states, List.forall_mem_cons]
    exact ⟨one (asked ▸ .inl rfl), one (asked ▸ .inr rfl), nofun⟩
  · next closed alarm ready asked =>
    split at h
    · split at h
      · cases h
        exact List.forall_mem_singleton.mpr (one (asked ▸ .inl rfl))
      · cases h
    · exact waited (fun s leads => asked ▸ .inr leads) h

end Task

section Tasks

variable {b : Behaviour W (Outlet W Req S) Res S} {Origin : S → Prop}

def Behaviour.From (b : Behaviour W (Outlet W Req S) Res S) (Origin : S → Prop) (s : S) : Prop :=
  ∃ s₀, Origin s₀ ∧ b.Descends Outlet.Leads s₀ s

theorem Behaviour.from_origin {s : S} (h : Origin s) : b.From Origin s := ⟨s, h, .refl⟩

def ForksFrom (b : Behaviour W (Outlet W Req S) Res S) (Origin : S → Prop)
    (forks : List (Option (Task S))) : Prop :=
  ∀ t, some t ∈ forks → b.From Origin t.state

variable {view : ClientView C Req} {now ticket : Nat} {pick : Alternative} {w w' : W} {c c' : C}
  {t : Task S} {turn : Turn S Res} {forks : List (Option (Task S))}

theorem Task.clientStep_from (h : t.clientStep b view now pick ticket w c = some (w', c', turn))
    (before : b.From Origin t.state) : ∀ s ∈ turn.states, b.From Origin s := by
  obtain ⟨s₀, origin, descends⟩ := before
  exact fun s there => ⟨s₀, origin, descends.trans (Task.clientStep_descends h s there)⟩

theorem ForksFrom.append (h : ForksFrom b Origin forks) {start : S} (new : b.From Origin start) :
    ForksFrom b Origin (forks ++ [some (Task.at start)]) := by
  intro t there
  rcases List.mem_append.mp there with old | last
  · exact h t old
  · cases List.mem_singleton.mp last
    exact new

theorem ForksFrom.set (h : ForksFrom b Origin forks) (index : Nat) {slot : Option (Task S)}
    (new : ∀ t, slot = some t → b.From Origin t.state) : ForksFrom b Origin (forks.set index slot) := by
  intro t there
  rcases List.mem_or_eq_of_mem_set there with old | same
  · exact h t old
  · exact new t same.symm

theorem ForksFrom.after (h : ForksFrom b Origin forks) (index : Nat)
    (states : ∀ s ∈ turn.states, b.From Origin s) :
    ForksFrom b Origin (Task.forksAfter forks index turn) := by
  cases turn with
  | onward t =>
    exact h.set index fun t' same => by cases same; exact states _ List.mem_cons_self
  | forked start t =>
    refine (h.set index fun t' same => ?_).append (states start List.mem_cons_self)
    cases same
    exact states _ (List.mem_cons_of_mem _ List.mem_cons_self)
  | ended outcome => exact h.set index nofun

end Tasks
end CommandBridge
