import CommandBridge.Handler.Action
import CommandBridge.Registry.Basic
import Mathlib.Tactic.Common

/-!
# The course of a session

The order in which a session runs what its handler gives it: the connect hook, the callbacks
and the disconnect hook. `Course` is the grammar of the histories that a session may have, by
how far it has come; what holds of the order in every session is read off it.
-/

set_option autoImplicit false

namespace CommandBridge

inductive Hook where
  | connect | callback | disconnect
deriving DecidableEq

inductive HookEvent where
  | begun (hook : Hook)
  | ended (hook : Hook) (outcome : Outcome Unit)
  | dropped (hook : Hook)
  | rejected

namespace HookEvent

def follow (atWork : Option Hook) : HookEvent → Option Hook
  | begun hook => some hook
  | ended .. | dropped _ => none
  | rejected => atWork

def isBegun (hook : Hook) : HookEvent → Bool
  | begun h => decide (h = hook)
  | _ => false

end HookEvent

def atWork? (log : List HookEvent) : Option Hook := log.foldl HookEvent.follow none

theorem atWork?_concat (log : List HookEvent) (e : HookEvent) :
    atWork? (log ++ [e]) = HookEvent.follow (atWork? log) e := by
  simp [atWork?]

inductive Stage where
  | connecting
  | failing
  | listening
  | calling
  /-- The session is over but for its disconnect hook; `rejected` when the connect hook failed
  and its error was dealt with. -/
  | left (rejected : Bool)
  | parting (rejected : Bool)
  | past (rejected : Bool)
  | halted

namespace Stage

def running? : Stage → Option Hook
  | connecting => some .connect
  | calling => some .callback
  | parting _ => some .disconnect
  | _ => none

end Stage

variable {A : Application} {handler : SocketHandler A} {s : Stage} {log : List HookEvent}

inductive Course (handler : SocketHandler A) : Stage → List HookEvent → Prop where
  | bare (hook : handler.onConnect = none) : Course handler .listening []
  | connect (hook : handler.onConnect.isSome = true) :
      Course handler .connecting [.begun .connect]
  | connected {log : List HookEvent} (before : Course handler .connecting log) :
      Course handler .listening (log ++ [HookEvent.ended .connect (.done ())])
  | failed {log : List HookEvent} {outcome : Outcome Unit}
      (before : Course handler .connecting log) (failure : outcome ≠ .done ()) :
      Course handler .failing (log ++ [HookEvent.ended .connect outcome])
  | called {log : List HookEvent} (before : Course handler .listening log) :
      Course handler .calling (log ++ [HookEvent.begun .callback])
  | returned {log : List HookEvent} {outcome : Outcome Unit}
      (before : Course handler .calling log) :
      Course handler .listening (log ++ [HookEvent.ended .callback outcome])
  | interrupted {log : List HookEvent} (before : Course handler .calling log) :
      Course handler (.left false) (log ++ [HookEvent.dropped .callback])
  | abandoned {log : List HookEvent} (before : Course handler .connecting log) :
      Course handler (.left false) (log ++ [HookEvent.dropped .connect])
  | quit {log : List HookEvent} (before : Course handler .listening log) :
      Course handler (.left false) log
  /-- The session ends before the error of the connect hook is dealt with. -/
  | unreported {log : List HookEvent} (before : Course handler .failing log) :
      Course handler (.left false) log
  | rejected {log : List HookEvent} (before : Course handler .failing log) :
      Course handler (.left true) (log ++ [HookEvent.rejected])
  | parting {log : List HookEvent} {rejected : Bool} (hook : handler.onDisconnect.isSome = true)
      (before : Course handler (.left rejected) log) :
      Course handler (.parting rejected) (log ++ [HookEvent.begun .disconnect])
  | parted {log : List HookEvent} {rejected : Bool} {outcome : Outcome Unit}
      (before : Course handler (.parting rejected) log) :
      Course handler (.past rejected) (log ++ [HookEvent.ended .disconnect outcome])
  | gone {log : List HookEvent} {rejected : Bool} (hook : handler.onDisconnect = none)
      (before : Course handler (.left rejected) log) : Course handler (.past rejected) log
  | stopped {s : Stage} {log : List HookEvent} (idle : s.running? = none)
      (before : Course handler s log) : Course handler .halted log
  | halted {s : Stage} {log : List HookEvent} {hook : Hook} (busy : s.running? = some hook)
      (before : Course handler s log) : Course handler .halted (log ++ [HookEvent.dropped hook])

theorem Course.running (h : Course handler s log) : atWork? log = s.running? := by
  induction h with
  | bare | connect => rfl
  | connected | failed | called | returned | interrupted | abandoned | parting | parted | halted =>
    rw [atWork?_concat]
    rfl
  | rejected _ ih =>
    rw [atWork?_concat, ih]
    rfl
  | quit _ ih | unreported _ ih | gone _ _ ih => exact ih
  | stopped idle _ ih => exact ih.trans idle

def AtEach (e : HookEvent) (P : List HookEvent → List HookEvent → Prop) (log : List HookEvent) :
    Prop :=
  ∀ before after, log = before ++ e :: after → P before after

theorem atEach_nil {e : HookEvent} {P : List HookEvent → List HookEvent → Prop} :
    AtEach e P [] := by
  intro before after split
  simp at split

/-- An event more is one more place to look at, and comes after all others. -/
theorem AtEach.concat {e : HookEvent} {P : List HookEvent → List HookEvent → Prop}
    (h : AtEach e P log) {new : HookEvent} (here : new = e → P log [])
    (later : ∀ before after, P before after → P before (after ++ [new])) :
    AtEach e P (log ++ [new]) := by
  intro before after split
  rcases List.eq_nil_or_concat after with rfl | ⟨rest, last, rfl⟩
  · obtain ⟨rfl, same⟩ := List.append_inj' split rfl
    exact here (List.head_eq_of_cons_eq same)
  · rw [List.concat_eq_append, ← List.cons_append, ← List.append_assoc] at split
    obtain ⟨same, last'⟩ := List.append_inj' split rfl
    rw [List.concat_eq_append, ← List.head_eq_of_cons_eq last']
    exact later before rest (h before rest same)

theorem AtEach.skip {e : HookEvent} {P : List HookEvent → Prop}
    (h : AtEach e (fun before _ => P before) log) {new : HookEvent} (other : new ≠ e) :
    AtEach e (fun before _ => P before) (log ++ [new]) :=
  h.concat (fun same => absurd same other) fun _ _ before => before

theorem atEach_of_not_mem {e : HookEvent} {P : List HookEvent → List HookEvent → Prop}
    (absent : e ∉ log) : AtEach e P log := by
  rintro before after rfl
  simp at absent

theorem atEach_last {e : HookEvent} {P : List HookEvent → List HookEvent → Prop}
    (absent : e ∉ log) (here : P log []) : AtEach e P (log ++ [e]) := by
  intro before after split
  rcases List.eq_nil_or_concat after with rfl | ⟨rest, last, rfl⟩
  · rwa [← (List.append_inj' split rfl).1]
  · rw [List.concat_eq_append, ← List.cons_append, ← List.append_assoc] at split
    have same := (List.append_inj' split rfl).1
    simp [same] at absent

theorem Course.alone (h : Course handler s log) (hook : Hook) :
    AtEach (.begun hook) (fun before _ => atWork? before = none) log := by
  induction h with
  | bare => exact atEach_nil
  | connect => exact atEach_nil.concat (fun _ => rfl) fun _ _ before => before
  | called before ih | parting _ before ih =>
    exact ih.concat (fun _ => before.running) fun _ _ before => before
  | connected _ ih | failed _ _ ih | returned _ ih | interrupted _ ih | abandoned _ ih | rejected _ ih
  | parted _ ih | halted _ _ ih => exact ih.skip nofun
  | quit _ ih | unreported _ ih | gone _ _ ih | stopped _ _ ih => exact ih

theorem Course.connect_first (h : Course handler s log) :
    AtEach (.begun .connect) (fun before _ => before = []) log ∧
      log.countP (HookEvent.isBegun .connect) = if handler.onConnect.isSome then 1 else 0 := by
  induction h with
  | bare hook => exact ⟨atEach_nil, by simp [hook]⟩
  | connect hook =>
    refine ⟨atEach_nil.concat (fun _ => rfl) fun _ _ before => before, ?_⟩
    simp [HookEvent.isBegun, hook]
  | connected _ ih | failed _ _ ih | called _ ih | returned _ ih | interrupted _ ih | abandoned _ ih
  | rejected _ ih | parting _ _ ih | parted _ ih | halted _ _ ih =>
    exact ⟨ih.1.skip nofun, by simpa [HookEvent.isBegun] using ih.2⟩
  | quit _ ih | unreported _ ih | gone _ _ ih | stopped _ _ ih => exact ih

/-- A session that is open has run its connect hook well, if it has one. -/
theorem Course.connected_of_open (h : Course handler s log) (opened : s = .listening ∨ s = .calling)
    (hook : handler.onConnect.isSome = true) : .ended .connect (.done ()) ∈ log := by
  induction h with
  | bare none => rw [none] at hook; cases hook
  | connected _ _ => exact List.mem_append_right _ (List.mem_singleton_self _)
  | called _ ih | returned _ ih => exact List.mem_append_left _ (ih (by simp))
  | _ => simp at opened

/-- A callback begins after the connect hook has ended well. -/
theorem Course.callback_after_connect (h : Course handler s log) :
    AtEach (.begun .callback) (fun before _ => handler.onConnect.isSome = true →
      .ended .connect (.done ()) ∈ before) log := by
  induction h with
  | bare => exact atEach_nil
  | connect => exact atEach_nil.skip nofun
  | called before ih =>
    exact ih.concat (fun _ hook => before.connected_of_open (.inl rfl) hook) fun _ _ before => before
  | connected _ ih | failed _ _ ih | returned _ ih | interrupted _ ih | abandoned _ ih
  | rejected _ ih | parting _ _ ih | parted _ ih | halted _ _ ih => exact ih.skip nofun
  | quit _ ih | unreported _ ih | gone _ _ ih | stopped _ _ ih => exact ih

def Stage.Disconnected (handler : SocketHandler A) (n : Nat) : Stage → Prop
  | parting _ => n = 1
  | past _ => n = if handler.onDisconnect.isSome then 1 else 0
  | halted => n ≤ 1
  | _ => n = 0

theorem Stage.Disconnected.le_one {n : Nat} (h : s.Disconnected handler n) : n ≤ 1 := by
  cases s with
  | past => simp only [Disconnected] at h; split at h <;> omega
  | halted => exact h
  | _ => simp only [Disconnected] at h; omega

theorem Course.hook_of_parting {rejected : Bool} (h : Course handler (.parting rejected) log) :
    handler.onDisconnect.isSome = true := by
  cases h with
  | parting hook => exact hook

theorem Course.disconnected (h : Course handler s log) :
    s.Disconnected handler (log.countP (HookEvent.isBegun .disconnect)) := by
  have kept {log : List HookEvent} {e : HookEvent} (other : e.isBegun .disconnect = false) :
      (log ++ [e]).countP (HookEvent.isBegun .disconnect) =
        log.countP (HookEvent.isBegun .disconnect) := by
    simp [other]
  induction h with
  | bare | connect => rfl
  | connected _ ih | failed _ _ ih | called _ ih | returned _ ih | interrupted _ ih | abandoned _ ih
  | rejected _ ih => rw [kept rfl]; exact ih
  | quit _ ih | unreported _ ih => exact ih
  | @parting log rejected hook before ih =>
    have none : log.countP (HookEvent.isBegun .disconnect) = 0 := ih
    simp [Stage.Disconnected, none, HookEvent.isBegun]
  | @parted log rejected outcome before ih =>
    have once : log.countP (HookEvent.isBegun .disconnect) = 1 := ih
    rw [kept rfl, once]
    simp [Stage.Disconnected, before.hook_of_parting]
  | @gone log rejected hook _ ih =>
    have none : log.countP (HookEvent.isBegun .disconnect) = 0 := ih
    simp [Stage.Disconnected, none, hook]
  | stopped idle _ ih => exact ih.le_one
  | halted busy _ ih =>
    rw [kept rfl]
    exact ih.le_one

theorem not_mem_of_countP {hook : Hook} (none : log.countP (HookEvent.isBegun hook) = 0) :
    .begun hook ∉ log := by
  intro there
  have := List.countP_eq_zero.mp none _ there
  simp [HookEvent.isBegun] at this

theorem Course.disconnect_last (h : Course handler s log) :
    AtEach (.begun .disconnect) (fun _ after => ∀ hook, .begun hook ∉ after) log := by
  have later {log : List HookEvent} {e : HookEvent}
      (ih : AtEach (.begun .disconnect) (fun _ after => ∀ hook, .begun hook ∉ after) log)
      (quiet : ∀ hook, e ≠ .begun hook) :
      AtEach (.begun .disconnect) (fun _ after => ∀ hook, .begun hook ∉ after) (log ++ [e]) := by
    refine ih.concat (fun _ _ => List.not_mem_nil) fun _ after kept hook there => ?_
    rcases List.mem_append.mp there with old | new
    · exact kept hook old
    · exact quiet hook (List.mem_singleton.mp new).symm
  induction h with
  | bare => exact atEach_nil
  | connect => exact atEach_of_not_mem (by simp)
  | called before =>
    have none := not_mem_of_countP before.disconnected
    exact atEach_of_not_mem (by simp [none])
  | parting _ before =>
    exact atEach_last (not_mem_of_countP before.disconnected) fun _ => List.not_mem_nil
  | connected _ ih | failed _ _ ih | returned _ ih | interrupted _ ih | abandoned _ ih | rejected _ ih
  | parted _ ih | halted _ _ ih => exact later ih nofun
  | quit _ ih | unreported _ ih | gone _ _ ih | stopped _ _ ih => exact ih

/-- The hooks and callbacks of a session run one at a time: the connect hook first and once,
callbacks only when it ended well, and the disconnect hook last. -/
structure HooksInOrder (handler : SocketHandler A) (log : List HookEvent) : Prop where
  once : log.countP (HookEvent.isBegun .connect) = if handler.onConnect.isSome then 1 else 0
  first : AtEach (.begun .connect) (fun before _ => before = []) log
  alone : ∀ hook, AtEach (.begun hook) (fun before _ => atWork? before = none) log
  connected : AtEach (.begun .callback) (fun before _ => handler.onConnect.isSome = true →
    .ended .connect (.done ()) ∈ before) log
  last : AtEach (.begun .disconnect) (fun _ after => ∀ hook, .begun hook ∉ after) log

theorem Course.hooksInOrder (h : Course handler s log) : HooksInOrder handler log where
  once := h.connect_first.2
  first := h.connect_first.1
  alone := h.alone
  connected := h.callback_after_connect
  last := h.disconnect_last

def ConnectFailed (log : List HookEvent) : Prop :=
  ∃ outcome, .ended .connect outcome ∈ log ∧ outcome ≠ .done ()

def Rejected (log : List HookEvent) : Prop := ConnectFailed log ∧ .rejected ∈ log

theorem Course.failure_of_failing (h : Course handler .failing log) : ConnectFailed log := by
  cases h with
  | @failed log outcome before failure =>
    exact ⟨outcome, List.mem_append_right _ (List.mem_singleton_self _), failure⟩

def Stage.Rejects (log : List HookEvent) : Stage → Prop
  | left rejected | parting rejected | past rejected => rejected = true ↔ Rejected log
  | halted => True
  | _ => .rejected ∉ log

theorem not_rejected_concat {e : HookEvent} (none : .rejected ∉ log) (other : e ≠ .rejected) :
    .rejected ∉ log ++ [e] := by
  intro there
  rcases List.mem_append.mp there with old | new
  · exact none old
  · exact other (List.mem_singleton.mp new).symm

theorem rejected_concat {e : HookEvent} (other : e ≠ .rejected)
    (hook : ∀ outcome, e ≠ .ended .connect outcome) : Rejected (log ++ [e]) ↔ Rejected log := by
  have same {x : HookEvent} (ne : e ≠ x) : x ∈ log ++ [e] ↔ x ∈ log := by
    simp [ne.symm]
  unfold Rejected ConnectFailed
  rw [same other]
  simp only [same (hook _)]

theorem Course.rejects (h : Course handler s log) : s.Rejects log := by
  have early {log : List HookEvent} (none : .rejected ∉ log) : (false = true ↔ Rejected log) :=
    iff_of_false Bool.false_ne_true fun rejected => none rejected.2
  induction h with
  | bare => exact List.not_mem_nil
  | connect => simp [Stage.Rejects]
  | connected _ ih | failed _ _ ih | called _ ih | returned _ ih => exact not_rejected_concat ih nofun
  | interrupted _ ih | abandoned _ ih => exact early (not_rejected_concat ih nofun)
  | quit _ ih | unreported _ ih => exact early ih
  | rejected before =>
    obtain ⟨outcome, ended, failure⟩ := before.failure_of_failing
    exact iff_of_true rfl ⟨⟨outcome, List.mem_append_left _ ended, failure⟩,
      List.mem_append_right _ (List.mem_singleton_self _)⟩
  | parting _ _ ih | parted _ ih =>
    rw [Stage.Rejects, rejected_concat (by simp) (by simp)]
    exact ih
  | gone _ _ ih => exact ih
  | stopped | halted => trivial

end CommandBridge
