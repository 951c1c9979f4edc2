import CommandBridge.Proofs.Socket.Course
import CommandBridge.Proofs.Socket.Line
import CommandBridge.Proofs.Socket.Order

/-!
# What a connection runs

The history of what a connection runs for its handler, noted act by act, follows the course of
a session, and the state in which the session is left follows from it.
-/

set_option autoImplicit false

namespace CommandBridge.Connection

variable {A : Application} {c d : Connection A} {log : List HookEvent}

def body? (c : Connection A) : Option (Hook × Task A.Socket) :=
  match c.reader with
  | .connecting (.running t) => some (.connect, t)
  | .handling (.running t) => some (.callback, t)
  | .disconnecting _ (.running t) => some (.disconnect, t)
  | _ => none

def running? (c : Connection A) : Option Hook := c.body?.map Prod.fst

def endings (c : Connection A) : ConnectionAct → List HookEvent
  | .move _ (.work _) =>
    match c.reader with
    | .connecting (.reporting e) => if settles c.outbox e then [.rejected] else []
    | _ =>
      match c.body? with
      | some (hook, t) => ((t.outcome? A.socket).map (HookEvent.ended hook)).toList
      | none => []
  | _ => []

def drops (before after : Option Hook) : List HookEvent :=
  match before with
  | some hook => if after = some hook then [] else [.dropped hook]
  | none => []

def begins (before after : Option Hook) : List HookEvent :=
  match after with
  | some hook => if before = some hook then [] else [.begun hook]
  | none => []

def hookEvents (c : Connection A) (x : ConnectionAct) (d : Connection A) : List HookEvent :=
  (if (c.endings x).isEmpty then drops c.running? d.running? else c.endings x) ++
    begins c.running? d.running?

def opening (c : Connection A) : List HookEvent := begins none c.running?

def leavingPhase (rejected : Bool) : Lifecycle := if rejected then .initializing else .closing

def finalPhase (rejected : Bool) : Lifecycle := if rejected then .failed else .closed

inductive At (c : Connection A) : Stage → Prop where
  | connecting {t : Task A.Socket} (reader : c.reader = .connecting (.running t))
      (phase : c.phase = .initializing) : At c .connecting
  | failing {e : BridgeError} (reader : c.reader = .connecting (.reporting e))
      (phase : c.phase = .initializing) : At c .failing
  | listening (reader : c.reader = .listening) (phase : c.phase = .open) : At c .listening
  | answering {e : BridgeError} (reader : c.reader = .handling (.reporting e))
      (phase : c.phase = .open) : At c .listening
  | calling {t : Task A.Socket} (reader : c.reader = .handling (.running t))
      (phase : c.phase = .open) : At c .calling
  | parting {rejected : Bool} {t : Task A.Socket}
      (reader : c.reader = .disconnecting rejected (.running t))
      (phase : c.phase = leavingPhase rejected) : At c (.parting rejected)
  | parted {rejected : Bool} {e : BridgeError}
      (reader : c.reader = .disconnecting rejected (.reporting e))
      (phase : c.phase = leavingPhase rejected) : At c (.past rejected)
  | past {rejected : Bool} (reader : c.reader = .ended) (phase : c.phase = finalPhase rejected)
      (closed : c.outbox.cancelled = true) : At c (.past rejected)
  | halted (reader : c.reader = .ended) (writer : c.writer = .ended)
      (gone : c.outbox.receiving = false) : At c .halted

def InCourse (c : Connection A) (log : List HookEvent) : Prop :=
  ∃ s, At c s ∧ Course c.handler s log

theorem at_running {s : Stage} (h : At c s) : c.running? = s.running? := by
  cases h <;> simp_all [running?, body?, Stage.running?]

theorem inCourse_create (handler : SocketHandler A) (definitions : Definitions) (capacity : Nat)
    (inbound : Inbound) (sink : Sink) :
    InCourse (create handler definitions capacity inbound sink)
      (create handler definitions capacity inbound sink).opening := by
  unfold create
  cases hook : handler.onConnect with
  | some start => exact ⟨.connecting, .connecting rfl rfl, .connect (by simp [hook])⟩
  | none => exact ⟨.listening, .listening rfl rfl, .bare hook⟩

/-- An act that ends nothing and leaves the same at work is no event. -/
theorem hookEvents_quiet {x : ConnectionAct} (quiet : c.endings x = [])
    (same : d.running? = c.running?) : c.hookEvents x d = [] := by
  simp only [hookEvents, quiet, List.isEmpty_nil, if_true, same]
  cases e : c.running? <;> simp [drops, begins]

def phaseOnLeave (s : Lifecycle) (rejected : Bool) : Lifecycle :=
  if rejected then s else s.advance .closing

theorem leave_to_hook {start : A.Socket} (hook : c.handler.onDisconnect = some start)
    (rejected : Bool) :
    (c.leave rejected).reader = .disconnecting rejected (.running (Task.at start)) ∧
      (c.leave rejected).phase = phaseOnLeave c.phase rejected := by
  cases rejected <;> simp [leave, advance, hook, phaseOnLeave]

theorem leave_to_end (hook : c.handler.onDisconnect = none) (rejected : Bool) :
    (c.leave rejected).reader = .ended ∧ (c.leave rejected).outbox.cancelled = true ∧
      (c.leave rejected).phase =
        (phaseOnLeave c.phase rejected).advance (if rejected then .failed else .closed) := by
  cases rejected <;> simp [leave, advance, hook, finish, phaseOnLeave, Outbox.cancel]

theorem leave_running (c : Connection A) (rejected : Bool) : (c.leave rejected).running? =
    if c.handler.onDisconnect.isSome then some .disconnect else none := by
  cases hook : c.handler.onDisconnect with
  | some start => simp [running?, body?, leave_to_hook hook]
  | none => simp [running?, body?, leave_to_end hook]

/-- A session that is left goes on to its disconnect hook, or is over. -/
theorem inCourse_leave {rejected : Bool} (left : Course c.handler (.left rejected) log)
    (phase : c.phase = .initializing ∨ (c.phase = .open ∧ rejected = false)) :
    InCourse (c.leave rejected) (log ++ begins none (c.leave rejected).running?) := by
  have handler : (c.leave rejected).handler = c.handler := (leave_kin c rejected).handler
  have leaving : phaseOnLeave c.phase rejected = leavingPhase rejected := by
    rcases phase with e | ⟨e, rfl⟩
    · cases rejected <;> rw [e] <;> rfl
    · rw [e]; rfl
  rw [leave_running, InCourse, handler]
  cases hook : c.handler.onDisconnect with
  | some start =>
    obtain ⟨reader, phase⟩ := leave_to_hook hook rejected
    exact ⟨.parting rejected, .parting reader (phase.trans leaving), .parting (by simp [hook]) left⟩
  | none =>
    obtain ⟨reader, closed, phase⟩ := leave_to_end hook rejected
    have final : (c.leave rejected).phase = finalPhase rejected := by
      rw [phase, leaving]
      cases rejected <;> rfl
    exact ⟨.past rejected, .past reader final closed, by simpa [begins] using Course.gone hook left⟩

/-- What is at work is dropped when the session is left meanwhile. -/
theorem drops_leave (c d : Connection A) (rejected : Bool) (present : c.running? ≠ some .disconnect) :
    drops c.running? (d.leave rejected).running? = (c.running?.map HookEvent.dropped).toList ∧
      begins c.running? (d.leave rejected).running? = begins none (d.leave rejected).running? := by
  rw [leave_running]
  cases before : c.running? with
  | none => simp [drops]
  | some hook =>
    rw [before] at present
    have other : hook ≠ .disconnect := by simpa using present
    cases d.handler.onDisconnect <;> simp [drops, begins, other, other.symm]

theorem inCourse_interrupt {x : ConnectionAct} (h : InCourse c log) (present : ¬c.IsPast)
    (quiet : c.endings x = []) (kin : Kin c d) (phase : d.phase = c.phase) :
    InCourse (d.leave false) (log ++ c.hookEvents x (d.leave false)) := by
  obtain ⟨s, place, course⟩ := h
  have running := at_running place
  have absent : c.running? ≠ some .disconnect := by
    rw [running]
    cases place <;> simp_all [IsPast, Stage.running?]
  obtain ⟨dropped, begun⟩ := drops_leave c d false absent
  have left : Course d.handler (.left false) (log ++ (c.running?.map HookEvent.dropped).toList) := by
    rw [kin.handler, running]
    cases place with
    | connecting => exact .abandoned course
    | failing => simpa [Stage.running?] using Course.unreported course
    | listening | answering => simpa [Stage.running?] using Course.quit course
    | calling => exact .interrupted course
    | parting reader | parted reader | past reader | halted reader =>
      simp [IsPast, reader] at present
  have early : d.phase = .initializing ∨ (d.phase = .open ∧ false = false) := by
    rw [phase]
    cases place with
    | connecting _ e | failing _ e => exact .inl e
    | listening _ e | answering _ e | calling _ e => exact .inr ⟨e, rfl⟩
    | parting reader | parted reader | past reader | halted reader =>
      simp [IsPast, reader] at present
  have done := inCourse_leave left early
  rwa [hookEvents, quiet, if_pos List.isEmpty_nil, dropped, begun, ← List.append_assoc]

/-- What leaves the reader and the state alone keeps the session where it is. -/
theorem InCourse.frame {x : ConnectionAct} (h : InCourse c log) (quiet : c.endings x = [])
    (handler : d.handler = c.handler) (reader : d.reader = c.reader) (phase : d.phase = c.phase)
    (cancelled : c.outbox.cancelled = true → d.outbox.cancelled = true)
    (receiving : d.outbox.receiving = c.outbox.receiving)
    (writer : c.writer = .ended → d.writer = .ended) :
    InCourse d (log ++ c.hookEvents x d) := by
  obtain ⟨s, place, course⟩ := h
  have same : d.running? = c.running? := by simp only [running?, body?, reader]
  rw [hookEvents_quiet quiet same, List.append_nil, InCourse, handler]
  refine ⟨s, ?_, course⟩
  cases place with
  | connecting r p => exact .connecting (reader.trans r) (phase.trans p)
  | failing r p => exact .failing (reader.trans r) (phase.trans p)
  | listening r p => exact .listening (reader.trans r) (phase.trans p)
  | answering r p => exact .answering (reader.trans r) (phase.trans p)
  | calling r p => exact .calling (reader.trans r) (phase.trans p)
  | parting r p => exact .parting (reader.trans r) (phase.trans p)
  | parted r p => exact .parted (reader.trans r) (phase.trans p)
  | past r p closed => exact .past (reader.trans r) (phase.trans p) (cancelled closed)
  | halted r w gone => exact .halted (reader.trans r) (writer w) (receiving.trans gone)

theorem inCourse_self {x : ConnectionAct} (h : InCourse c log) (quiet : c.endings x = []) :
    InCourse c (log ++ c.hookEvents x c) :=
  h.frame quiet rfl rfl rfl id rfl id

theorem inCourse_drop (h : InCourse c log) (w : A.World) :
    InCourse (c.act w .drop) (log ++ c.hookEvents .drop (c.act w .drop)) := by
  obtain ⟨s, place, course⟩ := h
  refine ⟨.halted, .halted rfl rfl rfl, ?_⟩
  have idle : (c.act w .drop).running? = none := rfl
  have running := at_running place
  rw [hookEvents, show c.endings .drop = [] from rfl, if_pos List.isEmpty_nil, idle]
  cases busy : s.running? with
  | none =>
    rw [running, busy]
    exact (List.append_nil log).symm ▸ .stopped busy course
  | some hook =>
    rw [running, busy]
    exact .halted busy course

theorem inCourse_release (h : InCourse c log) (w : A.World) (now : Nat) :
    InCourse (c.act w (.move now .release))
      (log ++ c.hookEvents (.move now .release) (c.act w (.move now .release))) := by
  simp only [act, move, releaseStep]
  cases atWork : c.guardedWork? with
  | none => exact inCourse_self h rfl
  | some work =>
    by_cases cancelled : c.outbox.cancelled = true
    · simp only [cancelled, if_true]
      exact inCourse_interrupt (d := { c with outbox := c.outbox.leave readerTicket }) h
        (isPast_of_work atWork) rfl ⟨rfl, rfl⟩ rfl
    · simp only [cancelled, Bool.false_eq_true, if_false]
      exact inCourse_self h rfl

theorem inCourse_arrive (h : InCourse c log) (w : A.World) (now : Nat) :
    InCourse (c.act w (.move now .arrive))
      (log ++ c.hookEvents (.move now .arrive) (c.act w (.move now .arrive))) := by
  simp only [act, move, arriveStep]
  cases atWork : c.guardedWork? with
  | none => exact inCourse_self h rfl
  | some work =>
    by_cases full : c.outbox.capacity ≤ c.backlog.length
    · simp only [if_pos full]
      exact inCourse_self h rfl
    · simp only [if_neg full]
      cases c.inbound.next now with
      | frame text rest | later rest => exact h.frame rfl rfl rfl rfl id rfl id
      | gone =>
        exact inCourse_interrupt (d := { c with outbox := c.outbox.leave readerTicket }) h
          (isPast_of_work atWork) rfl ⟨rfl, rfl⟩ rfl
      | blocked => exact inCourse_self h rfl

theorem InCourse.of_listening (h : InCourse c log) (reader : c.reader = .listening) :
    c.phase = .open ∧ Course c.handler .listening log := by
  obtain ⟨s, place, course⟩ := h
  cases place with
  | listening _ phase => exact ⟨phase, course⟩
  | connecting r | failing r | answering r | calling r | parting r | parted r | past r | halted r =>
    rw [reader] at r
    cases r

theorem inCourse_takeUp {x : ConnectionAct} (h : InCourse c log) (reader : c.reader = .listening)
    (quiet : c.endings x = []) (kin : Kin c d) (phase : d.phase = c.phase) (text : String) :
    InCourse (d.takeUp text) (log ++ c.hookEvents x (d.takeUp text)) := by
  obtain ⟨opened, course⟩ := h.of_listening reader
  have idle : c.running? = none := by simp [running?, body?, reader]
  have opened := phase.trans opened
  rw [← kin.handler] at course
  unfold takeUp
  split
  · exact inCourse_interrupt h (by simp [IsPast, reader]) quiet kin phase
  · unfold begin
    split
    · rw [hookEvents_quiet quiet (by simp [running?, body?, reader]), List.append_nil]
      exact ⟨.listening, .listening rfl opened, course⟩
    · rw [hookEvents_quiet quiet (by simp [running?, body?, reader]), List.append_nil]
      exact ⟨.listening, .answering rfl opened, course⟩
    · rw [hookEvents, quiet, if_pos List.isEmpty_nil, idle]
      exact ⟨.calling, .calling rfl opened, .called course⟩

theorem inCourse_listen (h : InCourse c log) (w : A.World) (now : Nat) :
    InCourse (c.act w (.move now .listen))
      (log ++ c.hookEvents (.move now .listen) (c.act w (.move now .listen))) := by
  cases reader : c.reader with
  | listening =>
    simp only [act, move, listenStep, reader]
    cases backlog : c.backlog with
    | cons text rest =>
      exact inCourse_takeUp (d := { c with backlog := rest, reader := .listening }) h reader rfl
        ⟨rfl, rfl⟩ rfl text
    | nil =>
      by_cases cancelled : c.outbox.cancelled = true
      · simp only [cancelled, if_true]
        exact inCourse_interrupt h (by simp [IsPast, reader]) rfl ⟨rfl, rfl⟩ rfl
      · simp only [cancelled, Bool.false_eq_true, if_false]
        cases c.inbound.next now with
        | frame text rest =>
          exact inCourse_takeUp (d := { c with inbound := rest, backlog := [], reader := .listening }) h
            reader rfl ⟨rfl, rfl⟩ rfl text
        | later rest => exact h.frame rfl rfl reader.symm rfl id rfl id
        | gone => exact inCourse_interrupt h (by simp [IsPast, reader]) rfl ⟨rfl, rfl⟩ rfl
        | blocked => exact inCourse_self h rfl
  | connecting work | handling work | disconnecting rejected work | ended =>
    simp only [act, move, listenStep, reader]
    exact inCourse_self h rfl

theorem failure_of_failureOf? {outcome : Outcome Unit} {e : BridgeError}
    (failure : failureOf? outcome = some e) : outcome ≠ .done () := by
  rintro rfl
  cases failure

/-- Work that neither ends nor gets anywhere else is no event. -/
theorem hookEvents_going {now : Nat} {pick : Alternative}
    (body : ∀ hook t, c.body? = some (hook, t) → t.outcome? A.socket = none)
    (waits : ∀ e, c.reader = .connecting (.reporting e) → settles c.outbox e = false)
    (same : d.running? = c.running?) : c.hookEvents (.move now (.work pick)) d = [] := by
  refine hookEvents_quiet ?_ same
  simp only [endings]
  split
  · next e reader => simp [waits e reader]
  · split
    · next hook t e => simp [body hook t e]
    · rfl

theorem hookEvents_ended {now : Nat} {pick : Alternative} {hook : Hook} {t : Task A.Socket}
    {outcome : Outcome Unit} (body : c.body? = some (hook, t))
    (ends : t.outcome? A.socket = some outcome) (idle : d.running? = none) :
    c.hookEvents (.move now (.work pick)) d = [.ended hook outcome] := by
  have noted : c.endings (.move now (.work pick)) = [.ended hook outcome] := by
    simp only [endings]
    split
    · next e reader => simp [body?, reader] at body
    · simp [body, ends]
  simp [hookEvents, noted, idle, begins]

theorem inCourse_going {now : Nat} {pick : Alternative} {hook : Hook} {t t' : Task A.Socket}
    {s : Stage} (course : Course c.handler s log) (body : c.body? = some (hook, t))
    (goesOn : t.outcome? A.socket = none) (handler : d.handler = c.handler) (place : At d s)
    (after : d.body? = some (hook, t')) :
    InCourse d (log ++ c.hookEvents (.move now (.work pick)) d) := by
  have quiet : c.hookEvents (.move now (.work pick)) d = [] := by
    refine hookEvents_going (fun hook' t'' same => ?_) (fun e reader => ?_) ?_
    · rw [body] at same
      cases same
      exact goesOn
    · simp [body?, reader] at body
    · simp [running?, body, after]
  rw [quiet, List.append_nil]
  exact ⟨s, place, handler ▸ course⟩

theorem inCourse_connecting_running (h : InCourse c log) {t : Task A.Socket}
    (reader : c.reader = .connecting (.running t)) (w : A.World) (now : Nat) (pick : Alternative) :
    InCourse (c.act w (.move now (.work pick)))
      (log ++ c.hookEvents (.move now (.work pick)) (c.act w (.move now (.work pick)))) := by
  have body : c.body? = some (.connect, t) := by simp [body?, reader]
  obtain ⟨phase, course⟩ : c.phase = .initializing ∧ Course c.handler .connecting log := by
    obtain ⟨s, place, course⟩ := h
    cases place with
    | connecting _ phase => exact ⟨phase, course⟩
    | failing r | listening r | answering r | calling r | parting r | parted r | past r | halted r =>
      rw [reader] at r
      cases r
  cases stepped : c.workStep now pick w (.running t) with
  | none =>
    simp only [act, move, readerStep, reader, stepped, Option.map_none, Option.getD_none]
    exact inCourse_going course body ((not_worked stepped).1 t rfl) rfl (.connecting reader phase) body
  | some r =>
    obtain ⟨w', s⟩ := r
    have did := worked stepped
    simp only [act, move, readerStep, reader, stepped, Option.map_some, Option.getD_some]
    cases did with
    | onward goesOn | forked goesOn =>
      exact inCourse_going course body goesOn rfl (.connecting rfl phase) rfl
    | done ends well =>
      rw [hookEvents_ended body ends rfl, done_of_failureOf? well]
      refine ⟨.listening, .listening rfl ?_, .connected course⟩
      simp [opened, advance, phase, Lifecycle.advance, Lifecycle.canMove]
    | failed ends failure =>
      rw [hookEvents_ended body ends rfl]
      exact ⟨.failing, .failing rfl phase, .failed course (failure_of_failureOf? failure)⟩

/-- Reporting the error of a callback or of the disconnect hook is no event, and the session
stays where it is until that is done. -/
theorem inCourse_reporting {now : Nat} {pick : Alternative} {s : Stage}
    (course : Course c.handler s log) (body : c.body? = none)
    (attached : ∀ e, c.reader ≠ .connecting (.reporting e)) (handler : d.handler = c.handler)
    (place : At d s) (after : d.body? = none) :
    InCourse d (log ++ c.hookEvents (.move now (.work pick)) d) := by
  have quiet : c.hookEvents (.move now (.work pick)) d = [] := by
    refine hookEvents_going (fun hook t same => ?_) (fun e reader => absurd reader (attached e)) ?_
    · rw [body] at same
      cases same
    · simp [running?, body, after]
  rw [quiet, List.append_nil]
  exact ⟨s, place, handler ▸ course⟩

theorem inCourse_connecting_reporting (h : InCourse c log) {e : BridgeError}
    (reader : c.reader = .connecting (.reporting e)) (w : A.World) (now : Nat) (pick : Alternative) :
    InCourse (c.act w (.move now (.work pick)))
      (log ++ c.hookEvents (.move now (.work pick)) (c.act w (.move now (.work pick)))) := by
  have body : c.body? = none := by simp [body?, reader]
  obtain ⟨phase, course⟩ : c.phase = .initializing ∧ Course c.handler .failing log := by
    obtain ⟨s, place, course⟩ := h
    cases place with
    | failing _ phase => exact ⟨phase, course⟩
    | connecting r | listening r | answering r | calling r | parting r | parted r | past r | halted r =>
      rw [reader] at r
      cases r
  -- As long as the report waits nothing happens.
  have waiting {d : Connection A} (waits : settles c.outbox e = false) (handler : d.handler = c.handler)
      (after : d.reader = .connecting (.reporting e)) (same : d.phase = c.phase) :
      InCourse d (log ++ c.hookEvents (.move now (.work pick)) d) := by
    have quiet : c.hookEvents (.move now (.work pick)) d = [] := by
      refine hookEvents_going (fun hook t there => ?_) (fun e' there => ?_) ?_
      · rw [body] at there
        cases there
      · rw [reader] at there
        cases there
        exact waits
      · simp [running?, body?, reader, after]
    rw [quiet, List.append_nil]
    exact ⟨.failing, .failing after (same.trans phase), handler ▸ course⟩
  cases stepped : c.workStep now pick w (.reporting e) with
  | none =>
    simp only [act, move, readerStep, reader, stepped, Option.map_none, Option.getD_none]
    exact waiting ((not_worked stepped).2 e rfl) rfl reader rfl
  | some r =>
    obtain ⟨w', s⟩ := r
    have did := worked stepped
    simp only [act, move, readerStep, reader, stepped, Option.map_some, Option.getD_some]
    cases did with
    | queued waits => exact waiting waits rfl rfl rfl
    | @settled _ o settles =>
      have noted : c.endings (.move now (.work pick)) = [.rejected] := by
        simp [endings, reader, settles]
      have idle : c.running? = none := by simp [running?, body]
      have left : Course c.handler (.left true) (log ++ [HookEvent.rejected]) := .rejected course
      have done := inCourse_leave (c := { c with outbox := o }) left (.inl phase)
      show InCourse ({ c with outbox := o }.leave true)
        (log ++ c.hookEvents (.move now (.work pick)) ({ c with outbox := o }.leave true))
      rwa [hookEvents, noted, if_neg (by simp), idle, ← List.append_assoc]

theorem inCourse_handling (h : InCourse c log) {work : Work A.Socket}
    (reader : c.reader = .handling work) (w : A.World) (now : Nat) (pick : Alternative) :
    InCourse (c.act w (.move now (.work pick)))
      (log ++ c.hookEvents (.move now (.work pick)) (c.act w (.move now (.work pick)))) := by
  obtain ⟨s, place, course⟩ := h
  cases place with
  | connecting r | failing r | listening r | parting r | parted r | past r | halted r =>
    rw [reader] at r
    cases r
  | @calling t r phase =>
    rw [r] at reader
    cases reader
    have body : c.body? = some (.callback, t) := by simp [body?, r]
    cases stepped : c.workStep now pick w (.running t) with
    | none =>
      simp only [act, move, readerStep, r, stepped, Option.map_none, Option.getD_none]
      exact inCourse_going course body ((not_worked stepped).1 t rfl) rfl (.calling r phase) body
    | some result =>
      obtain ⟨w', s⟩ := result
      have did := worked stepped
      simp only [act, move, readerStep, r, stepped, Option.map_some, Option.getD_some]
      cases did with
      | onward goesOn | forked goesOn =>
        exact inCourse_going course body goesOn rfl (.calling rfl phase) rfl
      | done ends well =>
        rw [hookEvents_ended body ends rfl]
        exact ⟨.listening, .listening rfl phase, .returned course⟩
      | failed ends failure =>
        rw [hookEvents_ended body ends rfl]
        exact ⟨.listening, .answering rfl phase, .returned course⟩
  | @answering e r phase =>
    rw [r] at reader
    cases reader
    have body : c.body? = none := by simp [body?, r]
    have attached (e' : BridgeError) : c.reader ≠ .connecting (.reporting e') := by simp [r]
    cases stepped : c.workStep now pick w (.reporting e) with
    | none =>
      simp only [act, move, readerStep, r, stepped, Option.map_none, Option.getD_none]
      exact inCourse_reporting course body attached rfl (.answering r phase) body
    | some result =>
      obtain ⟨w', s⟩ := result
      have did := worked stepped
      simp only [act, move, readerStep, r, stepped, Option.map_some, Option.getD_some]
      cases did with
      | queued => exact inCourse_reporting course body attached rfl (.answering rfl phase) rfl
      | settled => exact inCourse_reporting course body attached rfl (.listening rfl phase) rfl

theorem leavingPhase_final (rejected : Bool) :
    (leavingPhase rejected).advance (if rejected then .failed else .closed) = finalPhase rejected := by
  cases rejected <;> rfl

theorem inCourse_disconnecting (h : InCourse c log) {rejected : Bool} {work : Work A.Socket}
    (reader : c.reader = .disconnecting rejected work) (w : A.World) (now : Nat) (pick : Alternative) :
    InCourse (c.act w (.move now (.work pick)))
      (log ++ c.hookEvents (.move now (.work pick)) (c.act w (.move now (.work pick)))) := by
  obtain ⟨s, place, course⟩ := h
  cases place with
  | connecting r | failing r | listening r | calling r | answering r | past r | halted r =>
    rw [reader] at r
    cases r
  | @parting rejected' t r phase =>
    rw [r] at reader
    cases reader
    have body : c.body? = some (.disconnect, t) := by simp [body?, r]
    cases stepped : c.workStep now pick w (.running t) with
    | none =>
      simp only [act, move, readerStep, r, stepped, Option.map_none, Option.getD_none]
      exact inCourse_going course body ((not_worked stepped).1 t rfl) rfl (.parting r phase) body
    | some result =>
      obtain ⟨w', s⟩ := result
      have did := worked stepped
      simp only [act, move, readerStep, r, stepped, Option.map_some, Option.getD_some]
      cases did with
      | onward goesOn | forked goesOn =>
        exact inCourse_going course body goesOn rfl (.parting rfl phase) rfl
      | done ends well =>
        rw [hookEvents_ended body ends rfl]
        refine ⟨.past rejected, .past rfl ?_ rfl, .parted course⟩
        simp [finish, advance, phase, leavingPhase_final]
      | failed ends failure =>
        rw [hookEvents_ended body ends rfl]
        exact ⟨.past rejected, .parted rfl phase, .parted course⟩
  | @parted rejected' e r phase =>
    rw [r] at reader
    cases reader
    have body : c.body? = none := by simp [body?, r]
    have attached (e' : BridgeError) : c.reader ≠ .connecting (.reporting e') := by simp [r]
    cases stepped : c.workStep now pick w (.reporting e) with
    | none =>
      simp only [act, move, readerStep, r, stepped, Option.map_none, Option.getD_none]
      exact inCourse_reporting course body attached rfl (.parted r phase) body
    | some result =>
      obtain ⟨w', s⟩ := result
      have did := worked stepped
      simp only [act, move, readerStep, r, stepped, Option.map_some, Option.getD_some]
      cases did with
      | queued => exact inCourse_reporting course body attached rfl (.parted rfl phase) rfl
      | settled =>
        refine inCourse_reporting course body attached rfl (.past rfl ?_ rfl) rfl
        simp [finish, advance, phase, leavingPhase_final]

theorem inCourse_work (h : InCourse c log) (w : A.World) (now : Nat) (pick : Alternative) :
    InCourse (c.act w (.move now (.work pick)))
      (log ++ c.hookEvents (.move now (.work pick)) (c.act w (.move now (.work pick)))) := by
  cases reader : c.reader with
  | connecting work =>
    cases work with
    | running t => exact inCourse_connecting_running h reader w now pick
    | reporting e => exact inCourse_connecting_reporting h reader w now pick
  | handling work => exact inCourse_handling h reader w now pick
  | disconnecting rejected work => exact inCourse_disconnecting h reader w now pick
  | listening | ended =>
    simp only [act, move, readerStep, reader]
    exact inCourse_self h (by simp [endings, body?, reader])

/-- The writer and the tasks that handlers started leave the course of the session alone. -/
theorem inCourse_write (h : InCourse c log) (w : A.World) (now : Nat) :
    InCourse (c.act w (.move now .write))
      (log ++ c.hookEvents (.move now .write) (c.act w (.move now .write))) := by
  simp only [act, move]
  cases stepped : c.writeStep now with
  | none => exact inCourse_self h rfl
  | some d =>
    have did := written stepped
    generalize c.writerEvents = es at did
    cases did with
    | handed going => exact h.frame rfl rfl rfl rfl id rfl fun ended => absurd ended going
    | broke going _ _ later _ receiving =>
      exact h.frame rfl rfl rfl rfl later.cancelled receiving fun ended => absurd ended going
    | turned going => exact h.frame rfl rfl rfl rfl id rfl fun ended => absurd ended going
    | flushed => exact h.frame rfl rfl rfl rfl id rfl fun _ => rfl

theorem inCourse_fork (h : InCourse c log) (w : A.World) (now index : Nat) (pick : Alternative) :
    InCourse (c.act w (.move now (.fork index pick)))
      (log ++ c.hookEvents (.move now (.fork index pick)) (c.act w (.move now (.fork index pick)))) := by
  simp only [act, move, forkStep]
  split
  · next t alive =>
    cases stepped : t.clientStep A.socket (view c.handler) now pick (index + 1) w c.outbox with
    | none => exact inCourse_self h rfl
    | some r =>
      obtain ⟨w', o, turn⟩ := r
      have s := Task.outboxStep (view_serves c.handler) stepped
      have cancelled := Task.cancelled_of_outboxStep s
      have receiving := Task.receiving_of_outboxStep s
      cases turn <;> exact h.frame rfl rfl rfl rfl cancelled receiving id
  · exact inCourse_self h rfl

/-- Every act keeps the history of hooks and callbacks in course. -/
theorem inCourse_act (h : InCourse c log) (w : A.World) (x : ConnectionAct) :
    InCourse (c.act w x) (log ++ c.hookEvents x (c.act w x)) := by
  cases x with
  | drop => exact inCourse_drop h w
  | move now m =>
    cases m with
    | release => exact inCourse_release h w now
    | work pick => exact inCourse_work h w now pick
    | arrive => exact inCourse_arrive h w now
    | listen => exact inCourse_listen h w now
    | write => exact inCourse_write h w now
    | fork index pick => exact inCourse_fork h w now index pick

def Finished (c : Connection A) : Prop := c.isOver = true ∧ c.outbox.receiving = true

theorem Finished.ended (h : c.Finished) : c.reader = .ended ∧ c.writer = .ended := by
  obtain ⟨both, -⟩ := h
  simp only [isOver, Bool.and_eq_true, decide_eq_true_eq] at both
  refine ⟨?_, both.2⟩
  cases reader : c.reader with
  | ended => rfl
  | connecting | listening | handling | disconnecting => simp [reader] at both

/-- A session that has finished ran its disconnect hook, if it has one, and ended in the state
that tells whether it was rejected by its connect hook. -/
theorem InCourse.finished (h : InCourse c log) (finished : c.Finished) :
    (log.countP (HookEvent.isBegun .disconnect) = if c.handler.onDisconnect.isSome then 1 else 0) ∧
      (c.phase = .failed ↔ Rejected log) ∧ (c.phase = .closed ↔ ¬Rejected log) := by
  obtain ⟨s, place, course⟩ := h
  have ended := finished.ended.1
  cases place with
  | connecting r | failing r | listening r | answering r | calling r | parting r | parted r =>
    rw [ended] at r
    cases r
  | halted _ _ gone =>
    have there := finished.2
    rw [gone] at there
    cases there
  | @past rejected _ phase closed =>
    have told : rejected = true ↔ Rejected log := course.rejects
    refine ⟨course.disconnected, ?_, ?_⟩
    · rw [phase, ← told]
      cases rejected <;> decide
    · rw [phase, ← told]
      cases rejected <;> decide

theorem InCourse.isClosed (h : InCourse c log) (ended : c.reader = .ended) :
    c.outbox.isClosed = true := by
  obtain ⟨s, place, course⟩ := h
  cases place with
  | connecting r | failing r | listening r | answering r | calling r | parting r | parted r =>
    rw [ended] at r
    cases r
  | past _ _ closed => exact Outbox.isClosed_of_cancelled closed
  | halted _ _ gone => simp [Outbox.isClosed, gone]

end CommandBridge.Connection
