import CommandBridge.Proofs.Schema.References
import CommandBridge.Proofs.Socket.Step

/-!
# The order of callbacks

What a reader does is what the frames of its client ask for, one after another: a callback
for each frame that names one and carries data of the right type, an error for each that
does not and for each callback that fails. No frame is lost or seen twice until the reader
leaves.
-/

set_option autoImplicit false

namespace CommandBridge

variable {A : Application}

/-- The callback that a frame asks for: its envelope names a declared event that has a
callback, and carries data of the declared type. -/
def invocation? (handler : SocketHandler A) (definitions : Definitions)
    (text : String) : Option (String × Json) := do
  let e ← SocketEnvelope.ofText? text
  let type ← Keyed.lookup e.event handler.clientEvents
  if Keyed.contains e.event handler.callbacks &&
      (validate definitions e.event type e.data.toTransportCase).isOk then
    some (e.event, e.data.toTransportCase)
  else none

/-- The frame is no envelope, or its data is not of the type of an event that has a callback. -/
def ObjectsTo (handler : SocketHandler A) (definitions : Definitions)
    (text : String) : Prop :=
  SocketEnvelope.ofText? text = none ∨ ∃ e type, SocketEnvelope.ofText? text = some e ∧
    Keyed.lookup e.event handler.clientEvents = some type ∧
    Keyed.contains e.event handler.callbacks = true ∧
    (validate definitions e.event type e.data.toTransportCase).isOk = false

def Typed (handler : SocketHandler A) (definitions : Definitions) : Prop :=
  definitions.Closed ∧ ∀ t ∈ handler.eventTypes, definitions.unresolved? t.2 = none

def Fails : Outcome Unit → BridgeError → Prop
  | .done (), _ => False
  | .failed x, e => e = ⟨x.code.getD .executionError, x.message, x.details⟩
  | .panicked p, e => e = ⟨.executionError, p.message, none⟩

inductive Handled (handler : SocketHandler A) (definitions : Definitions) (text : String) :
    List ReaderEvent → Prop where
  | ignored (asks : invocation? handler definitions text = none)
      (fair : ¬ObjectsTo handler definitions text) : Handled handler definitions text [.looked text]
  | refused {e : BridgeError} (objects : ObjectsTo handler definitions text)
      (code : e.code = .invalidArgument) :
      Handled handler definitions text [.looked text, .reported e]
  | served {event : String} {data : Json}
      (asks : invocation? handler definitions text = some (event, data)) :
      Handled handler definitions text [.looked text, .invoked event data, .returned (.done ())]
  | failed {event : String} {data : Json} {outcome : Outcome Unit} {e : BridgeError}
      (asks : invocation? handler definitions text = some (event, data)) (fails : Fails outcome e) :
      Handled handler definitions text
        [.looked text, .invoked event data, .returned outcome, .reported e]

inductive AtWork (handler : SocketHandler A) (definitions : Definitions) (text : String) :
    Work A.Socket → List ReaderEvent → Prop where
  | refused {e : BridgeError} (objects : ObjectsTo handler definitions text)
      (code : e.code = .invalidArgument) :
      AtWork handler definitions text (.reporting e) [.looked text]
  | running {event : String} {data : Json} {t : Task A.Socket}
      (asks : invocation? handler definitions text = some (event, data)) :
      AtWork handler definitions text (.running t) [.looked text, .invoked event data]
  | failed {event : String} {data : Json} {outcome : Outcome Unit} {e : BridgeError}
      (asks : invocation? handler definitions text = some (event, data)) (fails : Fails outcome e) :
      AtWork handler definitions text (.reporting e)
        [.looked text, .invoked event data, .returned outcome]

inductive Logged (handler : SocketHandler A) (definitions : Definitions) :
    List String → List ReaderEvent → Prop where
  | none : Logged handler definitions [] []
  | next {texts : List String} {log events : List ReaderEvent} {text : String}
      (logged : Logged handler definitions texts log)
      (handled : Handled handler definitions text events) :
      Logged handler definitions (texts ++ [text]) (log ++ events)

def looked (log : List ReaderEvent) : List String :=
  log.filterMap fun e => match e with
    | .looked text => some text
    | _ => none

def invocations (log : List ReaderEvent) : List (String × Json) :=
  log.filterMap fun e => match e with
    | .invoked event data => some (event, data)
    | _ => none

/-- Whether a callback runs after the event; there is no answer when the event must not come
then. -/
def follow : Bool → ReaderEvent → Option Bool
  | false, .invoked .. => some true
  | true, .invoked .. => none
  | true, .returned _ => some false
  | false, .returned _ => none
  | true, .looked _ | true, .reported _ => none
  | false, .looked _ | false, .reported _ => some false
  | _, .left _ => some false

def OneAtATime (log : List ReaderEvent) : Prop := (log.foldlM follow false).isSome = true

theorem looked_append (log more : List ReaderEvent) : looked (log ++ more) = looked log ++ looked more :=
  List.filterMap_append

theorem invocations_append (log more : List ReaderEvent) :
    invocations (log ++ more) = invocations log ++ invocations more :=
  List.filterMap_append

namespace Connection

section Frame

variable {handler : SocketHandler A} {definitions : Definitions} {text : String}

theorem asks_of_frameWork {event : String} {data : Json} {start : A.Socket}
    (work : frameWork handler definitions text = .callback event data start) :
    invocation? handler definitions text = some (event, data) := by
  unfold frameWork at work
  split at work
  · cases work
  next e parsed =>
  split at work
  · next type start' declared callback =>
    dsimp only at work
    split at work
    · next valid =>
      cases work
      simp [invocation?, parsed, declared, Keyed.contains, callback, valid, Except.isOk,
        Except.toBool]
    · cases work
  · cases work

theorem objects_of_frameWork (typed : Typed handler definitions) {e : BridgeError}
    (work : frameWork handler definitions text = .refused e) :
    ObjectsTo handler definitions text ∧ e.code = .invalidArgument := by
  unfold frameWork at work
  split at work
  · next malformed => cases work; exact ⟨.inl malformed, rfl⟩
  next envelope parsed =>
  split at work
  · next type start declared callback =>
    dsimp only at work
    split at work
    · cases work
    · next err invalid =>
      cases work
      have known : definitions.unresolved? type = none := by
        refine typed.2 (.clientEvent handler.name envelope.event, type) ?_
        exact List.mem_append_right _ (List.mem_map.mpr
          ⟨(envelope.event, type), Keyed.mem_of_lookup declared, rfl⟩)
      refine ⟨.inr ⟨envelope, type, parsed, declared, ?_, ?_⟩, code_of_validate typed.1 known invalid⟩
      · simp [Keyed.contains, callback]
      · simp [invalid, Except.isOk, Except.toBool]
  · cases work

theorem ignores_of_frameWork (work : frameWork handler definitions text = .ignored) :
    invocation? handler definitions text = none ∧ ¬ObjectsTo handler definitions text := by
  unfold frameWork at work
  split at work
  · cases work
  next envelope parsed =>
  split at work
  · dsimp only at work
    split at work <;> cases work
  next unknown =>
  have known {type : Descriptor} (declared : Keyed.lookup envelope.event handler.clientEvents = some type) :
      Keyed.contains envelope.event handler.callbacks = false := by
    unfold Keyed.contains
    cases callback : Keyed.lookup envelope.event handler.callbacks with
    | none => rfl
    | some start => exact (unknown type start declared callback).elim
  constructor
  · cases declared : Keyed.lookup envelope.event handler.clientEvents with
    | none => simp [invocation?, parsed, declared]
    | some type => simp [invocation?, parsed, declared, known declared]
  · rintro (malformed | ⟨e, type, parsed', declared, callback, -⟩)
    · rw [parsed] at malformed; cases malformed
    · rw [parsed] at parsed'
      cases parsed'
      rw [known declared] at callback
      cases callback

end Frame

theorem fails_of_failureOf? {outcome : Outcome Unit} {e : BridgeError}
    (failure : failureOf? outcome = some e) : Fails outcome e := by
  cases outcome <;> cases failure <;> rfl

theorem done_of_failureOf? {outcome : Outcome Unit} (well : failureOf? outcome = none) :
    outcome = .done () := by
  cases outcome <;> first | rfl | cases well

section Log

variable {handler : SocketHandler A} {definitions : Definitions} {text : String}
  {texts : List String} {log rest : List ReaderEvent} {work : Work A.Socket}

theorem handled_looked (h : Handled handler definitions text log) : looked log = [text] := by
  cases h <;> rfl

theorem handled_invocations (h : Handled handler definitions text log) :
    invocations log = (invocation? handler definitions text).toList := by
  cases h with
  | ignored asks => rw [asks]; rfl
  | refused objects =>
    rcases objects with malformed | ⟨e, type, parsed, declared, -, invalid⟩
    · simp [invocation?, malformed, invocations]
    · simp [invocation?, parsed, declared, invalid, invocations]
  | served asks => rw [asks]; rfl
  | failed asks => rw [asks]; rfl

theorem handled_follow (h : Handled handler definitions text log) :
    log.foldlM follow false = some false := by
  cases h <;> rfl

theorem logged_looked (h : Logged handler definitions texts log) : looked log = texts := by
  induction h with
  | none => rfl
  | next _ handled ih => rw [looked_append, ih, handled_looked handled]

theorem logged_invocations (h : Logged handler definitions texts log) :
    invocations log = texts.filterMap (invocation? handler definitions) := by
  induction h with
  | none => rfl
  | @next texts log events text _ handled ih =>
    rw [invocations_append, ih, handled_invocations handled, List.filterMap_append]
    cases asks : invocation? handler definitions text <;> simp [asks]

theorem logged_follow (h : Logged handler definitions texts log) :
    log.foldlM follow false = some false := by
  induction h with
  | none => rfl
  | next _ handled ih =>
    rw [List.foldlM_append, ih]
    exact handled_follow handled

theorem atWork_looked (h : AtWork handler definitions text work rest) : looked rest = [text] := by
  cases h <;> rfl

theorem atWork_invocations (h : AtWork handler definitions text work rest) :
    invocations rest = (invocation? handler definitions text).toList := by
  cases h with
  | refused objects code =>
    have whole := handled_invocations (Handled.refused objects code)
    rwa [show [ReaderEvent.looked text, .reported _] = [ReaderEvent.looked text] ++ [.reported _]
        from rfl, invocations_append, show invocations [.reported _] = [] from rfl, List.append_nil] at whole
  | running asks => rw [asks]; rfl
  | failed asks => rw [asks]; rfl

theorem atWork_follow (h : AtWork handler definitions text work rest) :
    (rest.foldlM follow false).isSome = true := by
  cases h <;> rfl

theorem handled_of_reported {e : BridgeError}
    (h : AtWork handler definitions text (.reporting e) rest) :
    Handled handler definitions text (rest ++ [ReaderEvent.reported e]) := by
  cases h with
  | refused objects code => exact .refused objects code
  | failed asks fails => exact .failed asks fails

end Log

/-- Where a reader is in its log: `frames` is all that its client sends. -/
inductive Reading (frames : List String) (c : Connection A) (log : List ReaderEvent) : Prop where
  | connecting {work : Work A.Socket} (reader : c.reader = .connecting work) (none : log = [])
      (all : frames = c.unread)
  | listening {texts : List String} (reader : c.reader = .listening)
      (logged : Logged c.handler c.definitions texts log) (all : frames = texts ++ c.unread)
  | handling {texts : List String} {done rest : List ReaderEvent} {text : String}
      {work : Work A.Socket} (reader : c.reader = .handling work)
      (logged : Logged c.handler c.definitions texts done)
      (atWork : AtWork c.handler c.definitions text work rest) (split : log = done ++ rest)
      (all : frames = texts ++ text :: c.unread)
  | past {texts : List String} {done rest : List ReaderEvent} {cause : Departure}
      (past : c.IsPast) (logged : Logged c.handler c.definitions texts done)
      (halt : (rest = [] ∧ texts <+: frames) ∨
        ∃ text work, AtWork c.handler c.definitions text work rest ∧ texts ++ [text] <+: frames)
      (split : log = done ++ rest ++ [.left cause])
      (ended : cause = .ended → rest = [] ∧ texts = frames)

theorem create_kin (handler : SocketHandler A) (definitions : Definitions) (capacity : Nat)
    (inbound : Inbound) (sink : Sink) :
    (create handler definitions capacity inbound sink).handler = handler ∧
      (create handler definitions capacity inbound sink).definitions = definitions := by
  unfold create
  cases handler.onConnect <;> exact ⟨rfl, rfl⟩

theorem reading_create (handler : SocketHandler A) (definitions : Definitions) (capacity : Nat)
    (inbound : Inbound) (sink : Sink) :
    Reading inbound.frames (create handler definitions capacity inbound sink) [] := by
  unfold create
  cases hook : handler.onConnect with
  | none => exact .listening rfl .none rfl
  | some start => exact .connecting rfl rfl rfl

variable {frames : List String} {c d : Connection A} {log : List ReaderEvent}

theorem Reading.of_connecting (h : Reading frames c log) {work : Work A.Socket}
    (before : c.reader = .connecting work) : log = [] ∧ frames = c.unread := by
  cases h with
  | connecting _ none all => exact ⟨none, all⟩
  | listening reader => rw [before] at reader; cases reader
  | handling reader => rw [before] at reader; cases reader
  | past past => simp [IsPast, before] at past

theorem Reading.of_listening (h : Reading frames c log) (before : c.reader = .listening) :
    ∃ texts, Logged c.handler c.definitions texts log ∧ frames = texts ++ c.unread := by
  cases h with
  | connecting reader => rw [before] at reader; cases reader
  | listening _ logged all => exact ⟨_, logged, all⟩
  | handling reader => rw [before] at reader; cases reader
  | past past => simp [IsPast, before] at past

theorem Reading.of_handling (h : Reading frames c log) {work : Work A.Socket}
    (before : c.reader = .handling work) :
    ∃ texts done rest text, Logged c.handler c.definitions texts done ∧
      AtWork c.handler c.definitions text work rest ∧ log = done ++ rest ∧
      frames = texts ++ text :: c.unread := by
  cases h with
  | connecting reader => rw [before] at reader; cases reader
  | listening reader => rw [before] at reader; cases reader
  | handling reader logged atWork split all =>
    rw [before] at reader
    cases reader
    exact ⟨_, _, _, _, logged, atWork, split, all⟩
  | past past => simp [IsPast, before] at past

theorem Reading.stay (h : Reading frames c log) (same : Same c d) (reader : d.reader = c.reader) :
    Reading frames d log := by
  cases h with
  | connecting before none all =>
    exact .connecting (reader.trans before) none (all.trans same.unread.symm)
  | listening before logged all =>
    rw [← same.handler, ← same.definitions] at logged
    exact .listening (reader.trans before) logged (by rw [all, same.unread])
  | handling before logged atWork split all =>
    rw [← same.handler, ← same.definitions] at logged atWork
    exact .handling (reader.trans before) logged atWork split (by rw [all, same.unread])
  | past before logged halt split ended =>
    have after : d.IsPast := by unfold IsPast at before ⊢; rwa [reader]
    rw [← same.handler, ← same.definitions] at logged halt
    exact .past after logged halt split ended

theorem Reading.stayPast (h : Reading frames c log) (kin : Kin c d) (before : c.IsPast)
    (after : d.IsPast) : Reading frames d log := by
  cases h with
  | connecting reader => simp [IsPast, reader] at before
  | listening reader => simp [IsPast, reader] at before
  | handling reader => simp [IsPast, reader] at before
  | past _ logged halt split ended =>
    rw [← kin.handler, ← kin.definitions] at logged halt
    exact .past after logged halt split ended

theorem Reading.leave (h : Reading frames c log) (kin : Kin c d) (before : ¬c.IsPast)
    (after : d.IsPast) {cause : Departure}
    (all : cause = .ended → c.reader = .listening ∧ c.unread = []) :
    Reading frames d (log ++ [ReaderEvent.left cause]) := by
  cases h with
  | connecting reader none whole =>
    subst none
    have split : [] ++ [ReaderEvent.left cause] = [] ++ [] ++ [ReaderEvent.left cause] := rfl
    refine .past after .none (.inl ⟨rfl, List.nil_prefix⟩) split ?_
    intro ended
    rw [reader] at all
    cases (all ended).1
  | listening reader logged whole =>
    rw [← kin.handler, ← kin.definitions] at logged
    have split : log ++ [ReaderEvent.left cause] = log ++ [] ++ [ReaderEvent.left cause] := by
      rw [List.append_nil]
    refine .past after logged (.inl ⟨rfl, whole ▸ List.prefix_append ..⟩) split ?_
    intro ended
    rw [(all ended).2, List.append_nil] at whole
    exact ⟨rfl, whole.symm⟩
  | @handling texts done rest text work reader logged atWork split whole =>
    rw [← kin.handler, ← kin.definitions] at logged atWork
    refine .past after logged (.inr ⟨text, work, atWork, ?_⟩) (by rw [split]) ?_
    · exact ⟨c.unread, by rw [whole, List.append_assoc]; rfl⟩
    · intro ended
      rw [reader] at all
      cases (all ended).1
  | past past => exact absurd past before

/-- A frame that needs no work is looked at and passed over. -/
theorem Reading.ignore (h : Reading frames c log) (kin : Kin c d) (before : c.reader = .listening)
    {text : String} (next : c.unread = text :: d.unread)
    (work : frameWork c.handler c.definitions text = .ignored) (after : d.reader = .listening) :
    Reading frames d (log ++ [ReaderEvent.looked text]) := by
  obtain ⟨texts, logged, whole⟩ := h.of_listening before
  obtain ⟨asks, fair⟩ := ignores_of_frameWork work
  rw [← kin.handler, ← kin.definitions] at logged asks fair
  refine .listening after (logged.next (.ignored asks fair)) ?_
  rw [whole, next, List.append_cons]

/-- A frame that needs work is looked at, and the work begins. -/
theorem Reading.begin (h : Reading frames c log) (kin : Kin c d) (before : c.reader = .listening)
    {text : String} (next : c.unread = text :: d.unread) {work : Work A.Socket}
    {rest : List ReaderEvent} (atWork : AtWork c.handler c.definitions text work rest)
    (after : d.reader = .handling work) : Reading frames d (log ++ rest) := by
  obtain ⟨texts, logged, whole⟩ := h.of_listening before
  rw [← kin.handler, ← kin.definitions] at logged atWork
  exact .handling after logged atWork rfl (by rw [whole, next])

theorem Reading.work (h : Reading frames c log) (same : Same c d) {work work' : Work A.Socket}
    (before : c.reader = .handling work) (after : d.reader = .handling work')
    {events : List ReaderEvent}
    (goesOn : ∀ text rest, AtWork c.handler c.definitions text work rest →
      AtWork c.handler c.definitions text work' (rest ++ events)) :
    Reading frames d (log ++ events) := by
  obtain ⟨texts, done, rest, text, logged, atWork, split, whole⟩ := h.of_handling before
  have atWork := goesOn text rest atWork
  rw [← same.handler, ← same.definitions] at logged atWork
  refine .handling after logged atWork ?_ (by rw [whole, same.unread])
  rw [split, List.append_assoc]

theorem Reading.finish (h : Reading frames c log) (same : Same c d) {work : Work A.Socket}
    (before : c.reader = .handling work) (after : d.reader = .listening)
    {events : List ReaderEvent}
    (handled : ∀ text rest, AtWork c.handler c.definitions text work rest →
      Handled c.handler c.definitions text (rest ++ events)) :
    Reading frames d (log ++ events) := by
  obtain ⟨texts, done, rest, text, logged, atWork, split, whole⟩ := h.of_handling before
  have complete := handled text rest atWork
  rw [← same.handler, ← same.definitions] at logged complete
  have all : frames = (texts ++ [text]) ++ d.unread := by
    rw [whole, same.unread, List.append_cons]
  refine .listening after ?_ all
  rw [split, List.append_assoc]
  exact logged.next complete

theorem reading_step (typed : Typed c.handler c.definitions) (h : Reading frames c log)
    {events : List ReaderEvent} (s : Step c d events) : Reading frames d (log ++ events) := by
  cases s with
  | idle same reader =>
    rw [List.append_nil]
    exact h.stay same reader
  | hook same before after =>
    obtain ⟨rfl, all⟩ := h.of_connecting before
    exact .connecting after rfl (all.trans same.unread.symm)
  | opened same before after =>
    obtain ⟨rfl, all⟩ := h.of_connecting before
    exact .listening after .none (all.trans same.unread.symm)
  | ignored kin before next work after => exact h.ignore kin before next work after
  | refused kin before next work after =>
    obtain ⟨objects, code⟩ := objects_of_frameWork typed work
    exact h.begin kin before next (.refused objects code) after
  | invoked kin before next work after =>
    exact h.begin kin before next (.running (asks_of_frameWork work)) after
  | onward same before after =>
    refine h.work same before after fun text rest atWork => ?_
    cases atWork with
    | running asks => exact .running asks
  | served same before well after =>
    rw [done_of_failureOf? well]
    refine h.finish same before after fun text rest atWork => ?_
    cases atWork with
    | running asks => exact .served asks
  | failed same before failure after =>
    refine h.work same before after fun text rest atWork => ?_
    cases atWork with
    | running asks => exact .failed asks (fails_of_failureOf? failure)
  | reported same before after =>
    exact h.finish same before after fun text rest atWork => handled_of_reported atWork
  | left kin before after all => exact h.leave kin before after all
  | past kin before after =>
    rw [List.append_nil]
    exact h.stayPast kin before after

theorem kin_of_step {events : List ReaderEvent} (s : Step c d events) : Kin c d := by
  cases s with
  | idle same => exact same.toKin
  | hook same => exact same.toKin
  | opened same => exact same.toKin
  | onward same => exact same.toKin
  | served same => exact same.toKin
  | failed same => exact same.toKin
  | reported same => exact same.toKin
  | ignored kin => exact kin
  | refused kin => exact kin
  | invoked kin => exact kin
  | left kin => exact kin
  | past kin => exact kin

/-- Every act keeps the log in order, under the same handler and definitions. -/
theorem reading_act {handler : SocketHandler A} {definitions : Definitions}
    (typed : Typed handler definitions) (kin : c.handler = handler ∧ c.definitions = definitions)
    (h : Reading frames c log) (w : A.World) (x : ConnectionAct) :
    ((c.act w x).handler = handler ∧ (c.act w x).definitions = definitions) ∧
      Reading frames (c.act w x) (c.noteAct log x) := by
  obtain ⟨rfl, rfl⟩ := kin
  cases x with
  | move now m =>
    have s := step_move c w now m
    have same := kin_of_step s
    exact ⟨⟨same.handler, same.definitions⟩, reading_step typed h s⟩
  | drop =>
    have kin : Kin c (c.act w .drop) := ⟨rfl, rfl⟩
    refine ⟨⟨rfl, rfl⟩, ?_⟩
    simp only [noteAct]
    split
    · next past =>
      have stays := reading_step typed h (.past kin past trivial)
      rwa [List.append_nil] at stays
    · next present => exact h.leave kin present trivial nofun

theorem looked_left (log : List ReaderEvent) (cause : Departure) :
    looked (log ++ [ReaderEvent.left cause]) = looked log := by
  rw [looked_append]
  exact List.append_nil _

theorem Reading.looked_prefix (h : Reading frames c log) : looked log <+: frames := by
  cases h with
  | connecting _ none _ => exact none ▸ List.nil_prefix
  | listening _ logged all => exact ⟨c.unread, by rw [logged_looked logged, all]⟩
  | handling _ logged atWork split all =>
    refine ⟨c.unread, ?_⟩
    rw [split, looked_append, logged_looked logged, atWork_looked atWork, all, List.append_assoc]
    rfl
  | past _ logged halt split _ =>
    rw [split, looked_left, looked_append, logged_looked logged]
    rcases halt with ⟨rfl, taken⟩ | ⟨text, work, atWork, taken⟩
    · exact (List.append_nil _).symm ▸ taken
    · exact (atWork_looked atWork).symm ▸ taken

/-- The log is that of frames handled one after another, of what was done for one more, and of
how the reader left. A frame that is not done with is at work until the reader leaves. -/
theorem Reading.parts (h : Reading frames c log) : ∃ texts done rest ending,
    log = done ++ rest ++ ending ∧ Logged c.handler c.definitions texts done ∧
      (rest = [] ∨ ∃ text work, AtWork c.handler c.definitions text work rest ∧
        (ending = [] → c.reader = .handling work)) ∧
      (ending = [] ∨ ∃ cause, ending = [.left cause]) := by
  cases h with
  | connecting _ none _ => exact ⟨[], [], [], [], none, .none, .inl rfl, .inl rfl⟩
  | listening _ logged _ => exact ⟨_, log, [], [], by simp, logged, .inl rfl, .inl rfl⟩
  | handling reader logged atWork split _ =>
    refine ⟨_, _, _, [], by rw [split, List.append_nil], logged, .inr ⟨_, _, atWork, ?_⟩, .inl rfl⟩
    exact fun _ => reader
  | past _ logged halt split _ =>
    refine ⟨_, _, _, _, split, logged, ?_, .inr ⟨_, rfl⟩⟩
    exact halt.imp (fun h => h.1) fun ⟨text, work, atWork, _⟩ => ⟨text, work, atWork, nofun⟩

theorem Reading.invocations_eq (h : Reading frames c log) :
    invocations log = (looked log).filterMap (invocation? c.handler c.definitions) := by
  obtain ⟨texts, done, rest, ending, rfl, logged, partly, leaves⟩ := h.parts
  have quiet : invocations ending = [] ∧ looked ending = [] := by
    rcases leaves with rfl | ⟨cause, rfl⟩ <;> exact ⟨rfl, rfl⟩
  rw [invocations_append, invocations_append, looked_append, looked_append, quiet.1, quiet.2,
    List.append_nil, List.append_nil, logged_invocations logged, logged_looked logged,
    List.filterMap_append]
  rcases partly with rfl | ⟨text, work, atWork⟩
  · rfl
  · rw [atWork_invocations atWork.1, atWork_looked atWork.1]
    cases asks : invocation? c.handler c.definitions text <;> simp [asks]

theorem Reading.oneAtATime (h : Reading frames c log) : OneAtATime log := by
  obtain ⟨texts, done, rest, ending, rfl, logged, partly, leaves⟩ := h.parts
  have going : ∃ running, (done ++ rest).foldlM follow false = some running := by
    rw [List.foldlM_append, logged_follow logged]
    rcases partly with rfl | ⟨text, work, atWork⟩
    · exact ⟨false, rfl⟩
    · exact Option.isSome_iff_exists.mp (atWork_follow atWork.1)
  obtain ⟨running, going⟩ := going
  unfold OneAtATime
  rw [List.foldlM_append, going]
  rcases leaves with rfl | ⟨cause, rfl⟩
  · rfl
  · cases running <;> rfl

/-- Until the reader leaves every frame was looked at once or is still to be. -/
theorem Reading.frames_eq (h : Reading frames c log) (present : ¬c.IsPast) :
    frames = looked log ++ c.unread := by
  cases h with
  | connecting _ none all => rw [none]; exact all
  | listening _ logged all => rw [logged_looked logged]; exact all
  | handling _ logged atWork split all =>
    rw [split, looked_append, logged_looked logged, atWork_looked atWork, all, List.append_assoc]
    rfl
  | past past => exact absurd past present

/-- A reader that is past the end tells last why it left. It left at the end of the session,
with nothing at work, only when it had looked at every frame. -/
theorem Reading.departure (h : Reading frames c log) (past : c.IsPast) :
    ∃ cause, log.getLast? = some (.left cause) ∧ (cause = .ended → looked log = frames) := by
  cases h with
  | connecting reader => simp [IsPast, reader] at past
  | listening reader => simp [IsPast, reader] at past
  | handling reader => simp [IsPast, reader] at past
  | @past texts done rest cause _ logged halt split whole =>
    refine ⟨cause, by rw [split, List.getLast?_concat], fun ended => ?_⟩
    obtain ⟨rfl, all⟩ := whole ended
    rw [split, looked_left, List.append_nil, logged_looked logged, all]

end Connection
end CommandBridge
