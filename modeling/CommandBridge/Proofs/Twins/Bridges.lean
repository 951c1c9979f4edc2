import CommandBridge.Proofs.Bridge.Run
import CommandBridge.Proofs.Twins.Connections

/-!
# Bridges of twins

Bridges are alike when their clocks, settings and files are the same, their worlds are related
and their sessions are alike. What befalls both in the same way leaves them alike. Answers that
wait to be told differ at most in the internal cause of an error.
-/

set_option autoImplicit false

open scoped Relator

namespace CommandBridge

inductive AnswerAlike : Except BridgeError Json → Except BridgeError Json → Prop where
  | ok (v : Json) : AnswerAlike (.ok v) (.ok v)
  | error {e e' : BridgeError} (error : e.Alike e') : AnswerAlike (.error e) (.error e')

theorem RunMode.answer_alike (mode : RunMode) {o o' : Outcome Payload} (h : o.Alike o') :
    AnswerAlike (mode.answer o) (mode.answer o') := by
  cases h with
  | done result =>
    cases result with
    | json v => exact .ok _
    | unserializable reason => exact .error rfl
  | failed error => exact .error (error.toBridgeError _)
  | panicked => exact .error rfl

section Alike

variable {A B : Application} (t : Twins A B)

inductive CallProgress.Alike : CallProgress A → CallProgress B → Prop where
  | running (mode : RunMode) {k : Task A.Call} {k' : Task B.Call} (task : k.Alike t.Call k') :
      Alike (.running mode k) (.running mode k')
  | answered {a a' : Except BridgeError Json} (answer : AnswerAlike a a') :
      Alike (.answered a) (.answered a')
  | escaped (p : Panic) : Alike (.escaped p) (.escaped p)

structure Bridge.Alike (b : Bridge A) (b' : Bridge B) : Prop where
  config : b.config = b'.config
  registry : b.registry.Alike t b'.registry
  world : t.World b.world b'.world
  now : b.now = b'.now
  channels : List.Forall₂ (Channel.Alike t.Stream) b.channels b'.channels
  connections : List.Forall₂ (Connection.Alike t) b.connections b'.connections
  calls : List.Forall₂ (CallProgress.Alike t) b.calls b'.calls
  files : b.files = b'.files

/-- The same act; registries that come into force are made of declarations that are alike. -/
inductive Bridge.Act.Alike : Bridge.Act A → Bridge.Act B → Prop where
  | call (name : String) (payload : Json) : Alike (.call name payload) (.call name payload)
  | create (name : String) (payload : Json) : Alike (.create name payload) (.create name payload)
  | attach (id : Uuid) : Alike (.attach id) (.attach id)
  | close (id : Uuid) : Alike (.close id) (.close id)
  | closeAll : Alike .closeAll .closeAll
  | receive (index : Nat) : Alike (.receive index) (.receive index)
  | dropSubscription (index : Nat) : Alike (.dropSubscription index) (.dropSubscription index)
  | connect (name : String) (inbound : Inbound) (sink : Sink) :
      Alike (.connect name inbound sink) (.connect name inbound sink)
  | dropConnection (index : Nat) : Alike (.dropConnection index) (.dropConnection index)
  | replace {d : Declarations A} {d' : Declarations B} (declared : d.Alike t d') :
      Alike (.replace d) (.replace d')
  | reload {d : Declarations A} {d' : Declarations B} (declared : d.Alike t d') :
      Alike (.reload d) (.reload d')
  | move (m : Bridge.Move) : Alike (.move m) (.move m)
  | pass (delay : Nat) : Alike (.pass delay) (.pass delay)

end Alike

namespace Bridge

variable {A B : Application} {t : Twins A B}

theorem start_alike (config : Config) {r : Registry A} {r' : Registry B} (registries : r.Alike t r')
    {w : A.World} {w' : B.World} (worlds : t.World w w') (files : FileTree) :
    (start config r w files).Alike t (start config r' w' files) :=
  ⟨rfl, registries, worlds, rfl, .nil, .nil, .nil, rfl⟩

theorem streamStart_alike {r : Registry A} {r' : Registry B} (h : r.Alike t r') (name : String)
    (payload : Json) :
    Except.Rel t.Stream (streamStart r name payload) (streamStart r' name payload) := by
  unfold streamStart
  match r.command? name, r'.command? name, h.command? name with
  | _, _, .none => exact .error _
  | some c, some c', .some both =>
    simp only [both.kind, h.definitions, both.prepareArgs_eq]
    match c'.kind, c.handler, c'.handler, both.handler with
    | .unary, _, _, _ => exact .error _
    | .stream, _, _, .none => exact .error _
    | .stream, _, _, .some (.unary ..) => exact .error _
    | .stream, _, _, .some (.stream states) =>
      dsimp only
      cases prepareArgs r'.definitions c' payload with
      | error e => exact .error e
      | ok args => exact .ok (states args)

theorem CallProgress.ended_alike (mode : RunMode) {s : A.Call} {s' : B.Call} (states : t.Call s s')
    {o o' : Outcome Payload} (outcome : o.Alike o') :
    CallProgress.Alike t (CallProgress.ended mode s o) (CallProgress.ended mode s' o') := by
  have caught : uncaught? mode s o = uncaught? mode s' o' := by
    cases outcome with
    | done | failed => rfl
    | panicked p => simp only [uncaught?, t.entering states]
  simp only [CallProgress.ended, caught]
  cases uncaught? mode s' o' with
  | none => exact .answered (mode.answer_alike outcome)
  | some p => exact .escaped p

theorem CallProgress.move_alike {now : Nat} {pick : Alternative} {w : A.World} {w' : B.World}
    (worlds : t.World w w') {c : CallProgress A} {c' : CallProgress B}
    (h : CallProgress.Alike t c c') :
    Option.Rel (Both t.World (CallProgress.Alike t)) (CallProgress.move now pick w c)
      (CallProgress.move now pick w' c') := by
  cases h with
  | answered | escaped => exact .none
  | running mode task =>
    apply (Task.step_alike t.call worlds task).map
    rintro ⟨u, turn⟩ ⟨u', turn'⟩ ⟨world, turns⟩
    cases turns with
    | onward task => exact ⟨world, .running mode task⟩
    | forked _ task => exact ⟨world, .running mode task⟩
    | ended outcome => exact ⟨world, ended_alike mode task.state outcome⟩

namespace Alike

variable {b : Bridge A} {b' : Bridge B}

theorem beginCall (h : b.Alike t b') (name : String) (payload : Json) :
    (b.beginCall name payload).Alike t (b'.beginCall name payload) := by
  unfold Bridge.beginCall
  match b.registry.invocation name payload, b'.registry.invocation name payload,
    h.registry.invocation name payload with
  | _, _, .error e => exact { h with calls := h.calls.concat (.answered (.error rfl)) }
  | .ok i, .ok i', .ok both =>
    refine { h with calls := h.calls.concat ?_ }
    dsimp only
    rw [both.mode]
    exact .running _ (Task.at_alike both.start)

theorem createChannel (h : b.Alike t b') (name : String) (payload : Json) :
    Except.Rel (Bridge.Alike t) (b.createChannel name payload) (b'.createChannel name payload) := by
  unfold Bridge.createChannel
  match streamStart b.registry name payload, streamStart b'.registry name payload,
    streamStart_alike h.registry name payload with
  | _, _, .error e => exact .error e
  | .ok s, .ok s', .ok states =>
    have fresh := Channel.create_alike name states b.config.channelCapacity
      (b.now + b.config.attachTimeoutSecs * 1000)
    simp only [bind, Except.bind, pure, Except.pure]
    refine .ok { h with channels := h.channels.concat ?_ }
    rw [← h.config, ← h.now]
    exact fresh

theorem setChannel (h : b.Alike t b') (index : Nat) {c : Channel A.Stream} {c' : Channel B.Stream}
    (channels : c.Alike t.Stream c') :
    (b.setChannel index c).Alike t (b'.setChannel index c') :=
  { h with channels := h.channels.set index channels }

theorem channelIndex?_eq (h : b.Alike t b') (id : Uuid) : b.channelIndex? id = b'.channelIndex? id := by
  simp only [channelIndex?, h.channels.length_eq]

theorem withChannel (h : b.Alike t b') (id : Uuid)
    {f : Channel A.Stream → Except ChannelError (Channel A.Stream)}
    {f' : Channel B.Stream → Except ChannelError (Channel B.Stream)}
    (same : (Channel.Alike t.Stream ⇒ Except.Rel (Channel.Alike t.Stream)) f f') :
    Except.Rel (Both (Bridge.Alike t) Eq) (b.withChannel id f) (b'.withChannel id f') := by
  unfold Bridge.withChannel
  rw [h.channelIndex?_eq]
  cases b'.channelIndex? id with
  | none => exact .error _
  | some i =>
    dsimp only
    match b.channels[i]?, b'.channels[i]?, h.channels.getElem? i with
    | _, _, .none => exact .error _
    | _, _, .some channels => exact (same channels).map fun _ _ after => ⟨h.setChannel i after, rfl⟩

theorem attach (h : b.Alike t b') (id : Uuid) :
    Except.Rel (Both (Bridge.Alike t) Eq) (b.attach id) (b'.attach id) :=
  h.withChannel id fun _ _ channels => channels.attach id.text

theorem closeChannel (h : b.Alike t b') (id : Uuid) :
    Except.Rel (Both (Bridge.Alike t) Eq) (b.closeChannel id) (b'.closeChannel id) :=
  h.withChannel id fun _ _ channels => channels.close id.text

theorem receive (h : b.Alike t b') (index : Nat) :
    Both (Bridge.Alike t) Received.Alike (b.receive index) (b'.receive index) := by
  unfold Bridge.receive
  match b.channels[index]?, b'.channels[index]?, h.channels.getElem? index with
  | _, _, .none => exact ⟨h, .finished⟩
  | _, _, .some channels => exact ⟨h.setChannel index channels.receive.1, channels.receive.2⟩

theorem dropSubscription (h : b.Alike t b') (index : Nat) :
    (b.dropSubscription index).Alike t (b'.dropSubscription index) := by
  unfold Bridge.dropSubscription
  match b.channels[index]?, b'.channels[index]?, h.channels.getElem? index with
  | _, _, .none => exact h
  | _, _, .some channels => exact h.setChannel index channels.drop

theorem connect (h : b.Alike t b') (name : String) (inbound : Inbound) (sink : Sink) :
    Except.Rel (Bridge.Alike t) (b.connect name inbound sink) (b'.connect name inbound sink) := by
  unfold Bridge.connect socketHandler
  match b.registry.socket? name, b'.registry.socket? name, h.registry.socket? name with
  | _, _, .none => exact .error _
  | some s, some s', .some handlers =>
    have fresh := Connection.create_alike handlers b.registry.definitions b.config.channelCapacity
      inbound sink
    simp only [bind, Except.bind, pure, Except.pure]
    refine .ok { h with connections := h.connections.concat ?_ }
    rw [← h.config, ← h.registry.definitions]
    exact fresh

theorem dropConnection (h : b.Alike t b') (index : Nat) :
    (b.dropConnection index).Alike t (b'.dropConnection index) := by
  unfold Bridge.dropConnection
  match b.connections[index]?, b'.connections[index]?, h.connections.getElem? index with
  | _, _, .none => exact h
  | _, _, .some connections =>
    have dropped := connections.drop h.world
    exact { h with world := dropped.1, connections := h.connections.set index dropped.2 }

theorem prepareClient_eq (h : b.Alike t b') {r : Registry A} {r' : Registry B}
    (registries : r.Alike t r') : b.prepareClient r = b'.prepareClient r' := by
  simp only [prepareClient, TypeScript.install, h.config, h.files, registries.generate_eq]

theorem replace (h : b.Alike t b') {d : Declarations A} {d' : Declarations B}
    (declared : d.Alike t d') : (b.act (.replace d)).Alike t (b'.act (.replace d')) := by
  have built := Registry.build_alike declared
  simp only [Bridge.act]
  revert built
  generalize Registry.build d = made
  generalize Registry.build d' = made'
  intro built
  cases built with
  | error e => exact h
  | ok registries =>
    dsimp only [Bridge.replace]
    exact { h with registry := registries }

theorem reload (h : b.Alike t b') {d : Declarations A} {d' : Declarations B}
    (declared : d.Alike t d') :
    (b.reload (Registry.build d)).1.Alike t (b'.reload (Registry.build d')).1 := by
  unfold Bridge.reload
  match Registry.build d, Registry.build d', Registry.build_alike declared with
  | _, _, .error e => exact h
  | .ok r, .ok r', .ok registries =>
    dsimp only
    rw [h.prepareClient_eq registries]
    match b'.prepareClient r' with
    | (files, .error e) => exact { h with files := rfl }
    | (files, .ok ()) => exact { h with files := rfl, registry := registries }

/-- The moves of bridges that are alike are open together and lead to bridges alike. -/
theorem move? (h : b.Alike t b') (m : Move) : Option.Rel (Bridge.Alike t) (b.move? m) (b'.move? m) := by
  cases m with
  | call i pick =>
    simp only [Bridge.move?, ← h.now]
    apply Option.Rel.map _ ((h.calls.getElem? i).bind fun _ _ calls =>
      CallProgress.move_alike h.world calls)
    intro _ _ after
    exact { h with world := after.1, calls := h.calls.set i after.2, now := rfl }
  | channel i m =>
    simp only [Bridge.move?, ← h.now]
    apply Option.Rel.map _ ((h.channels.getElem? i).bind fun _ _ channels =>
      channels.move t.stream h.world m)
    intro _ _ after
    exact { h with world := after.1, channels := h.channels.set i after.2, now := rfl }
  | connection i m =>
    simp only [Bridge.move?, ← h.now]
    apply Option.Rel.map _ ((h.connections.getElem? i).bind fun _ _ connections =>
      connections.move h.world m)
    intro _ _ after
    exact { h with world := after.1, connections := h.connections.set i after.2, now := rfl }

theorem act (h : b.Alike t b') {a : Act A} {a' : Act B} (acts : a.Alike t a') :
    (b.act a).Alike t (b'.act a') := by
  cases acts with
  | call name payload => exact h.beginCall name payload
  | create name payload => exact (h.createChannel name payload).getD h
  | attach id => exact ((h.attach id).getD ⟨h, rfl⟩).1
  | close id => exact ((h.closeChannel id).getD ⟨h, rfl⟩).1
  | closeAll => exact { h with channels := List.rel_map (fun _ _ channels => channels.shut) h.channels }
  | receive index => exact (h.receive index).1
  | dropSubscription index => exact h.dropSubscription index
  | connect name inbound sink => exact (h.connect name inbound sink).getD h
  | dropConnection index => exact h.dropConnection index
  | replace declared => exact h.replace declared
  | reload declared => exact h.reload declared
  | move m => exact (h.move? m).getD h
  | pass delay => exact { h with now := congrArg (· + delay) h.now }

end Alike
end Bridge
end CommandBridge
