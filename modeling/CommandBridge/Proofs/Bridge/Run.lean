import CommandBridge.Bridge.Basic
import CommandBridge.Registry.Build

/-!
# Runs of a bridge

A run is a list of acts, in any order: requests of clients, what the owner does, moves of the
sessions and the passing of time. An act that is refused or not open changes nothing, so the
runs from a start reach every state that a bridge can be in. Registries come into force only
when they build. Each act is about one part of the bridge and leaves the others alone.
-/

set_option autoImplicit false

namespace CommandBridge.Bridge

variable {A : Application}

/-- What may befall a bridge. -/
inductive Act (A : Application) where
  | call (name : String) (payload : Json)
  | create (name : String) (payload : Json)
  | attach (id : Uuid)
  | close (id : Uuid)
  | closeAll
  | receive (index : Nat)
  | dropSubscription (index : Nat)
  | connect (name : String) (inbound : Inbound) (sink : Sink)
  | dropConnection (index : Nat)
  | replace (d : Declarations A)
  | reload (d : Declarations A)
  | move (m : Move)
  | pass (delay : Nat)

def act (b : Bridge A) : Act A → Bridge A
  | .call name payload => b.beginCall name payload
  | .create name payload => (b.createChannel name payload).toOption.getD b
  | .attach id => ((b.attach id).toOption.getD (b, 0)).1
  | .close id => ((b.closeChannel id).toOption.getD (b, 0)).1
  | .closeAll => b.closeAll
  | .receive i => (b.receive i).1
  | .dropSubscription i => b.dropSubscription i
  | .connect name inbound sink => (b.connect name inbound sink).toOption.getD b
  | .dropConnection i => b.dropConnection i
  | .replace d =>
    match Registry.build d with
    | .ok r => (b.replace r).1
    | .error _ => b
  | .reload d => (b.reload (Registry.build d)).1
  | .move m => (b.move? m).getD b
  | .pass delay => { b with now := b.now + delay }

inductive Part where
  | calls | channels | connections | registry | clock

def Act.part : Act A → Part
  | .call .. | .move (.call ..) => .calls
  | .create .. | .attach _ | .close _ | .closeAll | .receive _ | .dropSubscription _
  | .move (.channel ..) => .channels
  | .connect .. | .dropConnection _ | .move (.connection ..) => .connections
  | .replace _ | .reload _ => .registry
  | .pass _ => .clock

def Built (b : Bridge A) : Prop := ∃ d, Registry.build d = .ok b.registry

inductive Touched (b : Bridge A) : Part → Bridge A → Prop where
  | calls (w : A.World) (calls : List (CallProgress A)) :
      Touched b .calls { b with world := w, calls := calls }
  | channels (w : A.World) (channels : List (Channel A.Stream)) :
      Touched b .channels { b with world := w, channels := channels }
  | connections (w : A.World) (connections : List (Connection A)) :
      Touched b .connections { b with world := w, connections := connections }
  | registry (files : FileTree) (r : Registry A)
      (inForce : r = b.registry ∨ ∃ d, Registry.build d = .ok r) :
      Touched b .registry { b with files := files, registry := r }
  | clock (now : Nat) : Touched b .clock { b with now := now }

variable {b b' : Bridge A} {p : Part}

theorem Touched.calls_eq (h : Touched b p b') (other : p ≠ .calls) : b'.calls = b.calls := by
  cases h with
  | calls => exact absurd rfl other
  | _ => rfl

theorem Touched.channels_eq (h : Touched b p b') (other : p ≠ .channels) :
    b'.channels = b.channels := by
  cases h with
  | channels => exact absurd rfl other
  | _ => rfl

theorem Touched.connections_eq (h : Touched b p b') (other : p ≠ .connections) :
    b'.connections = b.connections := by
  cases h with
  | connections => exact absurd rfl other
  | _ => rfl

theorem Touched.registry_eq (h : Touched b p b') (other : p ≠ .registry) :
    b'.registry = b.registry := by
  cases h with
  | registry => exact absurd rfl other
  | _ => rfl

theorem Touched.registry_cases (h : Touched b p b') : b'.registry = b.registry ∨ b'.Built := by
  cases h with
  | registry files r inForce => exact inForce
  | _ => exact .inl rfl

/-- An operation on a channel by its identifier is about channels. -/
theorem withChannel_touched (b : Bridge A) (id : Uuid)
    (f : Channel A.Stream → Except ChannelError (Channel A.Stream)) (n : Nat) :
    Touched b .channels ((b.withChannel id f).toOption.getD (b, n)).1 := by
  unfold withChannel
  cases b.channelIndex? id with
  | none => exact .channels b.world b.channels
  | some j =>
    cases there : b.channels[j]? with
    | none =>
      simp only [there]
      exact .channels b.world b.channels
    | some d =>
      simp only [there]
      cases f d with
      | error e => exact .channels b.world b.channels
      | ok d' => exact .channels b.world (b.channels.set j d')

theorem createChannel_ok {name : String} {payload : Json}
    (created : b.createChannel name payload = .ok b') :
    ∃ start, streamStart b.registry name payload = .ok start ∧
      b' = { b with channels := b.channels ++ [.create name start b.config.channelCapacity
        (b.now + b.config.attachTimeoutSecs * 1000)] } := by
  simp only [createChannel, bind, Except.bind, pure, Except.pure] at created
  split at created
  · cases created
  · next start found =>
    cases created
    exact ⟨start, found, rfl⟩

theorem connect_ok {name : String} {inbound : Inbound} {sink : Sink}
    (opened : b.connect name inbound sink = .ok b') :
    ∃ handler, b.registry.socket? name = some handler ∧
      b' = { b with connections := b.connections ++
        [.create handler b.registry.definitions b.config.channelCapacity inbound sink] } := by
  simp only [connect, socketHandler, bind, Except.bind, pure, Except.pure] at opened
  cases found : b.registry.socket? name with
  | none => rw [found] at opened; cases opened
  | some handler =>
    rw [found] at opened
    cases opened
    exact ⟨handler, rfl, rfl⟩

theorem act_touched (b : Bridge A) (a : Act A) : Touched b a.part (b.act a) := by
  cases a with
  | call name payload => exact .calls b.world _
  | create name payload =>
    simp only [act]
    cases created : b.createChannel name payload with
    | error e => exact .channels b.world b.channels
    | ok b' =>
      obtain ⟨start, -, rfl⟩ := createChannel_ok created
      exact .channels b.world _
  | attach id => exact b.withChannel_touched id (fun c => c.attach id.text) 0
  | close id => exact b.withChannel_touched id (fun c => c.close id.text) 0
  | closeAll => exact .channels b.world _
  | receive j =>
    simp only [act, receive]
    split <;> exact .channels b.world _
  | dropSubscription j =>
    simp only [act, dropSubscription]
    split <;> exact .channels b.world _
  | connect name inbound sink =>
    simp only [act]
    cases opened : b.connect name inbound sink with
    | error e => exact .connections b.world b.connections
    | ok b' =>
      obtain ⟨handler, -, rfl⟩ := connect_ok opened
      exact .connections b.world _
  | dropConnection j =>
    simp only [act, dropConnection]
    split <;> exact .connections _ _
  | replace d =>
    simp only [act]
    split
    · next r built => exact .registry b.files r (.inr ⟨d, built⟩)
    · exact .registry b.files b.registry (.inl rfl)
  | reload d =>
    simp only [act, reload]
    split
    · exact .registry b.files b.registry (.inl rfl)
    · next r built =>
      split
      · exact .registry _ b.registry (.inl rfl)
      · exact .registry _ r (.inr ⟨d, built⟩)
  | move m =>
    cases m with
    | call j pick =>
      simp only [act, move?]
      cases b.calls[j]?.bind fun c => CallProgress.move b.now pick b.world c <;> exact .calls _ _
    | channel j m =>
      simp only [act, move?]
      cases b.channels[j]?.bind fun c => c.move A.stream b.now b.world m <;> exact .channels _ _
    | connection j m =>
      simp only [act, move?]
      cases b.connections[j]?.bind fun c => c.move b.now b.world m <;> exact .connections _ _
  | pass delay => exact .clock _

def run (b : Bridge A) (acts : List (Act A)) : Bridge A := acts.foldl act b

@[simp] theorem run_nil (b : Bridge A) : b.run [] = b := rfl

@[simp] theorem run_cons (b : Bridge A) (a : Act A) (rest : List (Act A)) :
    b.run (a :: rest) = (b.act a).run rest := rfl

theorem run_append (b : Bridge A) (acts more : List (Act A)) :
    b.run (acts ++ more) = (b.run acts).run more :=
  List.foldl_append

/-- What holds at first and is kept by every act holds after every run. -/
theorem run_induction {P : Bridge A → Prop} (step : ∀ b a, P b → P (b.act a)) {b : Bridge A}
    (start : P b) (acts : List (Act A)) : P (b.run acts) := by
  induction acts generalizing b with
  | nil => exact start
  | cons a rest ih => exact ih (step b a start)

/-- A registry that was built stays in force until another one that was built takes its place. -/
theorem built_run {b : Bridge A} (built : b.Built) (acts : List (Act A)) : (b.run acts).Built := by
  refine run_induction (fun b a h => ?_) built acts
  rcases (b.act_touched a).registry_cases with same | new
  · exact h.imp fun d e => same ▸ e
  · exact new

end CommandBridge.Bridge
