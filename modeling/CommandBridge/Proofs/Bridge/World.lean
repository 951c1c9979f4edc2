import CommandBridge.Proofs.Bridge.Connections
import Mathlib.Tactic.Common

/-!
# The world of a bridge

The world changes only where a handler asks for it or is dropped. So a relation that every such
change keeps to holds between the world before an act and the world after it, and, where it can be
chained, between those before and after every run.
-/

set_option autoImplicit false

namespace CommandBridge

variable {W C Out Req Res S : Type}

def Outlet.Alters : Outlet W Req S → W → W → Prop
  | .waitClosed _ _ ready, w, w' => ∃ s, ready w = some (w', s)
  | _, _, _ => False

def Action.Alters (outlet : Out → W → W → Prop) : Action W Out Res S → W → W → Prop
  | .update f, w, w' => w' = (f w).1
  | .wait _ ready, w, w' => ∃ s, ready w = some (w', s)
  | .client request, w, w' => outlet request w w'
  | _, _, _ => False

/-- Whatever a handler asks for and wherever it is dropped, the world keeps to the relation. -/
structure Behaviour.Keeps (b : Behaviour W Out Res S) (outlet : Out → W → W → Prop)
    (R : W → W → Prop) : Prop where
  same : ∀ w, R w w
  asked : ∀ s w w', (b.next s).Alters outlet w w' → R w w'
  dropped : ∀ s w, R w (b.release s w)

namespace Task

variable {R : W → W → Prop} {w w' : W} {now : Nat} {pick : Alternative} {t : Task S}
  {turn : Turn S Res}

theorem waitStep_world {alarm : Option (Alarm S)} {ready : W → Option (W × S)} (same : R w w)
    (asked : ∀ s, ready w = some (w', s) → R w w')
    (h : waitStep now pick alarm ready w t = some (w', turn)) : R w w' := by
  unfold waitStep at h
  split at h
  · cases h
    exact same
  · obtain ⟨⟨w₁, s⟩, waited, e⟩ := Option.map_eq_some_iff.mp h
    cases e
    unfold awaited at waited
    split at waited
    · exact asked s waited
    · split at waited
      · split at waited <;> cases waited
        exact same
      · cases waited
    · cases waited

theorem step_world {b : Behaviour W Empty Res S} {outlet : Empty → W → W → Prop}
    (keeps : b.Keeps outlet R) (h : t.step b now pick w = some (w', turn)) : R w w' := by
  unfold step at h
  split at h
  · cases h
    exact keeps.dropped t.state w
  · next asked =>
    cases h
    exact keeps.asked t.state w _ (asked ▸ rfl)
  · cases h
    exact keeps.same w
  · next asked =>
    exact waitStep_world (keeps.same w)
      (fun s ready => keeps.asked t.state w w' (asked ▸ ⟨s, ready⟩)) h

theorem clientStep_world {b : Behaviour W (Outlet W Req S) Res S} {view : ClientView C Req}
    {ticket : Nat} {c c' : C} (keeps : b.Keeps Outlet.Alters R)
    (h : t.clientStep b view now pick ticket w c = some (w', c', turn)) : R w w' := by
  have waited {alarm : Option (Alarm S)} {ready : W → Option (W × S)}
      (asked : ∀ s, ready w = some (w', s) → R w w')
      (h : (waitStep now pick alarm ready w t).map (fun r => (r.1, c, r.2)) = some (w', c', turn)) :
      R w w' := by
    obtain ⟨⟨w₁, turn₁⟩, waited, e⟩ := Option.map_eq_some_iff.mp h
    cases e
    exact waitStep_world (keeps.same w) asked waited
  unfold clientStep at h
  split at h
  · cases h
    exact keeps.dropped t.state w
  · next asked =>
    cases h
    exact keeps.asked t.state w _ (asked ▸ rfl)
  · cases h
    exact keeps.same w
  · next asked =>
    exact waited (fun s ready => keeps.asked t.state w w' (asked ▸ ⟨s, ready⟩)) h
  · split at h
    · cases h
      exact keeps.same w
    · cases h
      exact keeps.same w
    · cases h
  · cases h
    exact keeps.same w
  · cases h
    exact keeps.same w
  · next asked =>
    split at h
    · split at h <;> cases h
      exact keeps.same w
    · exact waited (fun s ready => keeps.asked t.state w w' (asked ▸ ⟨s, ready⟩)) h

end Task

structure Application.Keeps (A : Application) (R : A.World → A.World → Prop) : Prop where
  call : A.call.Keeps (fun _ _ _ => False) R
  stream : A.stream.Keeps Outlet.Alters R
  socket : A.socket.Keeps Outlet.Alters R

variable {A : Application} {R : A.World → A.World → Prop} {w w' : A.World} {now : Nat}

theorem Channel.move_world (keeps : A.stream.Keeps Outlet.Alters R) {c d : Channel A.Stream}
    {m : ChannelMove} (h : c.move A.stream now w m = some (w', d)) : R w w' := by
  cases m with
  | expire =>
    simp only [Channel.move] at h
    split at h
    · split at h <;> cases h
      exact keeps.same w
    · cases h
  | release =>
    simp only [Channel.move, Channel.releaseStep] at h
    split at h
    · split at h
      · cases h
        exact keeps.dropped _ w
      · cases h
        exact keeps.same w
      · cases h
    · cases h
  | drive pick =>
    simp only [Channel.move, Channel.driveStep] at h
    split at h
    · obtain ⟨⟨w₁, o, turn⟩, stepped, e⟩ := Option.map_eq_some_iff.mp h
      have onward := Task.clientStep_world keeps stepped
      cases turn <;> cases e <;> exact onward
    · split at h <;> cases h <;> exact keeps.same w
    · cases h
  | fork index pick =>
    simp only [Channel.move, Channel.forkStep] at h
    split at h
    · obtain ⟨⟨w₁, o, turn⟩, stepped, e⟩ := Option.map_eq_some_iff.mp h
      have onward := Task.clientStep_world keeps stepped
      cases turn <;> cases e <;> exact onward
    · cases h

namespace Connection

variable {c d : Connection A}

theorem releaseWork_world (keeps : A.socket.Keeps Outlet.Alters R) (work : Work A.Socket)
    (w : A.World) : R w (releaseWork work w) := by
  cases work with
  | running t => exact keeps.dropped t.state w
  | reporting e => exact keeps.same w

theorem workStep_world (keeps : A.socket.Keeps Outlet.Alters R) {pick : Alternative}
    {work : Work A.Socket} {s : WorkStep A} (h : c.workStep now pick w work = some (w', s)) :
    R w w' := by
  cases work with
  | running t =>
    obtain ⟨⟨w₁, o, turn⟩, stepped, e⟩ := Option.map_eq_some_iff.mp h
    have onward := Task.clientStep_world keeps stepped
    cases turn with
    | onward | forked => cases e; exact onward
    | ended outcome =>
      simp only at e
      split at e <;> cases e <;> exact onward
  | reporting e =>
    simp only [workStep] at h
    split at h <;> cases h <;> exact keeps.same w

theorem move_world (keeps : A.socket.Keeps Outlet.Alters R) {m : ConnectionMove}
    (h : c.move now w m = some (w', d)) : R w w' := by
  cases m with
  | release =>
    simp only [move, releaseStep] at h
    split at h
    · split at h <;> cases h
      exact releaseWork_world keeps _ w
    · cases h
  | work pick =>
    simp only [move, readerStep] at h
    split at h
    all_goals
      first
      | cases h
      | obtain ⟨⟨w₁, s⟩, stepped, e⟩ := Option.map_eq_some_iff.mp h
        have onward := workStep_world keeps stepped
        cases s <;> cases e <;> exact onward
  | arrive =>
    simp only [move, arriveStep] at h
    split at h
    · cases h
    split at h
    · cases h
    split at h
    · cases h; exact keeps.same w
    · cases h; exact keeps.same w
    · cases h; exact releaseWork_world keeps _ w
    · cases h
  | listen | write =>
    obtain ⟨d', stepped, e⟩ := Option.map_eq_some_iff.mp h
    cases e
    exact keeps.same w
  | fork index pick =>
    simp only [move, forkStep] at h
    split at h
    · obtain ⟨⟨w₁, o, turn⟩, stepped, e⟩ := Option.map_eq_some_iff.mp h
      have onward := Task.clientStep_world keeps stepped
      cases turn <;> cases e <;> exact onward
    · cases h

def worldAfter (w : A.World) (c : Connection A) : ConnectionAct → A.World
  | .drop => (c.drop w).1
  | .move now m => ((c.move now w m).map Prod.fst).getD w

theorem drop_world (keeps : A.socket.Keeps Outlet.Alters R) (c : Connection A) (w : A.World) :
    R w (c.drop w).1 := by
  unfold drop
  split
  · exact releaseWork_world keeps _ w
  · exact keeps.same w

end Connection

namespace Bridge

variable {b : Bridge A}

theorem withChannel_world (b : Bridge A) (id : Uuid)
    (f : Channel A.Stream → Except ChannelError (Channel A.Stream)) (n : Nat) :
    ((b.withChannel id f).toOption.getD (b, n)).1.world = b.world := by
  unfold withChannel
  cases b.channelIndex? id with
  | none => rfl
  | some j =>
    cases there : b.channels[j]? with
    | none => simp only [there]; rfl
    | some d =>
      simp only [there]
      cases f d <;> rfl

/-- What an act of a session does to the world keeps to the relation, and no other act changes it. -/
theorem act_world (keeps : A.Keeps R) (b : Bridge A) (a : Act A) : R b.world (b.act a).world := by
  have same {b' : Bridge A} (e : b'.world = b.world) : R b.world b'.world := by
    rw [e]
    exact keeps.call.same b.world
  cases a with
  | call | closeAll | pass => exact same rfl
  | create name payload =>
    simp only [act]
    cases created : b.createChannel name payload with
    | error e => exact same rfl
    | ok b' =>
      obtain ⟨start, -, rfl⟩ := createChannel_ok created
      exact same rfl
  | attach id => exact same (b.withChannel_world id (fun c => c.attach id.text) 0)
  | close id => exact same (b.withChannel_world id (fun c => c.close id.text) 0)
  | receive j =>
    simp only [act, receive]
    split <;> exact same rfl
  | dropSubscription j =>
    simp only [act, dropSubscription]
    split <;> exact same rfl
  | connect name inbound sink =>
    simp only [act]
    cases opened : b.connect name inbound sink with
    | error e => exact same rfl
    | ok b' =>
      obtain ⟨handler, -, rfl⟩ := connect_ok opened
      exact same rfl
  | dropConnection j =>
    simp only [act, dropConnection]
    split
    · next c _ => exact Connection.drop_world keeps.socket c b.world
    · exact same rfl
  | replace d =>
    simp only [act]
    split <;> exact same rfl
  | reload d =>
    simp only [act, reload]
    split
    · exact same rfl
    · split <;> exact same rfl
  | move m =>
    simp only [act]
    cases moved : b.move? m with
    | none => exact same rfl
    | some b' =>
      cases m with
      | call j pick =>
        obtain ⟨⟨w, call⟩, stepped, e⟩ := Option.map_eq_some_iff.mp moved
        obtain ⟨call₀, -, stepped⟩ := Option.bind_eq_some_iff.mp stepped
        cases e
        cases call₀ with
        | answered | escaped => cases stepped
        | running mode t =>
          obtain ⟨⟨w₁, turn⟩, stepped, e⟩ := Option.map_eq_some_iff.mp stepped
          have onward := Task.step_world keeps.call stepped
          cases turn <;> cases e <;> exact onward
      | channel j m =>
        obtain ⟨⟨w, c⟩, stepped, e⟩ := Option.map_eq_some_iff.mp moved
        obtain ⟨c₀, -, stepped⟩ := Option.bind_eq_some_iff.mp stepped
        cases e
        exact Channel.move_world keeps.stream stepped
      | connection j m =>
        obtain ⟨⟨w, c⟩, stepped, e⟩ := Option.map_eq_some_iff.mp moved
        obtain ⟨c₀, -, stepped⟩ := Option.bind_eq_some_iff.mp stepped
        cases e
        exact Connection.move_world keeps.socket stepped

/-- What an act on the bridge does to the world that is one on a connection. -/
theorem act_world_of_connection {i : Nat} {c : Connection A} {a : Act A} {x : ConnectionAct}
    (there : b.connections[i]? = some c) (seen : b.connectionAct? i a = some x) :
    (b.act a).world = c.worldAfter b.world x := by
  unfold connectionAct? at seen
  split at seen
  · next j =>
    split at seen
    · next same =>
      cases seen
      subst same
      simp only [act, dropConnection, there, Connection.worldAfter]
    · cases seen
  · next j m =>
    split at seen
    · next same =>
      cases seen
      subst same
      simp only [act, move?, there, Option.bind_some, Connection.worldAfter]
      cases c.move b.now b.world m <;> rfl
    · cases seen
  · cases seen

theorem run_world (keeps : A.Keeps R) (chained : ∀ {w w' w''}, R w w' → R w' w'' → R w w'')
    (b : Bridge A) (acts : List (Act A)) : R b.world (b.run acts).world := by
  induction acts generalizing b with
  | nil => exact keeps.call.same b.world
  | cons a rest ih => exact chained (act_world keeps b a) (ih (b.act a))

end Bridge
end CommandBridge
