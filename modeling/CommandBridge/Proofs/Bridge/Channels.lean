import CommandBridge.Proofs.Bridge.Sessions
import CommandBridge.Proofs.Channel.Life

/-!
# The channels of a bridge

What each act on a bridge is to one of its channels. An account of a channel over a run tells
what was pushed into it and what its subscription was given.
-/

set_option autoImplicit false

namespace CommandBridge.Bridge

variable {A : Application} {b : Bridge A} {i : Nat} {c : Channel A.Stream}

def channelAct? (b : Bridge A) (i : Nat) : Act A → Option ChannelAct
  | .attach id => if b.channelIndex? id = some i then some (.attach id.text) else none
  | .close id => if b.channelIndex? id = some i then some (.close id.text) else none
  | .closeAll => some .shut
  | .receive j => if j = i then some .receive else none
  | .dropSubscription j => if j = i then some .drop else none
  | .move (.channel j m) => if j = i then some (.move b.now m) else none
  | _ => none

theorem streamStart_ok {r : Registry A} {name : String} {payload : Json} {start : A.Stream}
    (found : streamStart r name payload = .ok start) :
    ∃ c, r.command? name = some c ∧ c.kind = .stream := by
  unfold streamStart at found
  split at found
  · cases found
  · next c listed =>
    split at found
    · next kind handler => exact ⟨c, listed, kind⟩
    · cases found

theorem setChannel_self (h : b.channels[i]? = some c) (j : Nat) (d : Channel A.Stream) :
    (b.setChannel j d).channels[i]? = some (if j = i then d else c) := by
  obtain ⟨bound, -⟩ := List.getElem?_eq_some_iff.mp h
  by_cases same : j = i
  · subst same
    simp [setChannel, bound]
  · rw [if_neg same, ← h]
    simp [setChannel, List.getElem?_set_ne same]

/-- The channel that an operation by identifier finds is changed by it, and no other. -/
theorem withChannel_self (h : b.channels[i]? = some c) (id : Uuid)
    (f : Channel A.Stream → Except ChannelError (Channel A.Stream)) (n : Nat) :
    ((b.withChannel id f).toOption.getD (b, n)).1.channels[i]? =
      some (if b.channelIndex? id = some i then (f c).toOption.getD c else c) := by
  unfold withChannel
  match found : b.channelIndex? id with
  | none => simpa [Except.toOption] using h
  | some j =>
    by_cases same : j = i
    · subst same
      simp only [h, if_true]
      cases f c with
      | error e => simpa [Except.map, Except.toOption] using h
      | ok d => simpa [Except.map, Except.toOption] using setChannel_self h j d
    · have other : (some j : Option Nat) ≠ some i := by simpa using same
      rw [if_neg other]
      cases there : b.channels[j]? with
      | none => simpa [there, Except.toOption] using h
      | some d =>
        cases changed : f d with
        | error e => simpa [there, changed, Except.map, Except.toOption] using h
        | ok d' => simpa [there, changed, Except.map, Except.toOption, same] using setChannel_self h j d'

/-- An act changes a channel only by what it is to that channel. -/
theorem act_channel (h : b.channels[i]? = some c) (a : Act A) :
    (b.act a).channels[i]? =
      some (((b.channelAct? i a).map (c.act A.stream b.world)).getD c) := by
  obtain ⟨bound, -⟩ := List.getElem?_eq_some_iff.mp h
  have touched := b.act_touched a
  cases a with
  | create name payload =>
    simp only [act, channelAct?, Option.map_none, Option.getD_none]
    cases created : b.createChannel name payload with
    | error e => exact h
    | ok b' =>
      obtain ⟨start, -, rfl⟩ := createChannel_ok created
      exact (List.getElem?_append_left bound).trans h
  | attach id =>
    simp only [act, attach, channelAct?]
    rw [withChannel_self h id (fun c => c.attach id.text) 0]
    split <;> rfl
  | close id =>
    simp only [act, closeChannel, channelAct?]
    rw [withChannel_self h id (fun c => c.close id.text) 0]
    split <;> rfl
  | closeAll => simp [act, closeAll, h, channelAct?, Channel.act]
  | receive j =>
    simp only [act, receive, channelAct?]
    by_cases same : j = i
    · subst same
      simpa [h, Channel.act] using setChannel_self h j c.receive.1
    · simp only [if_neg same, Option.map_none, Option.getD_none]
      split
      · simpa [same] using setChannel_self h j _
      · exact h
  | dropSubscription j =>
    simp only [act, dropSubscription, channelAct?]
    by_cases same : j = i
    · subst same
      simpa [h, Channel.act] using setChannel_self h j c.drop
    · simp only [if_neg same, Option.map_none, Option.getD_none]
      split
      · simpa [same] using setChannel_self h j _
      · exact h
  | move m =>
    cases m with
    | channel j m =>
      simp only [act, move?, channelAct?]
      by_cases same : j = i
      · subst same
        simp only [h, Option.bind_some, if_true, Option.map_some, Option.getD_some, Channel.act]
        cases c.move A.stream b.now b.world m with
        | none => exact h
        | some r => simp [bound]
      · simp only [if_neg same, Option.map_none, Option.getD_none]
        cases b.channels[j]?.bind fun c => c.move A.stream b.now b.world m with
        | none => exact h
        | some r => simpa [List.getElem?_set_ne same] using h
    | call | connection => rw [touched.channels_eq (by simp [Act.part])]; exact h
  | _ => rw [touched.channels_eq (by simp [Act.part])]; exact h

theorem withChannel_length (b : Bridge A) (id : Uuid)
    (f : Channel A.Stream → Except ChannelError (Channel A.Stream)) (n : Nat) :
    ((b.withChannel id f).toOption.getD (b, n)).1.channels.length = b.channels.length := by
  unfold withChannel
  cases b.channelIndex? id with
  | none => rfl
  | some j =>
    cases there : b.channels[j]? with
    | none => simp [there, Except.toOption]
    | some d => cases changed : f d <;> simp [there, changed, Except.map, Except.toOption, setChannel]

/-- An act adds no channel but one that the registry in force just accepted. -/
theorem act_channels (b : Bridge A) (a : Act A) :
    (b.act a).channels.length = b.channels.length ∨
      ∃ name payload start capacity expiry, a = .create name payload ∧
        streamStart b.registry name payload = .ok start ∧
        (b.act a).channels = b.channels ++ [Channel.create name start capacity expiry] := by
  have touched := b.act_touched a
  cases a with
  | create name payload =>
    simp only [act]
    cases created : b.createChannel name payload with
    | error e => exact .inl rfl
    | ok b' =>
      obtain ⟨start, found, rfl⟩ := createChannel_ok created
      exact .inr ⟨name, payload, start, _, _, rfl, found, rfl⟩
  | attach id => exact .inl (withChannel_length b id _ 0)
  | close id => exact .inl (withChannel_length b id _ 0)
  | closeAll => simp [act, closeAll]
  | receive j =>
    simp only [act, receive]
    split <;> simp [setChannel]
  | dropSubscription j =>
    simp only [act, dropSubscription]
    split <;> simp [setChannel]
  | move m =>
    cases m with
    | channel j m =>
      simp only [act, move?]
      cases b.channels[j]?.bind fun c => c.move A.stream b.now b.world m <;> simp
    | call | connection => exact .inl (by rw [touched.channels_eq (by simp [Act.part])])
  | _ => exact .inl (by rw [touched.channels_eq (by simp [Act.part])])

theorem act_created (h : b.channels[i]? = none) (a : Act A)
    (added : (b.act a).channels[i]? = some c) :
    ∃ name start capacity expiry, c = Channel.create name start capacity expiry := by
  rcases b.act_channels a with same | ⟨name, payload, start, capacity, expiry, -, -, e⟩
  · exact absurd added (getElem?_ne_some_of_length h same)
  · exact ⟨name, start, capacity, expiry, eq_of_getElem?_concat h (e ▸ added)⟩

def channelSessions (A : Application) : Sessions A (Channel A.Stream) ChannelAct Account where
  all := Bridge.channels
  seen? := channelAct?
  act := Channel.act A.stream
  note := Channel.note A.stream
  Fresh c := ∃ name start capacity expiry, c = .create name start capacity expiry
  changed := act_channel
  added := act_created

def account (i : Nat) (b : Bridge A) (acts : List (Act A)) (acc : Account) : Account :=
  (channelSessions A).history i b acts acc

end CommandBridge.Bridge
