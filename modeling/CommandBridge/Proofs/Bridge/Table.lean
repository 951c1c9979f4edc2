import CommandBridge.Proofs.Bridge.Channels
import CommandBridge.Proofs.Bridge.Delivery
import CommandBridge.Proofs.Channel.Phases

/-!
# The table of channels

Which identifiers a bridge answers to, told from what befell each channel. An identifier is in
the table from its creation to the close or the timer that ends the wait for its attach, and
from its attach to the end of its subscription.
-/

set_option autoImplicit false

namespace CommandBridge.Bridge

open Channel

variable {A : Application} {b : Bridge A} {i : Nat} {c : Channel A.Stream}

def channelRecords (A : Application) :
    Sessions A (Channel A.Stream) (A.World × ChannelAct) (List ChannelEvent) where
  all := Bridge.channels
  seen? b i a := (b.channelAct? i a).map fun x => (b.world, x)
  act _ c x := c.act A.stream x.1 x.2
  note c log x := log ++ c.events A.stream x.1 x.2
  Fresh c := ∃ name start capacity expiry, c = .create name start capacity expiry
  changed h a := by
    rw [act_channel h a, Option.map_map]
    rfl
  added := act_created

def channelLog (i : Nat) (b : Bridge A) (acts : List (Act A)) : List ChannelEvent :=
  (channelRecords A).history i b acts []

/-- What holds of every channel of a bridge and its history after every run. -/
theorem told_run (config : Config) (registry : Registry A) (world : A.World) (files : FileTree)
    (acts : List (Act A))
    (there : ((start config registry world files).run acts).channels[i]? = some c) :
    Told c (channelLog i (start config registry world files) acts) ∧ ∃ acc, Delivery c acc := by
  refine Sessions.history_induction (s := channelRecords A)
    (P := fun c log => Told c log ∧ ∃ acc, Delivery c acc) ?_ ?_ acts rfl there
  · rintro c ⟨name, start, capacity, expiry, rfl⟩
    exact ⟨told_create name start capacity expiry, _, delivery_create name start capacity expiry⟩
  · rintro c log _ ⟨w, x⟩ ⟨told, acc, d⟩
    exact ⟨told_act told d w x, _, delivery_step d (step A.stream c acc w x)⟩

/-- No two channels have the same identifier. -/
def DistinctIds (b : Bridge A) : Prop :=
  ∀ i < b.channels.length, ∀ j < b.channels.length, Uuid.nth i = Uuid.nth j → i = j

theorem distinctIds_of_length (bound : b.channels.length ≤ Nat.pow 2 128) : b.DistinctIds := by
  intro i hi j hj same
  have value : (Uuid.nth i).value.val = (Uuid.nth j).value.val := by rw [same]
  have range : Nat.pow 2 128 = 340282366920938463463374607431768211456 := rfl
  simp only [Uuid.nth, Fin.ofNat, range] at value
  omega

theorem channelIndex?_eq_some {id : Uuid} (distinct : b.DistinctIds) :
    b.channelIndex? id = some i ↔ i < b.channels.length ∧ Uuid.nth i = id := by
  constructor
  · intro found
    have member := List.mem_of_find?_eq_some found
    exact ⟨List.mem_range.mp member, by simpa using List.find?_some found⟩
  · rintro ⟨bound, rfl⟩
    cases found : b.channelIndex? (Uuid.nth i) with
    | none =>
      have differs := List.find?_eq_none.mp found i (List.mem_range.mpr bound)
      simp at differs
    | some j =>
      have member := List.mem_of_find?_eq_some found
      have same : Uuid.nth j = Uuid.nth i := by simpa using List.find?_some found
      rw [distinct j (List.mem_range.mp member) i bound same]

theorem withChannel_isOk {id : Uuid}
    {f : Channel A.Stream → Except ChannelError (Channel A.Stream)} :
    (b.withChannel id f).isOk = true ↔
      ∃ i c, b.channelIndex? id = some i ∧ b.channels[i]? = some c ∧ (f c).isOk = true := by
  unfold withChannel
  cases b.channelIndex? id with
  | none => simp [Except.isOk, Except.toBool]
  | some i =>
    cases there : b.channels[i]? with
    | none => simp [there, Except.isOk, Except.toBool]
    | some c => cases changed : f c <;> simp [there, changed, Except.isOk, Except.toBool, Except.map]

theorem channelPhase?_isSome {id : Uuid} : (b.channelPhase? id).isSome = true ↔
    ∃ i c, b.channelIndex? id = some i ∧ b.channels[i]? = some c ∧ c.listed = true := by
  unfold channelPhase?
  cases b.channelIndex? id with
  | none => simp
  | some i => cases there : b.channels[i]? <;> simp [there]

section History

variable {log : List ChannelEvent}

theorem mem_attached (r : Recorded c log) : .attached ∈ log ↔ c.subscription ≠ .unattached := by
  have counted : .attached ∈ log ↔ 0 < log.countP ChannelEvent.isAttached := by
    rw [List.countP_pos_iff]
    constructor
    · exact fun h => ⟨_, h, rfl⟩
    · rintro ⟨e, h, is⟩
      cases e <;> first | exact h | cases is
  rw [counted, r.attached]
  by_cases alone : c.subscription = .unattached <;> simp [alone]

/-- What its history tells of a channel in the table: it still waits for its attach, or its
subscription goes on. -/
def Tabled (log : List ChannelEvent) : Prop :=
  (.attached ∉ log ∧ .closed ∉ log ∧ .expired ∉ log) ∨
    (.attached ∈ log ∧ (∀ m, .told m ∉ log) ∧ .dropped ∉ log)

theorem listed_iff (r : Recorded c log) : c.listed = true ↔ Tabled log := by
  have told : (∀ m, .told m ∉ log) ↔ c.subscription ≠ .complete := by
    rw [← not_exists, r.told]
  rw [Tabled, mem_attached r, told, r.dropped]
  by_cases alone : c.subscription = .unattached
  · simp [alone, r.waiting alone]
  · rw [r.bound alone]
    cases e : c.subscription <;> simp_all

theorem attach_isOk (r : Recorded c log) (id : String) :
    (c.attach id).isOk = true ↔ c.listed = true ∧ .attached ∉ log := by
  have parked := r.parked
  rw [mem_attached r, not_not, and_comm, ← parked]
  simp only [Channel.attach]
  by_cases listed : c.listed = true
  · cases e : c.parked <;> simp [listed, Except.isOk, Except.toBool]
  · have waits : ¬c.parked.isSome = true := fun waits => listed (parked.mp waits).2
    simpa [listed, Except.isOk, Except.toBool] using waits

theorem close_isOk (c : Channel A.Stream) (id : String) :
    (c.close id).isOk = true ↔ c.listed = true := by
  simp only [Channel.close]
  by_cases listed : c.listed = true
  · by_cases waits : c.parked.isSome = true <;> simp [listed, waits, Except.isOk, Except.toBool]
  · simp [listed, Except.isOk, Except.toBool]

theorem act_expire (r : Recorded c log) (attached : .attached ∈ log)
    (there : b.channels[i]? = some c) : ∃ expiry,
      (b.act (.move (.channel i .expire))).channels[i]? = some { c with expiry := expiry } := by
  have unparked : c.parked.isSome = false := by
    rw [Bool.eq_false_iff]
    intro parked
    exact (mem_attached r).mp attached (r.parked.mp parked).1
  rw [act_channel there]
  simp only [channelAct?, if_true, Option.map_some, Option.getD_some, Channel.act, Channel.move]
  cases e : c.expiry with
  | none => exact ⟨c.expiry, rfl⟩
  | some due =>
    by_cases elapsed : due ≤ b.now
    · exact ⟨none, by simp [elapsed, Channel.expire, unparked]⟩
    · exact ⟨c.expiry, by simp [elapsed]⟩

end History

def Act.Elsewhere (i : Nat) : Act A → Prop
  | .attach id | .close id => id ≠ Uuid.nth i
  | .closeAll => False
  | .receive j | .dropSubscription j | .move (.channel j _) => j ≠ i
  | _ => True

theorem act_elsewhere {a : Act A} (elsewhere : a.Elsewhere i) (there : b.channels[i]? = some c) :
    (b.act a).channels[i]? = some c := by
  have found {id : Uuid} (other : id ≠ Uuid.nth i) : b.channelIndex? id ≠ some i := by
    intro same
    have named : Uuid.nth i = id := by simpa using List.find?_some same
    exact other named.symm
  rw [act_channel there]
  cases a with
  | attach id | close id => simp [channelAct?, found elsewhere]
  | closeAll => cases elsewhere
  | receive j | dropSubscription j => simp [channelAct?, show j ≠ i from elsewhere]
  | move m =>
    cases m with
    | channel j m => simp [channelAct?, show j ≠ i from elsewhere]
    | call | connection => rfl
  | _ => rfl

/-- Which identifiers are in the table, and what the operations on channels leave alone. -/
theorem channel_table (config : Config) (registry : Registry A) (world : A.World)
    (files : FileTree) (acts : List (Act A))
    (distinct : ((start config registry world files).run acts).DistinctIds) :
    let b := (start config registry world files).run acts
    let log i := channelLog i (start config registry world files) acts
    (∀ id, (b.channelPhase? id).isSome = true ↔
      ∃ i < b.channels.length, Uuid.nth i = id ∧ Tabled (log i)) ∧
    (∀ i < b.channels.length, (log i).countP ChannelEvent.isAttached ≤ 1 ∧
      (log i).countP ChannelEvent.isStarted = (log i).countP ChannelEvent.isAttached) ∧
    (∀ id, (b.attach id).isOk = true ↔ (b.channelPhase? id).isSome = true ∧
      ∀ i, b.channelIndex? id = some i → .attached ∉ log i) ∧
    (∀ id, (b.closeChannel id).isOk = true ↔ (b.channelPhase? id).isSome = true) ∧
    (∀ i c, b.channels[i]? = some c → .attached ∈ log i → ∃ expiry,
      (b.act (.move (.channel i .expire))).channels[i]? = some { c with expiry := expiry }) ∧
    (∀ name payload e, b.createChannel name payload = .error e → b.act (.create name payload) = b) ∧
    (∀ id e, b.attach id = .error e → b.act (.attach id) = b) ∧
    (∀ id e, b.closeChannel id = .error e → b.act (.close id) = b) ∧
    (∀ a i c, Act.Elsewhere i a → b.channels[i]? = some c → (b.act a).channels[i]? = some c) := by
  intro b log
  have recorded {i : Nat} {c : Channel A.Stream} (there : b.channels[i]? = some c) :
      Recorded c (log i) := (told_run config registry world files acts there).1.recorded
  refine ⟨?_, ?_, ?_, ?_, ?_, ?_, ?_, ?_, ?_⟩
  · intro id
    rw [channelPhase?_isSome]
    constructor
    · rintro ⟨i, c, found, there, listed⟩
      obtain ⟨bound, same⟩ := (channelIndex?_eq_some distinct).mp found
      exact ⟨i, bound, same, (listed_iff (recorded there)).mp listed⟩
    · rintro ⟨i, bound, same, history⟩
      have there := List.getElem?_eq_getElem bound
      exact ⟨i, _, (channelIndex?_eq_some distinct).mpr ⟨bound, same⟩, there,
        (listed_iff (recorded there)).mpr history⟩
  · intro i bound
    have r := recorded (List.getElem?_eq_getElem bound)
    rw [r.started, r.attached]
    split <;> simp
  · intro id
    rw [attach, withChannel_isOk, channelPhase?_isSome]
    constructor
    · rintro ⟨i, c, found, there, done⟩
      obtain ⟨listed, fresh⟩ := (attach_isOk (recorded there) id.text).mp done
      refine ⟨⟨i, c, found, there, listed⟩, fun j same => ?_⟩
      rw [found] at same
      cases same
      exact fresh
    · rintro ⟨⟨i, c, found, there, listed⟩, fresh⟩
      exact ⟨i, c, found, there, (attach_isOk (recorded there) id.text).mpr ⟨listed, fresh i found⟩⟩
  · intro id
    rw [closeChannel, withChannel_isOk, channelPhase?_isSome]
    simp only [close_isOk]
  · intro i c there attached
    exact act_expire (recorded there) attached there
  · intro name payload e failed
    simp [act, failed, Except.toOption]
  · intro id e failed
    simp [act, failed, Except.toOption]
  · intro id e failed
    simp [act, failed, Except.toOption]
  · intro a i c elsewhere there
    exact act_elsewhere elsewhere there

def twoChannels : List (Act Script.application) :=
  [.create "once" (.object []), .create "once" (.object []), .attach (Uuid.nth 0),
    .close (Uuid.nth 1)]

theorem twoChannels_table :
    ((sole.run twoChannels).channelPhase? (Uuid.nth 0)).isSome = true ∧
      ¬((sole.run twoChannels).channelPhase? (Uuid.nth 1)).isSome = true := by
  have two : (sole.run twoChannels).channels.length = 2 := by decide
  have distinct : (sole.run twoChannels).DistinctIds := distinctIds_of_length (by rw [two]; decide)
  have first : channelLog 0 sole twoChannels = [.attached, .started] := rfl
  have second : channelLog 1 sole twoChannels = [.closed] := rfl
  have table : ∀ id, ((sole.run twoChannels).channelPhase? id).isSome = true ↔
      ∃ i < (sole.run twoChannels).channels.length, Uuid.nth i = id ∧
        Tabled (channelLog i sole twoChannels) := (channel_table _ _ _ _ twoChannels distinct).1
  constructor
  · refine (table _).mpr ⟨0, by rw [two]; decide, rfl, .inr ?_⟩
    simp [first]
  · intro there
    obtain ⟨i, bound, same, history⟩ := (table _).mp there
    cases distinct i bound 1 (by rw [two]; decide) same
    simp [Tabled, second] at history

end CommandBridge.Bridge
