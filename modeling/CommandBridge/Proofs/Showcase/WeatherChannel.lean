import CommandBridge.Proofs.Dispatch.Arguments
import CommandBridge.Proofs.Showcase.Outputs
import CommandBridge.Proofs.Showcase.UpdatesTold

/-!
# The channel of weather updates

Whoever asks for weather updates is told the first readings of the city one after the other, as many
as were asked for and none twice. The end is a close, and it comes after the last of them unless the
channel was closed before.
-/

set_option autoImplicit false

namespace CommandBridge.Showcase

open Bridge Channel Conformance Json

namespace Updates

/-- The members of a payload ask for the series: an interval that is left out is a second, and without
a count there is no end. -/
structure Wanted (u : Updates) (members : List (String × Json)) : Prop where
  city : Keyed.lookup "city" members = some (.string u.city)
  interval : (∃ n : UInt64, Keyed.lookup "interval_ms" members = some (.nat n.toNat) ∧
      u.interval = n.toNat) ∨
    ((∀ v, Keyed.lookup "interval_ms" members = some v → v = .null) ∧ u.interval = 1000)
  count : (∃ n, Keyed.lookup "count" members = some (.nat n.toNat) ∧ u.count = some n) ∨
    ((∀ v, Keyed.lookup "count" members = some v → v = .null) ∧ u.count = none)

def params : List Param :=
  [required "city" .string, defaulted "interval_ms" .integer, required "count" (.optional .integer)]

theorem command_found : ∃ c, registry.command? "weather_updates" = some c ∧ c.kind = .stream ∧
    c.params = params ∧ c.handler = some (.stream Stream.ofArgs) := ⟨_, rfl, rfl, rfl, rfl⟩

theorem params_distinct : (params.map Param.name).Nodup := by decide

variable {u : Updates} {members : List (String × Json)} {table : Definitions}

theorem Wanted.admits (h : Wanted u members) : ∀ p ∈ params, p.Admits table members := by
  simp only [params, List.forall_mem_cons]
  refine ⟨?_, ?_, ?_, nofun⟩
  · simp only [Param.Admits, required, h.city]
    exact .inr (validate_eq_ok.mpr (fits_string u.city).passes)
  · simp only [Param.Admits, defaulted]
    rcases h.interval with ⟨n, given, -⟩ | ⟨absent, -⟩
    · rw [given]
      exact .inr (validate_eq_ok.mpr (fits_uint64 n).passes)
    · cases given : Keyed.lookup "interval_ms" members with
      | none => rfl
      | some v => exact .inl ⟨absent v given, trivial⟩
  · simp only [Param.Admits, required]
    rcases h.count with ⟨n, given, -⟩ | ⟨absent, -⟩
    · rw [given]
      exact .inr (validate_eq_ok.mpr (check_optional_eq_ok.mpr (.inr (fits_uint32 n).passes)))
    · cases given : Keyed.lookup "count" members with
      | none => rfl
      | some v =>
        rw [absent v given]
        exact .inr (validate_eq_ok.mpr (check_optional_eq_ok.mpr (.inl rfl)))

/-- What the handler is given under the name of a parameter. -/
theorem lookup_given {p : Param} (declared : p ∈ params) :
    Keyed.lookup p.name (givenMembers params members) = p.given? members := by
  ext v
  rw [lookup_givenMembers params_distinct]
  constructor
  · rintro ⟨q, other, name, given⟩
    rwa [← List.inj_on_of_nodup_map params_distinct other declared name]
  · exact fun given => ⟨p, declared, rfl, given⟩

theorem Wanted.textArg (h : Wanted u members) :
    textArg ⟨givenMembers params members⟩ "city" = .ok u.city := by
  have given : Keyed.lookup "city" (givenMembers params members) = some (.string u.city) := by
    refine (lookup_given (p := required "city" .string) (by simp [params])).trans ?_
    simp [Param.given?, required, h.city]
  simp [Showcase.textArg, Args.get, given, NativeType.read, Except.map]

/-- An integer without a sign is read back from where it is written. -/
theorem read_nat {f : IntFormat} {n : Nat} (unsigned : f.signed = false) (narrow : f.bits ≤ 64)
    (small : n < Nat.pow 2 f.bits) : (NativeType.integer f).read (.nat n) = .ok (.nat n) ∧
      ∃ h, Json.nat n = .number (.int n h) := by
  have range : IntRange n := by
    have := Nat.pow_le_pow_right (show 0 < 2 by decide) narrow
    refine ⟨by omega, Int.ofNat_lt.mpr (Nat.lt_of_lt_of_le small this)⟩
  have number : Json.nat n = .number (.int n range) := congrArg Json.number (dif_pos range)
  have held : f.holds n = true := by
    simp only [IntFormat.holds, unsigned]
    simpa using Int.ofNat_lt.mpr small
  exact ⟨by rw [number, NativeType.read, if_pos held], range, number⟩

theorem Wanted.intervalArg (h : Wanted u members) :
    natArgOr ⟨givenMembers params members⟩ "interval_ms" .u64 1000 = .ok u.interval := by
  have given : Keyed.lookup "interval_ms" (givenMembers params members) =
      (defaulted "interval_ms" .integer).given? members :=
    lookup_given (p := defaulted "interval_ms" .integer) (by simp [params])
  rcases h.interval with ⟨n, there, interval⟩ | ⟨absent, interval⟩
  · obtain ⟨read, range, number⟩ := read_nat (f := .u64) rfl (by decide) n.toNat_lt
    have kept : (defaulted "interval_ms" .integer).given? members = some (.nat n.toNat) := by
      simp [Param.given?, defaulted, there, number]
    rw [kept] at given
    simp only [natArgOr, Args.getOr, Args.contains, Keyed.contains, given, Option.isSome_some,
      if_true, Args.get, Option.getD_some, read]
    simp [Except.map, number, interval]
  · have left : (defaulted "interval_ms" .integer).given? members = none := by
      unfold Param.given? defaulted
      cases there : Keyed.lookup "interval_ms" members with
      | none => rfl
      | some v => exact if_pos ⟨absent v there, rfl⟩
    rw [left] at given
    simp only [natArgOr, Args.getOr, Args.contains, Keyed.contains, given, interval]
    rfl

theorem Wanted.countArg (h : Wanted u members) :
    ∃ count, intArg? ⟨givenMembers params members⟩ "count" .u32 = .ok count ∧
      count.map (fun n => UInt32.ofNat n.toNat) = u.count := by
  have given : Keyed.lookup "count" (givenMembers params members) =
      (required "count" (.optional .integer)).given? members :=
    lookup_given (p := required "count" (.optional .integer)) (by simp [params])
  rcases h.count with ⟨n, there, count⟩ | ⟨absent, count⟩
  · obtain ⟨read, range, number⟩ := read_nat (f := .u32) rfl (by decide) n.toNat_lt
    have kept : (required "count" (.optional .integer)).given? members = some (.nat n.toNat) := by
      simp [Param.given?, required, there]
    rw [kept] at given
    rw [number] at read given
    refine ⟨some n.toNat, ?_, by simp [count]⟩
    simp only [intArg?, Args.get, given, Option.getD_some, NativeType.read] at read ⊢
    rw [read]
    rfl
  · refine ⟨none, ?_, count.symm⟩
    have null : (Keyed.lookup "count" (givenMembers params members)).getD .null = .null := by
      rw [given]
      unfold Param.given? required
      cases there : Keyed.lookup "count" members with
      | none => rfl
      | some v =>
        rw [absent v there]
        rfl
    simp only [intArg?, Args.get, null, NativeType.read]
    rfl

theorem Wanted.ofArgs (h : Wanted u members) :
    Stream.ofArgs ⟨givenMembers params members⟩ = .sending (u.upTo 0) := by
  obtain ⟨count, read, same⟩ := h.countArg
  simp only [Stream.ofArgs, h.textArg, h.intervalArg, read]
  simp only [bind, Except.bind, pure, Except.pure, same]
  rfl

theorem Wanted.starts (h : Wanted u members) {payload : Json} (carries : payload.Carries members) :
    streamStart registry "weather_updates" payload = .ok (.sending (u.upTo 0)) := by
  obtain ⟨c, found, kind, params, handler⟩ := command_found
  have prepared : prepareArgs registry.definitions c payload =
      .ok ⟨givenMembers Updates.params members⟩ := by
    rw [prepareArgs_eq_ok (params ▸ params_distinct), params]
    exact ⟨members, carries, h.admits, rfl⟩
  simp only [streamStart, found, kind, handler, prepared, Except.map, h.ofArgs]

theorem Wanted.created {b : Bridge application} (h : Wanted u members) (served : b.registry = registry)
    {payload : Json} (carries : payload.Carries members) :
    b.act (.create "weather_updates" payload) =
      { b with channels := b.channels ++ [Channel.create "weather_updates" (.sending (u.upTo 0))
          b.config.channelCapacity (b.now + b.config.attachTimeoutSecs * 1000)] } := by
  have accepted := h.starts carries
  rw [← served] at accepted
  simp only [Bridge.act, createChannel, accepted]
  rfl

end Updates

/-- Where the showcase is served, a request for a series of readings opens a channel of its own. Its
subscription is told the first readings of the city in their order, no more than were asked for, and
then at most one terminal message. If nobody asks for a close, a subscription that was read to its end
was told all of them and then that the channel is closed, and one that was not read to its end can
be, by letting time pass, letting the channel move and reading on. -/
theorem weather_updates_gapless (b : Bridge application) (served : b.registry = registry)
    (payload : Json) (members : List (String × Json)) (carries : payload.Carries members)
    (u : Updates) (wanted : u.Wanted members) (acts : List (Act application)) :
    let i := b.channels.length
    let b' := b.act (.create "weather_updates" payload)
    let returned acts := (account i b' acts .empty).returned
    ∃ c, (b'.run acts).channels[i]? = some c ∧
      (∃ k rest, returned acts = heard (readings u.city k) ++ rest ∧
        (∀ n, u.count = some n → k ≤ n.toNat) ∧
        (rest = [] ∨ ∃ m j, m.isTerminal = true ∧ rest = some m :: List.replicate j none)) ∧
      ∀ n, u.count = some n → ¬Asked (channelLog i b' acts) →
        let all j := heard (readings u.city n.toNat) ++ some .close :: List.replicate j none
        (c.subscription = .complete → ∃ j, returned acts = all j) ∧
        (c.subscription = .live → ∃ more j, (∀ a ∈ more, a.Tends i) ∧
          returned (acts ++ more) = all j) := by
  intro i b' returned
  have begun : b'.channels[i]? = some (Channel.create "weather_updates" (.sending (u.upTo 0))
      b.config.channelCapacity (b.now + b.config.attachTimeoutSecs * 1000)) := by
    simp only [b', i, wanted.created served carries]
    exact List.getElem?_concat_length
  obtain ⟨c, there, watched⟩ := chronicle_kept (P := u.Watched)
    (fun _ _ _ w x h => Updates.watched_act h w x) acts begun (Updates.watched_create u _ _ _)
  refine ⟨c, there, ?_, fun n count unasked => ⟨fun complete => ?_, fun live => ?_⟩⟩
  · obtain ⟨k, rest, told, within, terminal⟩ := watched.first_readings
    exact ⟨k, rest, told, fun n count => by simpa [Updates.limit, count] using within, terminal⟩
  · exact watched.all_readings unasked complete count
  · obtain ⟨more, d, tends, there', watched', complete, unasked'⟩ :=
      watched.concludes there live unasked count
    obtain ⟨j, told⟩ := watched'.all_readings unasked' complete count
    have joined :=
      Sessions.history_append (s := channelSessions application) (i := i) b' acts more .empty
    exact ⟨more, j, tends, (congrArg Account.returned joined).trans told⟩

def osloPayload : Json :=
  .object [("city", .string "Oslo"), ("count", .nat 2), ("intervalMs", .nat 1)]

def oslo : Bridge application :=
  (start .default registry .fresh .empty).act (.create "weather_updates" osloPayload)

theorem oslo_told : ∃ more j,
    (account 0 oslo ([.attach (Uuid.nth 0)] ++ more) .empty).returned =
      heard (readings "Oslo" 2) ++ some .close :: List.replicate j none := by
  have carries : osloPayload.Carries
      [("city", .string "Oslo"), ("count", .nat 2), ("interval_ms", .nat 1)] := .inl (by decide)
  have wanted : Updates.Wanted ⟨"Oslo", 1, some 2, 0⟩
      [("city", .string "Oslo"), ("count", .nat 2), ("interval_ms", .nat 1)] :=
    ⟨rfl, .inl ⟨1, rfl, rfl⟩, .inl ⟨2, rfl, rfl⟩⟩
  have created : oslo = _ := wanted.created rfl carries
  obtain ⟨c, there, -, told⟩ := weather_updates_gapless (start .default registry .fresh .empty) rfl
    osloPayload _ carries _ wanted [.attach (Uuid.nth 0)]
  have log : channelLog 0 oslo [.attach (Uuid.nth 0)] = [.attached, .started] := by
    rw [created]
    rfl
  have live : (oslo.run [.attach (Uuid.nth 0)]).channels[0]?.map (·.subscription) = some .live := by
    rw [created]
    rfl
  have unasked : ¬Asked (channelLog 0 oslo [.attach (Uuid.nth 0)]) := by simp [log, Asked]
  have live : c.subscription = .live := by
    rw [show (oslo.run [.attach (Uuid.nth 0)]).channels[0]? = some c from there] at live
    exact Option.some.inj live
  obtain ⟨more, j, -, all⟩ := (told 2 rfl unasked).2 live
  exact ⟨more, j, all⟩

end CommandBridge.Showcase
