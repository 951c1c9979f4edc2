import CommandBridge.Proofs.Bridge.Calls
import CommandBridge.Proofs.Bridge.Channels
import CommandBridge.Proofs.Bridge.Connections
import CommandBridge.Proofs.Channel.Origin
import CommandBridge.Proofs.Socket.Origin
import CommandBridge.Script.Application

/-!
# Reloading

A reload puts a registry in force once its client is prepared, or leaves all but the files as it
was. What was begun before is out of its reach: a call, a channel and a connection have taken from
the registry then in force the states in which their handlers start, and a connection has taken
the definitions under which it checks frames for the rest of its life.
-/

set_option autoImplicit false

namespace CommandBridge.Bridge

variable {A : Application} {b : Bridge A} {i : Nat}

inductive ReloadCase (b : Bridge A) (built : Except BuildError (Registry A)) :
    Bridge A × Except ReloadError (Registry A) → Prop where
  | refused (files : FileTree) (e : ReloadError) :
      ReloadCase b built ({ b with files := files }, .error e)
  | installed (files : FileTree) {r : Registry A} {client : String} (built_ok : built = .ok r)
      (generated : TypeScript.generate r = .ok client) :
      ReloadCase b built ({ b with files := files, registry := r }, .ok b.registry)

theorem install_ok {r : Registry A} {p : Path} {tree after : FileTree} {changed : Bool}
    (installed : TypeScript.install r p tree = (after, .ok changed)) :
    ∃ client, TypeScript.generate r = .ok client := by
  unfold TypeScript.install at installed
  split at installed
  · cases installed
  · next client generated => exact ⟨client, generated⟩

/-- Whether the client is installed or not, it is generated. -/
theorem prepareClient_ok {r : Registry A} {files : FileTree}
    (prepared : b.prepareClient r = (files, .ok ())) : ∃ client, TypeScript.generate r = .ok client := by
  unfold prepareClient at prepared
  split at prepared
  · next path _ =>
    match installed : TypeScript.install r (.ofText path) b.files with
    | (after, .ok changed) => exact install_ok installed
    | (after, .error e) =>
      rw [installed] at prepared
      cases prepared
  · split at prepared
    · next client generated => exact ⟨client, generated⟩
    · cases prepared

theorem reload_cases (b : Bridge A) (built : Except BuildError (Registry A)) :
    ReloadCase b built (b.reload built) := by
  unfold reload
  split
  · exact .refused b.files _
  · split
    · exact .refused _ _
    · next prepared =>
      obtain ⟨client, generated⟩ := prepareClient_ok prepared
      exact .installed _ rfl generated

inductive Installation (A : Application) where
  | replaced (r : Registry A)
  | reloaded (r : Registry A)

def Installation.registry : Installation A → Registry A
  | .replaced r | .reloaded r => r

/-- What an act puts in force: the registry of a replacement that builds, or of a reload that
succeeds. -/
def installation? (b : Bridge A) : Act A → Option (Installation A)
  | .replace d => (Registry.build d).toOption.map .replaced
  | .reload d =>
    match Registry.build d, (b.reload (Registry.build d)).2 with
    | .ok r, .ok _ => some (.reloaded r)
    | _, _ => none
  | _ => none

def installations : Bridge A → List (Act A) → List (Installation A)
  | _, [] => []
  | b, a :: rest => (b.installation? a).toList ++ installations (b.act a) rest

theorem act_registry (b : Bridge A) (a : Act A) :
    (b.act a).registry = ((b.installation? a).map Installation.registry).getD b.registry := by
  have touched := b.act_touched a
  cases a with
  | replace d =>
    simp only [act, installation?]
    cases Registry.build d <;> rfl
  | reload d =>
    have reloaded := b.reload_cases (Registry.build d)
    simp only [act, installation?]
    generalize b.reload (Registry.build d) = after at reloaded ⊢
    cases reloaded with
    | refused files e => cases Registry.build d <;> rfl
    | installed files built_ok generated =>
      rw [built_ok]
      rfl
  | move m => cases m <;> exact touched.registry_eq (by simp [Act.part])
  | _ => exact touched.registry_eq (by simp [Act.part])

theorem run_registry (b : Bridge A) (acts : List (Act A)) :
    (b.run acts).registry =
      ((installations b acts).getLast?.map Installation.registry).getD b.registry := by
  induction acts generalizing b with
  | nil => rfl
  | cons a rest ih =>
    rw [run_cons, ih, act_registry, installations, List.getLast?_append]
    cases (installations (b.act a) rest).getLast? with
    | some last => rfl
    | none => cases b.installation? a <;> rfl

/-- A reload puts no registry in force whose client is not generated. -/
theorem generated_of_installation {a : Act A} {r : Registry A}
    (installed : b.installation? a = some (.reloaded r)) :
    ∃ client, TypeScript.generate r = .ok client := by
  cases a with
  | replace d =>
    obtain ⟨r', -, e⟩ := Option.map_eq_some_iff.mp installed
    cases e
  | reload d =>
    have reloaded := b.reload_cases (Registry.build d)
    simp only [installation?] at installed
    generalize b.reload (Registry.build d) = after at reloaded installed
    cases reloaded with
    | refused files e => cases built : Registry.build d <;> simp [built] at installed
    | @installed files r' client built_ok generated =>
      rw [built_ok] at installed
      cases installed
      exact ⟨client, generated⟩
  | _ => cases installed

theorem generated_of_reloaded {acts : List (Act A)} {r : Registry A}
    (reloaded : .reloaded r ∈ installations b acts) :
    ∃ client, TypeScript.generate r = .ok client := by
  induction acts generalizing b with
  | nil => cases reloaded
  | cons a rest ih =>
    rcases List.mem_append.mp reloaded with now | later
    · exact generated_of_installation (Option.mem_toList.mp now)
    · exact ih later

def ChannelOf (r : Registry A) (name : String) (payload : Json) (c : Channel A.Stream) : Prop :=
  ∃ start, streamStart r name payload = .ok start ∧ Channel.OfStart A.stream name start c

def ConnectionOf (r : Registry A) (name : String) (c : Connection A) : Prop :=
  ∃ handler, r.socket? name = some handler ∧ Connection.OfHandler handler r.definitions c

def CallBegun (i : Nat) (b : Bridge A) (a : Act A) (c : CallProgress A) : Prop :=
  ∃ name payload, a = .call name payload ∧ b.calls.length = i ∧ CallOf b.registry name payload c

def ChannelBegun (i : Nat) (b : Bridge A) (a : Act A) (c : Channel A.Stream) : Prop :=
  ∃ name payload, a = .create name payload ∧ b.channels.length = i ∧
    ChannelOf b.registry name payload c

def ConnectionBegun (i : Nat) (b : Bridge A) (a : Act A) (c : Connection A) : Prop :=
  ∃ name inbound sink, a = .connect name inbound sink ∧ b.connections.length = i ∧
    ConnectionOf b.registry name c

theorem callBegun_of_added {a : Act A} {c : CallProgress A} (absent : b.calls[i]? = none)
    (added : (b.act a).calls[i]? = some c) : CallBegun i b a c := by
  obtain ⟨name, payload, begins, number, rfl⟩ := act_begun absent a added
  exact ⟨name, payload, begins, number, callOf_begunCall _ name payload⟩

theorem channelBegun_of_added {a : Act A} {c : Channel A.Stream} (absent : b.channels[i]? = none)
    (added : (b.act a).channels[i]? = some c) : ChannelBegun i b a c := by
  rcases b.act_channels a with same | ⟨name, payload, start, capacity, expiry, creates, found, e⟩
  · exact absurd added (getElem?_ne_some_of_length absent same)
  · rw [e] at added
    cases eq_of_getElem?_concat absent added
    exact ⟨name, payload, creates, length_of_getElem?_concat absent added, start, found,
      Channel.ofStart_create capacity expiry⟩

theorem connectionBegun_of_added {a : Act A} {c : Connection A} (absent : b.connections[i]? = none)
    (added : (b.act a).connections[i]? = some c) : ConnectionBegun i b a c := by
  rcases b.act_connections a with same | ⟨name, inbound, sink, handler, capacity, opens, found, e⟩
  · exact absurd added (getElem?_ne_some_of_length absent same)
  · rw [e] at added
    cases eq_of_getElem?_concat absent added
    exact ⟨name, inbound, sink, opens, length_of_getElem?_concat absent added, handler, found,
      Connection.ofHandler_create capacity inbound sink⟩

theorem CallBegun.act {a : Act A} {c : CallProgress A} (w : A.World) (x : Nat × Alternative) :
    CallBegun i b a c → CallBegun i b a (CallProgress.act w c x) :=
  fun ⟨name, payload, begins, number, origin⟩ => ⟨name, payload, begins, number, origin.act w x⟩

theorem ChannelBegun.act {a : Act A} {c : Channel A.Stream} (w : A.World) (x : ChannelAct) :
    ChannelBegun i b a c → ChannelBegun i b a (c.act A.stream w x) :=
  fun ⟨name, payload, creates, number, start, found, origin⟩ =>
    ⟨name, payload, creates, number, start, found, origin.act w x⟩

theorem ConnectionBegun.act {a : Act A} {c : Connection A} (w : A.World) (x : ConnectionAct) :
    ConnectionBegun i b a c → ConnectionBegun i b a (c.act w x) :=
  fun ⟨name, inbound, sink, opens, number, handler, found, origin⟩ =>
    ⟨name, inbound, sink, opens, number, handler, found, origin.act w x⟩

/-- However registries are put in force while sessions go on, each call, each channel and each
connection has its handler, and what its input is checked against, of the one registry that was in
force when it was begun. A reload that fails leaves that registry in force; otherwise the last one
that was put in force is, and a reload puts none in force whose client is not generated. -/
theorem registries_never_mix (config : Config) (registry : Registry A) (world : A.World)
    (files : FileTree) (acts : List (Act A)) :
    let first := start config registry world files
    let b := first.run acts
    (∀ i c, b.calls[i]? = some c → ∃ before a after, acts = before ++ a :: after ∧
      CallBegun i (first.run before) a c) ∧
    (∀ i c, b.channels[i]? = some c → ∃ before a after, acts = before ++ a :: after ∧
      ChannelBegun i (first.run before) a c) ∧
    (∀ i c, b.connections[i]? = some c → ∃ before a after, acts = before ++ a :: after ∧
      ConnectionBegun i (first.run before) a c) ∧
    b.registry = ((installations first acts).getLast?.map Installation.registry).getD registry ∧
    (∀ r, .reloaded r ∈ installations first acts → ∃ client, TypeScript.generate r = .ok client) ∧
    ∀ built, ReloadCase b built (b.reload built) := by
  refine ⟨fun i c there => ?_, fun i c there => ?_, fun i c there => ?_, run_registry _ acts,
    fun _ reloaded => generated_of_reloaded reloaded, reload_cases _⟩
  · exact Sessions.run_origin (s := callSessions A) callBegun_of_added CallBegun.act acts rfl there
  · exact Sessions.run_origin (s := channelSessions A) channelBegun_of_added ChannelBegun.act acts
      rfl there
  · exact Sessions.run_origin (s := connectionSessions A) connectionBegun_of_added
      ConnectionBegun.act acts rfl there

def noting (v : Json) : Declarations Script.application where
  models := []
  commands := [{
    name := "once", kind := .stream, params := [], returns := .stream .boolean, doc := none
    module := none, handler := some (.stream (Script.StreamRun.start [.note v])) }]
  sockets := []

/-- Another registry comes into force between the creation of a channel and its attach. -/
example : (Registry.build (noting (.bool true))).map (fun r =>
    let b := (start .default r Script.Journal.empty .empty : Bridge Script.application).run
      [.create "once" (.object []), .replace (noting (.bool false)), .create "once" (.object []),
        .attach (Uuid.nth 0), .attach (Uuid.nth 1), .move (.channel 0 (.drive .ready)),
        .move (.channel 1 (.drive .ready)), .move (.channel 0 (.drive .ready)),
        .move (.channel 1 (.drive .ready))]
    Script.Journal.toList b.world) = .ok [.bool true, .bool false] := rfl

end CommandBridge.Bridge
