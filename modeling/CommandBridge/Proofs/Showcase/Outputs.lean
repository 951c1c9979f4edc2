import CommandBridge.Proofs.Bridge.Outbound
import CommandBridge.Proofs.Bridge.Reloading
import CommandBridge.Proofs.Showcase.Handlers

/-!
# The showcase keeps its declarations

Nothing on a bridge checks what handlers give out. On one that serves the showcase no check is
missed: whatever its clients ask for and in whatever order, every result, every value of a channel
and every event of the chat room is of the type that was declared for it.
-/

set_option autoImplicit false

namespace CommandBridge.Showcase

open Bridge Connection

/-- The registry of the showcase. -/
def registry : Registry application :=
  (Registry.build declarations).toOption.getD ⟨[], [], .empty⟩

theorem build_declarations : Registry.build declarations = .ok registry := rfl

theorem tasksNamed_registry : TasksNamed registry.definitions := ⟨_, rfl, rfl⟩

variable {name : String} {payload : Json}

theorem mem_declarations {c : Command application} (found : registry.command? name = some c) :
    c ∈ declarations.commands :=
  (Registry.checked_of_build build_declarations).mem_commands (Registry.mem_commandList found)

theorem eq_chatSocket {s : SocketHandler application} (found : registry.socket? name = some s) :
    s = chatSocket := by
  have listed : s ∈ registry.socketList := List.mem_map.mpr ⟨_, Keyed.mem_of_lookup found, rfl⟩
  exact List.mem_singleton.mp
    ((Registry.checked_of_build build_declarations).mem_sockets listed)

def Passes (t : Descriptor) (v : Json) : Prop :=
  ∀ path, validate registry.definitions path t v = .ok ()

theorem passes_result {v : Json} (h : CallOf registry name payload (.answered (.ok v))) :
    ∃ c, registry.command? name = some c ∧ Passes c.returns v := by
  obtain ⟨i, s, u, invoked, descends, finished, rfl⟩ := h.value
  have resolution := (Registry.checked_of_build build_declarations).resolution name payload
  rw [invoked] at resolution
  cases resolution with
  | invoked found kind handler prepared =>
    have serves := serves_declared _ (mem_declarations found)
    exact ⟨_, found, (fits_of_finish tasksNamed_registry serves handler descends finished).validate⟩

theorem passes_data {start : Stream} (found : streamStart registry name payload = .ok start) :
    ∃ c t, registry.command? name = some c ∧ c.payload? = some t ∧
      ∀ v, Channel.Pushes application.stream start v → Passes t v := by
  obtain ⟨c, listed, kind⟩ := streamStart_ok found
  refine ⟨c, _, listed, payload_declared c (mem_declarations listed) kind, ?_⟩
  rintro v ⟨s, u, next, -, asked, rfl⟩
  exact (Stream.fits_of_push asked).validate

theorem passes_event {definitions : Definitions} {e : SocketEnvelope}
    (h : Connection.Sends chatSocket definitions e) : e.event = SocketEnvelope.errorEvent ∨
      ∃ t, Keyed.lookup e.event chatSocket.serverEvents = some t ∧ Passes t e.data := by
  cases h with
  | error => exact .inl rfl
  | event origin asked declared =>
    obtain ⟨e, rfl, rfl⟩ := Socket.event_of_push asked
    obtain ⟨t, declared, fits⟩ := e.declared
    exact .inr ⟨t, declared, fits.validate⟩

/-- Whatever is asked of a bridge and however its sessions go on, what a session gives out that was
begun under the registry of the showcase is of the type that this declares: the result of a call,
with tasks under tasks to any depth, the values of a channel, and every frame of the chat room that
does not report an error. -/
theorem outputs_declared (config : Config) (world : World) (files : FileTree)
    (acts : List (Act application)) :
    let first := start config registry world files
    let b := first.run acts
    Registry.build declarations = .ok registry ∧
    (∀ i v, b.answer? i = some (.ok v) →
      ∃ before name payload after, acts = before ++ .call name payload :: after ∧
        (first.run before).calls.length = i ∧ ((first.run before).registry = registry →
          ∃ c, registry.command? name = some c ∧ Passes c.returns v)) ∧
    (∀ i c, b.channels[i]? = some c →
      ∃ before name payload after, acts = before ++ .create name payload :: after ∧
        (first.run before).channels.length = i ∧ ((first.run before).registry = registry →
          ∃ c t, registry.command? name = some c ∧ c.payload? = some t ∧
            ∀ v, some (.data v) ∈ (account i first acts .empty).returned → Passes t v)) ∧
    ∀ i c, b.connections[i]? = some c →
      ∃ before name inbound sink after, acts = before ++ .connect name inbound sink :: after ∧
        (first.run before).connections.length = i ∧ ((first.run before).registry = registry →
          ∃ s, registry.socket? name = some s ∧ ∀ frame ∈ handedFrames (lineLog i first acts),
            ∃ e : SocketEnvelope, frame = e.text ∧ (e.event = SocketEnvelope.errorEvent ∨
              ∃ t, Keyed.lookup e.event s.serverEvents = some t ∧ Passes t e.data)) := by
  intro first b
  refine ⟨build_declarations, fun i v answered => ?_, fun i c there => ?_, fun i c there => ?_⟩
  · obtain ⟨before, _, after, split, name, payload, rfl, number, origin⟩ :=
      Sessions.run_origin (s := callSessions application) callBegun_of_added CallBegun.act acts rfl
        (answered_of_answer? answered)
    exact ⟨before, name, payload, after, split, number, fun serving => passes_result (serving ▸ origin)⟩
  · obtain ⟨before, name, payload, after, split, number, start, found, -, fed⟩ :=
      channel_fed rfl acts there
    refine ⟨before, name, payload, after, split, number, fun serving => ?_⟩
    obtain ⟨c, t, listed, declared, passes⟩ := passes_data (serving ▸ found)
    have delivery := (delivery_run config registry world files acts there).1
    exact ⟨c, t, listed, declared, fun v told =>
      passes v (fed v (Channel.accepted_of_returned delivery told))⟩
  · obtain ⟨before, name, inbound, sink, after, split, number, line⟩ := connection_line rfl acts there
    refine ⟨before, name, inbound, sink, after, split, number, fun serving => ?_⟩
    have found := line.found
    rw [serving] at found
    refine ⟨c.handler, found, fun frame handed => ?_⟩
    obtain ⟨e, sends, text⟩ := line.handed handed
    rw [eq_chatSocket found] at sends ⊢
    exact ⟨e, text, passes_event sends⟩

def plan : TaskItem := .mk 1 "Plan" .todo none [] [.mk 2 "Ask" .todo (some 1) ["new"] []]

def planned : Bridge application :=
  start .default registry ⟨Users.seeded, ⟨2, [plan]⟩, .empty⟩ .empty

def planRuns : List (Act application) :=
  [.call "list_tasks" .null, .move (.call 0 .ready), .move (.call 0 .ready)]

/-- The tree is listed, with the task under the task, as the command declares. -/
theorem plan_is_listed :
    (planned.run planRuns).answer? 0 = some (.ok (.array [plan.toJson])) ∧
      Passes (.sequence TaskItem.type) (.array [plan.toJson]) := by
  have read : statusArg? ⟨[]⟩ "status" = .ok none := by
    simp [statusArg?, Args.get, Keyed.lookup, NativeType.read, Except.map]
  have invoked : registry.invocation "list_tasks" .null = .ok ⟨.inline, .asked (.listTasks none)⟩ := by
    change Except.ok (⟨.inline, Call.ofArgs _ ⟨[]⟩⟩ : Invocation application) = _
    simp [Call.ofArgs, read, bind, Except.bind, pure, Except.pure]
  have began : planned.act (.call "list_tasks" .null) =
      { planned with calls := [.running .inline (Task.at (.asked (.listTasks none)))] } := by
    have same : begunCall registry "list_tasks" .null =
        .running .inline (Task.at (.asked (.listTasks none))) := by rw [begunCall, invoked]
    exact congrArg (fun call => { planned with calls := [call] }) same
  have answered : (planned.run planRuns).answer? 0 = some (.ok (.array [plan.toJson])) := by
    rw [planRuns, run_cons, began]
    rfl
  refine ⟨answered, ?_⟩
  obtain ⟨before, name, payload, after, split, number, serves⟩ :=
    (outputs_declared .default _ .empty planRuns).2.1 0 _ answered
  cases before with
  | cons a rest => simp [planRuns, List.cons_eq_append_iff] at split
  | nil =>
    cases split
    obtain ⟨c, found, passes⟩ := serves rfl
    have found : registry.command? "list_tasks" = some c := found
    cases found
    exact passes

end CommandBridge.Showcase
