import CommandBridge.Proofs.Dispatch.Arguments

/-!
# What a call is resolved to

A built registry refuses a call for one of three reasons: it knows no command of the name, the
command is a stream, or the payload gives no arguments. A call that it does not refuse it hands
to the handler of the command, with the arguments.
-/

set_option autoImplicit false

namespace CommandBridge.Registry

variable {A : Application} {d : Declarations A} {r : Registry A} {c : Command A} {name : String}
  {payload : Json}

inductive Resolution (r : Registry A) (name : String) (payload : Json) :
    Except BridgeError (Invocation A) → Prop where
  | unknown {e : BridgeError} (absent : r.command? name = none) (code : e.code = .unknownCommand) :
      Resolution r name payload (.error e)
  | stream {c : Command A} {e : BridgeError} (found : r.command? name = some c)
      (kind : c.kind = .stream) (code : e.code = .invalidArgument) :
      Resolution r name payload (.error e)
  | refused {c : Command A} {e : BridgeError} (found : r.command? name = some c)
      (kind : c.kind = .unary) (prepared : prepareArgs r.definitions c payload = .error e)
      (code : e.code = .invalidArgument) : Resolution r name payload (.error e)
  | invoked {c : Command A} {mode : RunMode} {start : Args → A.Call} {args : Args}
      (found : r.command? name = some c) (kind : c.kind = .unary)
      (handler : c.handler = some (.unary mode start))
      (prepared : prepareArgs r.definitions c payload = .ok args) :
      Resolution r name payload (.ok ⟨mode, start args⟩)

theorem mem_commandList (found : r.command? name = some c) : c ∈ r.commandList :=
  List.mem_map.mpr ⟨(name, c), Keyed.mem_of_lookup found, rfl⟩

/-- A payload that gives no arguments is an invalid argument. -/
theorem Checked.refusal_code (checked : Checked d r) (listed : c ∈ r.commandList) {e : BridgeError}
    (refused : prepareArgs r.definitions c payload = .error e) : e.code = .invalidArgument := by
  rcases prepareArgs_eq_error refused with shapeless | ⟨members, -, failed⟩
  · exact (payloadMembers_eq_error shapeless).1
  · obtain ⟨before, p, after, all, -, -, failed⟩ :=
      takeParams_eq_error (checked.params_distinct listed) failed
    have hp : p ∈ c.params := all ▸ List.mem_append_right before List.mem_cons_self
    obtain ⟨place, message, rfl⟩ := Param.take_eq_error checked.closed
      (Definitions.unresolved?_eq_none.mpr (checked.resolves_param listed hp)) failed
    rfl

/-- The handlers of a built registry fit the kinds of their commands. -/
theorem Checked.resolution (checked : Checked d r) (name : String) (payload : Json) :
    Resolution r name payload (r.invocation name payload) := by
  unfold invocation
  cases found : r.command? name with
  | none => exact .unknown found rfl
  | some c =>
    have listed := mem_commandList found
    have served := (checked.commands c (checked.mem_commands listed)).served
    cases kind : c.kind with
    | stream =>
      rw [kind] at served
      obtain ⟨⟨start, handler⟩, -⟩ := served
      simp only [handler]
      exact .stream found kind rfl
    | unary =>
      rw [kind] at served
      obtain ⟨⟨mode, start, handler⟩, -⟩ := served
      simp only [handler]
      cases prepared : prepareArgs r.definitions c payload with
      | error e => exact .refused found kind prepared (checked.refusal_code listed prepared)
      | ok args => exact .invoked found kind handler prepared

end CommandBridge.Registry
