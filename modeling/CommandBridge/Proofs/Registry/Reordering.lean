import CommandBridge.Bridge.Basic
import CommandBridge.Proofs.Registry.Building
import CommandBridge.Proofs.Schema.Alike
import CommandBridge.Script.Application

/-!
# Declarations in another order

What a build accepts and what it makes of it does not depend on the order in which models, commands
and sockets are given. Definitions are collected one after another and not looked into again when
they are known, yet what is found is what occurs in the types, in whatever order they stand.
-/

set_option autoImplicit false

namespace CommandBridge

open Definitions TypeScript

variable {A : Application}

structure Declarations.Reordered (d d' : Declarations A) : Prop where
  models : d.models.Perm d'.models
  commands : d.commands.Perm d'.commands
  sockets : d.sockets.Perm d'.sockets

/-- Registries that define the same names as the same, find the same commands and sockets, prepare
the same arguments and generate the same client. Where each definition was found first is left out:
it goes with the order, and the tables as a whole and the report of a later conflict show it. -/
structure Registry.Same (r r' : Registry A) : Prop where
  defined : ∀ name, r.definitions.get? name = r'.definitions.get? name
  names : r.definitions.names = r'.definitions.names
  definitions : r.definitions.toList = r'.definitions.toList
  commands : ∀ name, r.command? name = r'.command? name
  sockets : ∀ name, r.socket? name = r'.socket? name
  commandList : r.commandList = r'.commandList
  socketList : r.socketList = r'.socketList
  arguments : ∀ (c : Command A) payload,
    prepareArgs r.definitions c payload = prepareArgs r'.definitions c payload
  calls : ∀ name payload, r.invocation name payload = r'.invocation name payload
  streams : ∀ name payload, Bridge.streamStart r name payload = Bridge.streamStart r' name payload
  values : ∀ path t v, validate r.definitions path t v = validate r'.definitions path t v
  client : generate r = generate r'

namespace Declarations.Reordered

variable {d d' : Declarations A} (same : d.Reordered d')

include same

theorem symm : d'.Reordered d := ⟨same.models.symm, same.commands.symm, same.sockets.symm⟩

theorem names : d.names.Perm d'.names :=
  (same.commands.map Command.name).append (same.sockets.map SocketHandler.name)

theorem offeredTypes : d.offeredTypes.Perm d'.offeredTypes :=
  (same.commands.flatMap_right Command.types).append
    (same.sockets.flatMap_right SocketHandler.eventTypes)

theorem types : (d.modelTypes ++ d.offeredTypes).Perm (d'.modelTypes ++ d'.offeredTypes) :=
  (same.models.map _).append same.offeredTypes

theorem foundIn_iff {x : Definition} : FoundIn (d.modelTypes ++ d.offeredTypes) x ↔
    FoundIn (d'.modelTypes ++ d'.offeredTypes) x :=
  exists_congr fun _ => and_congr_left fun _ => same.types.mem_iff

end Declarations.Reordered

namespace Definitions

variable {types types' : List (Owner × Descriptor)} {table table' : Definitions}

theorem sorted_of_collectEach (h : empty.collectEach types = .ok table) :
    Keyed.Sorted table.entries :=
  (collectEach_grown h).sorted trivial

/-- Types in which the same definitions occur are collected in tables that are read alike. -/
theorem alike_of_collectEach (h : empty.collectEach types = .ok table)
    (h' : empty.collectEach types' = .ok table') (same : ∀ x, FoundIn types x ↔ FoundIn types' x) :
    Alike table table' := by
  intro name
  apply Option.ext
  intro x
  rw [get?_of_collectEach_empty h, get?_of_collectEach_empty h', same]

theorem Alike.checkAllReferences (alike : Alike table table') (h : empty.collectEach types = .ok table)
    (h' : empty.collectEach types' = .ok table') (checked : table.checkAllReferences = .ok ()) :
    table'.checkAllReferences = .ok () := by
  have each {types : List (Owner × Descriptor)} {table : Definitions}
      (h : empty.collectEach types = .ok table) : table.checkAllReferences = .ok () ↔
        ∀ x, table.Holds x → ∀ c ∈ x.descriptor.children, table.Resolves c :=
    have ⟨distinct, only⟩ := Registry.collected_table h
    checkAllReferences_eq_ok distinct fun name x there => ⟨(only name x there).1, trivial⟩
  rw [each h] at checked
  rw [each h']
  intro x holds c part
  exact alike.resolves_iff.mp (checked x (alike.holds_iff.mpr holds) c part)

end Definitions

namespace TypeScript

/-- Registries with the same commands and sockets and tables that are read alike have one client. -/
theorem generate_congr {r r' : Registry A} (alike : Alike r.definitions r'.definitions)
    (bindings : r.definitions.bindings = r'.definitions.bindings)
    (commands : r.commandList = r'.commandList) (sockets : r.socketList = r'.socketList) :
    generate r = generate r' := by
  have names : r.definitions.names = r'.definitions.names := by
    rw [← bindings_names, ← bindings_names, bindings]
  have size : r.definitions.entries.length = r'.definitions.entries.length := by
    simpa [Definitions.bindings] using congrArg List.length bindings
  have order : ordered r.definitions = ordered r'.definitions := by
    rw [ordered, ordered, names, size, visitAll_congr alike]
  have found : r.definitions.get? = r'.definitions.get? := funext alike
  have line : fieldLine r.definitions = fieldLine r'.definitions := by
    funext owner f
    simp only [fieldLine, expression_congr alike]
  have definition : definitionText r.definitions = definitionText r'.definitions := by
    funext x
    cases x with
    | enum shape => rfl
    | record shape => simp only [definitionText, recordText, line]
  have command : commandText (A := A) r.definitions = commandText r'.definitions := by
    funext c
    simp only [commandText, paramsText, commandBody, expression_congr alike]
  have socket : socketText (A := A) r.definitions = socketText r'.definitions := by
    funext s
    simp only [socketText, eventsText, expression_congr alike]
  simp only [generate, order, found, definition, command, socket, commands, sockets]

end TypeScript

namespace Registry

variable {d d' : Declarations A} {r r' : Registry A}

theorem build_reordered (same : d.Reordered d') (built : build d = .ok r) :
    ∃ r', build d' = .ok r' := by
  obtain ⟨⟨⟨distinct, commands, sockets, collected⟩, offered, fields⟩, -⟩ := build_eq_ok.mp built
  have agree := collectEach_empty_ok.mp ⟨_, collected⟩
  obtain ⟨table, collected'⟩ := collectEach_empty_ok.mpr fun x y hx hy =>
    agree x y (same.foundIn_iff.mpr hx) (same.foundIn_iff.mpr hy)
  have alike := alike_of_collectEach collected collected' fun _ => same.foundIn_iff
  refine ⟨ofTable d' table, build_eq_ok.mpr ⟨⟨⟨same.names.nodup_iff.mp distinct, ?_, ?_, collected'⟩,
    ?_, alike.checkAllReferences collected collected' fields⟩, rfl⟩⟩
  · exact fun c hc => commands c (same.commands.mem_iff.mpr hc)
  · exact fun s hs => sockets s (same.sockets.mem_iff.mpr hs)
  · exact fun p hp => alike.resolves_iff.mp (offered p (same.offeredTypes.mem_iff.mpr hp))

/-- The entries of values under their own names do not depend on the order of the values. -/
theorem sort_reordered {α : Type} {name : α → String} {xs ys : List α}
    (distinct : (xs.map name).Nodup) (same : xs.Perm ys) :
    Keyed.sort (xs.map fun x => (name x, x)) = Keyed.sort (ys.map fun x => (name x, x)) := by
  apply Keyed.sort_eq_of_perm _ (same.map _)
  simpa [Keyed.keys, Function.comp_def] using distinct

theorem same_of_reordered (same : d.Reordered d') (built : build d = .ok r)
    (built' : build d' = .ok r') : Same r r' := by
  obtain ⟨⟨⟨distinct, -, -, collected⟩, -⟩, table⟩ := build_eq_ok.mp built
  obtain ⟨⟨⟨-, -, -, collected'⟩, -⟩, table'⟩ := build_eq_ok.mp built'
  rw [Declarations.names, List.nodup_append] at distinct
  have alike := alike_of_collectEach collected collected' fun _ => same.foundIn_iff
  have bindings := alike.bindings_eq (sorted_of_collectEach collected) (sorted_of_collectEach collected')
  have commands : r.commands = r'.commands := by
    rw [table, table']
    exact sort_reordered distinct.1 same.commands
  have sockets : r.sockets = r'.sockets := by
    rw [table, table']
    exact sort_reordered distinct.2.1 same.sockets
  have found : ∀ name, r.command? name = r'.command? name := fun name => by
    rw [command?, command?, commands]
  have commandList : r.commandList = r'.commandList := by rw [Registry.commandList, commands]; rfl
  have socketList : r.socketList = r'.socketList := by rw [Registry.socketList, sockets]; rfl
  exact {
    defined := alike
    names := by rw [← bindings_names, ← bindings_names, bindings]
    definitions := by rw [← bindings_toList, ← bindings_toList, bindings]
    commands := found
    sockets := fun name => by rw [socket?, socket?, sockets]
    commandList := commandList
    socketList := socketList
    arguments := prepareArgs_alike alike
    calls := fun name payload => by simp only [invocation, found, prepareArgs_alike alike]
    streams := fun name payload => by
      simp only [Bridge.streamStart, found, prepareArgs_alike alike]
    values := validate_congr alike
    client := generate_congr alike bindings commandList socketList }

/-- Declarations build in one order when they do in another, and then the registries are the same,
but for where each definition was found first. -/
theorem build_order_irrelevant (models : d.models.Perm d'.models)
    (commands : d.commands.Perm d'.commands) (sockets : d.sockets.Perm d'.sockets) :
    ((∃ r, build d = .ok r) ↔ ∃ r', build d' = .ok r') ∧
    ∀ r r', build d = .ok r → build d' = .ok r' → Same r r' := by
  have same : d.Reordered d' := ⟨models, commands, sockets⟩
  exact ⟨⟨fun ⟨_, built⟩ => build_reordered same built, fun ⟨_, built⟩ => build_reordered same.symm built⟩,
    fun _ _ => same_of_reordered same⟩

/-- Two commands that take the same record, one of them with a tag that the other refers to. -/
def notes : Declarations Script.application where
  models := [.enum ⟨"Tag", ["red"], none⟩, .record "Note" none [.required "tag" (.reference "Tag")]]
  commands := ["pin", "drop"].map fun name => {
    name := name, kind := .unary
    params := [⟨"note", .record "Note" none [.required "tag" (.reference "Tag")], false⟩]
    returns := .null, doc := none, module := none
    handler := some (.unary .inline (Script.CallRun.start [])) }
  sockets := []

def notesReversed : Declarations Script.application where
  models := notes.models.reverse
  commands := notes.commands.reverse
  sockets := []

theorem notes_reversed : ∃ r r', build notes = .ok r ∧ build notesReversed = .ok r' ∧ Same r r' := by
  obtain ⟨r, built⟩ : ∃ r, build notes = .ok r := ⟨_, rfl⟩
  obtain ⟨r', built'⟩ : ∃ r, build notesReversed = .ok r := ⟨_, rfl⟩
  have models : notes.models.Perm notesReversed.models := (List.reverse_perm _).symm
  have commands : notes.commands.Perm notesReversed.commands := (List.reverse_perm _).symm
  have order := build_order_irrelevant models commands (.refl _)
  exact ⟨r, r', built, built', order.2 r r' built built'⟩

def carried : Declarations Script.application :=
  { notes with models := [.enum ⟨"Tag", ["red"], none⟩] }

def clash (r : Registry Script.application) : Option BuildError :=
  (r.definitions.collect (.labelled "probe") (.record "Note" none [])).2

/-- The record is kept with the command that came first, so the tables differ, and a conflict with it
is reported in another way. -/
theorem owner_by_order : carried.commands.Perm carried.commands.reverse ∧
    ∃ r r', build carried = .ok r ∧
      build { carried with commands := carried.commands.reverse } = .ok r' ∧
      clash r = some (.conflictingDefinition "Note" (.parameter "pin" "note") (.labelled "probe")) ∧
      clash r' = some (.conflictingDefinition "Note" (.parameter "drop" "note") (.labelled "probe")) ∧
      r.definitions ≠ r'.definitions := by
  obtain ⟨r, built, pin⟩ : ∃ r, build carried = .ok r ∧
      clash r = some (.conflictingDefinition "Note" (.parameter "pin" "note") (.labelled "probe")) :=
    ⟨_, rfl, rfl⟩
  obtain ⟨r', built', drop⟩ : ∃ r, build { carried with commands := carried.commands.reverse } = .ok r ∧
      clash r = some (.conflictingDefinition "Note" (.parameter "drop" "note") (.labelled "probe")) :=
    ⟨_, rfl, rfl⟩
  refine ⟨(List.reverse_perm _).symm, r, r', built, built', pin, drop, fun same => ?_⟩
  have alike : clash r = clash r' := by rw [clash, same, clash]
  rw [pin, drop] at alike
  exact absurd alike (by decide)

end Registry
end CommandBridge
