import CommandBridge.Proofs.Schema.Collection
import CommandBridge.TypeScript.Module

/-!
# Which types and modules can be written

A type has an expression when no stream is written out in it and every reference written out is
defined. What is written out stops at a record, which stands by its name, and leaves out the keys
of a mapping. A client module is written exactly when all the types it writes out have
expressions; the walk that orders the definitions leaves none of them out.
-/

set_option autoImplicit false

namespace CommandBridge

section Succeeds

variable {ε α β : Type}

def Succeeds (x : Except ε α) : Prop := ∃ a, x = .ok a

theorem succeeds_ok {a : α} : Succeeds (.ok a : Except ε α) := ⟨a, rfl⟩

theorem not_succeeds_error {e : ε} : ¬Succeeds (.error e : Except ε α) := nofun

theorem succeeds_map {x : Except ε α} {f : α → β} : Succeeds (x.map f) ↔ Succeeds x := by
  cases x with
  | error e => exact ⟨nofun, nofun⟩
  | ok a => exact ⟨fun _ => succeeds_ok, fun _ => succeeds_ok⟩

/-- Two steps succeed when the first does and the second does whatever the first gave. -/
theorem succeeds_bind {x : Except ε α} {f : α → Except ε β} {P : Prop}
    (next : ∀ a, Succeeds (f a) ↔ P) : Succeeds (x >>= f) ↔ Succeeds x ∧ P := by
  cases x with
  | error e => exact ⟨nofun, nofun⟩
  | ok a => exact (next a).trans ⟨fun h => ⟨succeeds_ok, h⟩, fun h => h.2⟩

theorem succeeds_bind_pure {x : Except ε α} {f : α → β} :
    Succeeds (x >>= fun a => pure (f a)) ↔ Succeeds x := by
  cases x with
  | error e => exact ⟨nofun, nofun⟩
  | ok a => exact ⟨fun _ => succeeds_ok, fun _ => succeeds_ok⟩

theorem succeeds_mapM {f : α → Except ε β} {xs : List α} :
    Succeeds (xs.mapM f) ↔ ∀ x ∈ xs, Succeeds (f x) := by
  induction xs with
  | nil => exact ⟨fun _ => nofun, fun _ => succeeds_ok⟩
  | cons x rest ih =>
    rw [List.mapM_cons, List.forall_mem_cons, ← ih]
    exact succeeds_bind fun _ => succeeds_bind_pure

end Succeeds

/-- The types that are written out where a type is. -/
def Descriptor.writtenParts : Descriptor → List Descriptor
  | .record .. => []
  | .mapping _ v => [v]
  | t => t.children

theorem Descriptor.mem_children_of_writtenParts {t c : Descriptor} (h : c ∈ t.writtenParts) :
    c ∈ t.children := by
  cases t with
  | record => cases h
  | mapping k v => exact List.mem_cons_of_mem k h
  | _ => exact h

theorem Descriptor.occurs_of_written {t u : Descriptor} (h : Within writtenParts u t) :
    Occurs u t :=
  h.mono fun _ _ => mem_children_of_writtenParts

namespace Definitions

open Descriptor

variable {table : Definitions}

def Writable (table : Definitions) : Descriptor → Prop
  | .stream _ => False
  | .reference name => table.contains name = true
  | _ => True

def Expressible (table : Definitions) (t : Descriptor) : Prop :=
  ∀ u, Within writtenParts u t → table.Writable u

theorem expressible_iff {t : Descriptor} : table.Expressible t ↔
    table.Writable t ∧ ∀ c ∈ t.writtenParts, table.Expressible c := forall_within

/-- Where all references resolve, only a stream stands in the way of an expression. -/
theorem Resolves.expressible_iff {t : Descriptor} (resolves : table.Resolves t) :
    table.Expressible t ↔ ∀ u, ¬Within writtenParts (.stream u) t := by
  constructor
  · intro h u written
    exact h _ written
  · intro h u written
    cases u with
    | stream u => exact h u written
    | reference name =>
      exact resolves name (occurs_of_written written)
    | _ => trivial

theorem Resolves.expressible {t : Descriptor} (resolves : table.Resolves t)
    (streamless : t.Streamless) : table.Expressible t :=
  resolves.expressible_iff.mpr fun u written =>
    streamless u (occurs_of_written written)

end Definitions

/-- The type of what clients are given by a command: its result, or each value of its stream. -/
def Command.content {A : Application} (c : Command A) : Descriptor :=
  match c.kind with
  | .unary => c.returns
  | .stream => c.payload?.getD c.returns

namespace TypeScript

open Descriptor Definitions

variable {A : Application} {table : Definitions} {owner : Owner}

theorem itemExpressions_succeeds {P : Descriptor → Prop} {ts : List Descriptor}
    (each : ∀ t ∈ ts, ∀ path, Succeeds (expression table owner path t) ↔ P t) {path : String}
    {index : Nat} : Succeeds (itemExpressions table owner path index ts) ↔ ∀ t ∈ ts, P t := by
  induction ts generalizing index with
  | nil => exact ⟨fun _ => nofun, fun _ => succeeds_ok⟩
  | cons t rest ih =>
    rw [List.forall_mem_cons, ← each t List.mem_cons_self,
      ← ih (fun u there => each u (List.mem_cons_of_mem t there))]
    exact succeeds_bind fun _ => succeeds_bind_pure

theorem memberExpressions_succeeds {P : Descriptor → Prop} {ts : List Descriptor} {path : String}
    (each : ∀ t ∈ ts, Succeeds (expression table owner path t) ↔ P t) :
    Succeeds (memberExpressions table owner path ts) ↔ ∀ t ∈ ts, P t := by
  induction ts with
  | nil => exact ⟨fun _ => nofun, fun _ => succeeds_ok⟩
  | cons t rest ih =>
    rw [List.forall_mem_cons, ← each t List.mem_cons_self,
      ← ih (fun u there => each u (List.mem_cons_of_mem t there))]
    exact succeeds_bind fun _ => succeeds_bind_pure

theorem expression_succeeds {t : Descriptor} :
    ∀ path, Succeeds (expression table owner path t) ↔ table.Expressible t := by
  induction t using child_induction with
  | step t ih =>
    intro path
    rw [expressible_iff]
    cases t with
    | primitive | record | enum =>
      simp [expression, succeeds_ok, Writable, writtenParts, children]
    | optional t | sequence t =>
      simp [expression, succeeds_map, ih t (by simp [children]), Writable, writtenParts, children]
    | mapping k v =>
      simp [expression, succeeds_map, ih v (by simp [children]), Writable, writtenParts]
    | tuple ts =>
      have each : ∀ u ∈ ts, ∀ path, Succeeds (expression table owner path u) ↔
          table.Expressible u := ih
      rw [expression, succeeds_map, itemExpressions_succeeds each]
      exact ⟨fun h => ⟨trivial, h⟩, fun h => h.2⟩
    | union ts =>
      have each : ∀ u ∈ ts, Succeeds (expression table owner path u) ↔ table.Expressible u :=
        fun u there => ih u there path
      rw [expression, succeeds_map, memberExpressions_succeeds each]
      exact ⟨fun h => ⟨trivial, h⟩, fun h => h.2⟩
    | reference name =>
      by_cases known : table.contains name = true
      · simp [expression, known, succeeds_ok, Writable, writtenParts, children]
      · simp [expression, known, not_succeeds_error, Writable]
    | stream t => simp [expression, not_succeeds_error, Writable]

theorem definitionText_succeeds {d : Definition} :
    Succeeds (definitionText table d) ↔ ∀ c ∈ d.descriptor.children, table.Expressible c := by
  cases d with
  | enum shape => exact ⟨fun _ => nofun, fun _ => succeeds_ok⟩
  | record shape =>
    have fields : Succeeds (recordText table shape) ↔
        ∀ f ∈ shape.fields, table.Expressible f.type := by
      rw [recordText, succeeds_bind_pure, succeeds_mapM]
      simp only [fieldLine, succeeds_bind_pure, expression_succeeds]
    rw [definitionText, fields]
    constructor
    · intro h c part
      obtain ⟨f, hf, rfl⟩ := List.mem_map.mp part
      exact h f hf
    · intro h f hf
      exact h f.type (List.mem_map.mpr ⟨f, hf, rfl⟩)

theorem paramsText_succeeds (owner : Owner) {params : List Param} :
    Succeeds (paramsText table owner params) ↔ ∀ p ∈ params, table.Expressible p.type := by
  cases params with
  | nil => exact ⟨fun _ => nofun, fun _ => succeeds_ok⟩
  | cons p rest =>
    rw [paramsText, if_neg (by simp)]
    simp only [succeeds_bind_pure, succeeds_mapM, expression_succeeds]

theorem commandBody_succeeds (owner : Owner) {c : Command A} (pushes : c.kind = .stream → c.payload?.isSome) :
    Succeeds (commandBody table owner c) ↔ table.Expressible c.content := by
  rw [commandBody, Command.content]
  cases kind : c.kind with
  | unary => exact succeeds_bind_pure.trans (expression_succeeds _)
  | stream =>
    obtain ⟨t, pushed⟩ := Option.isSome_iff_exists.mp (pushes kind)
    simp only [pushed]
    exact succeeds_bind_pure.trans (expression_succeeds _)

theorem commandText_succeeds {c : Command A} (pushes : c.kind = .stream → c.payload?.isSome) :
    Succeeds (commandText table c) ↔
      (∀ p ∈ c.params, table.Expressible p.type) ∧ table.Expressible c.content := by
  rw [← paramsText_succeeds (.command c.name),
    ← commandBody_succeeds (.command c.name) pushes]
  exact succeeds_bind fun _ => succeeds_bind_pure

theorem eventsText_succeeds (owner : Owner) (name : String) {events : List (String × Descriptor)} :
    Succeeds (eventsText table owner name events) ↔ ∀ e ∈ events, table.Expressible e.2 := by
  rw [eventsText, succeeds_bind_pure, succeeds_mapM]
  simp only [succeeds_bind_pure, expression_succeeds]

theorem socketText_succeeds {s : SocketHandler A} :
    Succeeds (socketText table s) ↔ ∀ p ∈ s.eventTypes, table.Expressible p.2 := by
  have both : Succeeds (socketText table s) ↔ (∀ e ∈ s.serverEvents, table.Expressible e.2) ∧
      ∀ e ∈ s.clientEvents, table.Expressible e.2 := by
    rw [← eventsText_succeeds (.socket s.name) (KeyCase.toPascal s.name ++ "ServerEvents"),
      ← eventsText_succeeds (.socket s.name) (KeyCase.toPascal s.name ++ "ClientEvents")]
    exact succeeds_bind fun _ => succeeds_bind_pure
  rw [both, SocketHandler.eventTypes, List.forall_mem_append]
  simp only [List.forall_mem_map]

structure Walked (table : Definitions) (w w' : Walk) : Prop where
  seen : w.seen ⊆ w'.seen
  done : w.done ⊆ w'.done
  left : ∀ name ∈ w'.seen, name ∉ w.seen → table.contains name = true → name ∈ w'.done

theorem Walked.refl (w : Walk) : Walked table w w where
  seen := List.Subset.refl _
  done := List.Subset.refl _
  left := fun _ now before => absurd now before

theorem Walked.trans {w w' w'' : Walk} (h : Walked table w w') (more : Walked table w' w'') :
    Walked table w w'' where
  seen := List.Subset.trans h.seen more.seen
  done := List.Subset.trans h.done more.done
  left := by
    intro name now before known
    by_cases between : name ∈ w'.seen
    · exact more.done (h.left name between before known)
    · exact more.left name now between known

mutual
/-- A visit of a name. With fuel left the name has been seen. -/
theorem visit_walked (fuel : Nat) (name : String) (w : Walk) :
    Walked table w (visit table fuel name w) ∧
      (0 < fuel → name ∈ (visit table fuel name w).seen) := by
  cases fuel with
  | zero => exact ⟨by rw [visit]; exact .refl w, fun h => absurd h (Nat.lt_irrefl 0)⟩
  | succ fuel =>
    rw [visit]
    by_cases before : w.seen.contains name = true
    · rw [if_pos before]
      exact ⟨.refl w, fun _ => by simpa using before⟩
    · rw [if_neg before]
      cases found : table.get? name with
      | none =>
        refine ⟨⟨List.subset_cons_self _ _, List.Subset.refl _, ?_⟩, fun _ => List.mem_cons_self⟩
        intro other now before known
        rcases List.mem_cons.mp now with rfl | now
        · rw [contains, found] at known
          cases known
        · exact absurd now before
      | some d =>
        have walked := visitAll_walked fuel d.dependencies { w with seen := name :: w.seen }
        refine ⟨⟨List.Subset.trans (List.subset_cons_self _ _) walked.1.seen,
          List.Subset.trans walked.1.done (List.subset_append_left _ _), ?_⟩,
          fun _ => walked.1.seen List.mem_cons_self⟩
        intro other now before known
        rw [List.mem_append, List.mem_singleton]
        by_cases same : other = name
        · exact .inr same
        · apply Or.inl (walked.1.left other now _ known)
          simp [same, before]

theorem visitAll_walked (fuel : Nat) (names : List String) (w : Walk) :
    Walked table w (visitAll table fuel names w) ∧
      (0 < fuel → ∀ name ∈ names, name ∈ (visitAll table fuel names w).seen) := by
  cases names with
  | nil => exact ⟨by rw [visitAll]; exact .refl w, fun _ => nofun⟩
  | cons name rest =>
    rw [visitAll]
    have first := visit_walked fuel name w
    have others := visitAll_walked fuel rest (visit table fuel name w)
    refine ⟨first.1.trans others.1, fun lasts => List.forall_mem_cons.mpr ⟨?_, others.2 lasts⟩⟩
    exact others.1.seen (first.2 lasts)
end

theorem mem_ordered {name : String} (known : table.contains name = true) :
    name ∈ ordered table := by
  have listed : name ∈ table.names := mem_names_iff.mpr known
  have walked : Walked table ⟨[], []⟩ (visitAll table (table.entries.length + 1) table.names ⟨[], []⟩) ∧
      _ := visitAll_walked _ _ _
  exact walked.1.left name (walked.2 (Nat.succ_pos _) name listed) List.not_mem_nil known

theorem mem_orderedDefinitions {d : Definition} (own : Only (fun _ => True) table) :
    d ∈ (ordered table).filterMap table.get? ↔ table.Holds d := by
  rw [List.mem_filterMap]
  constructor
  · rintro ⟨name, -, found⟩
    rw [Holds, (own name d found).1]
    exact found
  · intro holds
    exact ⟨d.name, mem_ordered (Option.isSome_iff_exists.mpr ⟨d, holds⟩), holds⟩

/-- A client is generated when the fields of all definitions, the parameters and contents of all
commands and the events of all sockets have expressions. -/
theorem generate_succeeds {r : Registry A} (own : Only (fun _ => True) r.definitions)
    (pushes : ∀ c ∈ r.commandList, c.kind = .stream → c.payload?.isSome) :
    Succeeds (generate r) ↔
      (∀ d, r.definitions.Holds d → ∀ t ∈ d.descriptor.children, r.definitions.Expressible t) ∧
      (∀ c ∈ r.commandList, (∀ p ∈ c.params, r.definitions.Expressible p.type) ∧
        r.definitions.Expressible c.content) ∧
      ∀ s ∈ r.socketList, ∀ p ∈ s.eventTypes, r.definitions.Expressible p.2 := by
  have definitions : Succeeds (((ordered r.definitions).filterMap r.definitions.get?).mapM
      (definitionText r.definitions)) ↔
      ∀ d, r.definitions.Holds d → ∀ t ∈ d.descriptor.children, r.definitions.Expressible t := by
    simp only [succeeds_mapM, mem_orderedDefinitions own, definitionText_succeeds]
  have commands : Succeeds (r.commandList.mapM (commandText r.definitions)) ↔
      ∀ c ∈ r.commandList, (∀ p ∈ c.params, r.definitions.Expressible p.type) ∧
        r.definitions.Expressible c.content := by
    rw [succeeds_mapM]
    exact forall₂_congr fun c there => commandText_succeeds (pushes c there)
  have sockets : Succeeds (r.socketList.mapM (socketText r.definitions)) ↔
      ∀ s ∈ r.socketList, ∀ p ∈ s.eventTypes, r.definitions.Expressible p.2 := by
    simp only [succeeds_mapM, socketText_succeeds]
  rw [← definitions, ← commands, ← sockets]
  exact succeeds_bind fun _ => succeeds_bind fun _ => succeeds_bind_pure

end TypeScript
end CommandBridge
