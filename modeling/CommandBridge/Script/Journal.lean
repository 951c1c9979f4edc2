import CommandBridge.Handler.Action

/-!
# The journal of scripted handlers

A scripted handler is a list of steps that run in order. Scripted handlers share one
journal, to which they add notes.
-/

set_option autoImplicit false

namespace CommandBridge.Script

structure Journal where
  notes : List Json

namespace Journal

def empty : Journal := ⟨[]⟩

def note (v : Json) (j : Journal) : Journal := ⟨v :: j.notes⟩

def noteAll (vs : List Json) (j : Journal) : Journal := vs.foldl (fun j v => j.note v) j

def toList (j : Journal) : List Json := j.notes.reverse

end Journal

def badKey : String := "key must be a string"

def attemptNote : Option SendError → Json
  | none => .string "sent"
  | some e => .string e.message

end CommandBridge.Script
