import CommandBridge.Descriptor.Basic
import CommandBridge.Native.Type

/-!
# A chat room

All that is said in a room is one list of events. A listener is the number of events
it has passed; one that falls too far behind skips to the oldest event still kept.
-/

set_option autoImplicit false

namespace CommandBridge.Showcase

structure ChatMessage where
  user : String
  text : String
  sentAt : UInt64

namespace ChatMessage

def type : Descriptor :=
  .record "ChatMessage" none
    [.required "user" .string, .required "text" .string,
      { FieldOf.required "sent_at" .integer with description := some "Unix seconds" }]

def toJson (m : ChatMessage) : Json :=
  .ofMembers [("user", .string m.user), ("text", .string m.text), ("sent_at", .nat m.sentAt.toNat)]

end ChatMessage

namespace Say

def type : Descriptor :=
  .record "Say" none [.required "user" .string, .required "text" .string]

def native : NativeType := .structure [⟨"user", .text, none⟩, ⟨"text", .text, none⟩]

end Say

inductive RoomEvent where
  | message (message : ChatMessage)
  | joined (user : String)

namespace RoomEvent

/-- The event by which a connection is told. -/
def name : RoomEvent → String
  | message _ => "message"
  | joined _ => "joined"

def data : RoomEvent → Json
  | message m => m.toJson
  | joined user => .string user

end RoomEvent

structure Room where
  events : List RoomEvent

namespace Room

def empty : Room := ⟨[]⟩

def kept : Nat := 128

def publish (room : Room) (e : RoomEvent) : Room := ⟨room.events ++ [e]⟩

def size (room : Room) : Nat := room.events.length

def following? (room : Room) (passed : Nat) : Option (RoomEvent × Nat) :=
  let at' := max passed (room.size - kept)
  room.events[at']?.map fun e => (e, at' + 1)

end Room
end CommandBridge.Showcase
