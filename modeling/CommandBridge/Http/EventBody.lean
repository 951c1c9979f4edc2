import CommandBridge.Bridge.Schedule
import CommandBridge.Events.Basic

/-!
# Event streams as reply bodies

The body of an event stream gives the messages of its subscription as they come. After
fifteen quiet seconds it gives a comment instead.
-/

set_option autoImplicit false

namespace CommandBridge.Http

structure EventBody where
  channel : Nat
  since : Option Nat
deriving DecidableEq, Repr

namespace EventBody

variable {A : Application}

def keepAliveDelay : Nat := 15000

def ofChannel (index : Nat) : EventBody := ⟨index, none⟩

structure Chunk where
  text : String
  finished : Bool

def read : Nat → Bridge A → EventBody → Bridge A × EventBody × Chunk
  | 0, b, body => (b, body, ⟨"", false⟩)
  | fuel + 1, b, body =>
    let since := body.since.getD b.now
    match b.receive body.channel with
    | (b, .message m) =>
      let b := b.settle
      let (b, body, rest) := read fuel b { body with since := some b.now }
      (b, body, ⟨(PushEvent.ofMessage m).text ++ rest.text, rest.finished⟩)
    | (b, .finished) => (b, body, ⟨"", true⟩)
    | (b, .pending) =>
      if since + keepAliveDelay ≤ b.now then
        let (b, body, rest) := read fuel b { body with since := some b.now }
        (b, body, ⟨PushEvent.keepAlive ++ rest.text, rest.finished⟩)
      else (b, { body with since := some since }, ⟨"", false⟩)

end EventBody
end CommandBridge.Http
