import CommandBridge.Events.Basic
import CommandBridge.Text.Pieces

/-!
# Reading an event stream

Bytes come in chunks that may cut lines and characters anywhere. A line ends at a line
feed, with or without a carriage return before it; an event ends at an empty line.
Comments and unknown fields are passed over.
-/

set_option autoImplicit false

namespace CommandBridge

structure EventDecoder where
  buffer : List UInt8
  event : Option String
  data : List String
deriving DecidableEq

namespace EventDecoder

def start : EventDecoder := ⟨[], none, []⟩

def field (line : List Char) : List Char × List Char :=
  let value := (line.dropWhile (· ≠ ':')).tail
  (line.takeWhile (· ≠ ':'), if value.head? = some ' ' then value.tail else value)

def line (d : EventDecoder) (text : List Char) : EventDecoder × List PushEvent :=
  if text.isEmpty then
    if d.data.isEmpty && d.event.isNone then (d, [])
    else
      ({ d with event := none, data := [] },
        [⟨d.event.getD PushEvent.defaultName, String.intercalate "\n" d.data⟩])
  else
    let (name, value) := field text
    if name = "event".toList then ({ d with event := some (String.ofList value) }, [])
    else if name = "data".toList then ({ d with data := d.data ++ [String.ofList value] }, [])
    else (d, [])

def dropReturn (bytes : List UInt8) : List UInt8 :=
  if bytes.getLast? = some 13 then bytes.dropLast else bytes

def lines (d : EventDecoder) : List (List UInt8) → EventDecoder × List PushEvent
  | [] => (d, [])
  | bytes :: rest =>
    let now := d.line (Utf8.decodeLossy (dropReturn bytes))
    let more := lines now.1 rest
    (more.1, now.2 ++ more.2)

/-- Takes a chunk in and gives the events that it completes. -/
def feed (d : EventDecoder) (chunk : List UInt8) : EventDecoder × List PushEvent :=
  let pieces := Text.pieces 10 (d.buffer ++ chunk)
  { d with buffer := pieces.getLast?.getD [] }.lines pieces.dropLast

/-- Takes chunks in one after another. -/
def feedAll (d : EventDecoder) : List (List UInt8) → EventDecoder × List PushEvent
  | [] => (d, [])
  | chunk :: rest =>
    let now := d.feed chunk
    let more := feedAll now.1 rest
    (more.1, now.2 ++ more.2)

end EventDecoder
end CommandBridge
