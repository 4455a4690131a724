import ReviewStream.Event.Decode
import ReviewStream.Json.Writer
import ReviewStream.Listener.Registry
import ReviewStream.Whitelist.Basic
import ReviewStream.Whitelist.Project

/-!
# Work items

What a dispatcher queues: a line of the stream, a payload, or an event that is decoded already.

* `WorkItem.passes`: lines and payloads are held against the whitelist before they are decoded.
* `WorkItem.event?`: the event of an item, if it passes and can be decoded.
* `WorkItem.calls`: the calls of listeners that an item causes.
-/

namespace ReviewStream

/-- An item of work. -/
inductive WorkItem where
  | line (text : String) (provider : Option Provider)
  | payload (value : Json) (provider : Option Provider)
  | event (e : Event)
deriving DecidableEq

/-- What decoding comes to. -/
inductive Decoded where
  | event (e : Event)
  | refused (e : DecodeError)
  | crashed
deriving DecidableEq

/-- What came of a decoder that answers or refuses. -/
def Decoded.ofExcept : Except DecodeError Event → Decoded
  | .ok e => .event e
  | .error e => .refused e

/-- The event, if there is one. -/
def Decoded.event? : Decoded → Option Event
  | .event e => some e
  | _ => none

/-- A way to read events from lines and payloads. -/
structure Decoder where
  ofLine : Option Provider → String → Decoded
  ofJson : Option Provider → Json → Decoded

/-- The decoder of JSON events. -/
def Decoder.json : Decoder where
  ofLine provider text := .ofExcept (Event.ofLine? provider text)
  ofJson provider value := .ofExcept (Event.ofJson? provider value)

namespace WorkItem

/-- The name of the kind of an item. -/
def kindName : WorkItem → String
  | .line .. => "raw-line"
  | .payload .. => "decoded-payload"
  | .event _ => "internal-event"

/-- The text of an item as it is shown: for an event the name of its type. -/
def text : WorkItem → String
  | .line text _ => text
  | .payload value _ => value.toText
  | .event e => e.typeName

/-- Whether a whitelist lets the item pass.  Empty lines never pass, events always do. -/
def passes (w : Whitelist) : WorkItem → Bool
  | .line text _ => !text.isEmpty && w.admits (scanProject text)
  | .payload value _ => w.admits (scanProject value.toText)
  | .event _ => true

/-- What the decoder makes of an item. -/
def decode (d : Decoder) : WorkItem → Decoded
  | .line text provider => d.ofLine provider text
  | .payload value provider => d.ofJson provider value
  | .event e => .event e

/-- The event of an item that passes and can be decoded. -/
def event? (w : Whitelist) (d : Decoder) (item : WorkItem) : Option Event :=
  if item.passes w then (item.decode d).event? else none

/-- The calls that processing an item causes. -/
def calls (w : Whitelist) (d : Decoder) (r : Registry) (item : WorkItem) : List Call :=
  match item.event? w d with
  | some e => r.round e
  | none => []

end WorkItem

end ReviewStream
