/-
# RemoteUi.Wire.ClientEnvelope — messages from the client to the server.
-/
import RemoteUi.Event
import RemoteUi.Location
import RemoteUi.Wire.Frame

namespace RemoteUi

/-- A message from the client. -/
inductive ClientEnvelope where
  /-- The greeting, sent first. -/
  | hello (location : Location)
  /-- A request to run again with what the user did. -/
  | rerun (location : Location) (requestId : Nat) (events : List Event)
  /-- The answer to a rejection for diverged state. -/
  | acknowledge

namespace ClientEnvelope

/-- The JSON form of a message. -/
def toJson : ClientEnvelope → Json
  | .hello location => .obj [("type", .str "hello"), ("location", location.toJson)]
  | .rerun location requestId events =>
    .obj [("type", .str "request_rerun"), ("location", location.toJson),
      ("request_id", .int requestId), ("events", .arr (events.map Event.toJson))]
  | .acknowledge => .obj [("type", .str "ack_invalid_state")]

/-- The text of a message. -/
def text (e : ClientEnvelope) : String :=
  e.toJson.render

/-- The payload of a message. -/
def payload (e : ClientEnvelope) : List UInt8 :=
  e.text.toUTF8.data.toList

/-- The size of the payload in octets. -/
def size (e : ClientEnvelope) : Nat :=
  e.text.utf8ByteSize

end ClientEnvelope

namespace Wire

/-- Writes messages as frames in order.  One that does not fit a frame is passed over; only a
refused write ends the run. -/
def writeEnvelopes (sink : Sink) (envelopes : List ClientEnvelope) :
    List UInt8 × Option FrameFault :=
  writeFrames sink toServerCap []
    ((envelopes.filter fun e => e.size ≤ toServerCap).map ClientEnvelope.payload)

end Wire

end RemoteUi
