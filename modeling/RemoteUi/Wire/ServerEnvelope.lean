/-
# RemoteUi.Wire.ServerEnvelope — messages from the server to the client.

A message is an object whose member `type` says which message it is, or an array whose first item
does.  The tag is looked at as soon as it is met; the rest is read ahead and shaped afterwards.
-/
import RemoteUi.Json.Reader
import RemoteUi.Json.Record
import RemoteUi.Wire.Frame

namespace RemoteUi

/-- Why the server could not run a request. -/
structure ResponseError where
  kind : String
  message : Option String
  deriving DecidableEq

/-- The server's view of the client has diverged from the client. -/
def ResponseError.isInvalidState (e : ResponseError) : Bool :=
  e.kind == "InvalidState"

/-- The outcome of a run: a tree to show, or an error. -/
structure Response where
  /-- The request that is answered; a push answers none. -/
  requestId : Option Nat
  root : Option Json
  error : Option ResponseError
  devMode : Option Bool

/-- A message from the server. -/
inductive ServerEnvelope where
  | hello (sessionId : String) (devMode : Option Bool)
  | rerun (response : Response)
  | refresh (devMode : Option Bool)

/-- What a message from the server amounts to. -/
inductive ResponseKind where
  | helloAck
  | rerunResult
  | invalidState
  | forceReload
  deriving DecidableEq

namespace ServerEnvelope

/-- What the message amounts to. -/
def kind : ServerEnvelope → ResponseKind
  | .hello _ _ => .helloAck
  | .rerun response =>
    if response.error.any ResponseError.isInvalidState then .invalidState else .rerunResult
  | .refresh _ => .forceReload

/-- The development flag that the message carries, if it does. -/
def devMode : ServerEnvelope → Option Bool
  | .hello _ devMode => devMode
  | .rerun response => response.devMode
  | .refresh devMode => devMode

end ServerEnvelope

/-! ## Shapes -/

/-- The shape of a server error. -/
def ResponseError.record : Json.Record ResponseError where
  name := "struct ResponseError"
  fields := [
    .mandatory "type" Json.readText fun a e => { e with kind := a },
    .optional "message" (Json.readOption Json.readText) fun a e => { e with message := a }]
  blank := ⟨"", none⟩

/-- The shape of a response. -/
def Response.record : Json.Record Response where
  name := "struct RerunResponse"
  fields := [
    .optional "request_id" (Json.readOption Json.readNat) fun a r => { r with requestId := a },
    .optional "root" (Json.readOption Json.readAny) fun a r => { r with root := a },
    .optional "error" (Json.readOption ResponseError.record.read) fun a r => { r with error := a },
    .optional "dev_mode" (Json.readOption Json.readFlag) fun a r => { r with devMode := a }]
  blank := ⟨none, none, none, none⟩

/-- The shape of a greeting: session id and development flag. -/
def ServerEnvelope.helloRecord : Json.Record (String × Option Bool) where
  name := "struct variant ServerEnvelope::Hello"
  fields := [
    .mandatory "session_id" Json.readText fun a r => (a, r.2),
    .optional "dev_mode" (Json.readOption Json.readFlag) fun a r => (r.1, a)]
  blank := ("", none)

/-- The shape of a demand to reload. -/
def ServerEnvelope.refreshRecord : Json.Record (Option Bool) where
  name := "struct variant ServerEnvelope::PleaseRefresh"
  fields := [.optional "dev_mode" (Json.readOption Json.readFlag) fun a _ => a]
  blank := none

namespace ServerEnvelope

/-- The three tags of a message. -/
inductive Tag where
  | hello
  | rerun
  | refresh
  deriving DecidableEq

/-- The tag with a name. -/
def Tag.ofName (s : String) : Except Json.Mismatch Tag :=
  if s = "response_hello" then .ok .hello
  else if s = "response_rerun" ∨ s = "new_state" then .ok .rerun
  else if s = "please_refresh" then .ok .refresh
  else
    .error (.unknownVariant s ["response_hello", "new_state", "response_rerun", "please_refresh"])

/-- Shapes the rest of a message by its tag. -/
def shape (tag : Tag) (body : Json) : Except Json.Mismatch ServerEnvelope :=
  match tag with
  | .hello => (helloRecord.read body).map fun r => .hello r.1 r.2
  | .rerun => (Response.record.read body).map .rerun
  | .refresh => (refreshRecord.read body).map .refresh

/-! ## Reading -/

/-- Reads a tag where one is due. -/
def readTag (input : Json.Octets) : Except Json.Fault (Tag × Json.Octets) :=
  let wrong := fun j => Except.error (.mismatch (.invalidType j "variant identifier"))
  match Json.Reader.skipSpaces input with
  | [] => .error .truncated
  | c :: rest =>
    if c = 0x5B then wrong (.arr [])
    else if c = 0x7B then wrong (.obj [])
    else
      match Json.Reader.scalar c rest with
      | .error e => .error e
      | .ok (.str s, rest) =>
        match Tag.ofName s with
        | .ok tag => .ok (tag, rest)
        | .error e => .error (.mismatch e)
      | .ok (j, _) => wrong j

/-- What has been read of a message: its tag, and the rest in reverse. -/
structure Parts (α : Type) where
  tag : Option Tag
  rest : List α

/-- Containers inside a message may nest one level less than documents. -/
def innerDepth : Nat := Json.Reader.maxDepth - 1

/-- Reads one member of a message from after its key.  A second tag is refused for its key, before
the colon is looked for. -/
def readMember (bound : Nat) (p : Parts (String × Json)) (k : String) (input : Json.Octets) :
    Except Json.Fault (Parts (String × Json) × Json.Octets) :=
  if k = "type" ∧ p.tag.isSome then .error (.mismatch (.duplicateField "type"))
  else
    match Json.Reader.colon input with
    | .error e => .error e
    | .ok input =>
      if k = "type" then
        (readTag input).map fun (tag, input) => ({ p with tag := some tag }, input)
      else
        (Json.Reader.value bound innerDepth input).map fun (j, input) =>
          ({ p with rest := (k, j) :: p.rest }, input)

/-- Reads one item of a message in an array. -/
def readItem (bound : Nat) (p : Parts Json) (input : Json.Octets) :
    Except Json.Fault (Parts Json × Json.Octets) :=
  match p.tag with
  | none => (readTag input).map fun (tag, input) => ({ p with tag := some tag }, input)
  | some _ =>
    (Json.Reader.value bound innerDepth input).map fun (j, input) =>
      ({ p with rest := j :: p.rest }, input)

/-- Shapes a message whose parts have been read. -/
def conclude {α : Type} (p : Parts α) (body : List α → Json) (rest : Json.Octets) :
    Except Json.Fault ServerEnvelope :=
  match p.tag with
  | none => .error (.mismatch (.missingField "type"))
  | some tag =>
    match shape tag (body p.rest.reverse) with
    | .error e => .error (.mismatch e)
    | .ok envelope => Json.Reader.finish envelope rest

/-- Reads a message that is the whole payload. -/
def decode (payload : Json.Octets) : Except Json.Fault ServerEnvelope :=
  let bound := payload.length + 1
  match Json.Reader.skipSpaces payload with
  | [] => .error .truncated
  | c :: rest =>
    if c = 0x7B then
      match Json.Reader.foldMembers (readMember bound) bound true ⟨none, []⟩ rest with
      | .error e => .error e
      | .ok (p, rest) => conclude p .obj rest
    else if c = 0x5B then
      match Json.Reader.foldItems (readItem bound) bound true ⟨none, []⟩ rest with
      | .error e => .error e
      | .ok (p, rest) => conclude p .arr rest
    else
      match Json.Reader.scalar c rest with
      | .error e => .error e
      | .ok (j, _) =>
        .error (.mismatch (.invalidType j "internally tagged enum ServerEnvelope"))

end ServerEnvelope

namespace Wire

/-- The messages of a stream of frames, in order, and why the stream ended: `none` is the end of
the input.  A payload that is no message is passed over. -/
def readEnvelopes (input : List UInt8) : List ServerEnvelope × Option FrameFault :=
  let (payloads, e) := readAll toClientCap input
  (payloads.filterMap fun p => (ServerEnvelope.decode p).toOption,
    if e = .endOfInput then none else some e)

end Wire

end RemoteUi
