/-
# RemoteUi.Session.Run — a session on a stream of frames.

A run greets the server and then goes in turns.  In a turn one payload is delivered, the user
acts, an animation frame passes, and what waits for the server is sent.  A run ends when the
server demands a reload or when the stream ends; a demand for a reload comes before anything the
user does.
-/
import RemoteUi.Session.Basic

namespace RemoteUi

/-- What the user does to the widget or group with an identity. -/
structure Action where
  id : String
  input : Input

/-- A user by what is done next.  It is decided by the user's own state and by what the host was
told, the latest first. -/
structure User (σ : Type) where
  next : σ → List HostCall → List Action × σ

/-- A user who does nothing. -/
def User.idle : User Unit := ⟨fun _ _ => ([], ())⟩

/-- A payload from the server, and when it arrives. -/
structure Arrival where
  payload : List UInt8
  /-- Since the opening of the session, in nanoseconds. -/
  time : Nat

/-- How a run ends. -/
inductive Ending where
  /-- The stream ended. -/
  | closed
  | reload
  deriving DecidableEq

/-- Why a run fails. -/
inductive RunError where
  | transport (fault : Wire.FrameFault)
  | config (error : ConfigError)
  /-- What is to be sent cannot be written. -/
  | outboundClosed
  deriving DecidableEq

/-- The wording of a failed run. -/
def RunError.message : RunError → String
  | .transport fault => "transport error: " ++ fault.message
  | .config error => error.message
  | .outboundClosed => "outbound queue closed before envelope could be queued"

/-- The status with which a process reports a run. -/
def exitStatus : Except RunError Ending → UInt8
  | .ok _ => 0
  | .error (.config _) => 2
  | .error _ => 1

/-- What a run sends, and how it ends. -/
structure Transcript where
  /-- What is sent in each turn. -/
  turns : List (List ClientEnvelope)
  ending : Ending
  /-- The session as it is left. -/
  session : Session

/-- The transcript with one more turn before the others. -/
def Transcript.cons (sent : List ClientEnvelope) (t : Transcript) : Transcript :=
  { t with turns := sent :: t.turns }

/-- All that is sent, in order. -/
def Transcript.sent (t : Transcript) : List ClientEnvelope :=
  t.turns.flatten

namespace Session

/-- What the host is told when the stream ends. -/
def streamEnded : String := "server closed the connection"

/-- Takes the messages that are sent: of those that wait, the ones that fit a frame. -/
def emit (s : Session) : Session × List ClientEnvelope :=
  let (s, waiting) := s.drain
  (s, waiting.filter fun e => e.size ≤ Wire.toServerCap)

/-- Delivers a payload.  One that is no message is passed over. -/
def receive (s : Session) (a : Arrival) : Session × SessionSignal :=
  match ServerEnvelope.decode a.payload with
  | .ok envelope => s.handle envelope a.time
  | .error _ => (s, .proceed)

/-- Does what the user does, in order.  It makes no difference what is refused. -/
def act (s : Session) (actions : List Action) : Session :=
  actions.foldl (fun s a => (s.interact a.id a.input).session) s

/-- Greets the server: the session, and what is sent. -/
def greet (s : Session) : Session × List ClientEnvelope :=
  s.opening.emit

/-- What follows a payload that the session survives. -/
def proceed {σ : Type} (s : Session) (user : User σ) (u : σ) (now : Nat) :
    Session × List ClientEnvelope × σ :=
  let (actions, u) := user.next u s.calls
  let (s, sent) := ((s.act actions).animationFrame now).1.emit
  (s, sent, u)

/-- The turns of a run from a session on. -/
def follow {σ : Type} (user : User σ) : Session → σ → List Arrival → Transcript
  | s, _, [] => ⟨[], .closed, s.transportClosed streamEnded⟩
  | s, u, a :: rest =>
    match s.receive a with
    | (s, .reload) => ⟨[], .reload, s⟩
    | (s, .proceed) =>
      let (s, sent, u) := s.proceed user u a.time
      (follow user s u rest).cons sent

/-- A run.  Its first turn is the greeting. -/
def run {σ : Type} (config : Config) (host : Host) (user : User σ) (u : σ)
    (arrivals : List Arrival) : Transcript :=
  let (s, sent) := (start config host).greet
  (follow user s u arrivals).cons sent

end Session

/-- Payloads that arrive at once. -/
def Arrival.atOnce (payloads : List (List UInt8)) : List Arrival :=
  payloads.map fun p => ⟨p, 0⟩

/-- A client without a user on a stream of octets: what it sends, and how it ends.  A stream that
ends inside a frame ends like any other. -/
def serve (config : Except ConfigError Config) (host : Host) (input : List UInt8) :
    List ClientEnvelope × Except RunError Ending :=
  match config with
  | .error e => ([], .error (.config e))
  | .ok config =>
    let (payloads, fault) := Wire.readAll Wire.toClientCap input
    let t := Session.run config host .idle () (Arrival.atOnce payloads)
    (t.sent, if t.ending = .closed ∧ fault ≠ .endOfInput then .error (.transport fault)
      else .ok t.ending)

end RemoteUi
