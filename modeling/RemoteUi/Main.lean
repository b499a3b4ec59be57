/-
# RemoteUi.Main — the client on standard input and output.

Frames from the server come in on standard input and frames for the server go out on standard
output.  Nothing is drawn, and nobody uses what is shown.
-/
import RemoteUi.Session.Run

namespace RemoteUi

/-- Reads octets until there are `n` of them or the input ends. -/
partial def readUpTo (input : IO.FS.Stream) (n : Nat) (got : ByteArray) : IO ByteArray := do
  if n ≤ got.size then return got
  let chunk ← input.read (n - got.size).toUSize
  if chunk.isEmpty then return got
  readUpTo input n (got ++ chunk)

/-- Reads the payload of a frame. -/
def readPayload (input : IO.FS.Stream) : IO (Except Wire.FrameFault (List UInt8)) := do
  let head ← readUpTo input 4 .empty
  let announced := match head.data.toList with
    | [a, b, c, d] => Wire.lengthOf a b c d
    | _ => 0
  let body ← if announced ≤ Wire.toClientCap then readUpTo input announced .empty else pure .empty
  return (Wire.readFrame Wire.toClientCap (head ++ body).data.toList).map Prod.fst

/-- Writes messages as frames: whether it could be done. -/
def send (output : IO.FS.Stream) (envelopes : List ClientEnvelope) : IO Bool := do
  let (octets, _) := Wire.writeEnvelopes .unlimited envelopes
  try
    output.write ⟨octets.toArray⟩
    output.flush
    return true
  catch _ => return false

/-- The turns of a run, as they happen. -/
partial def converse (input output : IO.FS.Stream) (opened : Nat) (s : Session) :
    IO (Except RunError Ending) := do
  match ← readPayload input with
  | .error fault =>
    return if fault = .endOfInput then .ok .closed else .error (.transport fault)
  | .ok payload =>
    let now := (← IO.monoNanosNow) - opened
    match s.receive ⟨payload, now⟩ with
    | (_, .reload) => return .ok .reload
    | (s, .proceed) =>
      let (s, sent, _) := s.proceed .idle () now
      if ← send output sent then converse input output opened s
      else return .error .outboundClosed

/-- The configuration that the environment describes. -/
def configured : IO (Except ConfigError Config) := do
  let values ← Config.settingNames.mapM fun name => do return (name, ← IO.getEnv name)
  return Config.ofLookup fun name => (values.lookup name).join

/-- Runs the client. -/
def runClient : IO (Except RunError Ending) := do
  match ← configured with
  | .error e => return .error (.config e)
  | .ok config =>
    let output ← IO.getStdout
    let (s, sent) := (Session.start config .minimal).greet
    if ← send output sent then converse (← IO.getStdin) output (← IO.monoNanosNow) s
    else return .error .outboundClosed

end RemoteUi

/-- Runs the client, and reports on standard error what went wrong. -/
def main : IO UInt32 := do
  let outcome ← RemoteUi.runClient
  if let .error e := outcome then IO.eprintln e.message
  return (RemoteUi.exitStatus outcome).toUInt32
