/-
# RemoteUi.Wire.Frame — length-prefixed frames.

A frame is the length of its payload in four octets, most significant first, and the payload.
Both directions have a cap on the payload.  `readAll` takes frames off a stream until one cannot
be read, and `Sink` is the other end: it keeps what was written, and may fail at any octet.
-/

namespace RemoteUi.Wire

/-- The cap on payloads from the client to the server. -/
def toServerCap : Nat := 1048576

/-- The cap on payloads from the server to the client. -/
def toClientCap : Nat := 1048576

/-- Why a frame could not be read or written. -/
inductive FrameFault where
  /-- Invalid data: the payload is longer than the cap. -/
  | tooLarge (length cap : Nat)
  /-- Invalid data: four octets cannot name the length. -/
  | unrepresentable
  /-- The input ended where octets were due. -/
  | endOfInput
  /-- The sink did not take what was written. -/
  | refused
  deriving DecidableEq

/-- The wording of a frame fault. -/
def FrameFault.message : FrameFault → String
  | .tooLarge length cap => "frame too large: " ++ toString length ++ " > " ++ toString cap
  | .unrepresentable => "payload exceeds u32"
  | .endOfInput => "failed to fill whole buffer"
  | .refused => "full"

/-! ## One frame -/

/-- A length in four octets, most significant first. -/
def lengthOctets (n : Nat) : List UInt8 :=
  [UInt8.ofNat (n / Nat.pow 2 24), UInt8.ofNat (n / Nat.pow 2 16), UInt8.ofNat (n / Nat.pow 2 8), UInt8.ofNat n]

/-- The length that four octets name. -/
def lengthOf (a b c d : UInt8) : Nat :=
  ((a.toNat * 256 + b.toNat) * 256 + c.toNat) * 256 + d.toNat

/-- The header of the frame for a payload. -/
def header (cap : Nat) (payload : List UInt8) : Except FrameFault (List UInt8) :=
  let n := payload.length
  if cap < n then .error (.tooLarge n cap)
  else if Nat.pow 2 32 ≤ n then .error .unrepresentable
  else .ok (lengthOctets n)

/-- The frame for a payload. -/
def frame (payload : List UInt8) : List UInt8 :=
  lengthOctets payload.length ++ payload

/-- Takes one frame off a stream: its payload and the rest. -/
def readFrame (cap : Nat) (input : List UInt8) : Except FrameFault (List UInt8 × List UInt8) :=
  match input with
  | a :: b :: c :: d :: rest =>
    let n := lengthOf a b c d
    if cap < n then .error (.tooLarge n cap)
    else
      let payload := rest.take n
      if payload.length < n then .error .endOfInput else .ok (payload, rest.drop n)
  | _ => .error .endOfInput

theorem length_of_readFrame {cap : Nat} {input payload rest : List UInt8}
    (h : readFrame cap input = .ok (payload, rest)) : rest.length < input.length := by
  unfold readFrame at h
  split at h
  · dsimp only at h
    split at h
    · simp at h
    · split at h
      · simp at h
      · simp only [Except.ok.injEq, Prod.mk.injEq] at h
        obtain ⟨-, rfl⟩ := h
        simp only [List.length_drop, List.length_cons]
        omega
  · simp at h

/-! ## Streams of frames -/

/-- The payloads of a stream up to the first frame that cannot be read, and why it cannot. -/
def readAll (cap : Nat) (input : List UInt8) : List (List UInt8) × FrameFault :=
  match _h : readFrame cap input with
  | .error e => ([], e)
  | .ok (payload, rest) =>
    let (payloads, e) := readAll cap rest
    (payload :: payloads, e)
termination_by input.length
decreasing_by exact length_of_readFrame _h

/-- Where octets are written.  How much is taken is decided by what was written before. -/
structure Sink where
  /-- How many octets of a chunk are taken.  If they are not all of them, the write fails. -/
  takes : List UInt8 → List UInt8 → Nat
  /-- Whether what was written can be passed on. -/
  flushes : List UInt8 → Bool

/-- A sink that takes everything. -/
def Sink.unlimited : Sink := ⟨fun _ chunk => chunk.length, fun _ => true⟩

/-- A sink with room for a number of octets, which takes a chunk as a whole or not at all. -/
def Sink.ofRoom (room : Nat) : Sink where
  takes := fun written chunk =>
    if written.length + chunk.length ≤ room then chunk.length else 0
  flushes := fun _ => true

/-- Writes octets after those written: what is written afterwards, and whether it failed. -/
def Sink.write (sink : Sink) (written chunk : List UInt8) : List UInt8 × Option FrameFault :=
  let taken := chunk.take (sink.takes written chunk)
  (written ++ taken, if taken.length < chunk.length then some .refused else none)

/-- Writes a frame, header and payload in one write each: what is written afterwards, and why it
ended early. -/
def writeFrame (sink : Sink) (cap : Nat) (written payload : List UInt8) :
    List UInt8 × Option FrameFault :=
  match header cap payload with
  | .error e => (written, some e)
  | .ok octets =>
    match sink.write written octets with
    | (written, some e) => (written, some e)
    | (written, none) => sink.write written payload

/-- Writes payloads as frames in order, and passes each on, until one cannot be written. -/
def writeFrames (sink : Sink) (cap : Nat) :
    List UInt8 → List (List UInt8) → List UInt8 × Option FrameFault
  | written, [] => (written, none)
  | written, payload :: payloads =>
    match writeFrame sink cap written payload with
    | (written, some e) => (written, some e)
    | (written, none) =>
      if sink.flushes written then writeFrames sink cap written payloads
      else (written, some .refused)

end RemoteUi.Wire
