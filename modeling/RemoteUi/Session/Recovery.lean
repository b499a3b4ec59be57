/-
# RemoteUi.Session.Recovery — the answer to fall back on.

The cache holds the newest successful answer that the client has seen, shown or not.  When the
server rejects a request for diverged state, the cached answer is taken out and shown again.
-/
import RemoteUi.Wire.ServerEnvelope

namespace RemoteUi

/-- The cached answer, and the highest id among those shown or cached. -/
structure Recovery where
  lastValid : Option Response
  newestSeen : Option Nat

namespace Recovery

/-- Nothing has been seen. -/
def empty : Recovery := ⟨none, none⟩

/-- The higher of an id and the highest so far. -/
def bump (seen id : Option Nat) : Option Nat :=
  match id with
  | none => seen
  | some i =>
    match seen with
    | none => some i
    | some s => some (max s i)

/-- Caches an answer. -/
def store (r : Recovery) (response : Response) : Recovery :=
  ⟨some response, bump r.newestSeen response.requestId⟩

/-- Caches an answer that was shown. -/
def recordApplied (r : Recovery) (response : Response) : Recovery :=
  r.store response

/-- An answer is not older than what was seen.  One without an id never is. -/
def isNews (r : Recovery) (response : Response) : Bool :=
  match response.requestId, r.newestSeen with
  | some id, some seen => seen < id
  | _, _ => true

/-- Caches an answer that was not shown, unless it is older than what was seen: whether it is. -/
def recordSuperseded (r : Recovery) (response : Response) : Recovery × Bool :=
  if r.isNews response then (r.store response, true) else (r, false)

/-- Takes the cached answer out. -/
def take (r : Recovery) : Recovery × Option Response :=
  ({ r with lastValid := none }, r.lastValid)

end Recovery

end RemoteUi
