/-
# RemoteUi.Session.Requests — which request is awaited.

Ids count up from one and are never given twice.  Only the request with the latest id is awaited;
a successful answer to an earlier one is superseded.
-/
import RemoteUi.Wire.ClientEnvelope
import RemoteUi.Wire.ServerEnvelope

namespace RemoteUi

/-- The ids that have been given out. -/
structure Requests where
  next : Nat
  /-- The id that was given out last. -/
  latest : Option Nat
  deriving DecidableEq

/-- What an answer is to the client. -/
inductive Disposition where
  /-- It answers the awaited request, or none at all. -/
  | apply
  | superseded (requestId : Nat)
  | invalidState
  | failed (error : ResponseError)
  deriving DecidableEq

namespace Requests

/-- No id has been given out. -/
def start : Requests := ⟨1, none⟩

/-- The request for the next id, which is not given out by this. -/
def prepare (r : Requests) (location : Location) (events : List Event) : ClientEnvelope :=
  .rerun location r.next events

/-- Gives out the next id. -/
def issue (r : Requests) : Requests × Nat :=
  (⟨r.next + 1, some r.next⟩, r.next)

/-- The id is that of the awaited request. -/
def accepts (r : Requests) (id : Nat) : Bool :=
  r.latest == some id

/-- What an answer is: errors are looked at before ids. -/
def classify (r : Requests) (response : Response) : Disposition :=
  match response.error with
  | some e => if e.isInvalidState then .invalidState else .failed e
  | none =>
    match response.requestId with
    | none => .apply
    | some id => if r.accepts id then .apply else .superseded id

end Requests

end RemoteUi
