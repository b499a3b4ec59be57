/-
# RemoteUi.Proofs.Session.Development — the development flag that a session goes by.

Every message from the server may carry the development flag.  Nothing but a message changes the
flag of a session, and a message without it clears it (`devMode_step`); so after any run the flag is
that of the last message (`devMode_after`).  It is the flag that was carried last, unless that one
was set and a message without a flag has come since (`devMode_eq_latest_iff`).

* What happens in the operations themselves has nothing to do with the flag.  Most of them do the
  same whatever the memory of a session is, and so leave it alone (`devMode_of_withMemory`); the
  others are shown to, one by one.
* A message is heard in any state but a closed one, and sets the flag before anything else is done
  with it.  This is why a message that is disregarded afterwards counts as well (`devMode_message`).
* Of a run only the messages matter (`envelopes`), and of these the last.

The last theorem compares two readings of one run, of which the second (`latestDevMode`) passes over
messages that carry no flag.
-/
import Mathlib.Data.List.Induction
import RemoteUi.Proofs.Session.Reachable

namespace RemoteUi

/-- The message that a stimulus brings. -/
def Stimulus.envelope? : Stimulus → Option ServerEnvelope
  | .message envelope _ => some envelope
  | _ => none

namespace Session

/-! ## Operations -/

variable (s : Session)

/-- What does the same whatever the memory of a session is leaves the flag alone. -/
theorem devMode_of_withMemory {f : Session → Session}
    (hf : ∀ r d, f (s.withMemory r d) = (f s).withMemory r d) : (f s).devMode = s.devMode := by
  have hself : s.withMemory s.recovery s.devMode = s := rfl
  have hcommutes := hf s.recovery s.devMode
  rw [hself] at hcommutes
  rw [hcommutes]
  rfl

/-- Sending a request leaves the flag alone. -/
theorem devMode_sendEvents (events : List Event) : (s.sendEvents events).1.devMode = s.devMode := by
  apply s.devMode_of_withMemory (f := fun s => (s.sendEvents events).1)
  intro r d
  simp only [sendEvents_withMemory]

/-- Showing a tree leaves the flag alone. -/
theorem devMode_render (response : Response) (now : Nat) :
    (s.render response now).1.devMode = s.devMode := by
  apply s.devMode_of_withMemory (f := fun s => (s.render response now).1)
  intro r d
  simp only [render_withMemory]

/-- What the user does leaves the flag alone. -/
theorem devMode_interact (id : String) (input : Input) :
    (s.interact id input).session.devMode = s.devMode := by
  apply s.devMode_of_withMemory (f := fun s => (s.interact id input).session)
  intro r d
  simp only [interact_withMemory]

/-- A frame leaves the flag alone. -/
theorem devMode_animationFrame (now : Nat) : (s.animationFrame now).1.devMode = s.devMode := by
  apply s.devMode_of_withMemory (f := fun s => (s.animationFrame now).1)
  intro r d
  simp only [animationFrame_withMemory]

theorem devMode_transportClosed (reason : String) :
    (s.transportClosed reason).devMode = s.devMode := by
  apply s.devMode_of_withMemory (f := fun s => s.transportClosed reason)
  intro r d
  exact transportClosed_withMemory s r d reason

/-- An answer leaves the flag alone, once its message has set it. -/
theorem devMode_handleResponse (response : Response) (now : Nat) :
    (s.handleResponse response now).devMode = s.devMode := by
  unfold handleResponse
  cases s.requests.classify response with
  | apply =>
    have hrender := s.devMode_render response now
    dsimp only
    split
    · exact hrender
    · exact hrender
  | superseded id => rfl
  | invalidState =>
    dsimp only [push]
    -- a rejection renders what is cached, and no other flag comes with that
    cases s.recovery.take.2 with
    | none => rfl
    | some cached => exact devMode_render { s with recovery := s.recovery.take.1 } cached now
  | failed error => rfl

/-- A message sets the flag to what it carries, and clears it if it carries none. -/
theorem devMode_message (envelope : ServerEnvelope) (now : Nat) :
    (s.step (.message envelope now)).devMode = envelope.devMode.getD false := by
  by_cases hclosed : s.state = .closed
  · rw [step_message_of_closed hclosed]
  · cases envelope with
    | hello id devMode =>
      by_cases hid : s.sessionId = none
      · rw [step_hello hclosed hid, devMode_sendEvents]
        rfl
      · rw [step_hello_again hclosed hid]
        rfl
    | rerun response =>
      rw [step_rerun hclosed, devMode_handleResponse]
      rfl
    | refresh devMode =>
      rw [step_refresh hclosed]
      rfl

/-- Nothing but a message changes the flag. -/
theorem devMode_step (x : Stimulus) : (s.step x).devMode =
    (x.envelope?.map fun envelope => envelope.devMode.getD false).getD s.devMode := by
  cases x with
  | opening | drain => rfl
  | message envelope now => exact s.devMode_message envelope now
  | action a => exact s.devMode_interact a.id a.input
  | frame now => exact s.devMode_animationFrame now
  | lost reason => exact s.devMode_transportClosed reason

/-! ## Runs -/

/-- The messages of a run, in order. -/
def envelopes (run : List Stimulus) : List ServerEnvelope :=
  run.filterMap Stimulus.envelope?

/-- The flag that the messages of a run carried last; false if none carried it. -/
def latestDevMode (run : List Stimulus) : Bool :=
  ((envelopes run).filterMap ServerEnvelope.devMode).getLast?.getD false

/-- The last stimulus may bring one more message. -/
theorem envelopes_concat (run : List Stimulus) (x : Stimulus) :
    envelopes (run ++ [x]) = envelopes run ++ x.envelope?.toList := by
  rw [envelopes, List.filterMap_append]
  cases hx : x.envelope? <;> simp [envelopes, hx]

/-- After a run, a session goes by what the last message said. -/
theorem devMode_after (config : Config) (host : Host) (run : List Stimulus) :
    ((start config host).after run).devMode =
      ((envelopes run).getLast?.bind ServerEnvelope.devMode).getD false := by
  induction run using List.reverseRecOn with
  | nil => rfl
  | append_singleton run x ih =>
    rw [after_concat, devMode_step, envelopes_concat]
    cases x.envelope? with
    | none => simpa using ih
    | some envelope => simp

/-- Where the last message carries a flag, it is the flag that was carried last. -/
theorem latestDevMode_of_carried {run : List Stimulus} {envelope : ServerEnvelope} {flag : Bool}
    (hlast : (envelopes run).getLast? = some envelope) (hflag : envelope.devMode = some flag) :
    latestDevMode run = flag := by
  obtain ⟨earlier, heq⟩ := List.getLast?_eq_some_iff.mp hlast
  simp [latestDevMode, heq, hflag]

/-- A session goes by the flag that was carried last exactly if the last message carries a flag or
the one carried last was not set: a message without a flag does not leave a set one as it was. -/
theorem devMode_eq_latest_iff (config : Config) (host : Host) (run : List Stimulus) :
    ((start config host).after run).devMode = latestDevMode run ↔
      ∀ envelope, (envelopes run).getLast? = some envelope → envelope.devMode = none →
        latestDevMode run = false := by
  rw [devMode_after]
  cases hlast : (envelopes run).getLast? with
  | none =>
    have hnone : envelopes run = [] := List.getLast?_eq_none_iff.mp hlast
    have hlatest : latestDevMode run = false := by
      rw [latestDevMode, hnone]
      rfl
    simp [hlatest]
  | some envelope =>
    rw [Option.bind_some]
    cases hflag : envelope.devMode with
    | some flag =>
      rw [latestDevMode_of_carried hlast hflag]
      simp [hflag]
    | none =>
      rw [Option.getD_none]
      constructor
      · intro hcleared _ _ _
        exact hcleared.symm
      · intro hunset
        exact (hunset envelope rfl hflag).symm

/-- The server greets the session with the flag set, and pushes a page without it. -/
def flagThenPage : List Stimulus :=
  [.opening, .message (.hello "session" (some true)) 0,
    .message (.rerun ⟨none, some (.page []), none, none⟩) 1]

/-- The page clears the flag, which it does not carry. -/
theorem flag_lost_to_page :
    ((start .default .minimal).after (flagThenPage.take 2)).devMode = true ∧
      latestDevMode flagThenPage = true ∧
      ((start .default .minimal).after flagThenPage).devMode = false :=
  ⟨devMode_after _ _ _, rfl, devMode_after _ _ _⟩

end Session

end RemoteUi
