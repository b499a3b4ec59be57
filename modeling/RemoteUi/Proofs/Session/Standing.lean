/-
# RemoteUi.Proofs.Session.Standing — who a session is with, and whether it is over.

A session is given an id when it is greeted, and the host is told when it is over.  Of all that
drives a session only a greeting and an end have to do with this, and only once each: a step leaves
it alone, or is the greeting of a session without an id, or is the end of one that was not over yet
(`turn_step`).

All three are looked at together (`bearing`): the id, the stage of the connection, and what the host
was told of the end.  Every function that a step calls leaves them alone, which is shown from the
innermost outwards; what remains is the handling of a greeting, of a demand for a reload and of a
lost connection.

An answer, an input and a frame are therefore all of the first kind, whatever they come to.  That a
session without an id is not open is an invariant of runs (`Reachable.greeted`), and it is what
makes the id of the first greeting final.
-/
import RemoteUi.Proofs.Session.Delivery

namespace RemoteUi

/-- The host is told that the session is over. -/
def HostCall.isEnding : HostCall → Bool
  | .reload | .connectionLost _ => true
  | _ => false

/-- How a stimulus ends a session: what the host is told. -/
def Stimulus.ending? : Stimulus → Option HostCall
  | .message (.refresh _) _ => some .reload
  | .lost reason => some (.connectionLost reason)
  | _ => none

/-- The id by which a stimulus greets the client. -/
def Stimulus.greeting? : Stimulus → Option String
  | .message (.hello id _) _ => some id
  | _ => none

/-- Nothing but a demand for one has the host told of a reload. -/
theorem Stimulus.eq_refresh {x : Stimulus} (h : x.ending? = some .reload) :
    ∃ devMode now, x = .message (.refresh devMode) now := by
  cases x with
  | opening | action | frame | drain | lost => cases h
  | message envelope now =>
    cases envelope with
    | hello | rerun => cases h
    | refresh devMode => exact ⟨devMode, now, rfl⟩

/-- No stimulus is both a greeting and an end. -/
theorem Stimulus.greeting?_of_ending {x : Stimulus} (h : x.ending? ≠ none) :
    x.greeting? = none := by
  cases x with
  | opening | action | frame | drain | lost => rfl
  | message envelope now =>
    cases envelope with
    | hello => exact absurd rfl h
    | rerun | refresh => rfl

namespace Session

variable {s t : Session} {x : Stimulus}

/-- The id that the server gave a session, and whether it is open. -/
def standing (s : Session) : Option String × ConnectionState :=
  (s.sessionId, s.state)

/-- How often, and how, the host was told that the session is over, the latest first. -/
def endings (s : Session) : List HostCall :=
  s.calls.filter HostCall.isEnding

/-- Who the session is with, and whether it is over. -/
def bearing (s : Session) : (Option String × ConnectionState) × List HostCall :=
  (s.standing, s.endings)

/-! ## What leaves it alone -/

/-- A report is no end. -/
theorem bearing_report (s : Session) (ds : List Diagnostic) : (s.report ds).bearing = s.bearing := by
  induction ds generalizing s with
  | nil => rfl
  | cons d rest ih => exact ih (s.tell (.diagnostic d))

theorem bearing_preload (s : Session) (sources : List String) :
    (s.preload sources).1.bearing = s.bearing := by
  unfold preload
  split <;> rfl

/-- Showing a tree is neither. -/
theorem bearing_render (s : Session) (response : Response) (now : Nat) :
    (s.render response now).1.bearing = s.bearing := by
  unfold render
  split
  · rfl
  · split
    · exact s.bearing_report _
    · rename_i parsed hparsed
      have hloaded := (bearing_preload _ parsed.fragment.imageSources).trans
        (s.bearing_report parsed.diagnostics)
      dsimp only
      split
      · exact (bearing_report _ _).trans hloaded
      · exact (bearing_report _ _).trans hloaded

theorem bearing_handleResponse (s : Session) (response : Response) (now : Nat) :
    (s.handleResponse response now).bearing = s.bearing := by
  unfold handleResponse
  split
  · dsimp only
    split <;> exact s.bearing_render response now
  · rfl
  · dsimp only
    split
    · exact bearing_render _ _ now
    · rfl
  · rfl

theorem bearing_startDownload (s : Session) (widgetId fragmentId fileName : String) :
    (s.startDownload widgetId fragmentId fileName).bearing = s.bearing := by
  unfold startDownload
  split
  · rfl
  · dsimp only
    split
    · rfl
    · split <;> rfl

theorem endings_upload (s : Session) (key widgetId fragmentId : String) (multiple : Bool)
    (files : List SelectedFile) :
    (s.upload key widgetId fragmentId multiple files).1.endings = s.endings := by
  -- the host is asked for uploads and for nothing else
  have hone : ∀ (calls : List HostCall) (file : SelectedFile),
      calls.filter HostCall.isEnding = s.endings →
      (s.uploadOne calls file).2.filter HostCall.isEnding = s.endings := by
    intro calls file hcalls
    unfold uploadOne
    split
    · exact hcalls
    · split <;> exact hcalls
  exact Upload.batch_keeps hone multiple files rfl

theorem bearing_perform (s : Session) (m : Message) : (s.perform m).bearing = s.bearing := by
  cases m with
  | downloadRequested widgetId fragmentId fileName =>
    exact s.bearing_startDownload widgetId fragmentId fileName
  | filesSelected key widgetId fragmentId multiple files =>
    exact congrArg (s.standing, ·) (s.endings_upload key widgetId fragmentId multiple files)
  | clicked | valueChanged | cellEdited => rfl

theorem bearing_dispatch (s : Session) : s.dispatch.bearing = s.bearing :=
  s.dispatch_keeps (fun t m ht => (t.bearing_perform m).trans ht) rfl

theorem Acting.bearing_eq {id : String} {input : Input} {i : Interaction}
    (h : s.Acting id input i) : i.session.bearing = s.bearing := by
  cases h with
  | refused | toggled | chosen | focused | blurred | idle => rfl
  | delivered hinput hdelivered =>
    obtain ⟨handle, w, w', message, -, -, -, rfl⟩ := deliver_ok hdelivered
    exact bearing_dispatch _

theorem bearing_sendEvents (s : Session) (events : List Event) :
    (s.sendEvents events).1.bearing = s.bearing := by
  unfold sendEvents
  dsimp only
  split
  · rfl
  · cases events <;> rfl

theorem bearing_animationFrame (s : Session) (now : Nat) :
    (s.animationFrame now).1.bearing = s.bearing := by
  by_cases hopen : s.state = .opened
  · rw [animationFrame_of_open hopen]
    split
    · rfl
    · exact bearing_sendEvents _ _
  · rw [animationFrame_of_not_open hopen]
    rfl

/-! ## Steps -/

/-- What a step does to who the session is with, and to whether it is over. -/
inductive Turn (s : Session) (x : Stimulus) : Prop
  | same (hid : (s.step x).sessionId = s.sessionId) (hstate : (s.step x).state = s.state)
      (hendings : (s.step x).endings = s.endings)
      (hover : x.ending? ≠ none → s.state = .closed)
      (hmet : x.greeting? ≠ none → s.state = .closed ∨ s.sessionId ≠ none)
  /-- The session is greeted, is given an id and is open. -/
  | greeted {id : String} (hx : x.greeting? = some id) (hopen : s.state ≠ .closed)
      (hnone : s.sessionId = none) (hid : (s.step x).sessionId = some id)
      (hstate : (s.step x).state = .opened) (hendings : (s.step x).endings = s.endings)
  /-- The session is over. -/
  | ended {call : HostCall} (hx : x.ending? = some call) (hopen : s.state ≠ .closed)
      (hid : (s.step x).sessionId = s.sessionId) (hstate : (s.step x).state = .closed)
      (hendings : (s.step x).endings = call :: s.endings)

theorem bearing_eq_iff : t.bearing = s.bearing ↔
    t.sessionId = s.sessionId ∧ t.state = s.state ∧ t.endings = s.endings := by
  simp [bearing, standing, and_assoc]

theorem Disregards.closed_of_ending (h : s.Disregards x) (hx : x.ending? ≠ none) :
    s.state = .closed := by
  cases x with
  | opening | action | frame | drain => exact absurd rfl hx
  | lost reason => exact h
  | message envelope now =>
    cases envelope with
    | hello | rerun => exact absurd rfl hx
    | refresh => exact h

theorem Disregards.met_of_greeting (h : s.Disregards x) (hx : x.greeting? ≠ none) :
    s.state = .closed ∨ s.sessionId ≠ none := by
  cases x with
  | opening | action | frame | drain | lost => exact absurd rfl hx
  | message envelope now =>
    cases envelope with
    | hello => exact h
    | rerun | refresh => exact absurd rfl hx

/-- Nothing but a greeting and an end has to do with it. -/
theorem Turn.of_neither (heq : (s.step x).bearing = s.bearing) (hending : x.ending? = none)
    (hgreeting : x.greeting? = none) : s.Turn x := by
  obtain ⟨hid, hstate, hendings⟩ := bearing_eq_iff.mp heq
  exact .same hid hstate hendings (fun h => absurd hending h) (fun h => absurd hgreeting h)

theorem turn_step (s : Session) (x : Stimulus) : s.Turn x := by
  cases s.way_step x with
  | opening | drain => exact .of_neither rfl rfl rfl
  | frame now => exact .of_neither (s.bearing_animationFrame now) rfl rfl
  | @action a hopen => exact .of_neither (acting_interact hopen a.id a.input).bearing_eq rfl rfl
  | disregarded hx devMode heq =>
    exact .same (heq ▸ rfl) (heq ▸ rfl) (heq ▸ rfl) hx.closed_of_ending hx.met_of_greeting
  | answered hopen heq =>
    refine .of_neither ?_ rfl rfl
    rw [heq]
    exact bearing_handleResponse _ _ _
  | reloaded hopen heq => exact .ended rfl hopen (heq ▸ rfl) (heq ▸ rfl) (heq ▸ rfl)
  | lost hopen heq => exact .ended rfl hopen (heq ▸ rfl) (heq ▸ rfl) (heq ▸ rfl)
  | @greeted id devMode now hopen hnone heq =>
    obtain ⟨hid, hstate, hendings⟩ := bearing_eq_iff.mp (bearing_sendEvents
      { s with devMode := devMode.getD false, sessionId := some id, state := .opened } [])
    rw [← heq] at hid hstate hendings
    exact .greeted rfl hopen hnone hid hstate hendings

/-! ## A session that is open -/

/-- A session that is open has been greeted, and was given an id. -/
def Greeted (s : Session) : Prop :=
  s.state = .opened → ∃ id, s.sessionId = some id

theorem Greeted.step (hs : s.Greeted) (x : Stimulus) : (s.step x).Greeted := by
  intro hopen
  cases s.turn_step x with
  | same hid hstate =>
    rw [hid]
    exact hs (hstate.symm.trans hopen)
  | @greeted id hx hopen hnone hid => exact ⟨id, hid⟩
  | ended hx hopen' hid hstate => cases hstate.symm.trans hopen

theorem Reachable.greeted (hs : s.Reachable) : s.Greeted := by
  induction hs with
  | start config host => exact nofun
  | step hs x ih => exact ih.step x

end Session

end RemoteUi
