/-
# RemoteUi.Proofs.Session.Step — a session as a state machine.

Whatever drives a session comes as a stimulus, and a run is a list of stimuli in the order they
arrive: the greeting, a message of the server, an action of the user, a frame, the taking of what
waits for the server, and the loss of the connection.  `step` is one of them, `after` a run of them,
and everything that is shown of sessions is shown of these.

What a stimulus does, and when, is told once (`way_step`): a case of `Way` names what holds of the
session before and the session that comes of it, as an equation.  In the same way `acting_interact`
tells what an input can come to, and `deliver_ok` what an input that was delivered has done.  Proofs
about steps go by these cases, and do not look into the functions of a session.

The memory of a session, that is, the recovery cache and the development flag, takes part in nothing
but the handling of messages.  All the rest does the same with another memory, as
`interact_withMemory` and `animationFrame_withMemory` have it: each function is run on `withMemory`,
and the memory is found as it was, around the same result.  Two sessions that differ in nothing else
(`SameButMemory`) can therefore only be told apart by a rejected request, or by the flag itself.
-/
import RemoteUi.Proofs.Widget.Pool
import RemoteUi.Session.Run

namespace RemoteUi

/-- What drives a session. -/
inductive Stimulus where
  | opening
  | message (envelope : ServerEnvelope) (now : Nat)
  | action (action : Action)
  | frame (now : Nat)
  | drain
  | lost (reason : String)

/-- The input moves the focus, which is up to the surface and not to the widget. -/
def Input.movesFocus : Input → Bool
  | .focus | .blur => true
  | _ => false

namespace Session

/-- The session after a stimulus. -/
def step (s : Session) : Stimulus → Session
  | .opening => s.opening
  | .message envelope now => (s.handle envelope now).1
  | .action a => (s.interact a.id a.input).session
  | .frame now => (s.animationFrame now).1
  | .drain => s.drain.1
  | .lost reason => s.transportClosed reason

/-- The session after a run. -/
def after (s : Session) (run : List Stimulus) : Session :=
  run.foldl step s

/-- What a stimulus takes out for the server. -/
def sent (s : Session) : Stimulus → List ClientEnvelope
  | .drain => s.drain.2
  | _ => []

/-- All that a run takes out for the server, in order. -/
def sentBy (s : Session) : List Stimulus → List ClientEnvelope
  | [] => []
  | x :: rest => s.sent x ++ (s.step x).sentBy rest

theorem after_cons (s : Session) (x : Stimulus) (rest : List Stimulus) :
    s.after (x :: rest) = (s.step x).after rest := rfl

theorem after_concat (s : Session) (run : List Stimulus) (x : Stimulus) :
    s.after (run ++ [x]) = (s.after run).step x := by
  rw [after, List.foldl_append]
  rfl

/-! ## The memory of a session -/

/-- The session with another memory. -/
def withMemory (s : Session) (recovery : Recovery) (devMode : Bool) : Session :=
  { s with recovery := recovery, devMode := devMode }

section Memory

variable (s : Session) (r : Recovery) (d : Bool)

theorem report_withMemory (ds : List Diagnostic) :
    (s.withMemory r d).report ds = (s.report ds).withMemory r d := by
  -- each report is one more call, and the memory is carried along
  induction ds generalizing s with
  | nil => rfl
  | cons e rest ih => exact ih (s.tell (.diagnostic e))

theorem preload_withMemory (sources : List String) :
    (s.withMemory r d).preload sources =
      ((s.preload sources).1.withMemory r d, (s.preload sources).2) := by
  unfold preload
  split <;> rfl

/-- Whether a request fits, and which id it has, does not depend on the memory. -/
theorem sendEvents_withMemory (events : List Event) :
    (s.withMemory r d).sendEvents events =
      ((s.sendEvents events).1.withMemory r d, (s.sendEvents events).2) := by
  unfold sendEvents
  dsimp only [withMemory]
  split
  · rfl
  · cases events <;> rfl

/-- A tree is shown the same way whatever is cached, which is why a replay shows what the answer
would have shown. -/
theorem render_withMemory (response : Response) (now : Nat) :
    (s.withMemory r d).render response now =
      ((s.render response now).1.withMemory r d, (s.render response now).2) := by
  unfold render
  split
  · rfl
  · split
    · rfl
    · rename_i parsed hparsed
      -- up to the swap the memory is pushed outwards, and the screen is the same
      simp only [report_withMemory, preload_withMemory]
      generalize ((s.report parsed.diagnostics).preload parsed.fragment.imageSources).1 = t
      have hscreen : (t.withMemory r d).screen = t.screen := rfl
      rw [hscreen]
      cases t.screen.swap parsed.fragment now with
      | error e => rfl
      | ok swapped =>
        have hreport := report_withMemory { t with screen := swapped.1 } r d swapped.2.diagnostics
        simp only [withMemory] at hreport ⊢
        rw [hreport]
        rfl

theorem startDownload_withMemory (widgetId fragmentId fileName : String) :
    (s.withMemory r d).startDownload widgetId fragmentId fileName =
      (s.startDownload widgetId fragmentId fileName).withMemory r d := by
  unfold startDownload
  cases hsession : s.sessionId with
  | none => simp only [withMemory, hsession]
  | some sessionId =>
    simp only [withMemory, hsession]
    cases s.config.location.origin with
    | error e => rfl
    | ok origin =>
      dsimp only
      split <;> rfl

theorem perform_withMemory (message : Message) :
    (s.withMemory r d).perform message = (s.perform message).withMemory r d := by
  cases message with
  | downloadRequested widgetId fragmentId fileName =>
    exact startDownload_withMemory s r d widgetId fragmentId fileName
  | filesSelected | clicked | valueChanged | cellEdited => rfl

theorem dispatch_withMemory : (s.withMemory r d).dispatch = s.dispatch.withMemory r d := by
  -- the messages are carried out one after the other on whatever session is left by then
  have hfold : ∀ (ms : List Message) (t : Session),
      ms.foldl perform (t.withMemory r d) = (ms.foldl perform t).withMemory r d := by
    intro ms
    induction ms with
    | nil => exact fun t => rfl
    | cons m rest ih =>
      intro t
      rw [List.foldl_cons, perform_withMemory, ih, List.foldl_cons]
  exact hfold s.messages { s with messages := [] }

/-- What the carrying out of each message keeps, the carrying out of all of them keeps. -/
theorem dispatch_keeps {p : Session → Prop} (hp : ∀ s m, p s → p (s.perform m))
    (h : p { s with messages := [] }) : p s.dispatch := by
  have hfold : ∀ (ms : List Message) (t : Session), p t → p (ms.foldl perform t) := by
    intro ms
    induction ms with
    | nil => exact fun t ht => ht
    | cons m rest ih => exact fun t ht => ih _ (hp t m ht)
  exact hfold s.messages _ h

theorem deliver_withMemory (id : String) (input : Input) :
    (s.withMemory r d).deliver id input = (s.deliver id input).map fun s => s.withMemory r d := by
  -- the widget is looked up on the same screen, and answers the same
  unfold deliver
  dsimp only [withMemory]
  split
  · rfl
  · split
    · rfl
    · split
      · rfl
      · rename_i h _ _ w _ _ w' message _
        exact congrArg Except.ok (dispatch_withMemory
          { s with
            screen := { s.screen with pool := s.screen.pool.set h w' }
            messages := s.messages ++ message.toList } r d)

/-- What an interaction leaves when the input was delivered, or not. -/
def Interaction.ofDelivery (s : Session) : Except InteractionError Session → Interaction
  | .ok s => ⟨s, .ok ()⟩
  | .error e => ⟨s, .error e⟩

theorem Interaction.ofDelivery_withMemory (delivered : Except InteractionError Session) :
    ofDelivery (s.withMemory r d) (delivered.map fun s => s.withMemory r d) =
      ⟨(ofDelivery s delivered).session.withMemory r d, (ofDelivery s delivered).outcome⟩ := by
  cases delivered <;> rfl

/-- The ways of an input in an open session. -/
theorem interact_eq {s : Session} (hopen : s.state = .opened) (id : String) (input : Input) :
    s.interact id input =
      match input with
      | .toggle value =>
        match s.screen.groups.toggle? id value with
        | some groups => ⟨s.withGroups groups, .ok ()⟩
        | none => ⟨s, .error (.unknownWidget id)⟩
      | .choose value =>
        match s.screen.groups.select? id value with
        | some groups => ⟨s.withGroups groups, .ok ()⟩
        | none => ⟨s, .error (.unknownWidget id)⟩
      | .focus =>
        ⟨{ s with screen := s.screen.focus id },
          if (s.screen.focus id).surface.focused = some id then .ok ()
          else .error (.unknownWidget id)⟩
      | .blur =>
        if s.screen.surface.focused = some id then ⟨{ s with screen := s.screen.blur }, .ok ()⟩
        else ⟨s, .ok ()⟩
      | input => .ofDelivery s (s.deliver id input) := by
  unfold interact
  rw [if_neg (not_not_intro hopen)]
  cases input <;> rfl

/-- Before a session is open and after it was closed, every input is refused. -/
theorem interact_of_not_open {s : Session} (h : s.state ≠ .opened) (id : String) (input : Input) :
    s.interact id input = ⟨s, .error .notConnected⟩ := by
  unfold interact
  exact if_pos h

theorem interact_withMemory (id : String) (input : Input) :
    (s.withMemory r d).interact id input =
      ⟨(s.interact id input).session.withMemory r d, (s.interact id input).outcome⟩ := by
  by_cases hopen : s.state = .opened
  · have hopen' : (s.withMemory r d).state = .opened := hopen
    rw [interact_eq hopen', interact_eq hopen]
    -- groups and the focus are dealt with in place; all other inputs are delivered to a widget
    cases input with
    | toggle value =>
      simp only [withMemory]
      cases s.screen.groups.toggle? id value <;> rfl
    | choose value =>
      simp only [withMemory]
      cases s.screen.groups.select? id value <;> rfl
    | focus => rfl
    | blur => by_cases hfocused : s.screen.surface.focused = some id <;> simp [withMemory, hfocused]
    | click | commitText | selectValue | pickColor | editCode | editCell | scroll | selectFiles =>
      simp only [deliver_withMemory]
      exact Interaction.ofDelivery_withMemory s r d _
  · unfold interact
    simp [withMemory, hopen]

theorem animationFrame_withMemory (now : Nat) :
    (s.withMemory r d).animationFrame now =
      ((s.animationFrame now).1.withMemory r d, (s.animationFrame now).2) := by
  unfold animationFrame
  by_cases hopen : s.state = .opened
  · -- what is due at the frame is the same for both, and only whether there is any decides how it
    -- goes on
    obtain ⟨gathering, events, hdrain⟩ : ∃ gathering events,
        s.gathering.drain (s.screen.tick now).1.groups.changes = (gathering, events) :=
      ⟨_, _, rfl⟩
    cases hempty : events.isEmpty with
    | true => simp [withMemory, hopen, hdrain, hempty]
    | false =>
      have hsend := sendEvents_withMemory
        { s with
          screen := { (s.screen.tick now).1 with groups := (s.screen.tick now).1.groups.settled }
          gathering := gathering } r d events
      simpa [withMemory, hopen, hdrain, hempty] using hsend
  · simp [withMemory, hopen]

theorem transportClosed_withMemory (reason : String) :
    (s.withMemory r d).transportClosed reason = (s.transportClosed reason).withMemory r d := by
  unfold transportClosed
  by_cases hclosed : s.state = .closed <;> simp [withMemory, tell, hclosed]

end Memory

/-! ## The ways of an input -/

/-- What comes of an input to an open session. -/
inductive Acting (s : Session) (id : String) : Input → Interaction → Prop
  | refused {input : Input} (e : InteractionError) : Acting s id input ⟨s, .error e⟩
  | toggled {value : String} {groups : Groups}
      (h : s.screen.groups.toggle? id value = some groups) :
      Acting s id (.toggle value) ⟨s.withGroups groups, .ok ()⟩
  | chosen {value : String} {groups : Groups}
      (h : s.screen.groups.select? id value = some groups) :
      Acting s id (.choose value) ⟨s.withGroups groups, .ok ()⟩
  /-- The focus moves, if only away from the widget that had it. -/
  | focused (outcome : Except InteractionError Unit) :
      Acting s id .focus ⟨{ s with screen := s.screen.focus id }, outcome⟩
  | blurred : Acting s id .blur ⟨{ s with screen := s.screen.blur }, .ok ()⟩
  | idle : Acting s id .blur ⟨s, .ok ()⟩
  | delivered {input : Input} {t : Session} (hinput : input.movesFocus = false)
      (h : s.deliver id input = .ok t) : Acting s id input ⟨t, .ok ()⟩

/-- There is no other way for an input to go. -/
theorem acting_interact {s : Session} (hopen : s.state = .opened) (id : String) (input : Input) :
    s.Acting id input (s.interact id input) := by
  rw [interact_eq hopen]
  cases input with
  | toggle value =>
    dsimp only
    split
    · rename_i groups hgroups
      exact .toggled hgroups
    · exact .refused _
  | choose value =>
    dsimp only
    split
    · rename_i groups hgroups
      exact .chosen hgroups
    · exact .refused _
  | focus => exact .focused _
  | blur =>
    dsimp only
    split
    · exact .blurred
    · exact .idle
  | click | commitText | selectValue | pickColor | editCode | editCell | scroll | selectFiles =>
    dsimp only
    generalize hdelivered : s.deliver id _ = delivered
    cases delivered with
    | ok t => exact .delivered rfl hdelivered
    | error e => exact .refused e

/-- An input is delivered to the widget that is live, and what it says is carried out at once. -/
theorem deliver_ok {s t : Session} {id : String} {input : Input} (h : s.deliver id input = .ok t) :
    ∃ handle w w' message, s.screen.pool.lookup id = some handle ∧
      s.screen.pool.get? handle = some w ∧ w.interpret input = .ok (w', message) ∧
      t = dispatch { s with
        screen := { s.screen with pool := s.screen.pool.set handle w' }
        messages := s.messages ++ message.toList } := by
  -- three things can go wrong: no live widget, none at its handle, and a widget that refuses
  unfold deliver at h
  split at h
  · cases h
  · rename_i handle hlive
    split at h
    · cases h
    · rename_i w hw
      split at h
      · cases h
      · rename_i w' message hinterpret
        exact ⟨handle, w, w', message, hlive, hw, hinterpret, (Except.ok.inj h).symm⟩

/-- An input that leaves the widget as it is comes to what the widget says of it. -/
theorem deliver_of_unchanged {s : Session} {id : String} {input : Input} {handle : Handle}
    {w : Widget} {message : Message} (hidle : s.messages = [])
    (hlive : s.screen.pool.lookup id = some handle) (hw : s.screen.pool.get? handle = some w)
    (hinterpret : w.interpret input = .ok (w, some message)) :
    s.deliver id input = .ok (s.perform message) := by
  have hsame : ({ s with messages := [] } : Session) = s := by rw [← hidle]
  unfold deliver
  rw [hlive]
  dsimp only
  rw [hw]
  dsimp only
  rw [hinterpret]
  dsimp only
  rw [WidgetPool.set_self hw, hidle]
  exact congrArg (fun t : Session => Except.ok (t.perform message)) hsame

/-! ## The ways of a step -/

/-- An input that is refused for the connection leaves nothing behind. -/
theorem step_action_of_not_open {s : Session} (h : s.state ≠ .opened) (a : Action) :
    s.step (.action a) = s :=
  congrArg Interaction.session (interact_of_not_open h a.id a.input)

/-- A closed session takes note of the development flag of a message, and of nothing else. -/
theorem step_message_of_closed {s : Session} (h : s.state = .closed) (envelope : ServerEnvelope)
    (now : Nat) :
    s.step (.message envelope now) = { s with devMode := envelope.devMode.getD false } := by
  unfold step handle
  dsimp only
  rw [if_pos h]

/-- The first greeting gives a session its id, and has it ask for something to show. -/
theorem step_hello {s : Session} (h : s.state ≠ .closed) (hid : s.sessionId = none) (id : String)
    (devMode : Option Bool) (now : Nat) :
    s.step (.message (.hello id devMode) now) = (sendEvents { s with
      devMode := devMode.getD false, sessionId := some id, state := .opened } []).1 := by
  unfold step handle
  dsimp only [ServerEnvelope.devMode]
  rw [if_neg h, hid]

/-- A second greeting changes the development flag only. -/
theorem step_hello_again {s : Session} (h : s.state ≠ .closed) (hid : s.sessionId ≠ none)
    (id : String) (devMode : Option Bool) (now : Nat) :
    s.step (.message (.hello id devMode) now) = { s with devMode := devMode.getD false } := by
  unfold step handle
  dsimp only [ServerEnvelope.devMode]
  rw [if_neg h]
  split
  · rfl
  · rename_i hnone
    exact absurd hnone hid

/-- A demand for a reload ends the session, and what waits for the server is given up. -/
theorem step_refresh {s : Session} (h : s.state ≠ .closed) (devMode : Option Bool) (now : Nat) :
    s.step (.message (.refresh devMode) now) = Session.tell { s with
      devMode := devMode.getD false, state := .closed, outbound := [] } .reload := by
  unfold step handle
  dsimp only
  rw [if_neg h]
  rfl

theorem step_lost_of_closed {s : Session} (h : s.state = .closed) (reason : String) :
    s.step (.lost reason) = s := by
  unfold step transportClosed
  dsimp only
  rw [if_pos h]

/-- A connection that is lost closes the session, and the host is told why. -/
theorem step_lost {s : Session} (h : s.state ≠ .closed) (reason : String) :
    s.step (.lost reason) =
      Session.tell { s with state := .closed } (.connectionLost reason) := by
  unfold step transportClosed
  dsimp only
  rw [if_neg h]

/-- An answer is handled once the flag it carries is taken note of. -/
theorem step_rerun {s : Session} (h : s.state ≠ .closed) (response : Response) (now : Nat) :
    s.step (.message (.rerun response) now) = Session.handleResponse
      { s with devMode := response.devMode.getD false } response now := by
  unfold step handle
  dsimp only [ServerEnvelope.devMode]
  rw [if_neg h]

/-- A session pays no attention to a stimulus, but for the development flag of a message. -/
def Disregards (s : Session) : Stimulus → Prop
  | .action _ => s.state ≠ .opened
  | .message (.hello _ _) _ => s.state = .closed ∨ s.sessionId ≠ none
  | .message _ _ | .lost _ => s.state = .closed
  | .opening | .frame _ | .drain => False

/-- The ways of a step: what a stimulus does to a session, and when. -/
inductive Way (s : Session) : Stimulus → Prop
  /-- The stimulus does nothing, up to the development flag. -/
  | disregarded {x : Stimulus} (hx : s.Disregards x) (devMode : Bool)
      (heq : s.step x = { s with devMode := devMode }) : Way s x
  | opening : Way s .opening
  | drain : Way s .drain
  | frame (now : Nat) : Way s (.frame now)
  | action {a : Action} (hopen : s.state = .opened) : Way s (.action a)
  | greeted {id : String} {devMode : Option Bool} {now : Nat} (hopen : s.state ≠ .closed)
      (hid : s.sessionId = none)
      (heq : s.step (.message (.hello id devMode) now) = (sendEvents { s with
        devMode := devMode.getD false, sessionId := some id, state := .opened } []).1) :
      Way s (.message (.hello id devMode) now)
  | answered {response : Response} {now : Nat} (hopen : s.state ≠ .closed)
      (heq : s.step (.message (.rerun response) now) = Session.handleResponse
        { s with devMode := response.devMode.getD false } response now) :
      Way s (.message (.rerun response) now)
  | reloaded {devMode : Option Bool} {now : Nat} (hopen : s.state ≠ .closed)
      (heq : s.step (.message (.refresh devMode) now) = Session.tell { s with
        devMode := devMode.getD false, state := .closed, outbound := [] } .reload) :
      Way s (.message (.refresh devMode) now)
  | lost {reason : String} (hopen : s.state ≠ .closed)
      (heq : s.step (.lost reason) =
        Session.tell { s with state := .closed } (.connectionLost reason)) :
      Way s (.lost reason)

/-- There is no other way for a step to go.  A closed session is looked at first, as it disregards
all but frames. -/
theorem way_step (s : Session) (x : Stimulus) : s.Way x := by
  cases x with
  | opening => exact .opening
  | drain => exact .drain
  | frame now => exact .frame now
  | action a =>
    by_cases hopen : s.state = .opened
    · exact .action hopen
    · exact .disregarded hopen s.devMode (step_action_of_not_open hopen a)
  | lost reason =>
    by_cases hclosed : s.state = .closed
    · exact .disregarded hclosed s.devMode (step_lost_of_closed hclosed reason)
    · exact .lost hclosed (step_lost hclosed reason)
  | message envelope now =>
    by_cases hclosed : s.state = .closed
    · have hx : s.Disregards (.message envelope now) := by
        cases envelope with
        | hello => exact Or.inl hclosed
        | rerun | refresh => exact hclosed
      exact .disregarded hx _ (step_message_of_closed hclosed envelope now)
    · cases envelope with
      | rerun response => exact .answered hclosed (step_rerun hclosed response now)
      | refresh devMode => exact .reloaded hclosed (step_refresh hclosed devMode now)
      | hello id devMode =>
        by_cases hid : s.sessionId = none
        · exact .greeted hclosed hid (step_hello hclosed hid id devMode now)
        · exact .disregarded (Or.inr hid) _ (step_hello_again hclosed hid id devMode now)

/-! ## Sessions that differ in their memory -/

/-- The sessions differ in their memory only. -/
def SameButMemory (s t : Session) : Prop :=
  ∃ r d, t = s.withMemory r d

theorem SameButMemory.refl (s : Session) : s.SameButMemory s := ⟨s.recovery, s.devMode, rfl⟩

theorem SameButMemory.symm {s t : Session} (h : s.SameButMemory t) : t.SameButMemory s := by
  obtain ⟨r, d, rfl⟩ := h
  exact ⟨s.recovery, s.devMode, rfl⟩

theorem SameButMemory.trans {s t u : Session} (hst : s.SameButMemory t)
    (htu : t.SameButMemory u) : s.SameButMemory u := by
  obtain ⟨r, d, rfl⟩ := hst
  obtain ⟨r', d', rfl⟩ := htu
  exact ⟨r', d', rfl⟩

end Session

end RemoteUi
