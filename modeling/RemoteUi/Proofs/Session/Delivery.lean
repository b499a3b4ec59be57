/-
# RemoteUi.Proofs.Session.Delivery — what the user does reaches the server once.

Between two frames messages are gathered and groups are checked (`passes_step`), and a frame takes
all of it: it goes out in one request, or, if that is too large for a frame, is reported and gone
(`delivery_animationFrame`).  Either way nothing is left for a later request, so that what all
requests of a run carry can be read off what was produced in it (`carriedBy_eq_ledger`).

* What a stimulus produces is told without the session's queues: it is what the widget that is live
  under the id has to say (`answer`), without downloads, and with the uploaded files for a selection
  (`reported`).  An input that is refused produces nothing.
* Which groups are reported is told of the run as well.  A group is reported if somewhere the user
  checks other members of it and it goes on from there (`ChangedBy`); that two changes that cancel
  each other out count as a change is part of this.
* `Passes` is what happens between frames, and is the same for inputs, answers and all other
  stimuli; it has a flag for whether the user was at it.  Messages from the server and the trees
  that they bring have no part in it, except that a group that a tree replaces by another does not
  report any more.
* `Delivery` is what becomes of events that are due, with the request given by its fields, the id
  that it takes, and the report if it is too large.
* `Settled` is what a frame leaves: nothing gathered, and no group that waits.

`delivered_once` puts this together for two frames and whatever happens between and after them.  At
the end, a page is edited and replaced before the second frame, and the events are spelled out with
all their fields.
-/
import RemoteUi.Proofs.Gathering
import RemoteUi.Proofs.Screen.Changes
import RemoteUi.Proofs.Session.Reachable

namespace RemoteUi

/-- The stimulus is a frame. -/
def Stimulus.isFrame : Stimulus → Bool
  | .frame _ => true
  | _ => false

theorem Stimulus.eq_frame {x : Stimulus} (h : x.isFrame = true) : ∃ now, x = .frame now := by
  cases x with
  | frame now => exact ⟨now, rfl⟩
  | opening | message | action | drain | lost => cases h

/-- The stimulus is by the user's hand. -/
def Stimulus.isAction : Stimulus → Bool
  | .action _ => true
  | _ => false

/-- The events that a message to the server carries. -/
def ClientEnvelope.events : ClientEnvelope → List Event
  | .rerun _ _ events => events
  | _ => []

/-- What a widget has to say about an input; nothing, if it refuses it. -/
def Widget.says (w : Widget) (input : Input) : Option Message :=
  (w.interpret input).toOption.bind Prod.snd

namespace Session

variable {s t : Session} {x : Stimulus} {ms : List Message}

/-! ## What the user does -/

/-- What the widget that is live under an identity has to say about an input. -/
def answer (s : Session) (id : String) (input : Input) : Option Message :=
  ((s.screen.pool.lookup id).bind s.screen.pool.get?).bind fun w => w.says input

/-- What is to be reported of a message: a download is not, and of a selection of files it is what
came of its upload. -/
def reported (s : Session) : Message → Option Message
  | .downloadRequested _ _ _ => none
  | .filesSelected key widgetId fragmentId multiple files =>
    some (s.upload key widgetId fragmentId multiple files).2
  | m => some m

/-- The messages that a stimulus produces. -/
def produced (s : Session) : Stimulus → List Message
  | .action a =>
    if s.state = .opened then ((s.answer a.id a.input).bind s.reported).toList else []
  | _ => []

/-- The messages that a run produces, in order. -/
def producedBy (s : Session) : List Stimulus → List Message
  | [] => []
  | x :: rest => s.produced x ++ (s.step x).producedBy rest

/-- The group goes on all along the run. -/
def KeptBy (s : Session) (key : String) : List Stimulus → Prop
  | [] => True
  | x :: rest =>
    Groups.Kept s.screen.groups (s.step x).screen.groups key ∧ (s.step x).KeptBy key rest

/-- Somewhere in the run the user checks other members of the group, and it goes on from there. -/
def ChangedBy (s : Session) (key : String) : List Stimulus → Prop
  | [] => False
  | x :: rest =>
    (x.isAction = true ∧ Groups.Rechecked s.screen.groups (s.step x).screen.groups key ∧
      (s.step x).KeptBy key rest) ∨ (s.step x).ChangedBy key rest

/-! ## What the server is sent -/

/-- The events of the requests that a stimulus adds to what waits for the server. -/
def carried (s : Session) (x : Stimulus) : List Event :=
  ((s.step x).outbound.drop s.outbound.length).flatMap ClientEnvelope.events

/-- The events of all requests of a run, in order. -/
def carriedBy (s : Session) : List Stimulus → List Event
  | [] => []
  | x :: rest => s.carried x ++ (s.step x).carriedBy rest

/-! ## Between frames -/

/-- Messages are gathered, and nothing is sent or changed otherwise. -/
structure Gathers (s : Session) (ms : List Message) (t : Session) : Prop where
  gathering_eq : t.gathering = ms.foldl Gathering.ingest s.gathering
  messages_eq : t.messages = s.messages
  outbound_eq : t.outbound = s.outbound
  groups_eq : t.screen.groups = s.screen.groups

/-- What happens between frames: messages are gathered, no events are sent, and groups change by the
user's hand only. -/
structure Passes (s : Session) (ms : List Message) (byUser : Bool) (t : Session) : Prop where
  gathering_eq : t.gathering = ms.foldl Gathering.ingest s.gathering
  messages_eq : t.messages = s.messages
  carried_eq : (t.outbound.drop s.outbound.length).flatMap ClientEnvelope.events = []
  follows : s.screen.groups.Peopled → s.screen.groups.Follows byUser t.screen.groups

theorem Gathers.refl (s : Session) : s.Gathers [] s := ⟨rfl, rfl, rfl, rfl⟩

/-- Nothing is put in the queue. -/
theorem Gathers.carried_eq (h : s.Gathers ms t) :
    (t.outbound.drop s.outbound.length).flatMap ClientEnvelope.events = [] := by
  rw [h.outbound_eq, List.drop_length]
  rfl

/-- Where groups stay as they are, they follow themselves. -/
theorem Gathers.passes {byUser : Bool} (h : s.Gathers ms t) : s.Passes ms byUser t where
  gathering_eq := h.gathering_eq
  messages_eq := h.messages_eq
  carried_eq := h.carried_eq
  follows := fun hs => h.groups_eq ▸ .refl hs byUser

theorem gathers_startDownload (s : Session) (widgetId fragmentId fileName : String) :
    s.Gathers [] (s.startDownload widgetId fragmentId fileName) := by
  unfold startDownload
  split
  · exact .refl s
  · dsimp only
    split
    · exact ⟨rfl, rfl, rfl, rfl⟩
    · split <;> exact ⟨rfl, rfl, rfl, rfl⟩

/-- A message is gathered as it is to be reported, and a download is not. -/
theorem gathers_perform (s : Session) (m : Message) :
    s.Gathers (s.reported m).toList (s.perform m) := by
  cases m with
  | downloadRequested widgetId fragmentId fileName =>
    exact s.gathers_startDownload widgetId fragmentId fileName
  | filesSelected | clicked | valueChanged | cellEdited => exact ⟨rfl, rfl, rfl, rfl⟩

/-- An input has what the widget answers gathered. -/
theorem gathers_deliver {id : String} {input : Input} (hs : s.messages = [])
    (h : s.deliver id input = .ok t) :
    s.Gathers ((s.answer id input).bind s.reported).toList t := by
  obtain ⟨handle, w, w', message, hlive, hw, hinterpret, rfl⟩ := deliver_ok h
  have hanswer : s.answer id input = message := by
    rw [answer, hlive, Option.bind_some, hw, Option.bind_some, Widget.says, hinterpret]
    rfl
  rw [hanswer, hs, List.nil_append]
  cases message with
  | none => exact ⟨rfl, hs.symm, rfl, rfl⟩
  | some m =>
    -- nothing else was waiting, so the message is carried out on the session as it is
    obtain ⟨hgathering, hmessages, houtbound, hgroups⟩ := gathers_perform
      { s with
        screen := { s.screen with pool := s.screen.pool.set handle w' }
        messages := [] } m
    have hreported : reported { s with
        screen := { s.screen with pool := s.screen.pool.set handle w' }
        messages := [] } m = s.reported m := by
      cases m <;> rfl
    rw [hreported] at hgathering
    exact ⟨hgathering, hmessages.trans hs.symm, houtbound, hgroups⟩

theorem answer_of_silent {id : String} {input : Input} (h : ∀ w : Widget, w.says input = none) :
    s.answer id input = none :=
  Option.bind_eq_none_iff.mpr fun w _ => h w

/-- An input that a widget refuses is not answered. -/
theorem answer_of_refused {id : String} {input : Input} {e : InteractionError}
    (h : s.deliver id input = .error e) : s.answer id input = none := by
  unfold deliver at h
  unfold answer Widget.says
  split at h
  · rename_i hlive
    rw [hlive]
    rfl
  · rename_i handle hlive
    split at h
    · rename_i hw
      rw [hlive, Option.bind_some, hw]
      rfl
    · rename_i w hw
      split at h
      · rename_i hinterpret
        rw [hlive, Option.bind_some, hw, Option.bind_some, hinterpret]
        rfl
      · cases h

theorem produced_of_silent {a : Action} (h : s.answer a.id a.input = none) :
    s.produced (.action a) = [] := by
  simp [produced, h]

/-- Only what is accepted produces a message. -/
theorem produced_of_refused {a : Action} {e : InteractionError}
    (h : (s.interact a.id a.input).outcome = .error e) : s.produced (.action a) = [] := by
  obtain ⟨id, input⟩ := a
  by_cases hopen : s.state = .opened
  · rw [interact_eq hopen] at h
    cases input with
    | toggle | choose | focus | blur => exact produced_of_silent (answer_of_silent fun w => rfl)
    | click | commitText | selectValue | pickColor | editCode | editCell | scroll | selectFiles =>
      dsimp only at h
      generalize hdelivered : s.deliver id _ = delivered at h
      cases delivered with
      | ok t => cases h
      | error e => exact produced_of_silent (answer_of_refused hdelivered)
  · exact if_neg hopen

/-- An input has its answer gathered, or changes a group. -/
theorem passes_interact (hs : s.messages = []) (a : Action) :
    s.Passes (s.produced (.action a)) true (s.interact a.id a.input).session := by
  obtain ⟨id, input⟩ := a
  by_cases hopen : s.state = .opened
  · have hacting := acting_interact hopen id input
    have hproduced : s.produced (.action ⟨id, input⟩) =
        ((s.answer id input).bind s.reported).toList := if_pos hopen
    generalize hi : s.interact id input = i at hacting
    cases hacting with
    | refused e =>
      have hrefused : (s.interact id input).outcome = .error e := congrArg Interaction.outcome hi
      rw [produced_of_refused hrefused]
      exact (Gathers.refl s).passes
    -- a group is checked without a message, and is reported when its change is taken
    | toggled hgroups =>
      rw [produced_of_silent (answer_of_silent fun w => rfl)]
      exact ⟨rfl, rfl, (Gathers.refl s).carried_eq, fun hs => Groups.follows_toggle? hs hgroups⟩
    | chosen hgroups =>
      rw [produced_of_silent (answer_of_silent fun w => rfl)]
      exact ⟨rfl, rfl, (Gathers.refl s).carried_eq, fun hs => Groups.follows_select? hs hgroups⟩
    | focused | blurred | idle =>
      rw [produced_of_silent (answer_of_silent fun w => rfl)]
      exact Gathers.passes ⟨rfl, rfl, rfl, rfl⟩
    | delivered hinput hdelivered =>
      rw [hproduced]
      exact (gathers_deliver hs hdelivered).passes
  · have hproduced : s.produced (.action ⟨id, input⟩) = [] := if_neg hopen
    rw [interact_of_not_open hopen, hproduced]
    exact (Gathers.refl s).passes

theorem Passes.push {byUser : Bool} (h : s.Passes ms byUser t) (houtbound : t.outbound = s.outbound)
    {e : ClientEnvelope} (he : e.events = []) : s.Passes ms byUser (t.push e) where
  gathering_eq := h.gathering_eq
  messages_eq := h.messages_eq
  carried_eq := by
    show ((t.outbound ++ [e]).drop s.outbound.length).flatMap ClientEnvelope.events = []
    rw [houtbound, List.drop_left]
    simp [he]
  follows := h.follows

theorem Rendering.outbound_eq {response : Response} {now : Nat} {out : Session × Bool}
    (h : s.Rendering response now out) : out.1.outbound = s.outbound := by
  cases h <;> rfl

/-- A tree that is shown has groups follow by the hand of the server. -/
theorem Rendering.passes {response : Response} {now : Nat} {out : Session × Bool}
    (h : s.Rendering response now out) : s.Passes [] false out.1 := by
  cases h with
  | skipped calls hcalls hnone => exact Gathers.passes ⟨rfl, rfl, rfl, rfl⟩
  | shown calls id widgets groups hcalls hf hswap =>
    exact ⟨rfl, rfl, (Gathers.refl s).carried_eq, fun hs => Screen.follows_swap hs hswap⟩

/-- An answer has no part in what is gathered. -/
theorem Handling.passes {response : Response} {now : Nat} {shown : Option Response}
    (h : s.Handling response now t shown) : s.Passes [] false t := by
  cases h with
  | shown hkind hrender =>
    obtain ⟨hgathering, hmessages, hcarried, hfollows⟩ := hrender.passes
    exact ⟨hgathering, hmessages, hcarried, hfollows⟩
  | missed hkind hrender => exact hrender.passes
  | @replayed cached u hkind hcached hrender | @lapsed cached u hkind hcached hrender =>
    obtain ⟨hgathering, hmessages, hcarried, hfollows⟩ := hrender.passes
    have hpasses : s.Passes [] false u := ⟨hgathering, hmessages, hcarried, hfollows⟩
    exact hpasses.push hrender.outbound_eq rfl
  | acknowledged hkind hcached => exact (Gathers.refl s).passes.push rfl rfl
  | superseded | failed => exact Gathers.passes ⟨rfl, rfl, rfl, rfl⟩

/-- The first request has no events. -/
theorem passes_sendEvents_nil (s : Session) : s.Passes [] false (s.sendEvents []).1 := by
  unfold sendEvents
  dsimp only
  split
  · exact Gathers.passes ⟨rfl, rfl, rfl, rfl⟩
  · have hissued : s.Passes [] false { s with requests := s.requests.issue.1 } :=
      Gathers.passes ⟨rfl, rfl, rfl, rfl⟩
    exact hissued.push rfl rfl

/-- Between frames messages are gathered, and nothing is carried off. -/
theorem passes_step (hs : s.messages = []) (hx : x.isFrame = false) :
    s.Passes (s.produced x) x.isAction (s.step x) := by
  cases s.way_step x with
  | frame now => cases hx
  | @action a => exact passes_interact hs a
  | opening => exact (Gathers.refl s).passes.push rfl rfl
  | drain => exact ⟨rfl, rfl, congrArg _ List.drop_nil, fun hs => .refl hs _⟩
  | disregarded hdisregards devMode heq =>
    have hnothing : s.produced x = [] := by
      cases x with
      | action a => exact if_neg hdisregards
      | opening | message | frame | drain | lost => rfl
    rw [heq, hnothing]
    exact Gathers.passes ⟨rfl, rfl, rfl, rfl⟩
  | lost hopen heq =>
    rw [heq]
    exact Gathers.passes ⟨rfl, rfl, rfl, rfl⟩
  | reloaded hopen heq =>
    rw [heq]
    exact ⟨rfl, rfl, congrArg _ List.drop_nil, fun hs => .refl hs _⟩
  | @greeted id devMode now hopen hid heq =>
    have hpasses := passes_sendEvents_nil
      { s with devMode := devMode.getD false, sessionId := some id, state := .opened }
    rw [← heq] at hpasses
    exact ⟨hpasses.gathering_eq, hpasses.messages_eq, hpasses.carried_eq, hpasses.follows⟩
  | @answered response now hopen =>
    obtain ⟨hgathering, hmessages, hcarried, hfollows⟩ :=
      (handling_step (heard_rerun hopen response now)).passes
    exact ⟨hgathering, hmessages, hcarried, hfollows⟩

/-! ## Frames -/

/-- The request for events: where the client is, the next id, and the events as they are. -/
def request (s : Session) (events : List Event) : ClientEnvelope :=
  .rerun s.config.location s.requests.next events

/-- What becomes of events that are due: the session afterwards, and the id of the request. -/
inductive Delivery (s : Session) (events : List Event) : Session × Option Nat → Prop
  | nothing {t : Session} (hevents : events = []) (houtbound : t.outbound = s.outbound)
      (hrequests : t.requests = s.requests) (hcalls : t.calls = s.calls) :
      Delivery s events (t, none)
  /-- All of them go out in one request, behind what is waiting, and its id is spent. -/
  | sent {t : Session} (hevents : events ≠ [])
      (hfits : (s.request events).size ≤ Wire.toServerCap)
      (houtbound : t.outbound = s.outbound ++ [s.request events])
      (hrequests : t.requests = ⟨s.requests.next + 1, some s.requests.next⟩)
      (hcalls : t.calls = s.calls) :
      Delivery s events (t, some s.requests.next)
  /-- They are too much for a request, which is reported, and are not sent. -/
  | refused {t : Session} (hevents : events ≠ [])
      (hlarge : Wire.toServerCap < (s.request events).size)
      (houtbound : t.outbound = s.outbound) (hrequests : t.requests = s.requests)
      (hcalls : t.calls = .diagnostic (.requestTooLarge (s.request events).size
        Wire.toServerCap) :: s.calls) :
      Delivery s events (t, none)

/-- Nothing that happened so far is left for a later request. -/
structure Settled (s : Session) : Prop where
  gathering_eq : s.gathering = []
  changes_eq : s.screen.groups.changes = []

theorem delivery_sendEvents (s : Session) {events : List Event} (hevents : events ≠ []) :
    s.Delivery events (s.sendEvents events) := by
  unfold sendEvents
  dsimp only
  split
  · rename_i hlarge
    exact .refused hevents hlarge rfl rfl rfl
  · rename_i hfits
    cases events with
    | nil => exact absurd rfl hevents
    | cons e rest => exact .sent hevents (Nat.le_of_not_lt hfits) rfl rfl rfl

/-- What is sent makes no difference to what is gathered. -/
theorem sendEvents_keeps (s : Session) (events : List Event) :
    (s.sendEvents events).1.gathering = s.gathering ∧
      (s.sendEvents events).1.messages = s.messages ∧
      (s.sendEvents events).1.screen.groups = s.screen.groups := by
  unfold sendEvents
  dsimp only
  split
  · exact ⟨rfl, rfl, rfl⟩
  · cases events <;> exact ⟨rfl, rfl, rfl⟩

/-- The session at a frame, when changes are taken. -/
def ticked (s : Session) (now : Nat) : Session :=
  { s with screen := { (s.screen.tick now).1 with groups := s.screen.groups.settled } }

theorem animationFrame_of_not_open (h : s.state ≠ .opened) (now : Nat) :
    s.animationFrame now = (s.ticked now, none) := by
  unfold animationFrame
  dsimp only
  rw [if_pos h, Screen.groups_tick]
  rfl

/-- A frame sends what is due, if anything is. -/
theorem animationFrame_of_open (h : s.state = .opened) (now : Nat) :
    s.animationFrame now =
      if (s.gathering.flush s.screen.groups.changes).isEmpty then
        ({ s.ticked now with gathering := [] }, none)
      else
        sendEvents { s.ticked now with gathering := [] }
          (s.gathering.flush s.screen.groups.changes) := by
  unfold animationFrame
  dsimp only
  rw [if_neg (not_not_intro h), Screen.groups_tick]
  rfl

/-- All that was gathered is delivered at a frame. -/
theorem delivery_animationFrame (h : s.state = .opened) (now : Nat) :
    s.Delivery (s.gathering.flush s.screen.groups.changes) (s.animationFrame now) := by
  rw [animationFrame_of_open h]
  split
  · rename_i hempty
    exact .nothing (List.isEmpty_iff.mp hempty) rfl rfl rfl
  · rename_i hempty
    have hevents := mt List.isEmpty_iff.mpr hempty
    have hdelivery := delivery_sendEvents { s.ticked now with gathering := [] } hevents
    generalize sendEvents _ _ = out at hdelivery
    -- what is sent depends on nothing that a frame changes before
    cases hdelivery with
    | nothing hnone => exact absurd hnone hevents
    | sent _ hfits houtbound hrequests hcalls =>
      exact .sent hevents hfits houtbound hrequests hcalls
    | refused _ hlarge houtbound hrequests hcalls =>
      exact .refused hevents hlarge houtbound hrequests hcalls

/-- A frame leaves nothing behind. -/
theorem settled_animationFrame (h : s.state = .opened) (now : Nat) :
    (s.animationFrame now).1.Settled := by
  have hsettled : Settled { s.ticked now with gathering := [] } :=
    ⟨rfl, s.screen.groups.changes_settled⟩
  rw [animationFrame_of_open h]
  split
  · exact hsettled
  · obtain ⟨hgathering, -, hgroups⟩ := sendEvents_keeps { s.ticked now with gathering := [] }
      (s.gathering.flush s.screen.groups.changes)
    exact ⟨hgathering.trans hsettled.gathering_eq, hgroups ▸ hsettled.changes_eq⟩

theorem messages_animationFrame (s : Session) (now : Nat) :
    (s.animationFrame now).1.messages = s.messages := by
  by_cases h : s.state = .opened
  · rw [animationFrame_of_open h]
    split
    · rfl
    · exact (sendEvents_keeps _ _).2.1
  · rw [animationFrame_of_not_open h]
    rfl

theorem groups_animationFrame (s : Session) (now : Nat) :
    (s.animationFrame now).1.screen.groups = s.screen.groups.settled := by
  by_cases h : s.state = .opened
  · rw [animationFrame_of_open h]
    split
    · rfl
    · exact (sendEvents_keeps _ _).2.2
  · rw [animationFrame_of_not_open h]
    rfl

/-! ## Runs -/

namespace Reachable

theorem messages_eq (hs : s.Reachable) : s.messages = [] := by
  induction hs with
  | start config host => rfl
  | @step s hs x ih =>
    cases hx : x.isFrame with
    | false => exact (passes_step ih hx).messages_eq.trans ih
    | true =>
      obtain ⟨now, rfl⟩ := Stimulus.eq_frame hx
      exact (s.messages_animationFrame now).trans ih

theorem peopled (hs : s.Reachable) : s.screen.groups.Peopled := by
  induction hs with
  | start config host => exact nofun
  | @step s hs x ih =>
    cases hx : x.isFrame with
    | false => exact ((passes_step hs.messages_eq hx).follows ih).peopled
    | true =>
      obtain ⟨now, rfl⟩ := Stimulus.eq_frame hx
      exact s.groups_animationFrame now ▸ ih.settled

end Reachable

/-- A group waits at the end of a run without frames if it waited before and goes on, or if the user
changed it. -/
theorem pending_after (hs : s.Reachable) {run : List Stimulus}
    (hrun : ∀ x ∈ run, x.isFrame = false) (key : String) :
    (s.after run).screen.groups.Pending key ↔
      s.screen.groups.Pending key ∧ s.KeptBy key run ∨ s.ChangedBy key run := by
  induction run generalizing s with
  | nil => simp [after, KeptBy, ChangedBy]
  | cons x rest ih =>
    obtain ⟨hx, hrest⟩ := List.forall_mem_cons.mp hrun
    have hstep := ((passes_step hs.messages_eq hx).follows hs.peopled).pending_iff key
    -- whatever waits after the first step is to go on through the others
    rw [after_cons, ih (hs.step x) hrest, hstep, KeptBy, ChangedBy]
    grind

/-- Between frames all that is produced is gathered, in order. -/
theorem gathering_after (hs : s.Reachable) {run : List Stimulus}
    (hrun : ∀ x ∈ run, x.isFrame = false) :
    (s.after run).gathering = (s.producedBy run).foldl Gathering.ingest s.gathering := by
  induction run generalizing s with
  | nil => rfl
  | cons x rest ih =>
    obtain ⟨hx, hrest⟩ := List.forall_mem_cons.mp hrun
    rw [after_cons, ih (hs.step x) hrest, (passes_step hs.messages_eq hx).gathering_eq, producedBy,
      List.foldl_append]

/-- Between frames no events are sent. -/
theorem carriedBy_eq_nil (hs : s.Reachable) {run : List Stimulus}
    (hrun : ∀ x ∈ run, x.isFrame = false) : s.carriedBy run = [] := by
  induction run generalizing s with
  | nil => rfl
  | cons x rest ih =>
    obtain ⟨hx, hrest⟩ := List.forall_mem_cons.mp hrun
    rw [carriedBy, carried, (passes_step hs.messages_eq hx).carried_eq, ih (hs.step x) hrest,
      List.append_nil]

/-! ## All requests of a run -/

/-- The events that are due once messages were gathered. -/
def due (s : Session) (ms : List Message) : List Event :=
  Message.events [] ms ++ s.screen.groups.changes.map GroupChange.event

/-- The events, if a request has room for them. -/
def accepted (s : Session) (events : List Event) : List Event :=
  if (s.request events).size ≤ Wire.toServerCap then events else []

/-- The events that are due at the frames of a run, as far as requests have room for them, when
messages were gathered before it. -/
def ledger (s : Session) (ms : List Message) : List Stimulus → List Event
  | [] => []
  | x :: rest =>
    if x.isFrame = true ∧ s.state = .opened then
      s.accepted (s.due ms) ++ (s.step x).ledger [] rest
    else (s.step x).ledger (ms ++ s.produced x) rest

theorem flush_eq_due (hs : s.gathering = ms.foldl Gathering.ingest []) :
    s.gathering.flush s.screen.groups.changes = s.due ms := by
  rw [hs, Gathering.flush, Gathering.toEvent_gathered]
  rfl

/-- What is carried off is all that is due, or nothing. -/
theorem Delivery.carried_eq {events : List Event} {out : Session × Option Nat}
    (h : s.Delivery events out) :
    (out.1.outbound.drop s.outbound.length).flatMap ClientEnvelope.events = s.accepted events := by
  unfold accepted
  cases h with
  | nothing hevents houtbound hrequests hcalls =>
    rw [hevents, houtbound, List.drop_length, ite_self]
    rfl
  | sent hevents hfits houtbound hrequests hcalls =>
    rw [houtbound, List.drop_left, if_pos hfits]
    exact List.append_nil events
  | refused hevents hlarge houtbound hrequests hcalls =>
    rw [houtbound, List.drop_length, if_neg (Nat.not_le_of_lt hlarge)]
    rfl

/-- All that requests carry is what was due at the frames of the run. -/
theorem carriedBy_eq_ledger (hs : s.Reachable) (hms : s.gathering = ms.foldl Gathering.ingest [])
    (run : List Stimulus) : s.carriedBy run = s.ledger ms run := by
  induction run generalizing s ms with
  | nil => rfl
  | cons x rest ih =>
    rw [carriedBy, ledger, carried]
    cases hx : x.isFrame with
    | false =>
      have hpasses := passes_step hs.messages_eq hx
      have hgathered : (s.step x).gathering = (ms ++ s.produced x).foldl Gathering.ingest [] := by
        rw [hpasses.gathering_eq, hms, List.foldl_append]
      rw [if_neg (fun h => nomatch h.1), hpasses.carried_eq, List.nil_append]
      exact ih (hs.step x) hgathered
    | true =>
      obtain ⟨now, rfl⟩ := Stimulus.eq_frame hx
      by_cases hopen : s.state = .opened
      · have hdelivery := delivery_animationFrame hopen now
        rw [flush_eq_due hms] at hdelivery
        rw [if_pos ⟨rfl, hopen⟩, ← hdelivery.carried_eq]
        exact congrArg _ (ih (hs.step _) (settled_animationFrame hopen now).gathering_eq)
      · -- before the session is open a frame sends nothing, and leaves what was gathered
        have hidle : s.step (.frame now) = s.ticked now :=
          congrArg Prod.fst (animationFrame_of_not_open hopen now)
        have hkept : s.produced (.frame now) = [] := rfl
        rw [if_neg fun h => hopen h.2, hkept, List.append_nil]
        rw [← ih (hs.step _) (hidle.symm ▸ hms), hidle]
        show (s.outbound.drop s.outbound.length).flatMap _ ++ _ = _
        rw [List.drop_length]
        rfl

/-! ## Two frames -/

/-- Changes report what the user did to groups in a run. -/
structure Reports (s : Session) (run : List Stimulus) (changes : List GroupChange) : Prop where
  /-- They come by ascending key, and each group once. -/
  ordered : changes.Pairwise fun c d => c.key < d.key
  mem_iff : ∀ key, key ∈ changes.map GroupChange.key ↔ s.ChangedBy key run
  /-- Each has the ids of a group and the value that it has at last, which says what is checked. -/
  current : ∀ c ∈ changes, ∃ g, (s.after run).screen.groups.get? c.key = some g ∧
    c = ⟨c.key, g.widgetId, g.fragmentId, g.value⟩ ∧ g.Tells c.value

/-- After a frame, the changes that wait are those of the run since. -/
theorem reports_changes (hs : s.Reachable) (hsettled : s.screen.groups.changes = [])
    {run : List Stimulus} (hrun : ∀ x ∈ run, x.isFrame = false) :
    s.Reports run (s.after run).screen.groups.changes where
  ordered := Groups.changes_sorted _
  mem_iff key := by
    have hnone : ¬ s.screen.groups.Pending key := by
      rw [← Groups.mem_keys_changes, hsettled]
      exact List.not_mem_nil
    rw [Groups.mem_keys_changes, pending_after hs hrun]
    exact or_iff_right fun h => hnone h.1
  current _ hc := Groups.tells_of_mem_changes hc

/-- Of two frames one after the other, the second delivers the messages produced since the first, in
order and with the edits of a grid as one event, and then the groups that were changed.  Nothing of
it is sent before, and nothing is left for later: all that later requests carry is what is produced
later. -/
theorem delivered_once (hs : s.Reachable) (hopen : s.state = .opened) (now : Nat)
    {between : List Stimulus} (hbetween : ∀ x ∈ between, x.isFrame = false)
    (hstill : ((s.step (.frame now)).after between).state = .opened) (now' : Nat) :
    let first := s.step (.frame now)
    let last := first.after between
    ∃ changes, first.Reports between changes ∧
      last.Delivery (Message.events [] (first.producedBy between) ++ changes.map GroupChange.event)
        (last.animationFrame now') ∧
      first.carriedBy between = [] ∧
      (last.step (.frame now')).Settled ∧
      ∀ later, (last.step (.frame now')).carriedBy later =
        (last.step (.frame now')).ledger [] later := by
  intro first last
  have hfirst : first.Reachable := hs.step _
  have hsettled : first.Settled := settled_animationFrame hopen now
  have hsettled' : (last.step (.frame now')).Settled := settled_animationFrame hstill now'
  have hgathering : last.gathering = (first.producedBy between).foldl Gathering.ingest [] := by
    rw [gathering_after hfirst hbetween, hsettled.gathering_eq]
  have hdelivery := delivery_animationFrame hstill now'
  rw [flush_eq_due hgathering] at hdelivery
  exact ⟨last.screen.groups.changes, reports_changes hfirst hsettled.changes_eq hbetween, hdelivery,
    carriedBy_eq_nil hfirst hbetween, hsettled',
    carriedBy_eq_ledger ((hfirst.after between).step _) hsettled'.gathering_eq⟩

/-! ## A page that is edited and replaced -/

/-- A group of checkboxes. -/
def boxes : Json :=
  .obj [("type", .str "checkboxes"), ("id", .str "c"), ("multiple", .bool true),
    ("options", .arr [.str "x", .str "y"])]

/-- A page with a button, a grid and the checkboxes is shown. -/
def gridShown : List Stimulus :=
  let button := .obj [("type", .str "button"), ("id", .str "b")]
  let grid := .obj [("type", .str "dataframe"), ("id", .str "g"),
    ("initial_value", .arr [.obj [("n", .str "one")], .obj [("n", .str "two")]]),
    ("column_config", .obj [("n", .obj [("editable", .bool true)])])]
  [.message (.hello "session" none) 0,
    .message (.rerun ⟨none, some (.page [button, grid, boxes]), none, none⟩) 0]

/-- A box is checked and two cells are edited, with a click between them; then a page without the
button and the grid takes its place, on which both boxes are checked. -/
def gridEdited : List Stimulus :=
  let checked := .obj [("type", .str "checkboxes"), ("id", .str "c"), ("multiple", .bool true),
    ("options", .arr [.str "x", .str "y"]), ("value", .arr [.str "y", .str "x"])]
  [.action ⟨"c", .toggle "y"⟩, .action ⟨"g", .editCell 1 "n" (.str "first")⟩,
    .action ⟨"b", .click⟩, .action ⟨"g", .editCell 2 "n" (.str "second")⟩,
    .message (.rerun ⟨none, some (.page [checked]), none, none⟩) 1]

/-- The texts of an array of texts. -/
def textItems? (j : Json) : Option (List String) :=
  j.items?.bind fun items => items.mapM Json.text?

/-- An event of which old values and those of cells are texts, and new ones are arrays of texts. -/
structure SpelledEvent where
  kind : EventKind
  widgetId : String
  fragmentId : String
  oldValue : Option (Option String)
  newValue : Option (Option (List String))
  changes : Option (List (Nat × String × Option String))
  deriving DecidableEq

/-- All fields of an event, spelled out. -/
def spelled (e : Event) : SpelledEvent where
  kind := e.kind
  widgetId := e.widgetId
  fragmentId := e.fragmentId
  oldValue := e.oldValue.map Json.text?
  newValue := e.newValue.map textItems?
  changes := e.changes.map fun changes => changes.map fun c => (c.row, c.column, c.value.text?)

/-- The click and the edits are sent, though what they were done to is gone: the edits as one event
with both cells, before the click, and the group last with what is checked in it by then. -/
theorem delivered_once_replaced :
    let first := ((start .default .minimal).after gridShown).step (.frame 0)
    let last := first.after gridEdited
    (last.animationFrame 1).1.outbound.map (fun e => e.events.map spelled) =
        [[], [⟨.batchedChange, "g", "main", none, none,
            some [(1, "n", some "first"), (2, "n", some "second")]⟩,
          ⟨.click, "b", "main", none, none, none⟩,
          ⟨.change, "c", "main", none, some (some ["x", "y"]), none⟩]] ∧
      ∃ changes, first.Reports gridEdited changes ∧
        last.Delivery
          (Message.events [] (first.producedBy gridEdited) ++ changes.map GroupChange.event)
          (last.animationFrame 1) := by
  intro first last
  obtain ⟨changes, hreports, hdelivery, -⟩ :=
    delivered_once ((Reachable.start .default .minimal).after gridShown) (by decide +kernel) 0
      (show ∀ x ∈ gridEdited, x.isFrame = false by decide) (by decide +kernel) 1
  exact ⟨by decide +kernel, changes, hreports, hdelivery⟩

end Session

end RemoteUi
