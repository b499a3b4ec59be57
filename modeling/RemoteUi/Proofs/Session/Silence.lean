/-
# RemoteUi.Proofs.Session.Silence — a session that is left alone says nothing.

Once everything that the user did has been delivered, nothing more comes of it: whatever the server
sends, be it other values for groups, other trees, groups of another kind or a rejection that has
the cached tree shown again, no frame finds anything to send.  All that the server hears is the one
request that follows the first greeting, and an acknowledgement of each rejection.  So an update is
never answered by an event that would bring the next update.

* `reply` says what a session says in answer to a message.  It is told by the message, by whether
  the session was greeted before, and by whether a request would fit a frame, and not by what
  happens in the step.
* The invariant is `Settled`: nothing is gathered and no group is to be reported.  A step that is
  not the user's preserves it (`Settled.step`).  For groups this rests on who may change them: one
  that is to be reported now was to be reported before, or was changed by the user.
* From such a state a step says what `reply` says (`queued_eq_reply`), and a frame says nothing.
* Requests are counted against the session id, which is set once: the request that a greeting brings
  is made in the step in which the id is set (`requests_step`).  So there is one at most along a run
  (`requests_after`).

`silent_unattended` puts them together for any run without the user's doing.
-/
import Mathlib.Data.List.Infix
import RemoteUi.Proofs.Session.Lifecycle

namespace RemoteUi

/-- The stimulus is neither by the user's hand nor the opening of the session. -/
def Stimulus.isUnattended : Stimulus → Bool
  | .opening | .action _ => false
  | .message _ _ | .frame _ | .drain | .lost _ => true

/-- The message to the server is a request. -/
def ClientEnvelope.isRequest (e : ClientEnvelope) : Bool :=
  e.requestId?.isSome

namespace Session

variable {s t : Session} {x : Stimulus} {run : List Stimulus}

/-! ## What is left to be said -/

/-- What a session says in answer to the server: it asks for something to show once it is greeted, if
a frame has room for that, and acknowledges a rejection for diverged state. -/
def reply (s : Session) : Stimulus → List ClientEnvelope
  | .message (.hello _ _) _ =>
    if s.state ≠ .closed ∧ s.sessionId = none ∧
        (s.requests.prepare s.config.location []).size ≤ Wire.toServerCap then
      [s.requests.prepare s.config.location []]
    else []
  | .message (.rerun response) _ =>
    if s.state ≠ .closed ∧ (ServerEnvelope.rerun response).kind = .invalidState then [.acknowledge]
    else []
  | _ => []

/-- No answer to the server carries an event. -/
theorem events_reply (s : Session) (x : Stimulus) : ∀ e ∈ s.reply x, e.events = [] := by
  intro e he
  unfold reply at he
  split at he
  · split at he
    · obtain rfl := List.mem_singleton.mp he
      rfl
    · cases he
  · split at he
    · obtain rfl := List.mem_singleton.mp he
      rfl
    · cases he
  · cases he

/-- A request is made only in answer to a greeting, and there is one at most. -/
theorem requests_reply (s : Session) (x : Stimulus) :
    (s.reply x).filter ClientEnvelope.isRequest = [] ∨
      s.sessionId = none ∧ ((s.reply x).filter ClientEnvelope.isRequest).length = 1 := by
  unfold reply
  split
  · split
    · rename_i hdue
      exact Or.inr ⟨hdue.2.1, rfl⟩
    · exact Or.inl rfl
  · left
    split <;> rfl
  · exact Or.inl rfl

/-- What is disregarded is not answered. -/
theorem reply_of_disregards (h : s.Disregards x) : s.reply x = [] := by
  cases x with
  | opening | action | frame | drain | lost => rfl
  | message envelope now =>
    cases envelope with
    | refresh => rfl
    | rerun response => exact if_neg fun hdue => hdue.1 h
    | hello id devMode => exact if_neg fun hdue => h.elim hdue.1 fun hid => hid hdue.2.1

/-! ## Frames -/

/-- Where nothing waits to be sent, a frame sends nothing. -/
theorem Settled.animationFrame (h : s.Settled) (now : Nat) :
    s.animationFrame now = (s.ticked now, none) := by
  by_cases hopen : s.state = .opened
  · have hgathering : ({ s.ticked now with gathering := [] } : Session) = s.ticked now := by
      rw [← h.gathering_eq]
      rfl
    rw [animationFrame_of_open hopen, h.gathering_eq, h.changes_eq, hgathering]
    rfl
  · exact animationFrame_of_not_open hopen now

/-! ## Steps -/

/-- What an answer adds to what waits for the server is an acknowledgement, if it is a rejection. -/
theorem Handling.outbound_eq {response : Response} {now : Nat} {shown : Option Response}
    (h : s.Handling response now t shown) :
    t.outbound = s.outbound ++
      if (ServerEnvelope.rerun response).kind = .invalidState then [.acknowledge] else [] := by
  -- the messages are compared for anything but a rejection first
  have hkeeps : s.requests.classify response ≠ .invalidState → s.outbound = s.outbound ++
      if (ServerEnvelope.rerun response).kind = .invalidState then [.acknowledge] else [] := by
    intro hkind
    rw [if_neg (mt Requests.classify_eq_invalidState.mpr hkind), List.append_nil]
  cases h with
  | shown hkind hrender | missed hkind hrender =>
    exact hrender.outbound_eq.trans (hkeeps (by simp [hkind]))
  | superseded hkind | failed hkind => exact hkeeps (by simp [hkind])
  | replayed hkind hcached hrender | lapsed hkind hcached hrender =>
    rw [if_pos (Requests.classify_eq_invalidState.mp hkind)]
    exact congrArg (· ++ [.acknowledge]) hrender.outbound_eq
  | acknowledged hkind hcached =>
    rw [if_pos (Requests.classify_eq_invalidState.mp hkind)]
    rfl

/-- A request that is due goes out if a frame has room for it. -/
theorem queued_asks {u : Session} {events : List Event} (h : s.asks x = some (u, events)) :
    s.queued x = if (u.requests.prepare u.config.location events).size ≤ Wire.toServerCap then
      [u.requests.prepare u.config.location events] else [] := by
  obtain ⟨-, hqueue, -⟩ := asks_eq h
  have hstep := step_asks h
  split
  · rename_i hfits
    apply queued_eq
    rw [hstep, (sendEvents_fitting (Nat.not_lt_of_le hfits)).2.1, hqueue]
  · -- a request that is too large is reported and does not go out
    rename_i hlarge
    rw [queued, hstep, sendEvents_large (Nat.lt_of_not_le hlarge)]
    show u.outbound.drop s.outbound.length = []
    rw [hqueue, List.drop_length]

/-- A session that has nothing to send says what it has to say in answer to the server, and no
more. -/
theorem queued_eq_reply (hs : s.Settled) (hx : x.isUnattended = true) :
    s.queued x = s.reply x := by
  cases s.way_step x with
  | opening | action => cases hx
  | drain => exact List.drop_nil
  | frame now =>
    apply queued_eq_nil
    rw [step, hs.animationFrame now]
    rfl
  | lost hopen heq => exact queued_eq_nil (heq ▸ rfl)
  | reloaded hopen heq =>
    rw [queued, heq]
    exact List.drop_nil
  | disregarded hdisregards devMode heq =>
    rw [reply_of_disregards hdisregards]
    exact queued_eq_nil (heq ▸ rfl)
  | @greeted id devMode now hopen hid =>
    rw [queued_asks (asks_hello hopen hid id devMode now)]
    simp [reply, hopen, hid]
  | @answered response now hopen =>
    have houtbound := (handling_step (heard_rerun hopen response now)).outbound_eq
    rw [queued_eq houtbound]
    simp [reply, hopen]

/-- Nothing that the server sends, and no frame, leaves anything to be sent. -/
theorem Settled.step (hs : s.Reachable) (h : s.Settled) (hx : x.isUnattended = true) :
    (s.step x).Settled := by
  cases hframe : x.isFrame with
  | true =>
    obtain ⟨now, rfl⟩ := Stimulus.eq_frame hframe
    rw [Session.step, h.animationFrame now]
    exact ⟨h.gathering_eq, s.screen.groups.changes_settled⟩
  | false =>
    have hpasses := passes_step hs.messages_eq hframe
    have hproduced : s.produced x = [] := by
      cases x with
      | action => cases hx
      | opening | message | frame | drain | lost => rfl
    have hnot : x.isAction ≠ true := by
      cases x with
      | action => cases hx
      | opening | message | frame | drain | lost => nofun
    refine ⟨?_, Groups.changes_eq_nil_iff.mpr fun key hpending => ?_⟩
    · rw [hpasses.gathering_eq, hproduced]
      exact h.gathering_eq
    · -- a group that waits now either waited before or was changed by the user
      rcases ((hpasses.follows hs.peopled).pending_iff key).mp hpending with ⟨hbefore, -⟩ | ⟨hby, -⟩
      · exact Groups.changes_eq_nil_iff.mp h.changes_eq key hbefore
      · exact hnot hby

/-- A request is made once, and the session has an id from then on. -/
theorem requests_step (hs : s.Reachable) (h : s.Settled) (hx : x.isUnattended = true) :
    ((s.queued x).filter ClientEnvelope.isRequest).length + s.sessionId.toList.length ≤
      (s.step x).sessionId.toList.length := by
  have hlasts : s.sessionId.toList.length ≤ (s.step x).sessionId.toList.length := by
    cases hid : s.sessionId with
    | none => exact Nat.zero_le _
    | some id => rw [sessionId_step hid]
  have hqueued := queued_eq_reply h hx
  rcases s.requests_reply x with hnone | ⟨hid, hone⟩
  · rw [hqueued, hnone]
    simpa using hlasts
  · rw [← hqueued] at hone
    obtain ⟨e, he⟩ := List.length_eq_one_iff.mp hone
    have hmem : e ∈ (s.queued x).filter ClientEnvelope.isRequest := by simp [he]
    obtain ⟨hsent, hrequest⟩ := List.mem_filter.mp hmem
    obtain ⟨id, hid'⟩ := sessionId_of_request hs hsent (Option.isSome_iff_ne_none.mp hrequest)
    rw [hone, hid, hid']
    exact Nat.le_refl 1

/-! ## Runs -/

/-- Nothing is left to be sent along a run in which the user does nothing. -/
theorem Settled.after (hs : s.Reachable) (h : s.Settled)
    (hrun : ∀ x ∈ run, x.isUnattended = true) : (s.after run).Settled := by
  induction run generalizing s with
  | nil => exact h
  | cons x rest ih =>
    obtain ⟨hx, hrest⟩ := List.forall_mem_cons.mp hrun
    exact ih (hs.step x) (h.step hs hx) hrest

/-- Along such a run, requests and the id that was there before come to one at most. -/
theorem requests_after (hs : s.Reachable) (h : s.Settled)
    (hrun : ∀ x ∈ run, x.isUnattended = true) :
    ((s.queuedBy run).filter ClientEnvelope.isRequest).length + s.sessionId.toList.length ≤
      (s.after run).sessionId.toList.length := by
  induction run generalizing s with
  | nil => simp [queuedBy, after]
  | cons x rest ih =>
    obtain ⟨hx, hrest⟩ := List.forall_mem_cons.mp hrun
    have hstep := requests_step hs h hx
    have hlater := ih (hs.step x) (h.step hs hx) hrest
    rw [queuedBy, List.filter_append, List.length_append, after_cons]
    omega

/-- A session says nothing along a run but what answers the server. -/
structure Silent (s : Session) (run : List Stimulus) : Prop where
  /-- No frame sends a request. -/
  frames : ∀ earlier now, earlier ++ [.frame now] <+: run →
    ((s.after earlier).animationFrame now).2 = none
  replies : ∀ earlier x, earlier ++ [x] <+: run →
    (s.after earlier).queued x = (s.after earlier).reply x
  /-- One request is made at most, and none if the session has been greeted before. -/
  polled : ((s.queuedBy run).filter ClientEnvelope.isRequest).length ≤
    if s.sessionId = none then 1 else 0
  /-- No event is sent, and none is left to be sent. -/
  carried : s.carriedBy run = []
  settled : (s.after run).Settled

/-- No event is carried along such a run. -/
theorem carriedBy_of_settled (hs : s.Reachable) (h : s.Settled)
    (hrun : ∀ x ∈ run, x.isUnattended = true) : s.carriedBy run = [] := by
  induction run generalizing s with
  | nil => rfl
  | cons x rest ih =>
    obtain ⟨hx, hrest⟩ := List.forall_mem_cons.mp hrun
    have hqueued : s.carried x = (s.reply x).flatMap ClientEnvelope.events :=
      congrArg (List.flatMap ClientEnvelope.events) (queued_eq_reply h hx)
    rw [carriedBy, hqueued, List.flatMap_eq_nil_iff.mpr (s.events_reply x),
      ih (hs.step x) (h.step hs hx) hrest]
    rfl

/-- Once all that the user did has been delivered, a session is silent until the user does something
again. -/
theorem silent_unattended (hs : s.Reachable) (h : s.Settled)
    (hrun : ∀ x ∈ run, x.isUnattended = true) : s.Silent run where
  frames := by
    rintro earlier now ⟨later, rfl⟩
    have hearlier : ∀ x ∈ earlier, x.isUnattended = true := fun x hx => hrun x (by simp [hx])
    rw [(h.after hs hearlier).animationFrame now]
  replies := by
    rintro earlier x ⟨later, rfl⟩
    have hearlier : ∀ y ∈ earlier, y.isUnattended = true := fun y hy => hrun y (by simp [hy])
    exact queued_eq_reply (h.after hs hearlier) (hrun x (by simp))
  polled := by
    -- requests and the id together are one at most, so that an id leaves no room for a request
    have hcount := requests_after hs h hrun
    have hlast : (s.after run).sessionId.toList.length ≤ 1 := by
      cases (s.after run).sessionId <;> simp
    cases hid : s.sessionId with
    | none =>
      rw [if_pos rfl]
      omega
    | some id =>
      rw [hid, Option.toList_some, List.length_singleton] at hcount
      rw [if_neg (Option.some_ne_none id)]
      omega
  carried := carriedBy_of_settled hs h hrun
  settled := h.after hs hrun

/-! ## A group that the server changes -/

/-- The user has checked a box. -/
def boxChecked : List Stimulus :=
  gridShown ++ [.action ⟨"c", .toggle "y"⟩]

/-- The server checks another box, puts radio buttons in the place of the boxes, and rejects a
request, which has the radio buttons shown again; two frames pass. -/
def groupPushed : List Stimulus :=
  let other := .page [.obj [("type", .str "checkboxes"), ("id", .str "c"), ("multiple", .bool true),
    ("options", .arr [.str "x", .str "y"]), ("value", .arr [.str "x"])]]
  let radio := .page [.obj [("type", .str "radio"), ("id", .str "c"),
    ("options", .arr [.str "x", .str "y"]), ("value", .str "y")]]
  [.message (.rerun ⟨none, some other, none, none⟩) 1, .frame 1,
    .message (.rerun ⟨none, some radio, none, none⟩) 2,
    .message (.rerun ⟨none, none, some ⟨"InvalidState", none⟩, none⟩) 3, .frame 3]

/-- What the user did has been delivered, and what the server does then is not answered by any
event. -/
theorem silent_unattended_groupPushed :
    let checked := ((start .default .minimal).after boxChecked).step (.frame 0)
    checked.Settled ∧ (∀ x ∈ groupPushed, x.isUnattended = true) ∧
      checked.carriedBy groupPushed = [] ∧
      ((checked.after (groupPushed.take 4)).animationFrame 3).2 = none ∧
      (checked.after (groupPushed.take 4)).screen.groups.checkedValues "c" = ["y"] := by
  intro checked
  have hreachable : checked.Reachable := ((Reachable.start .default .minimal).after boxChecked).step _
  have hopen : ((start .default .minimal).after boxChecked).state = .opened := by decide +kernel
  have hsettled : checked.Settled := settled_animationFrame hopen 0
  have hrun : ∀ x ∈ groupPushed, x.isUnattended = true := by decide
  have hsilent := silent_unattended hreachable hsettled hrun
  exact ⟨hsettled, hrun, hsilent.carried, hsilent.frames _ 3 (List.prefix_refl groupPushed),
    by decide +kernel⟩

end Session

end RemoteUi
