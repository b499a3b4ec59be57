/-
# RemoteUi.Proofs.Session.Lifecycle — a session from its greeting to its end.

A session waits to be greeted, is open, and is over; it never goes back.  The first greeting that
comes before its end gives it an id for good, and it asks the server for nothing before that.  It
ends once, by a demand for a reload or by the loss of the connection, and the host is told so once.
From then on nothing is sent, no id is given out and the host is told nothing: all that is left to
happen is that fragments fade, swaps settle and group changes are taken (`lifecycle`).

* What a run says is read off the stimuli alone, without a session: the id in its first greeting
  before its end (`greetingOf`), and the stage to which that brings a connection (`stageOf`).  A
  session is where its run says (`standing_after`).  The induction is from the end of the run, since
  the last stimulus is judged by what came before it.
* That nothing is asked before the greeting rests on the invariant that an open session has an id
  (`Greeted`).
* The host is told of the end by the step that ends the session, and a session that is over hears
  nothing that could end it again (`Reachable.length_endings`).
* Of a session that is over, what may still happen does not show once its screen is brought to rest
  (`atRest`): this is shown for one step (`atRest_step`), and for any run after it
  (`over_of_closed`).  The one stimulus left out is the opening, which comes first.
-/
import Mathlib.Data.List.Infix
import RemoteUi.Proofs.Screen.Fading
import RemoteUi.Proofs.Session.Numbering
import RemoteUi.Proofs.Session.Standing

namespace RemoteUi

/-- The stages of a connection are passed through in this order. -/
def ConnectionState.rank : ConnectionState → Nat
  | .connecting => 0
  | .opened => 1
  | .closed => 2

/-- The stimulus ends a session. -/
def Stimulus.ends (x : Stimulus) : Bool :=
  x.ending?.isSome

theorem Stimulus.ends_iff {x : Stimulus} : x.ends = true ↔ x.ending? ≠ none :=
  Option.isSome_iff_ne_none

/-- What ends a session does not greet the client. -/
theorem Stimulus.greeting?_of_ends {x : Stimulus} (h : x.ends = true) : x.greeting? = none :=
  greeting?_of_ending (ends_iff.mp h)

namespace Session

variable {s : Session} {x : Stimulus} {run earlier later : List Stimulus}

theorem after_append (s : Session) (run rest : List Stimulus) :
    s.after (run ++ rest) = (s.after run).after rest :=
  List.foldl_append

/-! ## What a run says -/

/-- The id in the first greeting of a run that comes before its first end. -/
def greetingOf (run : List Stimulus) : Option String :=
  (run.takeWhile fun x => !x.ends).findSome? Stimulus.greeting?

/-- The stage to which a run brings a connection. -/
def stageOf (run : List Stimulus) : ConnectionState :=
  if run.any Stimulus.ends then .closed
  else if (greetingOf run).isSome then .opened
  else .connecting

/-- The first stimulus decides if it ends the session or greets the client. -/
theorem greetingOf_cons (x : Stimulus) (run : List Stimulus) :
    greetingOf (x :: run) = if x.ends then none else x.greeting?.or (greetingOf run) := by
  unfold greetingOf
  cases hends : x.ends with
  | true => simp [hends]
  | false =>
    rw [List.takeWhile_cons_of_pos (by simp [hends]), List.findSome?_cons]
    cases x.greeting? <;> rfl

/-- What comes after the end says nothing, and a second greeting neither. -/
theorem greetingOf_concat (run : List Stimulus) (x : Stimulus) :
    greetingOf (run ++ [x]) =
      if run.any Stimulus.ends then greetingOf run else (greetingOf run).or x.greeting? := by
  induction run with
  | nil =>
    rw [List.nil_append, greetingOf_cons]
    cases hends : x.ends with
    | true => simp [Stimulus.greeting?_of_ends hends, greetingOf]
    | false => simp [greetingOf]
  | cons y rest ih =>
    rw [List.cons_append, greetingOf_cons, greetingOf_cons, ih]
    cases hends : y.ends with
    | true => simp [hends]
    | false =>
      cases hrest : rest.any Stimulus.ends <;> simp [hends, hrest, Option.or_assoc]

theorem stageOf_eq_closed : stageOf run = .closed ↔ run.any Stimulus.ends = true := by
  unfold stageOf
  split
  · simp [*]
  · split <;> simp [*]

/-- A session that is not over was not ended. -/
theorem any_ends_of_open (hopen : stageOf run ≠ .closed) : run.any Stimulus.ends = false := by
  rw [← Bool.not_eq_true, ← stageOf_eq_closed]
  exact hopen

/-- After the end a stimulus says nothing. -/
theorem said_of_closed (hclosed : stageOf run = .closed) (x : Stimulus) :
    greetingOf (run ++ [x]) = greetingOf run ∧ stageOf (run ++ [x]) = stageOf run := by
  have hended := stageOf_eq_closed.mp hclosed
  simp [stageOf, greetingOf_concat, hended]

/-- An end leaves the greeting as it was. -/
theorem said_of_ends (hopen : stageOf run ≠ .closed) (hx : x.ends = true) :
    greetingOf (run ++ [x]) = greetingOf run ∧ stageOf (run ++ [x]) = .closed := by
  have hended := any_ends_of_open hopen
  simp [stageOf, greetingOf_concat, hended, hx, Stimulus.greeting?_of_ends hx]

/-- The first greeting opens the session. -/
theorem said_of_greeting {id : String} (hopen : stageOf run ≠ .closed)
    (hnone : greetingOf run = none) (hx : x.greeting? = some id) :
    greetingOf (run ++ [x]) = some id ∧ stageOf (run ++ [x]) = .opened := by
  have hended := any_ends_of_open hopen
  have hgoes : x.ends = false := by
    rw [← Bool.not_eq_true]
    intro hends
    cases (Stimulus.greeting?_of_ends hends).symm.trans hx
  simp [stageOf, greetingOf_concat, hended, hgoes, hnone, hx]

/-- All other stimuli say nothing about it, a second greeting included. -/
theorem said_of_neither (hopen : stageOf run ≠ .closed) (hx : x.ends = false)
    (hmet : x.greeting? ≠ none → greetingOf run ≠ none) :
    greetingOf (run ++ [x]) = greetingOf run ∧ stageOf (run ++ [x]) = stageOf run := by
  have hended := any_ends_of_open hopen
  have hgreeting : (greetingOf run).or x.greeting? = greetingOf run := by
    cases hid : greetingOf run with
    | some id => rfl
    | none =>
      rw [Option.none_or]
      by_contra hgreets
      exact hmet hgreets hid
  simp [stageOf, greetingOf_concat, hended, hx, hgreeting]

/-! ## Who the session is with -/

/-- A session is with whoever greeted it first, and is at the stage that the run says. -/
theorem standing_after (config : Config) (host : Host) (run : List Stimulus) :
    ((start config host).after run).standing = (greetingOf run, stageOf run) := by
  induction run using List.reverseRecOn with
  | nil => rfl
  | append_singleton run x ih =>
    obtain ⟨hid, hstate⟩ := Prod.mk.inj ih
    rw [after_concat]
    generalize (start config host).after run = s at hid hstate ⊢
    cases s.turn_step x with
    | same hid' hstate' hendings hover hmet =>
      rw [standing, hid', hstate', hid, hstate]
      rw [hid, hstate] at hmet
      rw [hstate] at hover
      by_cases hclosed : stageOf run = .closed
      · obtain ⟨hgreeting, hstage⟩ := said_of_closed hclosed x
        rw [hgreeting, hstage]
      · have hx : x.ends = false := by
          rw [← Bool.not_eq_true, Stimulus.ends_iff]
          exact fun hends => hclosed (hover hends)
        obtain ⟨hgreeting, hstage⟩ := said_of_neither hclosed hx fun hgreets =>
          (hmet hgreets).resolve_left hclosed
        rw [hgreeting, hstage]
    | @greeted id hx hopen hnone hid' hstate' =>
      obtain ⟨hgreeting, hstage⟩ := said_of_greeting (hstate ▸ hopen) (hid ▸ hnone) hx
      rw [standing, hid', hstate', hgreeting, hstage]
    | ended hx hopen hid' hstate' =>
      have hends : x.ends = true := Stimulus.ends_iff.mpr (by simp [hx])
      obtain ⟨hgreeting, hstage⟩ := said_of_ends (hstate ▸ hopen) hends
      rw [standing, hid', hstate', hid, hgreeting, hstage]

/-- No step goes back to an earlier stage. -/
theorem rank_step (s : Session) (x : Stimulus) : s.state.rank ≤ (s.step x).state.rank := by
  cases s.turn_step x with
  | same hid hstate => rw [hstate]
  | greeted hx hopen hnone hid hstate =>
    rw [hstate]
    cases hs : s.state with
    | connecting | opened => simp [ConnectionState.rank]
    | closed => exact absurd hs hopen
  | ended hx hopen hid hstate =>
    rw [hstate]
    cases s.state <;> simp [ConnectionState.rank]

/-- Nor does a run. -/
theorem rank_after (s : Session) (run : List Stimulus) :
    s.state.rank ≤ (s.after run).state.rank := by
  induction run generalizing s with
  | nil => exact Nat.le_refl _
  | cons x rest ih => exact Nat.le_trans (s.rank_step x) (ih (s.step x))

/-- An id is given for good. -/
theorem sessionId_step {id : String} (h : s.sessionId = some id) (x : Stimulus) :
    (s.step x).sessionId = some id := by
  cases s.turn_step x with
  | same hid => rw [hid, h]
  | greeted hx hopen hnone => cases hnone.symm.trans h
  | ended hx hopen hid => rw [hid, h]

theorem sessionId_after {id : String} (h : s.sessionId = some id) (run : List Stimulus) :
    (s.after run).sessionId = some id := by
  induction run generalizing s with
  | nil => exact h
  | cons x rest ih => exact ih (sessionId_step h x)

/-! ## Before the greeting -/

/-- A request is due once the session has an id. -/
theorem sessionId_of_asks (hs : s.Greeted) {u : Session} {events : List Event}
    (h : s.asks x = some (u, events)) : ∃ id, u.sessionId = some id := by
  unfold asks at h
  split at h
  · rename_i id devMode now
    split at h
    · obtain ⟨rfl, -⟩ := Prod.mk.inj (Option.some.inj h)
      exact ⟨id, rfl⟩
    · cases h
  · split at h
    · rename_i hdue
      obtain ⟨rfl, -⟩ := Prod.mk.inj (Option.some.inj h)
      exact hs hdue.1
    · cases h
  · cases h

/-- A request that is queued comes from a session with an id. -/
theorem sessionId_of_request (hs : s.Reachable) {e : ClientEnvelope} (he : e ∈ s.queued x)
    (hrequest : e.requestId? ≠ none) : ∃ id, (s.step x).sessionId = some id := by
  cases (draws_step hs.messages_eq x).drawn with
  | nothing hrequests hqueued htold => exact absurd (hqueued e he) hrequest
  | download hrequests hqueued htold hid | spoilt hrequests hqueued htold =>
    rw [hqueued] at he
    cases he
  | @request u events hasks =>
    have hid : (s.step x).sessionId = u.sessionId := by
      rw [step_asks hasks]
      exact congrArg (fun b => b.1.1) (u.bearing_sendEvents events)
    rw [hid]
    exact sessionId_of_asks hs.greeted hasks

/-- What sends a request was given an id. -/
theorem sessionId_of_requestBy (hs : s.Reachable) {e : ClientEnvelope} (he : e ∈ s.queuedBy run)
    (hrequest : e.requestId? ≠ none) : ∃ id, (s.after run).sessionId = some id := by
  induction run generalizing s with
  | nil => cases he
  | cons x rest ih =>
    rcases List.mem_append.mp he with he | he
    · obtain ⟨id, hid⟩ := sessionId_of_request hs he hrequest
      exact ⟨id, sessionId_after hid rest⟩
    · exact ih (hs.step x) he

/-! ## The end -/

/-- What the driver of a session is told to do after a stimulus. -/
def signal (s : Session) : Stimulus → SessionSignal
  | .message envelope now => (s.handle envelope now).2
  | _ => .proceed

/-- The host is told of the end once it is over, and not again. -/
theorem Reachable.length_endings (hs : s.Reachable) :
    s.endings.length = if s.state = .closed then 1 else 0 := by
  induction hs with
  | start config host => rfl
  | @step s hs x ih =>
    cases s.turn_step x with
    | same hid hstate hendings => rw [hstate, hendings, ih]
    | greeted hx hopen hnone hid hstate hendings =>
      rw [hstate, hendings, ih, if_neg hopen]
      rfl
    | ended hx hopen hid hstate hendings =>
      rw [hstate, hendings, List.length_cons, ih, if_neg hopen]
      rfl

/-- The driver is told to reload by the stimulus that demands it, unless the session is over. -/
theorem signal_eq_reload : s.signal x = .reload ↔ s.state ≠ .closed ∧ x.ending? = some .reload := by
  cases x with
  | opening | action | frame | drain => simp [signal, Stimulus.ending?]
  | lost reason => simp [signal, Stimulus.ending?]
  | message envelope now =>
    unfold signal handle
    by_cases hclosed : s.state = .closed
    · simp [hclosed]
    · cases envelope with
      | hello id devMode =>
        cases s.sessionId <;> simp [hclosed, Stimulus.ending?]
      | rerun | refresh => simp [hclosed, Stimulus.ending?]

/-- What the host is told in a step comes before what it was told earlier. -/
theorem endings_step (hs : s.Reachable) (x : Stimulus) :
    (s.step x).endings = (s.newCalls x).filter HostCall.isEnding ++ s.endings := by
  rw [endings, (draws_step hs.messages_eq x).told, List.filter_append, endings]

/-- The host is asked for a reload when the server demands one, unless the session is over. -/
theorem reload_mem_newCalls (hs : s.Reachable) :
    .reload ∈ s.newCalls x ↔ s.state ≠ .closed ∧ x.ending? = some .reload := by
  have hmem : .reload ∈ s.newCalls x ↔ .reload ∈ (s.newCalls x).filter HostCall.isEnding := by
    simp [HostCall.isEnding]
  have hstep := endings_step hs x
  rw [hmem]
  cases s.turn_step x with
  | same hid hstate hendings hover =>
    rw [List.self_eq_append_left.mp (hendings.symm.trans hstep)]
    refine iff_of_false List.not_mem_nil fun ⟨hopen, hends⟩ => hopen (hover ?_)
    rw [hends]
    exact Option.some_ne_none _
  | greeted hx hopen hnone hid hstate hendings =>
    rw [List.self_eq_append_left.mp (hendings.symm.trans hstep)]
    refine iff_of_false List.not_mem_nil fun ⟨_, hends⟩ => ?_
    cases (Stimulus.greeting?_of_ending (by simp [hends])).symm.trans hx
  | @ended call hx hopen hid hstate hendings =>
    have hcalls : [call] ++ s.endings = (s.newCalls x).filter HostCall.isEnding ++ s.endings :=
      hendings.symm.trans hstep
    rw [← List.append_cancel_right hcalls, hx]
    simp [hopen, eq_comm]

/-! ## After the end -/

/-- The session with its screen at rest, without the development flag and what waits for the
server. -/
def atRest (s : Session) : Session :=
  { s with devMode := false, outbound := [], screen := s.screen.atRest }

theorem atRest_step (hclosed : s.state = .closed) (hx : x ≠ .opening) :
    (s.step x).atRest = s.atRest ∧ s.queued x = [] := by
  have hnot : s.state ≠ .opened := by simp [hclosed]
  cases s.way_step x with
  | opening => exact absurd rfl hx
  | drain => exact ⟨rfl, List.drop_nil⟩
  | disregarded hdisregards devMode heq => exact ⟨heq ▸ rfl, queued_eq_nil (heq ▸ rfl)⟩
  | action hopen => exact absurd hopen hnot
  | greeted hopen | answered hopen | reloaded hopen | lost hopen => exact absurd hclosed hopen
  | frame now =>
    have hstep : s.step (.frame now) = s.ticked now :=
      congrArg Prod.fst (animationFrame_of_not_open hnot now)
    refine ⟨?_, queued_eq_nil (hstep ▸ rfl)⟩
    have hscreen : (s.ticked now).screen.atRest = s.screen.atRest := by
      rw [← s.screen.atRest_tick now, ← Screen.atRest_settled (s.screen.tick now).1,
        Screen.groups_tick]
      rfl
    rw [hstep]
    exact congrArg (fun screen => { s with devMode := false, outbound := [], screen := screen })
      hscreen

/-- Nothing more comes of a session. -/
structure Over (s : Session) (later : List Stimulus) : Prop where
  queued_eq : s.queuedBy later = []
  requests_eq : (s.after later).requests = s.requests
  calls_eq : (s.after later).calls = s.calls
  /-- Widgets, groups and surface are as they were, but for the opacities of fragments, the phases of
  swaps and the marks of groups that wait. -/
  rest_eq : (s.after later).atRest = s.atRest

theorem over_of_closed (hclosed : s.state = .closed) (hlater : .opening ∉ later) :
    s.Over later := by
  suffices h : (s.after later).atRest = s.atRest ∧ s.queuedBy later = [] by
    obtain ⟨hrest, hqueued⟩ := h
    have hrequests := congrArg Session.requests hrest
    have hcalls := congrArg Session.calls hrest
    exact ⟨hqueued, hrequests, hcalls, hrest⟩
  induction later generalizing s with
  | nil => exact ⟨rfl, rfl⟩
  | cons x rest ih =>
    obtain ⟨hx, hrest⟩ := not_or.mp (mt List.mem_cons.mpr hlater)
    obtain ⟨hstep, hqueued⟩ := atRest_step hclosed (Ne.symm hx)
    have hstill : (s.step x).state = .closed := (congrArg Session.state hstep).trans hclosed
    obtain ⟨hafter, hnothing⟩ := ih hstill hrest
    refine ⟨hafter.trans hstep, ?_⟩
    rw [queuedBy, hqueued, hnothing]
    rfl

/-! ## All of a life -/

/-- The life of a session along a run. -/
structure Lifecycle (s : Session) (run : List Stimulus) : Prop where
  state_eq : (s.after run).state = stageOf run
  forward : ∀ earlier, earlier <+: run → (s.after earlier).state.rank ≤ (s.after run).state.rank
  sessionId_eq : (s.after run).sessionId = greetingOf run
  lasting : ∀ earlier id, earlier <+: run → (s.after earlier).sessionId = some id →
    (s.after run).sessionId = some id
  /-- No request is sent before the greeting. -/
  ungreeted : ∀ earlier, earlier <+: run → greetingOf earlier = none →
    ∀ e ∈ s.queuedBy earlier, e.requestId? = none
  /-- The host is told once at most that the session is over. -/
  ended : (s.after run).endings.length ≤ 1
  /-- The driver is told to start again exactly when the host is, and nothing is left to be sent. -/
  reload : ∀ x, ((s.after run).signal x = .reload ↔ .reload ∈ (s.after run).newCalls x) ∧
    ((s.after run).signal x = .reload → ((s.after run).step x).outbound = [])
  /-- Once it is over, it stays so. -/
  afterwards : ∀ earlier later, earlier ++ later = run → (s.after earlier).state = .closed →
    (s.after earlier).Over later

/-- A session that greets the server at its start, if at all, lives once. -/
theorem lifecycle (config : Config) (host : Host) (run : List Stimulus)
    (hrun : .opening ∉ run.tail) : (start config host).Lifecycle run := by
  have hstart : (start config host).Reachable := .start config host
  have hafter := hstart.after run
  obtain ⟨hid, hstate⟩ := Prod.mk.inj (standing_after config host run)
  refine ⟨hstate, ?_, hid, ?_, ?_, ?_, fun x => ⟨?_, ?_⟩, ?_⟩
  · rintro earlier ⟨later, rfl⟩
    rw [after_append]
    apply rank_after
  · rintro earlier id ⟨later, rfl⟩ hsome
    rw [after_append]
    exact sessionId_after hsome later
  · intro earlier _ hnone e he
    by_contra hrequest
    obtain ⟨id, hsome⟩ := sessionId_of_requestBy hstart he hrequest
    have hgreeting := congrArg Prod.fst (standing_after config host earlier)
    cases (hnone.symm.trans hgreeting.symm).trans hsome
  · rw [hafter.length_endings]
    split <;> omega
  · rw [signal_eq_reload, reload_mem_newCalls hafter]
  · intro hreload
    obtain ⟨hopen, hx⟩ := signal_eq_reload.mp hreload
    obtain ⟨devMode, now, rfl⟩ := Stimulus.eq_refresh hx
    rw [step_refresh hopen]
    rfl
  · rintro earlier later rfl hclosed
    apply over_of_closed hclosed
    intro hopening
    apply hrun
    cases earlier with
    | nil => cases hclosed
    | cons y rest => exact List.mem_append_right rest hopening

/-- A session is greeted twice, shows a page and is to be reloaded; the rest comes too late. -/
def reloaded : List Stimulus :=
  [.opening, .message (.hello "first" none) 0, .message (.hello "second" none) 1,
    .message (.rerun ⟨none, some (.page []), none, none⟩) 2, .message (.refresh none) 3,
    .message (.hello "third" none) 4, .frame 5, .lost "gone"]

/-- The session is with whoever greeted it first, and is over after the demand for a reload. -/
theorem lifecycle_reloaded :
    .opening ∉ reloaded.tail ∧
      ((start .default .minimal).after reloaded).sessionId = some "first" ∧
      ((start .default .minimal).after reloaded).endings.length ≤ 1 ∧
      ((start .default .minimal).after (reloaded.take 5)).state = .closed ∧
      ((start .default .minimal).after (reloaded.take 5)).Over (reloaded.drop 5) := by
  have hrun : .opening ∉ reloaded.tail := by simp [reloaded]
  have hlife := lifecycle .default .minimal reloaded hrun
  have hclosed : ((start .default .minimal).after (reloaded.take 5)).state = .closed := by
    decide +kernel
  have hgreeting : greetingOf reloaded = some "first" := by decide +kernel
  exact ⟨hrun, hlife.sessionId_eq.trans hgreeting, hlife.ended, hclosed,
    hlife.afterwards _ _ (List.take_append_drop 5 reloaded) hclosed⟩

end Session

end RemoteUi
