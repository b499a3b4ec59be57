/-
# RemoteUi.Proofs.Session.Unasked — answers that nobody asked for.

An answer to a request that was never made has a number above all that were given out.  It is not
the awaited one, and is taken for an answer to an earlier request: nothing is shown, but it is
cached, and from then on all that is below its number counts as seen.

* What such an answer comes to is `Dismisses`: the screen, the ids and all that is sent stay as they
  are, and it is remembered unless as high a number was seen before (`dismisses_step`).
* So the first such answer always leaves a trace: what was seen is within what was asked before it,
  and is not after it (`not_covers_of_unasked`).
* Nothing else ever brings what is seen beyond the latest request (`bounded_step`): an answer that
  is shown is to the latest one, and any other is to an earlier one.

On the runs without such answers, and on no others, the memory of a session is what the answers to
its own requests make it (`unswayed_iff_solicited`).  For this a run is compared with the same run
without them (`solicitedBy`), step by step, and what is compared is the memory.

At the end two requests are answered by a ninety-ninth and then by the first.
-/
import Mathlib.Data.List.Induction
import RemoteUi.Proofs.Session.Replay

namespace RemoteUi

/-- No number as high as this has been given out. -/
def Requests.beyond (r : Requests) (id : Nat) : Bool :=
  r.latest.all fun issued => issued < id

/-- Numbers are given out upwards, so that one above the latest is above all of them. -/
theorem Requests.Counting.beyond_iff {r : Requests} (hr : r.Counting) {id : Nat} :
    r.beyond id = true ↔ ∀ issued, r.Issued issued → issued < id := by
  have hpos := hr.pos
  have hlatest := hr.latest_eq
  unfold beyond Issued
  rw [hlatest]
  split
  · simp
    omega
  · rw [Option.all_some, decide_eq_true_iff]
    constructor
    · intro hid issued hissued
      omega
    · intro h
      exact h _ ⟨by omega, by omega⟩

/-- Nothing has been seen that is beyond the latest request. -/
def Requests.Covers (r : Requests) (seen : Option Nat) : Prop :=
  ∀ id, seen = some id → ∃ latest, r.latest = some latest ∧ id ≤ latest

namespace Session

variable {s t : Session} {x : Stimulus} {response : Response} {id now : Nat}

/-- A successful answer arrives that is to a request beyond all that were made. -/
def unasked (s : Session) (x : Stimulus) : Bool :=
  match s.heard x with
  | some (response, _) => response.error.isNone && response.requestId.any s.requests.beyond
  | none => false

/-- The run without such answers. -/
def solicitedBy (s : Session) : List Stimulus → List Stimulus
  | [] => []
  | x :: rest =>
    if s.unasked x then (s.step x).solicitedBy rest else x :: (s.step x).solicitedBy rest

/-- No such answer arrives in the run. -/
def Solicited (s : Session) (run : List Stimulus) : Prop :=
  ∀ earlier x, earlier ++ [x] <+: run → (s.after earlier).unasked x = false

/-- Answers that nobody asked for are as good as absent, all along the run. -/
structure Unswayed (s : Session) (run : List Stimulus) : Prop where
  /-- They change neither what is shown nor what is remembered. -/
  inert : ∀ earlier x, earlier ++ [x] <+: run → (s.after earlier).unasked x = true →
    (s.after (earlier ++ [x])).screen.surface = (s.after earlier).screen.surface ∧
      (s.after (earlier ++ [x])).recovery = (s.after earlier).recovery
  /-- What was seen never exceeds the latest request. -/
  bounded : ∀ earlier, earlier <+: run →
    (s.after earlier).requests.Covers (s.after earlier).recovery.newestSeen
  /-- Later answers are cached or dropped as they would be without them. -/
  as_absent : ∀ earlier, earlier <+: run →
    (s.after earlier).recovery = (s.after (s.solicitedBy earlier)).recovery

/-- All that such an answer comes to: it is remembered, unless as high a number was seen before, and
nothing else changes. -/
structure Dismisses (s : Session) (response : Response) (id : Nat) (t : Session) : Prop where
  screen_eq : t.screen = s.screen
  requests_eq : t.requests = s.requests
  outbound_eq : t.outbound = s.outbound
  calls_eq : t.calls = s.calls
  recovery_eq_iff : t.recovery = s.recovery ↔
    s.state = .closed ∨ ∃ seen, s.recovery.newestSeen = some seen ∧ id ≤ seen
  cached : t.recovery ≠ s.recovery → t.recovery = ⟨some response, some id⟩

/-! ## Steps -/

theorem unasked_iff : s.unasked x = true ↔ ∃ response now id, s.heard x = some (response, now) ∧
    response.error = none ∧ response.requestId = some id ∧ s.requests.beyond id = true := by
  unfold unasked
  cases hheard : s.heard x with
  | none => simp
  | some heard =>
    obtain ⟨response, now⟩ := heard
    simp only [Bool.and_eq_true, Option.isNone_iff_eq_none, Option.any_eq_true]
    constructor
    · rintro ⟨herror, id, hid, hbeyond⟩
      exact ⟨response, now, id, rfl, herror, hid, hbeyond⟩
    · rintro ⟨response', now', id, heq, herror, hid, hbeyond⟩
      cases heq
      exact ⟨herror, id, hid, hbeyond⟩

/-- It is taken for an answer to an earlier request. -/
theorem classify_of_beyond {r : Requests} (herror : response.error = none)
    (hid : response.requestId = some id) (hbeyond : r.beyond id = true) :
    r.classify response = .superseded id := by
  have hother : r.accepts id = false := by
    unfold Requests.beyond at hbeyond
    unfold Requests.accepts
    cases hlatest : r.latest with
    | none => rfl
    | some latest =>
      rw [hlatest, Option.all_some, decide_eq_true_iff] at hbeyond
      simp
      omega
  unfold Requests.classify
  rw [herror, hid]
  simp [hother]

/-- What has as high a number as was seen before is no news. -/
theorem isNews_eq_false_iff {r : Recovery} (hid : response.requestId = some id) :
    r.isNews response = false ↔ ∃ seen, r.newestSeen = some seen ∧ id ≤ seen := by
  unfold Recovery.isNews
  rw [hid]
  cases r.newestSeen with
  | none => simp
  | some seen => simp

/-- What is new is stored under its number. -/
theorem store_of_isNews {r : Recovery} (hid : response.requestId = some id)
    (hnews : r.isNews response = true) : r.store response = ⟨some response, some id⟩ := by
  unfold Recovery.isNews at hnews
  unfold Recovery.store
  rw [hid] at hnews ⊢
  cases hseen : r.newestSeen with
  | none => rfl
  | some seen =>
    rw [hseen] at hnews
    have hlt : seen < id := of_decide_eq_true hnews
    show Recovery.mk _ (some (max seen id)) = _
    rw [Nat.max_eq_right (Nat.le_of_lt hlt)]

/-- It shows and sends nothing, whatever the state of the session. -/
theorem dismisses_step (herror : response.error = none) (hid : response.requestId = some id)
    (hbeyond : s.requests.beyond id = true) (now : Nat) :
    s.Dismisses response id (s.step (.message (.rerun response) now)) := by
  by_cases hclosed : s.state = .closed
  · rw [step_message_of_closed hclosed]
    exact ⟨rfl, rfl, rfl, rfl, by simp [hclosed], fun hne => absurd rfl hne⟩
  have hstep : s.step (.message (.rerun response) now) = { s with
      devMode := response.devMode.getD false
      recovery := (s.recovery.recordSuperseded response).1 } := by
    rw [step_rerun hclosed]
    unfold handleResponse
    dsimp only
    rw [classify_of_beyond herror hid hbeyond]
  rw [hstep]
  refine ⟨rfl, rfl, rfl, rfl, ?_, ?_⟩
  · show (s.recovery.recordSuperseded response).1 = s.recovery ↔ _
    rw [or_iff_right hclosed, ← isNews_eq_false_iff hid]
    unfold Recovery.recordSuperseded
    cases hnews : s.recovery.isNews response with
    | false => simp
    | true =>
      -- it raises what was seen, so that the memory cannot be the same
      simp only [if_true, reduceCtorEq, iff_false]
      intro heq
      rw [store_of_isNews hid hnews] at heq
      have hseen : s.recovery.newestSeen = some id := by rw [← heq]
      have hold := (isNews_eq_false_iff hid).mpr ⟨id, hseen, Nat.le_refl id⟩
      rw [hnews] at hold
      cases hold
  · show (s.recovery.recordSuperseded response).1 ≠ s.recovery → _
    unfold Recovery.recordSuperseded
    cases hnews : s.recovery.isNews response with
    | false => exact fun hne => absurd rfl hne
    | true => exact fun _ => store_of_isNews hid hnews

/-- What was seen is within what was asked before such an answer, and is not after it. -/
theorem not_covers_of_unasked (hs : s.requests.Covers s.recovery.newestSeen)
    (hx : s.unasked x = true) :
    ¬ (s.step x).requests.Covers (s.step x).recovery.newestSeen := by
  obtain ⟨response, now, id, hheard, herror, hid, hbeyond⟩ := unasked_iff.mp hx
  obtain rfl := eq_of_heard hheard
  have hdismisses := dismisses_step herror hid hbeyond now
  have hopen : s.state ≠ .closed := by
    intro hclosed
    rw [heard, if_pos hclosed] at hheard
    cases hheard
  have habove : ∀ latest, s.requests.latest = some latest → latest < id := by
    intro latest hlatest
    unfold Requests.beyond at hbeyond
    rw [hlatest] at hbeyond
    exact of_decide_eq_true hbeyond
  -- it is news, as its number is above all that were seen
  have hnew : (s.step (.message (.rerun response) now)).recovery ≠ s.recovery := by
    rw [ne_eq, hdismisses.recovery_eq_iff]
    rintro (hclosed | ⟨seen, hseen, hle⟩)
    · exact hopen hclosed
    · obtain ⟨latest, hlatest, hseen⟩ := hs seen hseen
      have hlt := habove latest hlatest
      omega
  rw [hdismisses.requests_eq, hdismisses.cached hnew]
  intro hcovers
  obtain ⟨latest, hlatest, hle⟩ := hcovers id rfl
  have hlt := habove latest hlatest
  omega

/-! ## What is seen of answers that were asked for -/

/-- As ids are given out, what was asked for only grows. -/
theorem covers_later {r r' : Requests} {seen : Option Nat} (h : r.Covers seen) (hr : r.Counting)
    (hlater : r.Later r') : r'.Covers seen := by
  induction hlater with
  | refl => exact h
  | @issue r' hlater ih =>
    intro id hid
    obtain ⟨latest, hlatest, hle⟩ := ih id hid
    have hnext := (hlater.counting hr).lt_of_latest hlatest
    exact ⟨r'.next, rfl, by omega⟩

/-- An answer that is not beyond the latest request may be stored. -/
theorem covers_bump {r : Requests} {seen number : Option Nat} (h : r.Covers seen)
    (hnumber : ∀ id, number = some id → r.beyond id = false) :
    r.Covers (Recovery.bump seen number) := by
  cases number with
  | none => exact h
  | some id =>
    have hid := hnumber id rfl
    unfold Requests.beyond at hid
    cases hlatest : r.latest with
    | none =>
      rw [hlatest] at hid
      cases hid
    | some latest =>
      rw [hlatest, Option.all_some, decide_eq_false_iff_not] at hid
      intro id' hid'
      refine ⟨latest, hlatest, ?_⟩
      cases hseen : seen with
      | none =>
        rw [hseen] at hid'
        cases hid'
        omega
      | some before =>
        obtain ⟨latest', hlatest', hle⟩ := h before hseen
        obtain rfl := Option.some.inj (hlatest.symm.trans hlatest')
        rw [hseen] at hid'
        cases hid'
        show max before id ≤ latest
        omega

/-- What is shown at once was asked for. -/
theorem classify_asked {r : Requests} (hkind : r.classify response = .apply) :
    ∀ id, response.requestId = some id → r.beyond id = false := by
  intro id hid
  unfold Requests.beyond
  rw [Requests.classify_apply hkind hid]
  simp

theorem beyond_eq_false_of_not_unasked {response : Response} {now id : Nat}
    (hheard : s.heard x = some (response, now)) (hx : s.unasked x = false)
    (hkind : s.requests.classify response = .superseded id) : s.requests.beyond id = false := by
  have hid := Requests.classify_superseded hkind
  have herror : response.error = none := by
    cases herror : response.error with
    | none => rfl
    | some e =>
      unfold Requests.classify at hkind
      rw [herror] at hkind
      dsimp only at hkind
      split at hkind <;> cases hkind
  unfold unasked at hx
  rw [hheard] at hx
  simpa [herror, hid] using hx

/-- Nothing but an answer that nobody asked for brings what was seen beyond the latest request. -/
theorem bounded_step (hs : s.requests.Counting) (hcovers : s.requests.Covers s.recovery.newestSeen)
    (hx : s.unasked x = false) :
    (s.step x).requests.Covers (s.step x).recovery.newestSeen := by
  cases hheard : s.heard x with
  | none =>
    have hquiet := quiet_step hheard
    rw [hquiet.recovery]
    exact covers_later hcovers hs hquiet.requests
  | some heard =>
    obtain ⟨response, now⟩ := heard
    have hhandled := handling_step hheard
    rw [hhandled.requests_eq]
    show s.requests.Covers _
    generalize s.step x = t at hhandled ⊢
    generalize s.shown x = shown at hhandled
    -- what is seen is raised by an answer that is shown or stored, and by nothing else
    cases hhandled with
    | shown hkind hrender =>
      rw [hrender.recovery_eq]
      exact covers_bump hcovers (classify_asked hkind)
    | missed hkind hrender =>
      rw [hrender.recovery_eq]
      exact hcovers
    | @superseded id hkind =>
      show s.requests.Covers (s.recovery.recordSuperseded response).1.newestSeen
      unfold Recovery.recordSuperseded
      split
      · refine covers_bump hcovers ?_
        intro id' hid'
        obtain rfl := Option.some.inj ((Requests.classify_superseded hkind).symm.trans hid')
        exact beyond_eq_false_of_not_unasked hheard hx hkind
      · exact hcovers
    | replayed hkind hcached hrender | lapsed hkind hcached hrender =>
      rw [push, hrender.recovery_eq]
      exact hcovers
    | acknowledged | failed => exact hcovers

/-! ## Runs -/

/-- Without such answers what was seen stays within what was asked. -/
theorem Solicited.bounded (hs : s.Reachable) (hcovers : s.requests.Covers s.recovery.newestSeen)
    {run : List Stimulus} (h : s.Solicited run) {earlier : List Stimulus} (hrun : earlier <+: run) :
    (s.after earlier).requests.Covers (s.after earlier).recovery.newestSeen := by
  induction earlier using List.reverseRecOn with
  | nil => exact hcovers
  | append_singleton earlier x ih =>
    rw [after_concat]
    apply bounded_step (hs.after earlier).counting
    · exact ih ((List.prefix_append _ _).trans hrun)
    · exact h earlier x hrun

/-- Where there is nothing to leave out, nothing is left out. -/
theorem solicitedBy_eq_self {run : List Stimulus} (h : s.Solicited run) : s.solicitedBy run = run := by
  induction run generalizing s with
  | nil => rfl
  | cons x rest ih =>
    have hx : s.unasked x = false := h [] x (List.prefix_iff_eq_append.mpr rfl)
    have hrest : (s.step x).Solicited rest := by
      intro earlier y hrun
      exact h (x :: earlier) y (List.cons_prefix_cons.mpr ⟨rfl, hrun⟩)
    rw [solicitedBy, hx, ih hrest]
    rfl

theorem Solicited.unswayed (hs : s.Reachable) (hcovers : s.requests.Covers s.recovery.newestSeen)
    {run : List Stimulus} (h : s.Solicited run) : s.Unswayed run where
  inert := by
    intro earlier x hrun hx
    rw [h earlier x hrun] at hx
    cases hx
  bounded := by
    intro earlier hrun
    exact h.bounded hs hcovers hrun
  as_absent := by
    intro earlier hrun
    have hearlier : s.Solicited earlier := by
      intro before x hbefore
      exact h before x (hbefore.trans hrun)
    rw [solicitedBy_eq_self hearlier]

/-- The first such answer would have raised what was seen above what was asked. -/
theorem Unswayed.solicited {run : List Stimulus} (h : s.Unswayed run) : s.Solicited run := by
  intro earlier x hrun
  by_contra hx
  have hbefore := h.bounded earlier ((List.prefix_append _ _).trans hrun)
  have hafter := h.bounded (earlier ++ [x]) hrun
  rw [after_concat] at hafter
  exact not_covers_of_unasked hbefore (Bool.not_eq_false _ ▸ hx) hafter

/-- Wherever a run has led, a successful answer to a request beyond all that were made shows and
sends nothing, and is remembered unless as high a number was seen before.  So the memory is that of
the session's own requests on exactly those runs on which no such answer arrives. -/
theorem unswayed_iff_solicited (config : Config) (host : Host) (run : List Stimulus) :
    (∀ response id now, response.error = none → response.requestId = some id →
      (∀ issued, ((start config host).after run).requests.Issued issued → issued < id) →
      ((start config host).after run).Dismisses response id
        ((start config host).after (run ++ [.message (.rerun response) now]))) ∧
    ((start config host).Unswayed run ↔ (start config host).Solicited run) := by
  have hstart : (start config host).Reachable := .start config host
  constructor
  · intro response id now herror hid habove
    have hbeyond := (hstart.after run).counting.beyond_iff.mpr habove
    rw [after_concat]
    exact dismisses_step herror hid hbeyond now
  · exact ⟨Unswayed.solicited, fun h => h.unswayed hstart nofun⟩

/-! ## Two requests, and an answer to a ninety-ninth -/

/-- An answer to a request that was not made. -/
def strayAnswer : Stimulus := .message (.rerun ⟨some 99, some (.page []), none, none⟩) 1

/-- The answer to the first of the two requests, which comes late. -/
def lateAnswer : Stimulus := .message (.rerun ⟨some 1, some (.page []), none, none⟩) 2

/-- The late answer would be cached.  After an answer to a request that was not made it is dropped,
and it is that answer which is shown again when a request is rejected.  Before the handshake it is
no different. -/
theorem stray_answer_displaces :
    asking.unasked strayAnswer = true ∧
      (asking.step lateAnswer).recovery.lastValid.bind Response.requestId = some 1 ∧
      ((asking.step strayAnswer).step lateAnswer).recovery.lastValid.bind Response.requestId =
        some 99 ∧
      ((asking.step strayAnswer).step lateAnswer).recovery.newestSeen = some 99 ∧
      ((asking.step strayAnswer).step lateAnswer).requests.latest = some 2 ∧
      ((start .default .minimal).step strayAnswer).recovery.newestSeen = some 99 ∧
      ¬ (start .default .minimal).Unswayed (twoRequests ++ [strayAnswer]) := by
  have hstray : asking.unasked strayAnswer = true := by decide +kernel
  refine ⟨hstray, by decide +kernel, by decide +kernel, by decide +kernel, by decide +kernel,
    by decide +kernel, ?_⟩
  intro h
  have hsolicited := h.solicited twoRequests strayAnswer (List.prefix_refl _)
  rw [← asking, hstray] at hsolicited
  cases hsolicited

end Session

end RemoteUi
