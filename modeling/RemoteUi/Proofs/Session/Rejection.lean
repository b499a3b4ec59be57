/-
# RemoteUi.Proofs.Session.Rejection — what comes of a rejected request.

A request that is rejected for diverged state has the cached answer taken out and shown the way a
current answer is, and is acknowledged after that, whether or not there was anything to show.
`Session.Recovers` says all that comes of one such message, by equations, and `recovers_step` that
this is what comes of it.  What "the way a current answer is" means is said by comparison: any
answer with the same tree, if it is heeded, would have led to the same screen and to the same calls
of the host.

The cache holds one answer, so along a run it is a ledger:

* `Booking` lists what one step may do: put an answer in, take out what there is, or neither.  Only
  a rejection takes anything out (`booking_step`).
* As long as nothing is put in, at most one answer is taken out (`ledger_of_unstored`).  This is by
  induction over the run, with what is left in the cache counted as well.
* Whatever is taken out was put in last and has not been taken out since (`cachedAlong_of_held`).
  Here the induction is from the end of the run, because the last answer that was put in is wanted.

`reconciles_run` puts them together for any run from the start.  That nothing but a rejection is
acknowledged needs a look at every other stimulus (`queued_of_idle`).
-/
import Mathlib.Data.List.Induction
import RemoteUi.Proofs.Session.Silence
import RemoteUi.Proofs.Session.Stale

namespace RemoteUi

namespace Session

variable {s t : Session} {x : Stimulus} {response cached : Response} {now : Nat}

/-- A rejection for diverged state arrives, and the session pays attention to it. -/
def Rejected (s : Session) (x : Stimulus) : Prop :=
  s.state ≠ .closed ∧ x.IsInvalidState

/-- A rejection is an answer that is heard and classified as one. -/
theorem rejected_iff : s.Rejected x ↔ ∃ response now, s.heard x = some (response, now) ∧
    s.requests.classify response = .invalidState := by
  constructor
  · rintro ⟨hopen, hx⟩
    cases x with
    | opening | action | frame | drain | lost => cases hx
    | message envelope now =>
      cases envelope with
      | hello | refresh => cases hx
      | rerun response =>
        exact ⟨response, now, heard_rerun hopen response now,
          Requests.classify_eq_invalidState.mpr hx⟩
  · rintro ⟨response, now, hheard, hkind⟩
    obtain rfl := eq_of_heard hheard
    refine ⟨fun hclosed => ?_, Requests.classify_eq_invalidState.mp hkind⟩
    cases (if_pos hclosed).symm.trans hheard

/-! ## Acknowledgements -/

/-- What the user does makes for a request at the next frame, and is not followed by any message
before. -/
theorem queued_action (hs : s.messages = []) (a : Action) : s.queued (.action a) = [] := by
  apply queued_eq_nil
  by_cases hopen : s.state = .opened
  · have hacting := acting_interact hopen a.id a.input
    -- whatever comes of an input, no message is put in the queue before a frame
    show (s.interact a.id a.input).session.outbound = s.outbound
    generalize s.interact a.id a.input = i at hacting
    generalize a.input = input at hacting
    cases hacting with
    | refused | toggled | chosen | focused | blurred | idle => rfl
    | delivered hinput hdelivered => exact (gathers_deliver hs hdelivered).outbound_eq
  · rw [step_action_of_not_open hopen]

/-- Where no request is due and none is rejected, a session says nothing but its greeting. -/
theorem queued_of_idle (hs : s.messages = []) (hasks : s.asks x = none) (hx : ¬ s.Rejected x)
    (hgreeting : x ≠ .opening) : s.queued x = [] := by
  cases s.way_step x with
  | opening => exact absurd rfl hgreeting
  | action hopen => exact queued_action hs _
  | greeted hopen hid => cases (asks_hello hopen hid _ _ _).symm.trans hasks
  | drain => exact List.drop_nil
  | lost hopen heq | disregarded hdisregards devMode heq => exact queued_eq_nil (heq ▸ rfl)
  | reloaded hopen heq =>
    rw [queued, heq]
    exact List.drop_nil
  | @answered response now hopen =>
    have houtbound := (handling_step (heard_rerun hopen response now)).outbound_eq
    have hvalid : (ServerEnvelope.rerun response).kind ≠ .invalidState := fun hinvalid =>
      hx ⟨hopen, hinvalid⟩
    rw [if_neg hvalid] at houtbound
    exact queued_eq houtbound
  | frame now =>
    apply queued_eq_nil
    show (s.animationFrame now).1.outbound = s.outbound
    by_cases hopen : s.state = .opened
    · rw [animationFrame_of_open hopen, flush_of_not_asks hopen hasks]
      rfl
    · rw [animationFrame_of_not_open hopen]
      rfl

/-- Nothing but a rejection is acknowledged. -/
theorem acknowledge_notMem_queued (hs : s.messages = []) (hx : ¬ s.Rejected x) :
    .acknowledge ∉ s.queued x := by
  cases hasks : s.asks x with
  | some due =>
    rw [queued_asks hasks]
    split <;> simp [Requests.prepare]
  | none =>
    by_cases hgreeting : x = .opening
    · subst hgreeting
      have hqueued : s.queued .opening = [.hello s.config.location] := queued_eq rfl
      simp [hqueued]
    · rw [queued_of_idle hs hasks hx hgreeting]
      exact List.not_mem_nil

/-! ## Showing what is cached -/

/-- The session once the cached answer was taken out, and shown if there is one. -/
def recovered (s : Session) (response : Response) (now : Nat) : Session :=
  let emptied := s.withMemory s.recovery.take.1 (response.devMode.getD false)
  match s.recovery.lastValid with
  | some cached => (emptied.render cached now).1
  | none => emptied

/-- With an answer in the cache, its tree is rendered. -/
theorem recovered_of_cached (h : s.recovery.lastValid = some cached) (response : Response)
    (now : Nat) : s.recovered response now =
      (s.render cached now).1.withMemory s.recovery.take.1 (response.devMode.getD false) := by
  unfold recovered
  rw [h]
  exact congrArg Prod.fst (s.render_withMemory _ _ cached now)

/-- With an empty cache, only the development flag is noted. -/
theorem recovered_of_empty (h : s.recovery.lastValid = none) (response : Response) (now : Nat) :
    s.recovered response now = { s with devMode := response.devMode.getD false } := by
  have htake : s.recovery.take.1 = s.recovery := by rw [Recovery.take, ← h]
  unfold recovered
  rw [h, htake]
  rfl

/-- A rejection shows what is cached and puts an acknowledgement in the queue. -/
theorem step_rejected (h : s.Rejected (.message (.rerun response) now)) :
    s.step (.message (.rerun response) now) = (s.recovered response now).push .acknowledge := by
  have hkind := Requests.classify_eq_invalidState (r := s.requests).mpr h.2
  rw [step_rerun h.1]
  unfold handleResponse
  dsimp only
  rw [hkind]
  unfold recovered
  cases hcached : s.recovery.lastValid <;> simp [Recovery.take, hcached, withMemory]

/-- What is shown of an answer is its tree. -/
theorem render_congr {other : Response} (h : other.root = response.root) (now : Nat) :
    s.render other now = s.render response now := by
  unfold render
  rw [h]

/-- What is heeded is classified as current. -/
theorem classify_of_heeds (h : s.heeds (.message (.rerun response) now) = true) :
    s.requests.classify response = .apply := by
  have h : (response.error.isNone && response.requestId.all s.requests.accepts) = true := h
  obtain ⟨herror, hid⟩ := Bool.and_eq_true_iff.mp h
  unfold Requests.classify
  rw [Option.isNone_iff_eq_none.mp herror]
  cases hnumber : response.requestId with
  | none => rfl
  | some id =>
    rw [hnumber] at hid
    exact if_pos hid

/-- What is heeded is shown, and is cached if there was something to show. -/
theorem step_heeded (hopen : s.state ≠ .closed)
    (h : s.heeds (.message (.rerun response) now) = true) : ∃ recovery,
    s.step (.message (.rerun response) now) =
      (s.render response now).1.withMemory recovery (response.devMode.getD false) := by
  have hrender : render { s with devMode := response.devMode.getD false } response now =
      ((s.render response now).1.withMemory s.recovery (response.devMode.getD false),
        (s.render response now).2) := s.render_withMemory s.recovery _ response now
  rw [step_rerun hopen]
  unfold handleResponse
  dsimp only
  rw [classify_of_heeds h, hrender]
  dsimp only
  split <;> exact ⟨_, rfl⟩

/-- An answer is shown when it is heeded, or when it is cached and a request is rejected, as long as
there is something to show. -/
theorem shown_of_offered {offer : Response} (hheard : s.heard x = some (response, now))
    (hoffer : s.offered response = some offer) :
    s.shown x = if (s.render offer now).2 then some offer else none := by
  rw [shown, hheard, Option.bind_some, displayed, hoffer]
  exact Option.filter_some

/-- What comes of a rejection. -/
structure Recovers (s : Session) (response : Response) (now : Nat) : Prop where
  /-- What is cached is shown first, and the acknowledgement is put at the end of what waits after
  that. -/
  step_eq : s.step (.message (.rerun response) now) =
    { s.recovered response now with outbound := s.outbound ++ [.acknowledge] }
  /-- It is all that is said. -/
  queued_eq : s.queued (.message (.rerun response) now) = [.acknowledge]
  outbound_eq : (s.recovered response now).outbound = s.outbound
  requests_eq : (s.recovered response now).requests = s.requests
  /-- What is shown is not cached again. -/
  recovery_eq : (s.recovered response now).recovery = s.recovery.take.1
  /-- It is shown the way an answer with this tree would be that is heeded. -/
  replay : ∀ cached, s.recovery.lastValid = some cached →
    ∀ current, current.root = cached.root → s.heeds (.message (.rerun current) now) = true →
    (s.recovered response now).screen = (s.step (.message (.rerun current) now)).screen ∧
      (s.recovered response now).calls = (s.step (.message (.rerun current) now)).calls ∧
      (s.shown (.message (.rerun response) now)).isSome =
        (s.shown (.message (.rerun current) now)).isSome
  /-- With nothing cached there is nothing to show. -/
  idle : s.recovery.lastValid = none →
    s.recovered response now = { s with devMode := response.devMode.getD false } ∧
      s.shown (.message (.rerun response) now) = none

/-- What comes of a rejection is this. -/
theorem recovers_step (h : s.Rejected (.message (.rerun response) now)) :
    s.Recovers response now := by
  have hkind := Requests.classify_eq_invalidState (r := s.requests).mpr h.2
  have hheard := heard_rerun h.1 response now
  have hoffer : s.offered response = s.recovery.lastValid := by rw [offered, hkind]
  have hkeeps : (s.recovered response now).outbound = s.outbound ∧
      (s.recovered response now).requests = s.requests ∧
      (s.recovered response now).recovery = s.recovery.take.1 := by
    cases hcached : s.recovery.lastValid with
    | none =>
      rw [recovered_of_empty hcached, Recovery.take, ← hcached]
      exact ⟨rfl, rfl, rfl⟩
    | some cached =>
      have hrender := s.rendering_render cached now
      rw [recovered_of_cached hcached]
      exact ⟨hrender.outbound_eq, hrender.requests_eq, rfl⟩
  have hstep : s.step (.message (.rerun response) now) =
      { s.recovered response now with outbound := s.outbound ++ [.acknowledge] } := by
    rw [step_rejected h, push, hkeeps.1]
  have hqueued : s.queued (.message (.rerun response) now) = [.acknowledge] :=
    queued_eq (congrArg outbound hstep)
  refine ⟨hstep, hqueued, hkeeps.1, hkeeps.2.1, hkeeps.2.2, ?_, fun hempty => ?_⟩
  · intro cached hcached current hroot hheeds
    obtain ⟨recovery, hstep⟩ := step_heeded h.1 hheeds
    have hcurrent : s.offered current = some current := by rw [offered, classify_of_heeds hheeds]
    rw [hstep, recovered_of_cached hcached, render_congr hroot,
      shown_of_offered hheard (hoffer.trans hcached),
      shown_of_offered (heard_rerun h.1 current now) hcurrent, render_congr hroot]
    refine ⟨rfl, rfl, ?_⟩
    split <;> rfl
  · refine ⟨recovered_of_empty hempty response now, ?_⟩
    rw [shown, hheard, Option.bind_some, displayed, hoffer, hempty]
    rfl

/-! ## The ledger of the cache -/

/-- The answer that a step puts into the cache: one that is heeded and shown, or one to an earlier
request that is not older than what was seen. -/
def stored (s : Session) (x : Stimulus) : Option Response :=
  (s.heard x).bind fun a =>
    match s.requests.classify a.1 with
    | .apply => s.shown x
    | .superseded _ => if s.recovery.isNews a.1 then some a.1 else none
    | _ => none

/-- The answer that a step takes out of the cache, to show it again. -/
def replayed (s : Session) (x : Stimulus) : Option Response :=
  (s.heard x).bind fun a =>
    match s.requests.classify a.1 with
    | .invalidState => s.recovery.lastValid
    | _ => none

/-- What the steps of a run yield, in order. -/
def along {α : Type} (yield : Session → Stimulus → Option α) (s : Session) :
    List Stimulus → List α
  | [] => []
  | x :: rest => (yield s x).toList ++ (s.step x).along yield rest

/-- What a run yields is yielded by its parts in turn. -/
theorem along_append {α : Type} (yield : Session → Stimulus → Option α) (s : Session)
    (run rest : List Stimulus) :
    s.along yield (run ++ rest) = s.along yield run ++ (s.after run).along yield rest := by
  induction run generalizing s with
  | nil => rfl
  | cons x run ih =>
    show (yield s x).toList ++ (s.step x).along yield (run ++ rest) = _
    rw [ih, ← List.append_assoc]
    rfl

/-- What a step does with the cache: what it puts in, what it takes out, and what is left. -/
inductive Booking (s : Session) (x : Stimulus) : Option Response → Option Response → Recovery → Prop
  | kept (hx : ¬ s.Rejected x) : Booking s x none none s.recovery
  | stored (hx : ¬ s.Rejected x) (response : Response) :
      Booking s x (some response) none (s.recovery.store response)
  | taken (hx : s.Rejected x) : Booking s x none s.recovery.lastValid s.recovery.take.1

/-- A rejection empties the cache. -/
theorem recovery_rejected (hx : s.Rejected x) : (s.step x).recovery = s.recovery.take.1 := by
  obtain ⟨response, now, hheard, -⟩ := rejected_iff.mp hx
  obtain rfl := eq_of_heard hheard
  have hrecovers := recovers_step hx
  rw [hrecovers.step_eq]
  exact hrecovers.recovery_eq

/-- A rejection takes out what there is. -/
theorem booking_rejected (hx : s.Rejected x) :
    s.Booking x (s.stored x) (s.replayed x) (s.step x).recovery := by
  obtain ⟨response, now, hheard, hkind⟩ := rejected_iff.mp hx
  simp only [stored, replayed, hheard, Option.bind_some, hkind, recovery_rejected hx]
  exact .taken hx

/-- Any other answer takes nothing out. -/
theorem booking_heard (hheard : s.heard x = some (response, now)) (hx : ¬ s.Rejected x) :
    s.Booking x (s.stored x) (s.replayed x) (s.step x).recovery := by
  have hhandled := handling_step hheard
  -- a rejection was excluded, which leaves what is shown and what is put aside
  have hvalid : s.requests.classify response ≠ .invalidState := fun hkind =>
    hx (rejected_iff.mpr ⟨response, now, hheard, hkind⟩)
  simp only [stored, replayed, hheard, Option.bind_some]
  generalize s.step x = t at hhandled ⊢
  generalize s.shown x = shown at hhandled ⊢
  cases hhandled with
  | replayed hkind | lapsed hkind | acknowledged hkind => exact absurd hkind hvalid
  | @shown u hkind hrender =>
    have hkind : s.requests.classify response = .apply := hkind
    have hrecovery : u.recovery = s.recovery := hrender.recovery_eq
    simp only [hkind, Recovery.recordApplied, hrecovery]
    exact .stored hx response
  | missed hkind hrender =>
    have hkind : s.requests.classify response = .apply := hkind
    have hrecovery : t.recovery = s.recovery := hrender.recovery_eq
    simp only [hkind, hrecovery]
    exact .kept hx
  | @failed e hkind =>
    have hkind : s.requests.classify response = .failed e := hkind
    simp only [hkind]
    exact .kept hx
  | @superseded id hkind =>
    have hkind : s.requests.classify response = .superseded id := hkind
    simp only [hkind, Recovery.recordSuperseded]
    split
    · exact .stored hx response
    · exact .kept hx

/-- Every step does one of the three things with the cache. -/
theorem booking_step (s : Session) (x : Stimulus) :
    s.Booking x (s.stored x) (s.replayed x) (s.step x).recovery := by
  by_cases hx : s.Rejected x
  · exact booking_rejected hx
  · cases hheard : s.heard x with
    | some heard => exact booking_heard hheard hx
    | none =>
      rw [(quiet_step hheard).recovery, stored, replayed, hheard]
      exact .kept hx

/-- As long as nothing is put into the cache, what is taken out of it and what is left is what was
there. -/
theorem ledger_of_unstored {run : List Stimulus} (h : s.along stored run = []) :
    s.along replayed run ++ (s.after run).recovery.lastValid.toList =
      s.recovery.lastValid.toList := by
  induction run generalizing s with
  | nil => rfl
  | cons x rest ih =>
    obtain ⟨hx, hrest⟩ := List.append_eq_nil_iff.mp h
    have hbooking := s.booking_step x
    have hlater := ih hrest
    rw [after_cons, along, List.append_assoc, hlater]
    -- the booking is of this step alone, and is split without the session it leads to
    generalize (s.step x).recovery = r at hbooking
    generalize s.stored x = put at hbooking hx
    generalize s.replayed x = out at hbooking
    cases hbooking with
    | kept => rfl
    | stored => cases hx
    | taken => exact List.append_nil _

/-- A run that is interrupted goes on where it was. -/
theorem after_after (s : Session) (earlier : List Stimulus) (x : Stimulus)
    (rest : List Stimulus) :
    (s.after (earlier ++ [x])).after rest = s.after (earlier ++ x :: rest) := by
  rw [after_concat, after, after, after, List.foldl_append]
  rfl

/-- Along the run the answer was put into the cache, and nothing was put in or taken out after
that. -/
def CachedAlong (s : Session) (run : List Stimulus) (cached : Response) : Prop :=
  ∃ before x between, run = before ++ x :: between ∧ (s.after before).stored x = some cached ∧
    (s.after (before ++ [x])).along stored between = [] ∧
    (s.after (before ++ [x])).along replayed between = []

/-- A step that neither puts in nor takes out makes no difference. -/
theorem CachedAlong.concat {run : List Stimulus} {y : Stimulus} (h : s.CachedAlong run cached)
    (hstored : (s.after run).stored y = none) (hreplayed : (s.after run).replayed y = none) :
    s.CachedAlong (run ++ [y]) cached := by
  obtain ⟨before, x, between, rfl, hx, hnone, hkept⟩ := h
  have hafter := s.after_after before x between
  refine ⟨before, x, between ++ [y], by simp, hx, ?_, ?_⟩
  · rw [along_append, hnone, hafter, along, hstored]
    rfl
  · rw [along_append, hkept, hafter, along, hreplayed]
    rfl

/-- What a session has cached was put into the cache on the way, and is still to be shown again. -/
theorem cachedAlong_of_held (config : Config) (host : Host) {run : List Stimulus}
    (h : ((start config host).after run).recovery.lastValid = some cached) :
    (start config host).CachedAlong run cached := by
  induction run using List.reverseRecOn with
  | nil => cases h
  | append_singleton run x ih =>
    rw [after_concat] at h
    have hbooking := booking_step ((start config host).after run) x
    -- either the last step put the answer in, or it was there before and was kept
    generalize hnow : (((start config host).after run).step x).recovery = r at hbooking h
    generalize hstored : ((start config host).after run).stored x = put at hbooking
    generalize hreplayed : ((start config host).after run).replayed x = out at hbooking
    cases hbooking with
    | kept => exact (ih h).concat hstored hreplayed
    | stored hx response =>
      obtain rfl := Option.some.inj h
      exact ⟨run, x, [], rfl, hstored, rfl, rfl⟩
    | taken => cases h

/-! ## Runs -/

/-- A step has nothing shown. -/
structure ShowsNothing (s : Session) (x : Stimulus) : Prop where
  replayed_eq : s.replayed x = none
  shown_eq : s.shown x = none
  screen_eq : (s.step x).screen = s.screen
  calls_eq : (s.step x).calls = s.calls

/-- A rejection has nothing shown when nothing is cached. -/
theorem Rejected.showsNothing (hx : s.Rejected x) (hempty : s.recovery.lastValid = none) :
    s.ShowsNothing x := by
  obtain ⟨response, now, hheard, hkind⟩ := rejected_iff.mp hx
  obtain rfl := eq_of_heard hheard
  have hrecovers := recovers_step hx
  obtain ⟨hnothing, hshown⟩ := hrecovers.idle hempty
  refine ⟨?_, hshown, ?_, ?_⟩
  · simp only [replayed, hheard, Option.bind_some, hkind, hempty]
  · rw [hrecovers.step_eq, hnothing]
  · rw [hrecovers.step_eq, hnothing]

/-- What comes of all rejections along a run. -/
structure Reconciles (s : Session) (run : List Stimulus) : Prop where
  /-- Each is answered by one acknowledgement, after what is cached was shown. -/
  recovers : ∀ earlier response now, earlier ++ [.message (.rerun response) now] <+: run →
    (s.after earlier).Rejected (.message (.rerun response) now) →
    (s.after earlier).Recovers response now
  /-- Nothing else is acknowledged. -/
  others : ∀ earlier x, earlier ++ [x] <+: run → ¬ (s.after earlier).Rejected x →
    .acknowledge ∉ (s.after earlier).queued x
  booking : ∀ earlier x, earlier ++ [x] <+: run → (s.after earlier).Booking x
    ((s.after earlier).stored x) ((s.after earlier).replayed x) ((s.after earlier).step x).recovery
  /-- What is shown again was cached, and nothing was cached or shown again since. -/
  origin : ∀ earlier x cached, earlier ++ [x] <+: run →
    (s.after earlier).replayed x = some cached → s.CachedAlong earlier cached
  /-- Until another answer is cached, one is shown again at most. -/
  once : ∀ earlier between, earlier ++ between <+: run →
    (s.after earlier).along stored between = [] →
    ((s.after earlier).along replayed between).length ≤ 1
  /-- Until another answer is cached, a second rejection has nothing shown. -/
  second : ∀ earlier x between y, earlier ++ x :: between ++ [y] <+: run →
    (s.after earlier).Rejected x → (s.after (earlier ++ [x])).along stored between = [] →
    (s.after (earlier ++ x :: between)).Rejected y →
    (s.after (earlier ++ x :: between)).ShowsNothing y

/-- What is taken out was in the cache. -/
theorem lastValid_of_replayed (h : s.replayed x = some cached) :
    s.recovery.lastValid = some cached := by
  obtain ⟨heard, -, h⟩ := Option.bind_eq_some_iff.mp h
  split at h
  · exact h
  · cases h

/-- Whatever happens in a run, a rejection is answered with the cached tree and an acknowledgement,
and no tree is shown twice from the cache. -/
theorem reconciles_run (config : Config) (host : Host) (run : List Stimulus) :
    (start config host).Reconciles run where
  recovers _ _ _ _ hx := recovers_step hx
  others earlier _ _ hx :=
    acknowledge_notMem_queued ((Reachable.start config host).after earlier).messages_eq hx
  booking _ x _ := booking_step _ x
  origin _ _ _ _ hreplayed := cachedAlong_of_held config host (lastValid_of_replayed hreplayed)
  once earlier between _ hstored := by
    have hledger := ledger_of_unstored hstored
    have hone : ((start config host).after earlier).recovery.lastValid.toList.length ≤ 1 := by
      cases ((start config host).after earlier).recovery.lastValid <;> simp
    rw [← hledger, List.length_append] at hone
    omega
  second earlier x between y _ hx hstored hy := by
    have hledger := ledger_of_unstored hstored
    have hempty : ((start config host).after (earlier ++ [x])).recovery.lastValid = none := by
      rw [after_concat, recovery_rejected hx]
      rfl
    rw [hempty, after_after] at hledger
    exact hy.showsNothing (Option.toList_eq_nil_iff.mp (List.append_eq_nil_iff.mp hledger).2)

/-! ## A request that is rejected twice -/

/-- The second of two requests is rejected. -/
def rejectedNow : Stimulus :=
  .message (.rerun ⟨some 2, none, some ⟨"InvalidState", none⟩, none⟩) 1

/-- Both rejections are acknowledged, and the first one alone has the page shown again. -/
theorem reconciles_run_rejectedTwice :
    asking.Rejected rejectedNow ∧ (asking.step rejectedNow).Rejected rejectedNow ∧
      asking.queued rejectedNow = [.acknowledge] ∧
      (asking.step rejectedNow).queued rejectedNow = [.acknowledge] ∧
      (asking.shown rejectedNow).isSome = true ∧
      (asking.along replayed [rejectedNow, rejectedNow]).length = 1 ∧
      (asking.step rejectedNow).ShowsNothing rejectedNow := by
  have hreconciles :=
    reconciles_run .default .minimal (twoRequests ++ [rejectedNow, rejectedNow])
  have hfirst : asking.Rejected rejectedNow := ⟨by decide +kernel, rfl⟩
  have hsecond : (asking.step rejectedNow).Rejected rejectedNow := ⟨by decide +kernel, rfl⟩
  have hprefix :
      twoRequests ++ [rejectedNow] <+: twoRequests ++ [rejectedNow, rejectedNow] :=
    ⟨[rejectedNow], List.append_assoc _ _ _⟩
  have hrecovers := hreconciles.recovers twoRequests _ 1 hprefix hfirst
  have hafter : (start .default .minimal).after (twoRequests ++ [rejectedNow]) =
      asking.step rejectedNow := after_concat _ _ _
  have hrecovers' := hreconciles.recovers (twoRequests ++ [rejectedNow]) _ 1
    ⟨[], by simp [rejectedNow]⟩ (hafter ▸ hsecond)
  have hnothing := hreconciles.second twoRequests rejectedNow [] rejectedNow ⟨[], by simp⟩
    hfirst rfl (hafter ▸ hsecond)
  rw [hafter] at hrecovers' hnothing
  exact ⟨hfirst, hsecond, hrecovers.queued_eq, hrecovers'.queued_eq, by decide +kernel,
    by decide +kernel, hnothing⟩

end Session

end RemoteUi
