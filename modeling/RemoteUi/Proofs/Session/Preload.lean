/-
# RemoteUi.Proofs.Session.Preload — pictures are fetched before they are shown.

An answer that is rendered has the host fetch the pictures of its tree in one call, or in none if
there are no pictures, and nothing else has it fetch any (`fetched_step`).  The call comes before
that of the swap, so that every picture on the surface was fetched before the swap that brought it
(`fetches_pictures`).

The module has three parts.

* What the host was to fetch so far is read off the log of its calls (`fetched`).  Each function of
  a session is gone through once, from the innermost to the step: only `render` adds to it, and it
  adds `Response.fetches`, which is said of the tree alone.
* What the host answers is not looked at.  Two sessions whose hosts differ in nothing but their
  answers (`withPreload`) go through the very same states, so that fetching can neither delay a swap
  nor prevent one (`after_withPreload`).  This is a simulation as well, one equation for each
  function.
* A step that brings a picture shows a tree that has it (`brings_step`), as a screen changes its
  pictures only in a swap.  For a run, `brought` goes back from a picture on the surface to the last
  step at which it was not there.
-/
import Mathlib.Data.List.Infix
import RemoteUi.Proofs.Screen.Pictures
import RemoteUi.Proofs.Session.Numbering

namespace RemoteUi

/-- The pictures that the host is to fetch. -/
def HostCall.pictures? : HostCall → Option (List String)
  | .preload sources => some sources
  | _ => none

/-- What is fetched for an answer: the pictures of its tree in one call, if there are any. -/
def Response.fetches (response : Response) : List (List String) :=
  match response.fragment? with
  | none => []
  | some f => if f.root.pictures = [] then [] else [f.root.pictures]

/-- If the tree is known, so is what is fetched. -/
theorem Response.Shows.fetches_eq {response : Response} {f : Fragment} (h : response.Shows f) :
    response.fetches = if f.root.pictures = [] then [] else [f.root.pictures] := by
  rw [fetches, Response.shows_iff.mp h]

namespace Session

variable {s t : Session} {x : Stimulus} {response r : Response} {now : Nat}

/-! ## What is fetched -/

/-- All that the host was to fetch, the latest first. -/
def fetched (s : Session) : List (List String) :=
  s.calls.filterMap HostCall.pictures?

/-- A report has nothing fetched. -/
theorem fetched_report (s : Session) (ds : List Diagnostic) : (s.report ds).fetched = s.fetched := by
  induction ds generalizing s with
  | nil => rfl
  | cons d rest ih => exact ih (s.tell (.diagnostic d))

/-- There is one call at most, and none for no pictures. -/
theorem fetched_preload (s : Session) (sources : List String) :
    (s.preload sources).1.fetched = (if sources = [] then [] else [sources]) ++ s.fetched := by
  unfold preload
  split <;> rfl

/-- Pictures are asked for as soon as the tree is read, whether or not it is shown then. -/
theorem fetched_render (s : Session) (response : Response) (now : Nat) :
    (s.render response now).1.fetched = response.fetches ++ s.fetched := by
  unfold render
  split
  · rename_i hroot
    simp [Response.fetches, Response.fragment?, hroot]
  · rename_i root hroot
    split
    · rename_i e herror
      rw [fetched_report]
      simp [Response.fetches, Response.fragment?, hroot, herror, Except.toOption]
    · rename_i parsed hparsed
      have hshows : response.Shows parsed.fragment := ⟨root, parsed.diagnostics, hroot, hparsed⟩
      have hloaded : ((s.report parsed.diagnostics).preload
          parsed.fragment.imageSources).1.fetched = response.fetches ++ s.fetched := by
        rw [fetched_preload, fetched_report, hshows.fetches_eq, Fragment.imageSources_eq]
      -- whether the tree can be shown makes no difference
      dsimp only
      split
      · rw [fetched_report]
        exact hloaded
      · refine Eq.trans ?_ hloaded
        show (report _ _).fetched = _
        rw [fetched_report]
        rfl

theorem fetched_handleResponse (s : Session) (response : Response) (now : Nat) :
    (s.handleResponse response now).fetched =
      ((s.offered response).map Response.fetches).getD [] ++ s.fetched := by
  unfold handleResponse offered
  -- of the four kinds, one renders the answer and one what is cached; the others render nothing
  cases s.requests.classify response with
  | apply =>
    dsimp only
    split <;> exact s.fetched_render response now
  | superseded id => rfl
  | failed e => rfl
  | invalidState =>
    have htake : s.recovery.take.2 = s.recovery.lastValid := rfl
    dsimp only
    rw [htake]
    cases s.recovery.lastValid with
    | none => rfl
    | some cached => exact fetched_render { s with recovery := s.recovery.take.1 } cached now

theorem fetched_sendEvents (s : Session) (events : List Event) :
    (s.sendEvents events).1.fetched = s.fetched := by
  unfold sendEvents
  dsimp only
  split
  · rfl
  · cases events <;> rfl

theorem fetched_startDownload (s : Session) (widgetId fragmentId fileName : String) :
    (s.startDownload widgetId fragmentId fileName).fetched = s.fetched := by
  unfold startDownload
  split
  · rfl
  · dsimp only
    split
    · rfl
    · split <;> rfl

/-- An upload is a call of another kind. -/
theorem fetched_upload (s : Session) (key widgetId fragmentId : String) (multiple : Bool)
    (files : List SelectedFile) :
    (s.upload key widgetId fragmentId multiple files).1.fetched = s.fetched := by
  -- this is shown of one file, and a selection is one after the other
  have hone : ∀ (calls : List HostCall) (file : SelectedFile),
      calls.filterMap HostCall.pictures? = s.fetched →
      (s.uploadOne calls file).2.filterMap HostCall.pictures? = s.fetched := by
    intro calls file hcalls
    unfold uploadOne
    split
    · exact hcalls
    · split <;> exact hcalls
  exact Upload.batch_keeps hone multiple files rfl

theorem fetched_perform (s : Session) (m : Message) : (s.perform m).fetched = s.fetched := by
  cases m with
  | downloadRequested widgetId fragmentId fileName =>
    exact s.fetched_startDownload widgetId fragmentId fileName
  | filesSelected key widgetId fragmentId multiple files =>
    exact s.fetched_upload key widgetId fragmentId multiple files
  | clicked | valueChanged | cellEdited => rfl

theorem fetched_dispatch (s : Session) : s.dispatch.fetched = s.fetched :=
  s.dispatch_keeps (fun t m ht => (t.fetched_perform m).trans ht) rfl

theorem Acting.fetched_eq {id : String} {input : Input} {i : Interaction}
    (h : s.Acting id input i) : i.session.fetched = s.fetched := by
  cases h with
  | refused | toggled | chosen | focused | blurred | idle => rfl
  | delivered hinput hdelivered =>
    obtain ⟨handle, w, w', message, -, -, -, rfl⟩ := deliver_ok hdelivered
    exact fetched_dispatch _

theorem fetched_animationFrame (s : Session) (now : Nat) :
    (s.animationFrame now).1.fetched = s.fetched := by
  by_cases hopen : s.state = .opened
  · rw [animationFrame_of_open hopen]
    split
    · rfl
    · exact fetched_sendEvents _ _
  · rw [animationFrame_of_not_open hopen]
    rfl

/-! ## Steps -/

/-- The answer that is rendered when a stimulus comes: the one that it brings, or the cached one. -/
def rendered? (s : Session) (x : Stimulus) : Option Response :=
  (s.heard x).bind fun a => s.offered a.1

/-- What a stimulus has the host fetch. -/
def fetches (s : Session) (x : Stimulus) : List (List String) :=
  ((s.rendered? x).map Response.fetches).getD []

/-- Pictures are fetched for the answer that is rendered, and for nothing else. -/
theorem fetched_step (s : Session) (x : Stimulus) :
    (s.step x).fetched = s.fetches x ++ s.fetched := by
  cases s.way_step x with
  | opening | drain => rfl
  | frame now => exact s.fetched_animationFrame now
  | @action a hopen => exact (acting_interact hopen a.id a.input).fetched_eq
  | reloaded hopen heq | lost hopen heq =>
    rw [heq]
    rfl
  | greeted hopen hid heq =>
    rw [heq]
    exact fetched_sendEvents _ []
  | @answered response now hopen heq =>
    rw [heq, fetched_handleResponse, fetches, rendered?, heard_rerun hopen]
    rfl
  | disregarded hx devMode heq =>
    -- a step that is disregarded has no answer that is heard, since the only one would have come to
    -- a closed session
    have hunheard : s.heard x = none := by
      cases x with
      | opening | action | frame | drain | lost => rfl
      | message envelope now =>
        cases envelope with
        | hello | refresh => rfl
        | rerun response => exact if_pos hx
    rw [heq, fetches, rendered?, hunheard]
    rfl

/-- An answer that is shown has been rendered. -/
theorem rendered?_of_shown (h : s.shown x = some r) : s.rendered? x = some r := by
  obtain ⟨⟨response, now⟩, hheard, hdisplayed⟩ := Option.bind_eq_some_iff.mp h
  rw [rendered?, hheard, Option.bind_some]
  exact (Option.filter_eq_some_iff.mp hdisplayed).1

/-- The last that the host is told when an answer is shown is the swap. -/
theorem Handling.last_swapped (h : s.Handling response now t (some r)) :
    ∃ id widgets groups calls, t.calls = .swapped id widgets groups :: calls ++ s.calls := by
  -- in both cases where an answer is shown, rendering it ends with the swap
  have hrendered : ∀ {s u : Session} {response : Response} {now : Nat},
      s.Rendering response now (u, true) →
      ∃ id widgets groups calls, u.calls = .swapped id widgets groups :: calls ++ s.calls := by
    intro s u response now hrender
    cases hrender with
    | shown calls id widgets groups => exact ⟨id, widgets, groups, calls, rfl⟩
  cases h with
  | shown hkind hrender =>
    obtain ⟨id, widgets, groups, calls, hcalls⟩ := hrendered hrender
    exact ⟨id, widgets, groups, calls, hcalls⟩
  | replayed hkind hcached hrender =>
    obtain ⟨id, widgets, groups, calls, hcalls⟩ := hrendered hrender
    exact ⟨id, widgets, groups, calls, hcalls⟩

/-- When a tree is shown the host is told of the swap after it was to fetch the pictures. -/
theorem told_of_shown (hshown : s.shown x = some r) {f : Fragment}
    (hf : r.Shows f) :
    ∃ id widgets groups calls, s.newCalls x = .swapped id widgets groups :: calls ∧
      calls.filterMap HostCall.pictures? =
        if f.root.pictures = [] then [] else [f.root.pictures] := by
  cases hheard : s.heard x with
  | none => simp [shown, hheard] at hshown
  | some heard =>
    have hhandled := handling_step hheard
    rw [hshown] at hhandled
    obtain ⟨id, widgets, groups, calls, hcalls⟩ := hhandled.last_swapped
    have hnew : s.newCalls x = .swapped id widgets groups :: calls := newCalls_eq hcalls
    refine ⟨id, widgets, groups, calls, hnew, ?_⟩
    have hfetched := s.fetched_step x
    -- what is new in the log is known from both sides, and the older calls cancel
    rw [fetched, hcalls, List.filterMap_append, fetches, rendered?_of_shown hshown,
      Option.map_some, Option.getD_some, hf.fetches_eq] at hfetched
    exact List.append_cancel_right hfetched

/-! ## What the host answers -/

/-- The session on a host with other answers about pictures. -/
def withPreload (s : Session) (answers : List HostCall → List String → Option String) : Session :=
  { s with host := { s.host with preload := answers } }

section Answers

variable (s : Session) (answers : List HostCall → List String → Option String)

/-- A host is told of diagnostics, whatever it answers to anything else. -/
theorem report_withPreload (ds : List Diagnostic) :
    (s.withPreload answers).report ds = (s.report ds).withPreload answers := by
  induction ds generalizing s with
  | nil => rfl
  | cons d rest ih => exact ih (s.tell (.diagnostic d))

/-- The one thing that a host's answer decides is the answer. -/
theorem preload_withPreload (sources : List String) :
    ((s.withPreload answers).preload sources).1 = (s.preload sources).1.withPreload answers := by
  unfold preload
  split <;> rfl

/-- The swap that follows is of the same screen. -/
theorem render_withPreload (response : Response) (now : Nat) :
    (s.withPreload answers).render response now =
      ((s.render response now).1.withPreload answers, (s.render response now).2) := by
  unfold render
  split
  · rfl
  · split
    · rfl
    · rename_i parsed hparsed
      -- from here on the answers are looked at no more
      simp only [report_withPreload, preload_withPreload]
      generalize ((s.report parsed.diagnostics).preload parsed.fragment.imageSources).1 = t
      have hscreen : (t.withPreload answers).screen = t.screen := rfl
      rw [hscreen]
      cases t.screen.swap parsed.fragment now with
      | error e => rfl
      | ok swapped =>
        have hreport := report_withPreload { t with screen := swapped.1 } answers
          swapped.2.diagnostics
        simp only [withPreload] at hreport ⊢
        rw [hreport]
        rfl

theorem handleResponse_withPreload (response : Response) (now : Nat) :
    (s.withPreload answers).handleResponse response now =
      (s.handleResponse response now).withPreload answers := by
  have hrequests : (s.withPreload answers).requests = s.requests := rfl
  have hrecovery : (s.withPreload answers).recovery = s.recovery := rfl
  unfold handleResponse
  rw [hrequests, hrecovery]
  cases s.requests.classify response with
  | apply =>
    simp only [render_withPreload]
    split <;> rfl
  | superseded id => rfl
  | failed e => rfl
  | invalidState =>
    dsimp only
    cases s.recovery.take.2 with
    | none => rfl
    | some cached =>
      -- the cached answer is rendered like any other
      have hrender := render_withPreload { s with recovery := s.recovery.take.1 } answers cached now
      exact congrArg (fun out => push out.1 .acknowledge) hrender

theorem sendEvents_withPreload (events : List Event) :
    (s.withPreload answers).sendEvents events =
      ((s.sendEvents events).1.withPreload answers, (s.sendEvents events).2) := by
  unfold sendEvents
  dsimp only [withPreload]
  split
  · rfl
  · cases events <;> rfl

theorem startDownload_withPreload (widgetId fragmentId fileName : String) :
    (s.withPreload answers).startDownload widgetId fragmentId fileName =
      (s.startDownload widgetId fragmentId fileName).withPreload answers := by
  unfold startDownload
  cases hsession : s.sessionId with
  | none => simp only [withPreload, hsession]
  | some sessionId =>
    simp only [withPreload, hsession]
    cases s.config.location.origin with
    | error e => rfl
    | ok origin =>
      dsimp only
      split <;> rfl

theorem perform_withPreload (m : Message) :
    (s.withPreload answers).perform m = (s.perform m).withPreload answers := by
  cases m with
  | downloadRequested widgetId fragmentId fileName =>
    exact startDownload_withPreload s answers widgetId fragmentId fileName
  | filesSelected | clicked | valueChanged | cellEdited => rfl

/-- Messages are carried out one after the other. -/
theorem dispatch_withPreload :
    (s.withPreload answers).dispatch = s.dispatch.withPreload answers := by
  have hfold : ∀ (ms : List Message) (t : Session),
      ms.foldl perform (t.withPreload answers) = (ms.foldl perform t).withPreload answers := by
    intro ms
    induction ms with
    | nil => exact fun t => rfl
    | cons m rest ih =>
      intro t
      rw [List.foldl_cons, perform_withPreload, ih, List.foldl_cons]
  exact hfold s.messages { s with messages := [] }

theorem deliver_withPreload (id : String) (input : Input) :
    (s.withPreload answers).deliver id input =
      (s.deliver id input).map fun s => s.withPreload answers := by
  unfold deliver
  dsimp only [withPreload]
  split
  · rfl
  · split
    · rfl
    · split
      · rfl
      · -- what the widget made of the input is the same, and so is what is dispatched
        rename_i h _ _ w _ _ w' message _
        exact congrArg Except.ok (dispatch_withPreload
          { s with
            screen := { s.screen with pool := s.screen.pool.set h w' }
            messages := s.messages ++ message.toList } answers)

theorem interact_withPreload (id : String) (input : Input) :
    ((s.withPreload answers).interact id input).session =
      (s.interact id input).session.withPreload answers := by
  by_cases hopen : s.state = .opened
  · have hopen' : (s.withPreload answers).state = .opened := hopen
    rw [interact_eq hopen', interact_eq hopen]
    cases input with
    | toggle value =>
      simp only [withPreload]
      cases s.screen.groups.toggle? id value <;> rfl
    | choose value =>
      simp only [withPreload]
      cases s.screen.groups.select? id value <;> rfl
    | focus => rfl
    | blur => by_cases hfocused : s.screen.surface.focused = some id <;> simp [withPreload, hfocused]
    | click | commitText | selectValue | pickColor | editCode | editCell | scroll | selectFiles =>
      simp only [deliver_withPreload]
      cases s.deliver id _ <;> rfl
  · have hopen' : (s.withPreload answers).state ≠ .opened := hopen
    rw [interact_of_not_open hopen', interact_of_not_open hopen]

theorem animationFrame_withPreload (now : Nat) :
    ((s.withPreload answers).animationFrame now).1 =
      (s.animationFrame now).1.withPreload answers := by
  by_cases hopen : s.state = .opened
  · have hopen' : (s.withPreload answers).state = .opened := hopen
    rw [animationFrame_of_open hopen', animationFrame_of_open hopen]
    have hevents : (s.withPreload answers).gathering.flush
        (s.withPreload answers).screen.groups.changes =
          s.gathering.flush s.screen.groups.changes := rfl
    rw [hevents]
    split
    · rfl
    · have hsend := sendEvents_withPreload { s.ticked now with gathering := [] } answers
        (s.gathering.flush s.screen.groups.changes)
      exact congrArg Prod.fst hsend
  · have hopen' : (s.withPreload answers).state ≠ .opened := hopen
    rw [animationFrame_of_not_open hopen', animationFrame_of_not_open hopen]
    rfl

/-- One step, for each stimulus and each state in which it may come. -/
theorem step_withPreload (x : Stimulus) :
    (s.withPreload answers).step x = (s.step x).withPreload answers := by
  cases x with
  | opening | drain => rfl
  | frame now => exact animationFrame_withPreload s answers now
  | action a => exact interact_withPreload s answers a.id a.input
  | lost reason =>
    by_cases hclosed : s.state = .closed
    · rw [step_lost_of_closed hclosed, step_lost_of_closed (s := s.withPreload answers) hclosed]
    · rw [step_lost hclosed, step_lost (s := s.withPreload answers) hclosed]
      rfl
  | message envelope now =>
    by_cases hclosed : s.state = .closed
    · rw [step_message_of_closed hclosed,
        step_message_of_closed (s := s.withPreload answers) hclosed]
      rfl
    cases envelope with
    | refresh devMode =>
      rw [step_refresh hclosed, step_refresh (s := s.withPreload answers) hclosed]
      rfl
    | rerun response =>
      rw [step_rerun hclosed, step_rerun (s := s.withPreload answers) hclosed]
      exact handleResponse_withPreload { s with devMode := response.devMode.getD false } answers
        response now
    | hello id devMode =>
      by_cases hid : s.sessionId = none
      · have hgreeted : ({ s.withPreload answers with
            devMode := devMode.getD false, sessionId := some id, state := .opened } : Session) =
              withPreload { s with
                devMode := devMode.getD false, sessionId := some id, state := .opened } answers :=
          rfl
        rw [step_hello hclosed hid, step_hello (s := s.withPreload answers) hclosed hid, hgreeted,
          sendEvents_withPreload]
      · rw [step_hello_again hclosed hid,
          step_hello_again (s := s.withPreload answers) hclosed hid]
        rfl

/-- What the host answers about pictures makes no difference, however long the session goes on. -/
theorem after_withPreload (run : List Stimulus) :
    (s.withPreload answers).after run = (s.after run).withPreload answers := by
  induction run generalizing s with
  | nil => rfl
  | cons x rest ih => rw [after_cons, after_cons, step_withPreload, ih]

end Answers

/-! ## Runs -/

/-- A step brings a picture to the surface.  It shows a tree that has the picture, and the host is
told of the swap after it was to fetch all pictures of the tree. -/
structure Brings (s : Session) (x : Stimulus) (handle : Handle) (src : String) : Prop where
  absent : ¬ s.screen.ShowsPicture handle src
  present : (s.step x).screen.ShowsPicture handle src
  fetched : ∃ r f id widgets groups calls, s.shown x = some r ∧ r.Shows f ∧ src ∈ f.root.pictures ∧
    s.newCalls x = .swapped id widgets groups :: calls ∧ .preload f.root.pictures ∈ calls

/-- No picture appears but with a tree that it was fetched for. -/
theorem brings_step (hs : s.Reachable) {handle : Handle} {src : String}
    (habsent : ¬ s.screen.ShowsPicture handle src)
    (hpresent : (s.step x).screen.ShowsPicture handle src) : s.Brings x handle src := by
  refine ⟨habsent, hpresent, ?_⟩
  -- without an answer that is shown the pictures stay as they are; with one, the picture is in its
  -- tree
  cases hshown : s.shown x with
  | none =>
    have hsame : (s.step x).screen.ShowsPicture handle src ↔ s.screen.ShowsPicture handle src :=
      Screen.stirs_showsPicture_iff (stirred_step hshown)
    exact absurd (hsame.mp hpresent) habsent
  | some r =>
    obtain ⟨f, now, report, hf, hswap⟩ := swapped_step hshown
    have hsource : src ∈ f.imageSources :=
      (hs.reached.sound_screen.showsPicture_swap hf.wellFormed hswap hpresent).resolve_left habsent
    rw [Fragment.imageSources_eq] at hsource
    obtain ⟨id, widgets, groups, calls, hcalls, hfetched⟩ := told_of_shown hshown hf
    rw [if_neg (List.ne_nil_of_mem hsource)] at hfetched
    have hmem : f.root.pictures ∈ calls.filterMap HostCall.pictures? := by
      rw [hfetched]
      exact List.mem_singleton_self _
    obtain ⟨call, hcall, hpictures⟩ := List.mem_filterMap.mp hmem
    have heq : call = .preload f.root.pictures := by
      cases call with
      | preload sources => exact congrArg HostCall.preload (Option.some.inj hpictures)
      | swapped | reload | connectionLost | diagnostic | upload | download => cases hpictures
    exact ⟨r, f, id, widgets, groups, calls, rfl, hf, hsource, hcalls, heq ▸ hcall⟩

/-- How pictures come to be shown in a run. -/
structure FetchesPictures (s : Session) (run : List Stimulus) : Prop where
  /-- Every picture on the surface was brought there by a step of the run, and was there all the time
  since. -/
  brought : ∀ handle src, (s.after run).screen.ShowsPicture handle src →
    ∃ earlier x later, run = earlier ++ x :: later ∧ (s.after earlier).Brings x handle src ∧
      ∀ between, between <+: later →
        (s.after (earlier ++ x :: between)).screen.ShowsPicture handle src
  /-- Each step has the host fetch the pictures of the tree that it renders, and nothing else. -/
  fetched : ∀ earlier x later, run = earlier ++ x :: later →
    ((s.after earlier).newCalls x).filterMap HostCall.pictures? = (s.after earlier).fetches x
  /-- With other answers of the host the session would be in the same state. -/
  indifferent : ∀ answers, (s.withPreload answers).after run = (s.after run).withPreload answers

/-- The calls for pictures of one step. -/
theorem Reachable.fetches_eq (hs : s.Reachable) (x : Stimulus) :
    (s.newCalls x).filterMap HostCall.pictures? = s.fetches x := by
  have htold := (draws_step hs.messages_eq x).told
  have hfetched := s.fetched_step x
  rw [fetched, htold, List.filterMap_append] at hfetched
  exact List.append_cancel_right hfetched

/-- In every run pictures are fetched before they are shown, each tree's in one call, and whether the
host could fetch them makes no difference. -/
theorem fetches_pictures (config : Config) (host : Host) (run : List Stimulus) :
    (start config host).FetchesPictures run := by
  have hreachable : ∀ run, ((start config host).after run).Reachable :=
    fun run => (Reachable.start config host).after run
  constructor
  case fetched =>
    intro earlier x later _
    exact (hreachable earlier).fetches_eq x
  case indifferent =>
    intro answers
    exact after_withPreload (start config host) answers run
  case brought =>
    intro handle src
    induction run using List.reverseRecOn with
    | nil =>
      intro hshown
      cases hshown.1
    | append_singleton run x ih =>
      intro hshown
      by_cases hbefore : ((start config host).after run).screen.ShowsPicture handle src
      -- it was there before the last step, and is there after it
      · obtain ⟨earlier, y, later, rfl, hbrings, hsince⟩ := ih hbefore
        refine ⟨earlier, y, later ++ [x], by simp, hbrings, fun between hbetween => ?_⟩
        rcases List.prefix_concat_iff.mp hbetween with rfl | hbetween
        · rw [List.append_assoc] at hshown
          exact hshown
        · exact hsince between hbetween
      -- it comes with the last step
      · refine ⟨run, x, [], rfl, ?_, fun between hbetween => ?_⟩
        · rw [after_concat] at hshown
          exact brings_step (hreachable run) hbefore hshown
        · rw [List.prefix_nil.mp hbetween]
          exact hshown

end Session

end RemoteUi
