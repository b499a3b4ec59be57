/-
# RemoteUi.Proofs.Session.Dimming — how long the fragment of a request stays dimmed.

A request dims the fragment of its first event, which is to say that the fragment waits for an
answer.  If the latest swap of the fragment is over by then, it stays at half opacity through all
that can happen, up to the next tree that is shown (`dimmed_after`).  But a fragment that is still
fading in goes on doing so: the dimming is gone at a later frame (`dims_request`).

* Being dimmed and not fading in (`Screen.Dimmed`) is kept by every step that shows no tree: frames
  leave such a fragment alone, another request dims another fragment or the same one once more, and
  nothing else sets an opacity.  An answer that is not shown does not touch the screen.
* A frame that sends a request fades first and dims then, so that the fragment of the request is at
  half opacity after it in any case (`opacity?_request`).
* For a fragment that fades in there is a time at which the fade is not at half opacity, and a frame
  at that time undoes the dimming (`Settled.opacity?_ne`).  It sends nothing, as the frame before
  took all that was due.

Both cases are shown by a run at the end, with the button clicked once after the page came into view
and once before.
-/
import RemoteUi.Proofs.Screen.Opacity
import RemoteUi.Proofs.Screen.History
import RemoteUi.Proofs.Session.Silence

namespace RemoteUi

namespace Session

variable {s : Session} {id : String} {x : Stimulus} {run : List Stimulus} {now : Nat}

/-! ## What keeps a fragment dimmed -/

/-- Another request may dim another fragment. -/
theorem dimmed_sendEvents (h : s.screen.Dimmed id) (events : List Event) :
    (s.sendEvents events).1.screen.Dimmed id := by
  unfold sendEvents
  dsimp only
  split
  · exact h
  · cases events with
    | nil => exact h
    | cons e rest => exact h.dim e.fragmentId

/-- So may a download. -/
theorem dimmed_startDownload (h : s.screen.Dimmed id) (widgetId fragmentId fileName : String) :
    (s.startDownload widgetId fragmentId fileName).screen.Dimmed id := by
  unfold startDownload
  split
  · exact h
  · dsimp only
    split
    · exact h
    · split
      · exact h
      · exact h.dim fragmentId

theorem dimmed_perform (h : s.screen.Dimmed id) (m : Message) :
    (s.perform m).screen.Dimmed id := by
  cases m with
  | downloadRequested widgetId fragmentId fileName =>
    exact dimmed_startDownload h widgetId fragmentId fileName
  | filesSelected => exact ⟨h.opacity_eq, h.not_fading⟩
  | clicked | valueChanged | cellEdited => exact h

/-- An input sets no opacity, unless it starts a download. -/
theorem Acting.dimmed {key : String} {input : Input} {i : Interaction}
    (hi : s.Acting key input i) (h : s.screen.Dimmed id) : i.session.screen.Dimmed id := by
  cases hi with
  | refused | idle => exact h
  | toggled | chosen => exact ⟨h.opacity_eq, h.not_fading⟩
  | focused outcome =>
    obtain ⟨focused, pool, -, hfocus⟩ := s.screen.surface.focus_eq s.screen.pool key
    show (s.screen.focus key).Dimmed id
    rw [Screen.focus, hfocus]
    dsimp only
    exact ⟨h.opacity_eq, h.not_fading⟩
  | blurred =>
    obtain ⟨pool, -, hblur⟩ := s.screen.surface.blur_eq s.screen.pool
    show s.screen.blur.Dimmed id
    rw [Screen.blur, hblur]
    dsimp only
    exact ⟨h.opacity_eq, h.not_fading⟩
  | delivered hinput hdelivered =>
    obtain ⟨handle, w, w', message, -, -, -, rfl⟩ := deliver_ok hdelivered
    exact dispatch_keeps (p := fun t => t.screen.Dimmed id) _ (fun t m ht => dimmed_perform ht m)
      ⟨h.opacity_eq, h.not_fading⟩

/-- A frame leaves the fragment dimmed, whatever it sends. -/
theorem dimmed_animationFrame (h : s.screen.Dimmed id) (now : Nat) :
    (s.animationFrame now).1.screen.Dimmed id := by
  have htick := h.tick now
  have hticked : (s.ticked now).screen.Dimmed id := ⟨htick.opacity_eq, htick.not_fading⟩
  by_cases hopen : s.state = .opened
  · rw [animationFrame_of_open hopen]
    split
    · exact hticked
    · refine dimmed_sendEvents ?_ _
      exact hticked
  · rw [animationFrame_of_not_open hopen]
    exact hticked

/-! ## Steps and runs -/

/-- Nothing but a tree that is shown has to do with it. -/
theorem dimmed_step (h : s.screen.Dimmed id) (hx : s.shown x = none) :
    (s.step x).screen.Dimmed id := by
  -- an answer that is heard and not shown leaves the screen as it is
  cases hheard : s.heard x with
  | some heard =>
    have hhandled := handling_step hheard
    rw [hx] at hhandled
    have hscreen : (s.step x).screen = s.screen := hhandled.screen_eq
    exact hscreen ▸ h
  | none =>
    cases s.way_step x with
    | opening | drain => exact h
    | frame now => exact dimmed_animationFrame h now
    | @action a hopen => exact (acting_interact hopen a.id a.input).dimmed h
    | disregarded hdisregards devMode heq =>
      rw [heq]
      exact h
    | reloaded hopen heq | lost hopen heq =>
      rw [heq]
      exact h
    | greeted hopen hid heq =>
      rw [heq]
      refine dimmed_sendEvents ?_ []
      exact h
    | answered hopen => cases (heard_rerun hopen _ _).symm.trans hheard

/-- A fragment whose latest swap is over stays dimmed until a tree is shown. -/
theorem dimmed_after (h : s.screen.Dimmed id) (hrun : s.shownBy run = []) :
    (s.after run).screen.Dimmed id := by
  induction run generalizing s with
  | nil => exact h
  | cons x rest ih =>
    obtain ⟨hx, hrest⟩ := List.append_eq_nil_iff.mp hrun
    exact ih (dimmed_step h (Option.toList_eq_nil_iff.mp hx)) hrest

/-! ## Requests -/

/-- A frame that sends anything does so in an open session, and sends all that is due. -/
theorem carried_frame {e : Event} (hsent : (s.carried (.frame now)).head? = some e) :
    s.state = .opened ∧ ∃ rest, s.gathering.flush s.screen.groups.changes = e :: rest ∧
      (s.requests.prepare s.config.location (e :: rest)).size ≤ Wire.toServerCap := by
  by_cases hopen : s.state = .opened
  · have hcarried : s.carried (.frame now) =
        s.accepted (s.gathering.flush s.screen.groups.changes) :=
      (delivery_animationFrame hopen now).carried_eq
    rw [hcarried, accepted] at hsent
    split at hsent
    · rename_i hfits
      obtain ⟨rest, hevents⟩ := List.head?_eq_some_iff.mp hsent
      exact ⟨hopen, rest, hevents, hevents ▸ hfits⟩
    · cases hsent
  · have hidle : s.step (.frame now) = s.ticked now :=
      congrArg Prod.fst (animationFrame_of_not_open hopen now)
    rw [carried, hidle] at hsent
    have hkept : (s.ticked now).outbound.drop s.outbound.length = [] := List.drop_length
    rw [hkept] at hsent
    cases hsent

/-- What is sent dims the fragment of its first event. -/
theorem surface_sendEvents {e : Event} {rest : List Event}
    (hfits : (s.requests.prepare s.config.location (e :: rest)).size ≤ Wire.toServerCap) :
    (s.sendEvents (e :: rest)).1.screen.surface =
      s.screen.surface.fade e.fragmentId pendingOpacity := by
  unfold sendEvents
  dsimp only
  rw [if_neg (Nat.not_lt_of_le hfits)]
  rfl

/-- A request dims the fragment of its first event, whatever the frame made of it before. -/
theorem opacity?_request {e : Event} (hsent : (s.carried (.frame now)).head? = some e) :
    (s.step (.frame now)).screen.surface.opacity? e.fragmentId =
      (s.screen.surface.opacity? e.fragmentId).map fun _ => pendingOpacity := by
  obtain ⟨hopen, rest, hevents, hfits⟩ := carried_frame hsent
  have hdimmed : (s.step (.frame now)).screen.surface =
      (s.screen.tick now).1.surface.fade e.fragmentId pendingOpacity := by
    show (s.animationFrame now).1.screen.surface = _
    rw [animationFrame_of_open hopen, hevents]
    exact surface_sendEvents (s := { s.ticked now with gathering := [] }) hfits
  rw [hdimmed, Surface.opacity?_fade]
  exact s.screen.map_opacity?_tick e.fragmentId now pendingOpacity

/-- A fragment that fades in is not dimmed at each later frame, where no frame sends anything. -/
theorem Settled.opacity?_ne (hs : s.Settled) (hfading : s.screen.Fading id) :
    ∃ now, (s.step (.frame now)).screen.surface.opacity? id ≠ some pendingOpacity := by
  obtain ⟨duration, t, hstrategy, ht, hphase⟩ := hfading
  obtain ⟨now, hne⟩ := t.exists_ne_half duration
  refine ⟨now, fun heq => ?_⟩
  have hstep : s.step (.frame now) = s.ticked now :=
    congrArg Prod.fst (hs.animationFrame now)
  have hdrawn := Screen.opacity?_tick_of_fading hstrategy ht hphase now
  rw [hstep] at heq
  obtain ⟨opacity, -, hopacity⟩ := Option.map_eq_some_iff.mp (hdrawn.symm.trans heq)
  exact hne hopacity

/-- How long a fragment is dimmed for a request that went out just now. -/
structure Dims (s : Session) (id : String) : Prop where
  dimmed : s.screen.surface.opacity? id = some pendingOpacity
  /-- Frames leave it dimmed if its latest swap is over, and only then. -/
  frames_iff : (∀ nows : List Nat, (s.after (nows.map Stimulus.frame)).screen.surface.opacity? id =
    some pendingOpacity) ↔ ¬ s.screen.Fading id
  /-- If it is over, so does all the rest, until a tree is shown. -/
  until_shown : ¬ s.screen.Fading id → ∀ run, s.shownBy run = [] →
    (s.after run).screen.surface.opacity? id = some pendingOpacity

/-- Frames show no tree. -/
theorem shownBy_frames (s : Session) (nows : List Nat) :
    s.shownBy (nows.map Stimulus.frame) = [] := by
  induction nows generalizing s with
  | nil => rfl
  | cons now rest ih => exact ih (s.step (.frame now))

/-- The fragment of a request's first event is dimmed when the request goes out, and stays so up to
the next tree that is shown exactly when its latest swap is over by then. -/
theorem dims_request {e : Event} (hsent : (s.carried (.frame now)).head? = some e)
    (hshown : (s.screen.surface.fragment? e.fragmentId).isSome = true) :
    (s.step (.frame now)).Dims e.fragmentId := by
  have hdimmed : (s.step (.frame now)).screen.surface.opacity? e.fragmentId =
      some pendingOpacity := by
    obtain ⟨panel, hpanel⟩ := Option.isSome_iff_exists.mp hshown
    rw [opacity?_request hsent, Surface.opacity?, hpanel]
    rfl
  have hsettled : (s.step (.frame now)).Settled :=
    settled_animationFrame (carried_frame hsent).1 now
  refine ⟨hdimmed, ⟨fun hframes hfading => ?_, fun hover nows => ?_⟩, fun hover run hrun => ?_⟩
  · obtain ⟨later, hne⟩ := hsettled.opacity?_ne hfading
    exact hne (hframes [later])
  · exact (dimmed_after ⟨hdimmed, hover⟩ (shownBy_frames _ nows)).opacity_eq
  · exact (dimmed_after ⟨hdimmed, hover⟩ hrun).opacity_eq

/-- A page with a button is shown; a frame passes some time later, and the button is clicked. -/
def buttonClicked (now : Nat) : List Stimulus :=
  [.message (.hello "session" none) 0,
    .message (.rerun ⟨none, some (.page [.obj [("type", .str "button"), ("id", .str "b")]]), none,
      none⟩) 0, .frame now, .action ⟨"b", .click⟩]

/-- The page has come into view when the button is clicked. -/
theorem dims_request_in_view :
    let s := (start .default .minimal).after (buttonClicked nanosPerSecond)
    let t := s.step (.frame nanosPerSecond)
    (s.carried (.frame nanosPerSecond)).head?.map Event.fragmentId = some "main" ∧
      t.screen.phase "main" = some .settled ∧ t.Dims "main" := by
  intro s t
  have hrun : (s.carried (.frame nanosPerSecond)).head?.map Event.fragmentId = some "main" ∧
      (s.screen.surface.fragment? "main").isSome = true ∧
      t.screen.phase "main" = some .settled := by decide +kernel
  obtain ⟨hsent, hshown, hover⟩ := hrun
  obtain ⟨e, he, hid⟩ := Option.map_eq_some_iff.mp hsent
  rw [← hid] at hshown
  exact ⟨hsent, hover, hid ▸ dims_request he hshown⟩

/-- The page is still fading in when the button is clicked: the frame after the request draws it at
full opacity again, though no answer has come. -/
theorem dimming_undone_while_fading :
    let s := (start .default .minimal).after (buttonClicked 0)
    let t := s.step (.frame (10 * nanosPerMilli))
    (s.carried (.frame (10 * nanosPerMilli))).head?.map Event.fragmentId = some "main" ∧
      t.screen.surface.opacity? "main" = some pendingOpacity ∧
      (t.step (.frame (20 * nanosPerMilli))).screen.surface.opacity? "main" = some 1 ∧
      pendingOpacity ≠ 1 := by
  decide +kernel

end Session

end RemoteUi
