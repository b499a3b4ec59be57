/-
# RemoteUi.Proofs.Session.Routing — two ways to find a widget.

There are two ways to find a widget by its id.  An input is routed by the index of live widgets; the
focus is looked for among what is shown.  Here the two are compared, in any session that can be
reached.

* Whatever is live is shown.  This is an invariant of the screen (`Screen.Traceable`): a swap
  preserves it, since it retires what the new tree lacks and registers what it has
  (`Traceable.swap`), and what the user does on the screen leaves the index and the tree alone
  (`Traceable.stirs`).  So the focus reaches all that other inputs reach.
* The focus reaches more: a widget without identity, which has the empty key, and one that lost its
  place in the index when it was moved.
* The two ways agree exactly where every widget that is shown is live (`focus_reaches_shown`).

That the two may differ is shown by a button without an id (`nameless_takes_focus`).  It takes the
focus under the empty id, which no other input finds, and keeps it when it has left the screen.
-/
import RemoteUi.Proofs.Screen.FocusCoherence
import RemoteUi.Proofs.Session.Refusal

namespace RemoteUi

namespace Screen

variable {s s' t : Screen} {f : Fragment} {now : Nat} {report : SwapReport} {key : String}

/-! ## What is shown -/

/-- An id is shown if a widget with it is, and if it is an id at all. -/
theorem mem_shownIds_iff : key ∈ s.shownIds ↔ (∃ h w, s.Shows h w ∧ w.key = key) ∧ key ≠ "" := by
  rw [mem_shownIds]
  refine and_congr_left fun hne => ⟨?_, ?_⟩
  · rintro ⟨h, hh, rfl⟩
    obtain ⟨w, hw⟩ : ∃ w, s.pool.get? h = some w := by
      apply Option.ne_none_iff_exists'.mp
      intro hnone
      exact hne (by rw [WidgetPool.key, hnone]; rfl)
    exact ⟨h, w, ⟨hh, hw⟩, (s.pool.key_of_get? hw).symm⟩
  · rintro ⟨h, w, hw, rfl⟩
    exact ⟨h, hw.1, s.pool.key_of_get? hw.2⟩

/-! ## What is found -/

/-- Everything that is live is shown, and so is the widget that has the focus, if it has an
identity. -/
structure Traceable (s : Screen) : Prop where
  live : ∀ key h, s.pool.lookup key = some h → key ∈ s.shownIds
  focused : ∀ key, s.surface.focused = some key → key ≠ "" → key ∈ s.shownIds

/-- A swap keeps track of what is live. -/
theorem Traceable.swap (hs : s.Traceable) (hsound : s.Sound) (hf : f.WellFormed)
    (h : s.swap f now = .ok (s', report)) : s'.Traceable := by
  have hmade := hsound.widgetsMade f
  constructor
  · -- an id that is live after the swap is in the new tree, or was live before and is still shown
    -- around it
    intro key handle hlive
    rw [hsound.mem_shownIds_swap hf h]
    rw [lookup_swap h] at hlive
    by_cases hnew : key ∈ f.widgetKeys
    · exact Or.inr hnew
    · by_cases hgone : key ∈ s.goneIds f
      · rw [if_pos hgone] at hlive
        cases hlive
      · rw [if_neg hgone, hmade.lookup_eq key (Or.inr hnew)] at hlive
        have hshown := hs.live key handle hlive
        refine Or.inl ⟨mem_keysOutside_of_shown hshown fun old hold hmem => ?_,
          (mem_shownIds.mp hshown).2⟩
        exact hgone (hsound.mem_goneIds.mpr ⟨⟨old, hold, hmem⟩, hnew⟩)
  · -- the focus was kept outside the fragment, dropped, or given to the new widget of its id
    intro key hfocused hne
    cases refocusing_swap h with
    | apart hsame _ hapart =>
      rw [hsame] at hfocused
      have hshown := hs.focused key hfocused hne
      rw [hsound.mem_shownIds_swap hf h]
      refine Or.inl ⟨mem_keysOutside_of_shown hshown fun old hold => ?_, hne⟩
      rw [← hsound.widgetIds_built hold]
      exact hapart key old hfocused hold
    | dropped hnone => cases hnone.symm.trans hfocused
    | @again id handle _ hafter _ hshown hkey =>
      obtain rfl := Option.some.inj (hafter.symm.trans hfocused)
      exact mem_shownIds.mpr ⟨⟨handle, hshown, (key_swap h handle).trans hkey⟩, hne⟩

/-- What moves no widget keeps track of them. -/
theorem Traceable.stirs (hs : s.Traceable) (h : s.Stirs t) : t.Traceable := by
  have hsteady := h.steady
  refine ⟨fun key handle hlive => ?_, fun key hfocused hne => ?_⟩
  · rw [hsteady.lookup_eq] at hlive
    rw [hsteady.shownIds_eq]
    exact hs.live key handle hlive
  · rw [hsteady.shownIds_eq]
    rcases h.focusing with ⟨key', rfl⟩ | rfl | ⟨hsame, -⟩
    · cases hfind : s.surface.findWidget s.pool key' with
      | none =>
        rw [focus_eq_blur hfind, s.focused_blur] at hfocused
        cases hfocused
      | some handle =>
        have hgiven := focused_focus_iff.mpr ⟨handle, hfind⟩
        obtain rfl := Option.some.inj (hgiven.symm.trans hfocused)
        obtain ⟨hshown, hkey⟩ := Surface.findWidget_eq_some hfind
        exact mem_shownIds.mpr ⟨⟨handle, hshown, hkey⟩, hne⟩
    · rw [s.focused_blur] at hfocused
      cases hfocused
    · exact hs.focused key (hsame.symm.trans hfocused) hne

/-- Along any history, everything that is live is shown. -/
theorem Reached.traceable (hs : s.Reached fun _ f => f.WellFormed) : s.Traceable := by
  induction hs with
  | start strategy => exact ⟨nofun, nofun⟩
  | @swap s f now hs hf ih =>
    rcases s.attempt_eq f now with heq | ⟨report, hswap⟩
    · rw [heq]
      exact ih
    · exact ih.swap hs.sound_screen (hf (swap_accepts hswap)) hswap
  | stir hs ht ih => exact ih.stirs ht

end Screen

namespace Session

variable {s : Session} {id : String}

/-- The focus goes to what is shown. -/
theorem focus_ok_iff (hopen : s.state = .opened) :
    (s.interact id .focus).outcome = .ok () ↔ ∃ h w, s.screen.Shows h w ∧ w.key = id := by
  have hshows : (∃ h, s.screen.surface.findWidget s.screen.pool id = some h) ↔
      ∃ h w, s.screen.Shows h w ∧ w.key = id := by
    rw [← Option.isSome_iff_exists, Surface.isSome_findWidget_iff]
    constructor
    · rintro ⟨h, hh, w, hw, hkey⟩
      exact ⟨h, w, ⟨hh, hw⟩, hkey⟩
    · rintro ⟨h, w, hw, hkey⟩
      exact ⟨h, hw.1, w, hw.2, hkey⟩
  rw [interact_eq hopen, ← hshows, ← Screen.focused_focus_iff]
  dsimp only
  split <;> simp [*]

/-- The focus goes to any widget that is shown, and so to all that is live.  It is routed like every
other input exactly where all widgets that are shown are live.  Who has the focus is shown, unless
it is a widget without identity. -/
theorem focus_reaches_shown (hs : s.Reachable) (hopen : s.state = .opened) :
    (∀ id, (s.interact id .focus).outcome = .ok () ↔ ∃ h w, s.screen.Shows h w ∧ w.key = id) ∧
      (∀ id, (s.screen.pool.lookup id).isSome → (s.interact id .focus).outcome = .ok ()) ∧
      ((∀ id, (s.interact id .focus).outcome = .ok () ↔ (s.screen.pool.lookup id).isSome) ↔
        ∀ h w, s.screen.Shows h w → (s.screen.pool.lookup w.key).isSome) ∧
      ∀ id, s.screen.surface.focused = some id → id ≠ "" → id ∈ s.screen.shownIds := by
  have htraceable : s.screen.Traceable := (hs.reached_of fun _ _ hf => hf).traceable
  have hlive : ∀ id, (s.screen.pool.lookup id).isSome →
      (s.interact id .focus).outcome = .ok () := by
    intro id hlive
    obtain ⟨h, hlookup⟩ := Option.isSome_iff_exists.mp hlive
    have hshown := htraceable.live id h hlookup
    exact (focus_ok_iff hopen).mpr (Screen.mem_shownIds_iff.mp hshown).1
  refine ⟨fun id => focus_ok_iff hopen, hlive, ⟨fun hall h w hw => ?_, fun hall id => ?_⟩,
    htraceable.focused⟩
  · exact (hall w.key).mp ((focus_ok_iff hopen).mpr ⟨h, w, hw, rfl⟩)
  · refine ⟨fun hok => ?_, hlive id⟩
    obtain ⟨h, w, hw, rfl⟩ := (focus_ok_iff hopen).mp hok
    exact hall h w hw

/-- In the session with a field, the focus goes to the field, which is live. -/
theorem focus_reaches_shown_filling :
    filling.Reachable ∧ filling.state = .opened ∧
      (filling.screen.pool.lookup "name").isSome = true ∧
      (filling.interact "name" .focus).outcome = .ok () ∧ "name" ∈ filling.screen.shownIds := by
  have hreachable : filling.Reachable := (Reachable.start .default .minimal).after fieldFocused
  have hopen : filling.state = .opened := by decide +kernel
  have hlive : (filling.screen.pool.lookup "name").isSome = true := by decide +kernel
  have hfocused : filling.screen.surface.focused = some "name" := by decide +kernel
  obtain ⟨-, hok, -, hshown⟩ := focus_reaches_shown hreachable hopen
  exact ⟨hreachable, hopen, hlive, hok "name" hlive, hshown "name" hfocused (by decide)⟩

/-! ## A button without identity -/

/-- A button is shown that has no identity. -/
def buttonNameless : List Stimulus :=
  let button := .page [.obj [("type", .str "button"), ("label", .str "Go")]]
  [.message (.hello "session" none) 0, .message (.rerun ⟨none, some button, none, none⟩) 0]

/-- The session in which the button is shown. -/
def offeringNameless : Session := (start .default .minimal).after buttonNameless

/-- The user moves the focus to the button, which then leaves with all that was shown. -/
def namelessLeaves : List Stimulus :=
  [.action ⟨"", .focus⟩, .message (.rerun ⟨none, some (.page []), none, none⟩) 1]

/-- The button takes the focus, although no input finds it, and keeps it when it is gone. -/
theorem nameless_takes_focus :
    offeringNameless.Reachable ∧ offeringNameless.state = .opened ∧
      offeringNameless.screen.pool.lookup "" = none ∧
      (offeringNameless.interact "" .click).outcome = .error (.unknownWidget "") ∧
      (offeringNameless.interact "" .focus).outcome = .ok () ∧
      (offeringNameless.after namelessLeaves).screen.surface.handles = [] ∧
      (offeringNameless.after namelessLeaves).screen.surface.focused = some "" ∧
      ¬ ∀ s : Session, s.Reachable → s.state = .opened → ∀ id,
        (s.interact id .focus).outcome = .ok () ↔ (s.screen.pool.lookup id).isSome := by
  have hreachable : offeringNameless.Reachable :=
    (Reachable.start .default .minimal).after buttonNameless
  have hopen : offeringNameless.state = .opened := by decide +kernel
  have hnone : offeringNameless.screen.pool.lookup "" = none := by decide +kernel
  have hok : (offeringNameless.interact "" .focus).outcome = .ok () := by decide +kernel
  refine ⟨hreachable, hopen, hnone, by decide +kernel, hok, by decide +kernel, by decide +kernel,
    fun hall => ?_⟩
  have hlive := (hall offeringNameless hreachable hopen "").mp hok
  rw [hnone] at hlive
  cases hlive

end Session

end RemoteUi
