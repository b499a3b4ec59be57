/-
# RemoteUi.Proofs.Session.Refusal — what a refused input leaves.

All refusals but one leave a session as it was, since an input is delivered, or a group is changed,
only once the widget or the member that it is for has been found (`refused_eq_self`).  A move of the
focus goes the other way round: it takes the focus from the widget that has it, and then looks for
the one that is to get it.  Where that is not shown, the input is refused and the focus is gone, as
if the user had taken it away (`refused_focus`).

So a refused input leaves the session unchanged exactly if it does not take the focus from a widget
(`refused_unchanged_iff`).  Where nobody has the focus there is nothing to take, and a move of the
focus leaves no trace either.  The statement is of any session, reached or not; the two sessions at
the end are reached from the start.
-/
import RemoteUi.Proofs.Screen.Focus

namespace RemoteUi

namespace Session

variable {s : Session} {id : String} {input : Input} {e : InteractionError}

/-- The input is to move the focus, and there is a widget to take it from. -/
def TakesFocus (s : Session) (input : Input) : Prop :=
  s.state = .opened ∧ input = .focus ∧ ∃ key, s.screen.surface.focused = some key

/-- A move of the focus is refused when the widget is not shown, and the focus is taken away. -/
theorem refused_focus (hopen : s.state = .opened)
    (h : (s.interact id .focus).outcome = .error e) :
    e = .unknownWidget id ∧ s.screen.surface.findWidget s.screen.pool id = none ∧
      (s.interact id .focus).session = { s with screen := s.screen.blur } := by
  rw [interact_eq hopen] at h ⊢
  dsimp only at h ⊢
  split at h
  · cases h
  · rename_i hfocused
    have hfind : s.screen.surface.findWidget s.screen.pool id = none := by
      rw [← Option.not_isSome_iff_eq_none, Option.isSome_iff_exists]
      exact fun hfound => hfocused (Screen.focused_focus_iff.mpr hfound)
    refine ⟨(Except.error.inj h).symm, hfind, ?_⟩
    rw [Screen.focus_eq_blur hfind]

/-- Any other input that is refused is refused before anything is changed. -/
theorem refused_eq_self (hinput : s.state = .opened → input ≠ .focus)
    (h : (s.interact id input).outcome = .error e) : (s.interact id input).session = s := by
  by_cases hopen : s.state = .opened
  · have hacting := acting_interact hopen id input
    generalize s.interact id input = i at hacting h ⊢
    cases hacting with
    | refused => rfl
    | focused => exact absurd rfl (hinput hopen)
    | toggled | chosen | blurred | idle | delivered => cases h
  · rw [interact_of_not_open hopen]

/-- A refused input leaves the session as it was exactly when it does not take the focus from a
widget.  When it does, it is refused for a widget that is not shown, and no widget has the focus. -/
theorem refused_unchanged_iff (h : (s.interact id input).outcome = .error e) :
    ((s.interact id input).session = s ↔ ¬ s.TakesFocus input) ∧
      (s.TakesFocus input → e = .unknownWidget id ∧
        s.screen.surface.findWidget s.screen.pool id = none ∧
        (s.interact id input).session = { s with screen := s.screen.blur }) := by
  have htaken : s.TakesFocus input → e = .unknownWidget id ∧
      s.screen.surface.findWidget s.screen.pool id = none ∧
      (s.interact id input).session = { s with screen := s.screen.blur } := by
    rintro ⟨hopen, rfl, -⟩
    exact refused_focus hopen h
  refine ⟨⟨fun hsame htakes => ?_, fun hnot => ?_⟩, htaken⟩
  · obtain ⟨-, -, hblurred⟩ := htaken htakes
    obtain ⟨-, -, key, hfocused⟩ := htakes
    have hscreen : s.screen = s.screen.blur := congrArg Session.screen (hsame.symm.trans hblurred)
    rw [hscreen, Screen.focused_blur] at hfocused
    cases hfocused
  · by_cases hfocus : s.state = .opened ∧ input = .focus
    · obtain ⟨hopen, rfl⟩ := hfocus
      obtain ⟨-, -, hblurred⟩ := refused_focus hopen h
      -- nobody has the focus, so that there is nothing to lose
      have hnone : s.screen.surface.focused = none := by
        rw [← Option.not_isSome_iff_eq_none, Option.isSome_iff_exists]
        exact fun hfocused => hnot ⟨hopen, rfl, hfocused⟩
      rw [hblurred, Screen.blur_eq_self hnone]
    · exact refused_eq_self (fun hopen heq => hfocus ⟨hopen, heq⟩) h

/-! ## A field that has the focus -/

/-- The user moves the focus to a field. -/
def fieldFocused : List Stimulus :=
  let field := .page [.obj [("type", .str "text_input"), ("id", .str "name")]]
  [.message (.hello "session" none) 0, .message (.rerun ⟨none, some field, none, none⟩) 0,
    .action ⟨"name", .focus⟩]

/-- The session in which the field has the focus. -/
def filling : Session := (start .default .minimal).after fieldFocused

/-- A click on nothing is refused and changes nothing. -/
theorem refused_unchanged_iff_filling :
    (filling.interact "nobody" .click).outcome = .error (.unknownWidget "nobody") ∧
      (filling.interact "nobody" .click).session = filling := by
  have hrefused : (filling.interact "nobody" .click).outcome =
      .error (.unknownWidget "nobody") := by decide +kernel
  have hnot : ¬ filling.TakesFocus .click := by
    rintro ⟨-, heq, -⟩
    cases heq
  exact ⟨hrefused, (refused_unchanged_iff hrefused).1.mpr hnot⟩

/-- The focus is to go to nothing.  That is refused, and the field has lost the focus. -/
theorem refused_focus_taken :
    filling.Reachable ∧ filling.screen.surface.focused = some "name" ∧
      (filling.interact "nobody" .focus).outcome = .error (.unknownWidget "nobody") ∧
      (filling.interact "nobody" .focus).session.screen.surface.focused = none ∧
      ¬ ∀ s : Session, s.Reachable → ∀ id input e, (s.interact id input).outcome = .error e →
        (s.interact id input).session = s := by
  have hreachable : filling.Reachable := (Reachable.start .default .minimal).after fieldFocused
  have hbefore : filling.screen.surface.focused = some "name" := by decide +kernel
  have hrefused : (filling.interact "nobody" .focus).outcome =
      .error (.unknownWidget "nobody") := by decide +kernel
  have hafter : (filling.interact "nobody" .focus).session.screen.surface.focused = none := by
    decide +kernel
  refine ⟨hreachable, hbefore, hrefused, hafter, fun hall => ?_⟩
  have hsame := hall filling hreachable "nobody" .focus _ hrefused
  rw [hsame, hbefore] at hafter
  cases hafter

end Session

end RemoteUi
