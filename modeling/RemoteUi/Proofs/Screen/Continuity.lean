/-
# RemoteUi.Proofs.Screen.Continuity — widgets go on across swaps.

A swap whose tree has a node of the identity and kind of a live widget shows that very widget at the
node's place, and leaves alone what belongs to the user: focus and scroll offset, the cells of a
grid, the text of an editor, the selection of an uploader; the caret is moved only into a text that
the server changed (`continues_across_swap`).

* What belongs to the user is split in two: what every widget has, and what is in the state of its
  kind (`Possession`).  `Continues` compares all of it before and after, and asks for one update
  more.
* Where the caret belongs is told by the two texts (`KeepsCaret`): where it was if they are the
  same, and otherwise in the new text, at its end if it is too short.
* The widget passes through the build, where it is updated (`continues_update`), and through the
  focus being carried over, which takes the focus and gives it back.  That it had the focus in the
  first place is an invariant of every history (`Reached.focusHeld`).

Where two nodes of a tree have the identity, the first one shows the widget, which is why the
statement speaks of the first.  The place is told by the number of the node among the widgets of the
tree, and so at any depth.
-/
import RemoteUi.Proofs.Screen.Focus

namespace RemoteUi

open Rendered (leaves handle? ofLeaves_handle?)

/-! ## What belongs to the user -/

/-- What belongs to the user once a widget exists. -/
inductive Possession where
  | nothing
  | cells (columns : List Column) (rows : List GridRow)
  | text (text : String)
  | files (selection : List UploadedFile) (summary : Option String)

/-- What of a state belongs to the user. -/
def WidgetState.possession : WidgetState → Possession
  | .dataGrid g => .cells g.columns g.rows
  | .codeEditor text _ => .text text
  | .fileUploader u => .files u.selection u.summary
  | _ => .nothing

/-- Where the caret belongs: where it was, unless it is in a field whose text the server changed.
There it is where it was as long as the new text reaches that far, and at the end of it otherwise. -/
def WidgetState.KeepsCaret (before after : WidgetState) (caret caret' : Option Nat) : Prop :=
  match before, after with
  | .textField old _, .textField new _ =>
    if old = new then caret' = caret
    else caret' = caret.map fun c => if c ≤ new.length then c else new.length
  | _, _ => caret' = caret

namespace Widget

/-- The widget goes on as another that was updated once and has all that is the user's. -/
structure Continues (w w' : Widget) : Prop where
  key : w'.key = w.key
  focused : w'.touched.focused = w.touched.focused
  scrollTop : w'.touched.scrollTop = w.touched.scrollTop
  caret : w.state.KeepsCaret w'.state w.touched.caret w'.touched.caret
  possession : w'.state.possession = w.state.possession
  updates : w'.updates = w.updates + 1

end Widget

/-- A caret that is clamped is where it belongs. -/
theorem WidgetState.keepsCaret_clampCaret (before after : WidgetState) (caret : Option Nat) :
    before.KeepsCaret after caret (before.clampCaret after caret) := by
  unfold KeepsCaret clampCaret
  split
  · rename_i old p new p'
    dsimp only
    split
    · rfl
    · apply congrArg (fun f => caret.map f)
      funext c
      exact Nat.min_def
  · rename_i hfields
    split
    · rename_i old p new p'
      exact absurd rfl (hfields old p new p' rfl)
    · rfl

/-- An update leaves alone what is the user's. -/
theorem WidgetState.possession_update {before after : WidgetState} {spec : WidgetSpec}
    (h : before.update spec = some after) : after.possession = before.possession := by
  cases before <;> cases spec <;> cases h <;> rfl

/-- A description of the kind of a state is an update of it. -/
theorem WidgetState.update_of_kind {state : WidgetState} {spec : WidgetSpec}
    (h : spec.kind = state.kind) : ∃ state', state.update spec = some state' := by
  cases state <;> cases spec <;> first | exact ⟨_, rfl⟩ | cases h

namespace Widget

variable {w w' : Widget}

/-- A widget is updated by a description of its kind. -/
theorem update_of_kind {spec : WidgetSpec} (h : spec.kind = w.kind) (fragmentId : String)
    (head : NodeHead) : ∃ w', w.update fragmentId head spec = some w' := by
  obtain ⟨state, hstate⟩ := WidgetState.update_of_kind h
  exact ⟨_, congrArg (Option.map _) hstate⟩

/-- A widget goes on through an update. -/
theorem continues_update {fragmentId : String} {head : NodeHead} {spec : WidgetSpec}
    (h : w.update fragmentId head spec = some w') : w.Continues w' := by
  obtain ⟨state, hstate, rfl⟩ := Option.map_eq_some_iff.mp h
  exact ⟨rfl, rfl, rfl, WidgetState.keepsCaret_clampCaret _ _ _,
    WidgetState.possession_update hstate, rfl⟩

end Widget

/-! ## Widgets that go on -/

/-- A fragment with a widget in it has a container at its root. -/
theorem Fragment.container_of_placed {f : Fragment} {p : Placed} (hp : p ∈ f.placed) :
    ∃ head own children, f.root = .container head own children := by
  unfold placed at hp
  split at hp
  · rename_i head own children hroot
    exact ⟨head, own, children, hroot⟩
  · cases hp

namespace Screen

variable {s s' : Screen} {f : Fragment} {now : Nat} {report : SwapReport}

/-- A live widget whose identity and kind some node of the next tree has goes on there: it is shown
in the place of the first such node, and has all that is the user's. -/
theorem continues_across_swap (hs : s.Reached Admits) (h : s.swap f now = .ok (s', report))
    {i : Nat} {p : Placed} {key : String} {handle : Handle} {w : Widget}
    (hp : f.placed[i]? = some p) (hid : p.head.identity = some key)
    (hfirst : ∀ q ∈ f.placed.take i, q.head.identity ≠ some key)
    (hlive : s.pool.lookup key = some handle) (hw : s.pool.get? handle = some w)
    (hkind : p.spec.kind = w.kind) :
    ∃ shown w', s'.surface.fragment? f.id = some shown ∧ shown.handles[i]? = some handle ∧
      s'.pool.lookup key = some handle ∧ s'.pool.get? handle = some w' ∧ w.Continues w' := by
  have hsound := hs.coherent.sound
  obtain ⟨head, own, children, hroot⟩ := Fragment.container_of_placed (List.mem_of_getElem? hp)
  have hplaced : f.placed = Node.placedAll (effectiveFragment f.id own) children := by
    rw [Fragment.placed, hroot]
  have hmem : key ∈ f.widgetKeys := by
    rw [Fragment.widgetKeys, hroot, Node.widgetKeys_container,
      Node.mem_widgetKeys_iff (effectiveFragment f.id own), ← hplaced]
    exact ⟨p, List.mem_of_getElem? hp, hid⟩
  -- the build updates the widget in place
  rw [hplaced] at hp hfirst
  have hmade := f.build_placesMade s.groups hsound.pool hroot
  obtain ⟨new, hnew⟩ := Widget.update_of_kind hkind p.fragmentId p.head
  have hcontinues := Widget.continues_update hnew
  obtain ⟨hhandle, hlookup, hget⟩ := hmade.resumed i key handle new
    ⟨⟨p, w, hp, hid, hw, hnew⟩, hfirst, List.not_mem_nil, hlive⟩
  -- the focus is given to it again only if it had it
  have hwidget : ∃ w', s'.pool.get? handle = some w' ∧ w.Continues w' := by
    cases refocusing_swap h with
    | apart _ hget' | dropped _ hget' => exact ⟨new, (hget' handle).trans hget, hcontinues⟩
    | @again id handle' hbefore _ hne _ hkey hget' =>
      rw [hget', WidgetPool.get?_setFocused]
      by_cases heq : handle' = handle
      · obtain rfl := heq
        have hkey' : (s.built f).build.pool.key handle' = key := hmade.widgets.sound.key_eq hlookup
        obtain rfl : id = key := hkey.symm.trans hkey'
        obtain ⟨_, _, hlive', hw', hflag⟩ := hs.focusHeld id hbefore hne
        obtain rfl := Option.some.inj (hlive.symm.trans hlive')
        obtain rfl := Option.some.inj (hw.symm.trans hw')
        rw [if_pos rfl]
        exact ⟨_, congrArg (Option.map _) hget, { hcontinues with focused := hflag.symm }⟩
      · rw [if_neg heq]
        exact ⟨new, hget, hcontinues⟩
  obtain ⟨w', hw', hcontinues'⟩ := hwidget
  obtain ⟨opacity, hshown⟩ := fragment?_swap h
  refine ⟨_, w', hshown, ?_, ?_, hw', hcontinues'⟩
  · have hleaves := leaves_incoming ofLeaves_handle? (s.built f) (s.surface.fragment? f.id)
    exact (congrArg (fun hs => hs[i]?) hleaves).trans hhandle
  · rw [lookup_swap h, if_neg fun hgone => (hsound.mem_goneIds.mp hgone).2 hmem]
    exact hlookup

/-- A field that has the focus, and a text that was typed into it. -/
def typedField : Widget :=
  ⟨"name", some "name", "main", none, none, [], ⟨true, some 5, 0⟩, .textField "typed" "", 0⟩

/-- The field beside an editor, as they are first described. -/
def typingFirst : Fragment :=
  ⟨"main", .container (.ofId none) (some "main")
    [.widget (.ofId (some "name")) (.textField none ""),
      .widget (.ofId (some "code")) (.codeEditor "" false)]⟩

/-- The screen once the text was typed. -/
def typing : Screen :=
  let s := ((empty .instant).attempt typingFirst 0).focus "name"
  { s with pool := s.pool.set 0 typedField }

/-- The server has another text for the field, which it puts after the editor and into a fragment of
its own. -/
def typingNext : Fragment :=
  ⟨"main", .container (.ofId none) (some "main") [.container (.ofId none) (some "side")
    [.widget (.ofId (some "code")) (.codeEditor "" true),
      .widget (.ofId (some "name")) (.textField (some "abc") "hint")]]⟩

/-- The screen is reached by a tree, the focus and an input. -/
theorem reached_typing : typing.Reached Admits := by
  have hshown : ((empty .instant).attempt typingFirst 0).Reached Admits :=
    .swap 0 (.start .instant) fun _ => ⟨⟨⟨_, _, _, rfl⟩, by decide⟩, by decide, by decide⟩
  have hinterpret : Widget.interpret
      ⟨"name", some "name", "main", none, none, [], ⟨true, none, 0⟩, .textField "" "", 0⟩
      (.commitText "typed") =
        .ok (typedField, some (.valueChanged "name" "main" none (.str "typed"))) := rfl
  have hlive : (((empty .instant).attempt typingFirst 0).focus "name").pool.lookup "name" =
      some 0 := by
    decide
  exact (hshown.stir (.focus "name")).stir (.input hlive rfl rfl hinterpret)

/-- The field goes on in its new place, still with the focus.  The caret, which was put after the
fifth character, is at the end of the new text, which has three. -/
theorem continues_across_swap_typing :
    typing.pool.lookup "name" = some 0 ∧ typing.pool.get? 0 = some typedField ∧
      ∃ shown w', (typing.attempt typingNext 1).surface.fragment? "main" = some shown ∧
        shown.handles[1]? = some 0 ∧ (typing.attempt typingNext 1).pool.lookup "name" = some 0 ∧
        (typing.attempt typingNext 1).pool.get? 0 = some w' ∧ typedField.Continues w' ∧
        w'.touched.focused = true ∧ w'.touched.caret = some 3 ∧
        w'.state = .textField "abc" "hint" := by
  have hlive : typing.pool.lookup "name" = some 0 := by decide
  have hw : typing.pool.get? 0 = some typedField := rfl
  have haccepts : typing.Accepts typingNext.id := Or.inr ⟨_, rfl⟩
  obtain ⟨report, hswap⟩ := swap_attempt haccepts
  obtain ⟨shown, w', hshown, hhandle, hlive', hw', hcontinues⟩ :=
    continues_across_swap (i := 1) reached_typing hswap rfl rfl (by decide) hlive hw rfl
  have hstate : w'.state = .textField "abc" "hint" := by
    have hafter : ((typing.attempt typingNext 1).pool.get? 0).map Widget.state =
        some (.textField "abc" "hint") := rfl
    rw [hw'] at hafter
    exact Option.some.inj hafter
  -- where the caret is follows from the two texts
  have hcaret : typedField.state.KeepsCaret w'.state (some 5) w'.touched.caret := hcontinues.caret
  rw [hstate] at hcaret
  exact ⟨hlive, hw, shown, w', hshown, hhandle, hlive', hw', hcontinues, hcontinues.focused, hcaret,
    hstate⟩

end Screen

end RemoteUi
