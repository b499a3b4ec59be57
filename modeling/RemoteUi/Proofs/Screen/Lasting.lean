/-
# RemoteUi.Proofs.Screen.Lasting — what holds of every widget that was ever made.

A property of what widgets show is lasting if the first state of a widget has it, and no
description, input or upload takes it away.  Trees make and update widgets, a user and a host change
them, and nothing else does; so a lasting property holds of all widgets of every screen that swaps
and a user lead to, shown or not (`Reached.every`).

`WidgetState.Lasting` lists the four ways in which a state comes about.  Each of them is about one
widget alone, so that who wants to show something of all widgets has only these to look at: that an
uploader has the summary of what it shows, or that a grid has only the edits that it was given.

From there the way is always the same: every operation of a pool keeps what holds of all its widgets
(`WidgetPool.Every`), a build is a sequence of such operations (`Lasting.renderClosed`), a swap is a
build and what exists on the client only (`Lasting.swap`), and between swaps one widget is changed
at most (`Lasting.stirs`).
-/
import RemoteUi.Proofs.Screen.History

namespace RemoteUi

variable {P : WidgetState → Prop}

/-- A property of what widgets show that all there is keeps. -/
structure WidgetState.Lasting (P : WidgetState → Prop) : Prop where
  /-- A widget that is made has it. -/
  ofSpec : ∀ spec, P (.ofSpec spec)
  /-- A description does not take it away. -/
  update : ∀ {state state' : WidgetState} {spec : WidgetSpec}, state.update spec = some state' →
    P state → P state'
  /-- Nor does an input. -/
  interpret : ∀ {w w' : Widget} {input : Input} {message : Option Message},
    w.interpret input = .ok (w', message) → P w.state → P w'.state
  /-- Nor does what was uploaded. -/
  showUploaded : ∀ (files : List UploadedFile) {w : Widget}, P w.state →
    P (Session.showUploaded files w).state

open WidgetState (Lasting)

namespace WidgetPool

variable {p q : WidgetPool} {h : Nat} {w : Widget}

/-- Every widget has the property. -/
def Every (P : WidgetState → Prop) (p : WidgetPool) : Prop :=
  ∀ h w, p.get? h = some w → P w.state

theorem every_empty : empty.Every P := by
  intro h w hw
  have hnone : empty.get? h = none := get?_eq_none_iff.mpr (Nat.zero_le h)
  rw [hnone] at hw
  cases hw

/-- All that counts of a widget is its state. -/
theorem Every.of_map_eq (hp : p.Every P)
    (hq : ∀ h, (q.get? h).map Widget.state = (p.get? h).map Widget.state) : q.Every P := by
  intro h w hw
  have hmap := hq h
  rw [hw, Option.map_some, eq_comm, Option.map_eq_some_iff] at hmap
  obtain ⟨w', hw', heq⟩ := hmap
  exact heq ▸ hp h w' hw'

theorem Every.add (hp : p.Every P) (hw : P w.state) : (p.add w).1.Every P := by
  intro h w' hw'
  rw [get?_add] at hw'
  split at hw'
  · cases hw'
    exact hw
  · exact hp h w' hw'

theorem Every.register (hp : p.Every P) (hw : P w.state) : (p.register w).1.Every P := by
  intro h w' hw'
  rw [get?_register] at hw'
  split at hw'
  · cases hw'
    exact hw
  · exact hp h w' hw'

/-- One widget is changed, and the others are as they were. -/
theorem Every.modify (hp : p.Every P) {f : Widget → Widget}
    (hf : ∀ w, p.get? h = some w → P (f w).state) : (p.modify h f).Every P := by
  intro h' w' hw'
  rw [get?_modify] at hw'
  split at hw'
  · rename_i heq
    obtain ⟨w, hw, rfl⟩ := Option.map_eq_some_iff.mp hw'
    exact hf w (heq ▸ hw)
  · exact hp h' w' hw'

end WidgetPool

namespace WidgetState.Lasting

theorem updated (hP : Lasting P) {w w' : Widget} {fragmentId : String} {head : NodeHead}
    {spec : WidgetSpec} (h : w.update fragmentId head spec = some w') (hw : P w.state) :
    P w'.state := by
  obtain ⟨state, hstate, rfl⟩ := Option.map_eq_some_iff.mp h
  exact hP.update hstate hw

/-- Whichever way a node is met, one widget is made or updated. -/
theorem meets (hP : Lasting P) {b : Build} {fragmentId : String} {head : NodeHead}
    {spec : WidgetSpec} {r : Handle × Build} (hr : b.Meets fragmentId head spec r)
    (hb : b.pool.Every P) : r.2.pool.Every P := by
  -- a widget is made, live or not, or the live one is updated
  cases hr with
  | nameless | repeated =>
    show WidgetPool.Every P (Build.count _ _).pool
    rw [Build.pool_count]
    exact hb.add (hP.ofSpec spec)
  | fresh =>
    show WidgetPool.Every P (Build.count _ _).pool
    rw [Build.pool_count]
    exact hb.register (hP.ofSpec spec)
  | @continued key h old new hid hkey hlookup hold hnew =>
    rw [Build.pool_count]
    exact hb.modify fun _ _ => hP.updated hnew (hb h old hold)

theorem renderClosed (hP : Lasting P) :
    RenderClosed fun _ _ b _ b' => b.pool.Every P → b'.pool.Every P where
  nil := fun _ _ hb => hb
  append := fun hns hms hb => hms (hns hb)
  container := fun _ hns => hns
  markup := fun _ _ _ _ _ hb => hb
  widget := fun fragmentId head spec b => hP.meets (b.widget_meets fragmentId head spec)
  group := fun fragmentId head spec b hb => by
    generalize hr : b.group fragmentId head spec = r
    cases hr ▸ b.group_meets fragmentId head spec with
    | nameless | repeated => exact hb
    | attached a ha hid hkey =>
      rw [Build.pool_count]
      exact hb

/-! ## Screens -/

variable {s t : Screen}

/-- Carrying the focus over changes no state. -/
theorem swap (hP : Lasting P) {f : Fragment} {now : Nat} {report : SwapReport}
    (h : s.swap f now = .ok (t, report)) (hs : s.pool.Every P) : t.pool.Every P := by
  have hbuilt : (s.built f).build.pool.Every P := by
    rw [Screen.built, f.build_build]
    exact hP.renderClosed.render f.id f.root (Build.start s.pool s.groups) hs
  exact hbuilt.of_map_eq fun h' => (Screen.alike_swap h).map_eq (fun _ => rfl) h'

theorem stirs (hP : Lasting P) (h : s.Stirs t) (hs : s.pool.Every P) : t.pool.Every P := by
  -- an input and an upload change one widget, and the focus is no part of a state
  cases h with
  | @input key handle w w' input message hlive hw hinput hinterpret =>
    exact hs.modify fun _ _ => hP.interpret hinterpret (hs handle w hw)
  | @uploaded key handle files hlive =>
    exact hs.modify fun w hw => hP.showUploaded files (hs handle w hw)
  | focus key =>
    obtain ⟨focused, pool, hpool, hfocus⟩ := s.surface.focus_eq s.pool key
    rw [Screen.focus, hfocus]
    exact hs.of_map_eq fun h' => hpool.map_eq (fun _ => rfl) h'
  | blur =>
    obtain ⟨pool, hpool, hblur⟩ := s.surface.blur_eq s.pool
    rw [Screen.blur, hblur]
    exact hs.of_map_eq fun h' => hpool.map_eq (fun _ => rfl) h'
  | ticked now =>
    unfold Screen.tick
    split <;> exact hs
  | completed ticket =>
    unfold Screen.complete
    split <;> exact hs
  | toggled | chosen | settled | scrolled | faded => exact hs

end WidgetState.Lasting

/-- What lasts holds of every widget that swaps and a user lead to. -/
theorem Screen.Reached.every {s : Screen} {admits : Screen → Fragment → Prop}
    (hs : s.Reached admits) (hP : Lasting P) : s.pool.Every P := by
  induction hs with
  | start strategy => exact WidgetPool.every_empty
  | @swap s f now hs hf ih =>
    rcases s.attempt_eq f now with heq | ⟨report, hswap⟩
    · exact heq.symm ▸ ih
    · exact hP.swap hswap ih
  | stir hs ht ih => exact hP.stirs ht ih

end RemoteUi
