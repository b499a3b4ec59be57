/-
# RemoteUi.Proofs.Screen.History — the screens that a user can get to.

Between two swaps a user edits widgets and groups, moves the focus and scrolls, and fragments fade.
Each of these is one way to stir a screen (`Stirs`), told by the function that does it.  A history
is any sequence of swaps and stirs from an empty screen (`Reached`), and it says of each swap that
the tree was admitted: what is to be assumed of trees is a parameter, so that each property can ask
for as little as it needs.

None of the stirs makes, retires or moves a widget (`Stirs.steady`): the same handles are shown, and
live under the same identities.  So what swaps have in common with them is told once:

* live widgets stay sound along every history (`Reached.sound`), whatever the trees;
* where trees come with identities of their own, the surface and the index of live widgets stay
  together (`Reached.coherent`).

The screens of a session have such a history (`Session.Reachable.reached`).  A step that shows an
answer swaps a tree of it in (`swapped_step`), and every other step stirs the screen at most
(`stirred_step`); the second half of the module goes through the functions of a session for that,
from the innermost to the step.  `Session.Reachable.reached_of` is how a property of screens is
carried over to sessions: the trees that a session swaps in are those that it has read.
-/
import Mathlib.Logic.Relation
import RemoteUi.Proofs.Screen.Coherence
import RemoteUi.Proofs.Session.Reachable

namespace RemoteUi

open Rendered (ofLeaves_handle?)

namespace Screen

/-! ## Between swaps -/

/-- What happens to a screen between swaps. -/
inductive Stirs (s : Screen) : Screen → Prop where
  | input {key : String} {h : Handle} {w w' : Widget} {input : Input} {message : Option Message}
    (hlive : s.pool.lookup key = some h) (hw : s.pool.get? h = some w)
    (hinput : input.movesFocus = false) (hinterpret : w.interpret input = .ok (w', message)) :
    Stirs s { s with pool := s.pool.set h w' }
  /-- An uploader shows what was uploaded. -/
  | uploaded {key : String} {h : Handle} (files : List UploadedFile)
    (hlive : s.pool.lookup key = some h) :
    Stirs s { s with pool := s.pool.modify h (Session.showUploaded files) }
  | toggled {key value : String} {groups : Groups} (h : s.groups.toggle? key value = some groups) :
    Stirs s { s with groups := groups }
  | chosen {key value : String} {groups : Groups} (h : s.groups.select? key value = some groups) :
    Stirs s { s with groups := groups }
  /-- The changes of groups are taken. -/
  | settled : Stirs s { s with groups := s.groups.settled }
  | focus (key : String) : Stirs s (s.focus key)
  | blur : Stirs s s.blur
  | scrolled (id : String) (offset : Nat) :
    Stirs s { s with surface := s.surface.scrollTo id offset }
  /-- A request or a download has a fragment dimmed. -/
  | faded (id : String) (opacity : Float32) :
    Stirs s { s with surface := s.surface.fade id opacity }
  | ticked (now : Nat) : Stirs s (s.tick now).1
  | completed (ticket : SwapTicket) : Stirs s (s.complete ticket).1

/-- The same widgets are shown and live, under the same identities. -/
structure Steady (s t : Screen) : Prop where
  handles_eq : t.surface.handles = s.surface.handles
  lookup_eq : ∀ key, t.pool.lookup key = s.pool.lookup key
  keys_eq : ∀ h, (t.pool.get? h).map Widget.key = (s.pool.get? h).map Widget.key

/-- The screens that swaps and a user lead to, each swap in a way that is admitted. -/
inductive Reached (admits : Screen → Fragment → Prop) : Screen → Prop where
  | start (strategy : FadeStrategy) : Reached admits (empty strategy)
  | swap {s : Screen} {f : Fragment} (now : Nat) (hs : Reached admits s)
    (hf : s.Accepts f.id → admits s f) : Reached admits (s.attempt f now)
  | stir {s t : Screen} (hs : Reached admits s) (ht : s.Stirs t) : Reached admits t

variable {s t : Screen}

namespace Steady

theorem refl (s : Screen) : s.Steady s := ⟨rfl, fun _ => rfl, fun _ => rfl⟩

theorem key_eq (h : s.Steady t) (handle : Handle) : t.pool.key handle = s.pool.key handle := by
  rw [WidgetPool.key, h.keys_eq, WidgetPool.key]

/-- There are as many widgets as before, since a handle leads to a widget or to none as it did. -/
theorem lt_size_iff (h : s.Steady t) {handle : Nat} :
    handle < t.pool.widgets.size ↔ handle < s.pool.widgets.size := by
  have hnone : t.pool.get? handle = none ↔ s.pool.get? handle = none := by
    rw [← Option.map_eq_none_iff (f := Widget.key), h.keys_eq, Option.map_eq_none_iff]
  rw [WidgetPool.get?_eq_none_iff, WidgetPool.get?_eq_none_iff] at hnone
  omega

theorem shownIds_eq (h : s.Steady t) : t.shownIds = s.shownIds := by
  rw [shownIds, shownIds, h.handles_eq, funext h.key_eq]

theorem sound (h : s.Steady t) (hs : s.pool.Sound) : t.pool.Sound :=
  hs.of_key_eq h.lookup_eq h.keys_eq

theorem sound_screen (h : s.Steady t) (hs : s.Sound) : t.Sound := by
  refine ⟨h.sound hs.pool, fun handle hh => ?_⟩
  rw [h.handles_eq] at hh
  exact h.lt_size_iff.mpr (hs.present handle hh)

/-- All that coherence speaks of is what a steady change leaves as it is. -/
theorem coherent (h : s.Steady t) (hs : s.Coherent) : t.Coherent where
  sound := h.sound_screen hs.sound
  named := (h.lookup_eq "").trans hs.named
  live := fun handle hh hkey => by
    rw [h.handles_eq] at hh
    rw [h.key_eq] at hkey ⊢
    rw [h.lookup_eq]
    exact hs.live handle hh hkey
  shown := fun key handle hlive => by
    rw [h.lookup_eq] at hlive
    rw [h.handles_eq]
    exact hs.shown key handle hlive
  once := by
    rw [h.handles_eq]
    exact hs.once

/-- A change of what exists on the client only. -/
theorem of_alike {pool : WidgetPool} {focused : Option String} (h : s.pool.Alike pool) :
    s.Steady { s with surface := { s.surface with focused := focused }, pool := pool } :=
  ⟨rfl, h.lookup_eq, fun handle => h.map_eq (fun _ => rfl) handle⟩

theorem of_handles_eq {surface : Surface} (h : surface.handles = s.surface.handles)
    (transitions : Table Transition) :
    s.Steady { s with surface := surface, transitions := transitions } :=
  ⟨h, fun _ => rfl, fun _ => rfl⟩

end Steady

theorem handles_faded (duration now : Nat) (transitions : List (String × Transition))
    (surface : Surface) : (faded transitions duration now surface).handles = surface.handles :=
  faded_eq (fun _ id opacity => Surface.leaves_fade ofLeaves_handle? id opacity) _ _ _ _

/-- Nothing but a swap makes, retires or moves a widget. -/
theorem Stirs.steady (h : s.Stirs t) : s.Steady t := by
  -- each case names what it leaves alone: the shown handles, the index, and the identities in the
  -- pool
  cases h with
  | @input key handle w w' input message hlive hw hinput hinterpret =>
    refine ⟨rfl, fun key => s.pool.lookup_set handle w' key, fun h' => ?_⟩
    rw [WidgetPool.get?_set hw]
    split
    · rename_i heq
      rw [← heq, hw, Option.map_some, Option.map_some, Widget.key_interpret hinterpret]
    · rfl
  | @uploaded key handle files hlive =>
    refine ⟨rfl, fun key => s.pool.lookup_modify handle key _, fun h' => ?_⟩
    rw [WidgetPool.get?_modify]
    split
    · cases s.pool.get? h' with
      | none => rfl
      | some w => exact congrArg some (Session.key_showUploaded files w)
    · rfl
  | toggled | chosen | settled => exact ⟨rfl, fun _ => rfl, fun _ => rfl⟩
  | focus key =>
    obtain ⟨focused, pool, hpool, hfocus⟩ := s.surface.focus_eq s.pool key
    rw [Screen.focus, hfocus]
    exact .of_alike hpool
  | blur =>
    obtain ⟨pool, hpool, hblur⟩ := s.surface.blur_eq s.pool
    rw [Screen.blur, hblur]
    exact .of_alike hpool
  | scrolled id offset =>
    have hhandles : (s.surface.scrollTo id offset).handles = s.surface.handles :=
      Surface.leaves_edit_box ofLeaves_handle? fun _ => rfl
    exact .of_handles_eq hhandles _
  | faded id opacity => exact .of_handles_eq (Surface.leaves_fade ofLeaves_handle? id opacity) _
  | ticked now =>
    unfold tick
    split
    · exact .refl s
    · exact .of_handles_eq (handles_faded _ now _ _) _
  | completed ticket =>
    unfold complete
    split
    · exact .of_handles_eq (Surface.leaves_fade ofLeaves_handle? _ 1) _
    · exact .refl s

/-! ## Histories -/

namespace Reached

variable {admits : Screen → Fragment → Prop} {f : Fragment}

/-- A swap that was accepted, as one step of a history. -/
theorem swap_ok {now : Nat} {report : SwapReport} (hs : s.Reached admits)
    (hf : s.Accepts f.id → admits s f) (h : s.swap f now = .ok (t, report)) :
    t.Reached admits := by
  have hattempt : s.attempt f now = t := by rw [attempt, h]
  exact hattempt ▸ hs.swap now hf

/-- What admits more trees has more histories. -/
theorem mono {admits' : Screen → Fragment → Prop} (hs : s.Reached admits)
    (hadmits : ∀ s f, admits s f → admits' s f) : s.Reached admits' := by
  induction hs with
  | start strategy => exact .start strategy
  | swap now hs hf ih => exact ih.swap now fun haccepts => hadmits _ _ (hf haccepts)
  | stir hs ht ih => exact ih.stir ht

/-- Any number of stirs in a row. -/
theorem stirs (hs : s.Reached admits) (h : Relation.ReflTransGen Stirs s t) : t.Reached admits := by
  induction h with
  | refl => exact hs
  | tail _ hlast ih => exact ih.stir hlast

theorem sound_screen (hs : s.Reached admits) : s.Sound := by
  induction hs with
  | start strategy => exact sound_empty strategy
  | @swap s f now hs hf ih =>
    -- a swap that is refused leaves the screen as it is
    rcases s.attempt_eq f now with heq | ⟨report, hswap⟩
    · exact heq.symm ▸ ih
    · exact ih.swap hswap
  | stir hs ht ih => exact ht.steady.sound_screen ih

theorem sound (hs : s.Reached admits) : s.pool.Sound :=
  hs.sound_screen.pool

theorem coherent (hs : s.Reached Admits) : s.Coherent := by
  induction hs with
  | start strategy => exact coherent_empty strategy
  | @swap s f now hs hf ih =>
    rcases s.attempt_eq f now with heq | ⟨report, hswap⟩
    · exact heq.symm ▸ ih
    · exact ih.swap (hf (swap_accepts hswap)) hswap
  | stir hs ht ih => exact ht.steady.coherent ih

end Reached

end Screen

/-! ## The screens of a session -/

namespace Session

variable {s t u : Session} {x : Stimulus} {response r : Response} {now : Nat}

/-- Nothing has happened to the screen but what happens between swaps. -/
def Stirred (s t : Session) : Prop :=
  Relation.ReflTransGen Screen.Stirs s.screen t.screen

theorem Stirred.refl (s : Session) : s.Stirred s := Relation.ReflTransGen.refl

theorem Stirred.trans (hst : s.Stirred t) (htu : t.Stirred u) : s.Stirred u :=
  Relation.ReflTransGen.trans hst htu

theorem Stirred.of_stirs (h : s.screen.Stirs t.screen) : s.Stirred t :=
  Relation.ReflTransGen.single h

/-- It is all about the screen. -/
theorem Stirred.of_screen_eq (h : t.screen = s.screen) : s.Stirred t := by
  rw [Stirred, h]

theorem stirred_report (s : Session) (ds : List Diagnostic) : s.Stirred (s.report ds) := by
  rw [report_eq]
  exact .of_screen_eq rfl

/-- A request dims the fragment of its first event, if it has one. -/
theorem stirred_sendEvents (s : Session) (events : List Event) :
    s.Stirred (s.sendEvents events).1 := by
  unfold sendEvents
  dsimp only
  split
  · exact s.stirred_report _
  · cases events with
    | nil => exact .of_screen_eq rfl
    | cons e rest => exact .of_stirs (.faded e.fragmentId pendingOpacity)

/-- A download dims the fragment that it is asked for from. -/
theorem stirred_startDownload (s : Session) (widgetId fragmentId fileName : String) :
    s.Stirred (s.startDownload widgetId fragmentId fileName) := by
  unfold startDownload
  split
  · exact .refl s
  · dsimp only
    split
    · exact .of_screen_eq rfl
    · split
      · exact .of_screen_eq rfl
      · exact .of_stirs (.faded fragmentId pendingOpacity)

theorem stirred_perform (s : Session) (message : Message) : s.Stirred (s.perform message) := by
  cases message with
  | downloadRequested widgetId fragmentId fileName =>
    exact s.stirred_startDownload widgetId fragmentId fileName
  | filesSelected key widgetId fragmentId multiple files =>
    unfold perform upload
    dsimp only
    split
    · rename_i handle hlive
      split
      · exact .of_screen_eq rfl
      · exact .of_stirs (.uploaded _ hlive)
    · exact .of_screen_eq rfl
  | clicked | valueChanged | cellEdited => exact .of_screen_eq rfl

/-- Messages are carried out one after the other, and each stirs the screen at most. -/
theorem stirred_dispatch (s : Session) : s.Stirred s.dispatch :=
  s.dispatch_keeps (fun t m ht => ht.trans (t.stirred_perform m)) (.of_screen_eq rfl)

theorem stirred_deliver {id : String} {input : Input} (hinput : input.movesFocus = false)
    (h : s.deliver id input = .ok t) : s.Stirred t := by
  obtain ⟨handle, w, w', message, hlive, hw, hinterpret, rfl⟩ := deliver_ok h
  have hset : s.Stirred { s with
      screen := { s.screen with pool := s.screen.pool.set handle w' }
      messages := s.messages ++ message.toList } :=
    .of_stirs (.input hlive hw hinput hinterpret)
  exact hset.trans (stirred_dispatch _)

theorem Acting.stirred {id : String} {input : Input} {i : Interaction} (h : s.Acting id input i) :
    s.Stirred i.session := by
  cases h with
  | refused | idle => exact .refl s
  | toggled hgroups => exact .of_stirs (.toggled hgroups)
  | chosen hgroups => exact .of_stirs (.chosen hgroups)
  | focused outcome => exact .of_stirs (.focus id)
  | blurred => exact .of_stirs .blur
  | delivered hinput hdelivered => exact stirred_deliver hinput hdelivered

theorem stirred_interact (s : Session) (id : String) (input : Input) :
    s.Stirred (s.interact id input).session := by
  by_cases hopen : s.state = .opened
  · exact (acting_interact hopen id input).stirred
  · rw [interact_of_not_open hopen]
    exact .refl s

/-- A frame brings fading up to date, takes the changes of groups, and may dim a fragment. -/
theorem stirred_animationFrame (s : Session) (now : Nat) : s.Stirred (s.animationFrame now).1 := by
  have hframe : ∀ gathering, s.Stirred { s with
      screen := { (s.screen.tick now).1 with groups := (s.screen.tick now).1.groups.settled }
      gathering := gathering } := fun gathering => .tail (.single (.ticked now)) .settled
  unfold animationFrame
  dsimp only
  split
  · exact hframe s.gathering
  · split
    · exact hframe []
    · exact (hframe []).trans (stirred_sendEvents _ _)

/-- A tree that is shown has been swapped in. -/
theorem Rendering.swapped (h : s.Rendering response now (t, true)) :
    ∃ f report, response.Shows f ∧ s.screen.swap f now = .ok (t.screen, report) := by
  cases h with
  | shown calls id widgets groups hcalls hf hswap => exact ⟨_, _, hf, hswap⟩

/-- A tree that is not shown leaves the screen as it is, though the host may have been told of it.
-/
theorem Rendering.screen_eq (h : s.Rendering response now (t, false)) : t.screen = s.screen := by
  cases h with
  | skipped calls hcalls hnone => rfl

theorem Handling.swapped (h : s.Handling response now t (some r)) :
    ∃ f report, r.Shows f ∧ s.screen.swap f now = .ok (t.screen, report) := by
  cases h with
  | shown hkind hrender => exact hrender.swapped
  | replayed hkind hcached hrender => exact hrender.swapped

theorem Handling.screen_eq (h : s.Handling response now t none) : t.screen = s.screen := by
  cases h with
  | missed hkind hrender => exact hrender.screen_eq
  | lapsed hkind hcached hrender => exact hrender.screen_eq
  | superseded | acknowledged | failed => rfl

/-- A step that shows an answer swaps its tree in. -/
theorem swapped_step (h : s.shown x = some r) :
    ∃ f now report, r.Shows f ∧ s.screen.swap f now = .ok ((s.step x).screen, report) := by
  cases hheard : s.heard x with
  | none =>
    rw [shown, hheard] at h
    cases h
  | some heard =>
    obtain ⟨response, now⟩ := heard
    have hhandled := handling_step hheard
    rw [h] at hhandled
    obtain ⟨f, report, hf, hswap⟩ := hhandled.swapped
    exact ⟨f, now, report, hf, hswap⟩

/-- Every other step stirs the screen at most. -/
theorem stirred_step (h : s.shown x = none) : s.Stirred (s.step x) := by
  cases hheard : s.heard x with
  | some heard =>
    have hhandled := handling_step hheard
    rw [h] at hhandled
    exact .of_screen_eq hhandled.screen_eq
  | none =>
    -- what is left are the steps at which no answer is heard
    cases s.way_step x with
    | opening | drain => exact .of_screen_eq rfl
    | frame now => exact s.stirred_animationFrame now
    | @action a => exact s.stirred_interact a.id a.input
    | disregarded hx devMode heq =>
      rw [heq]
      exact .of_screen_eq rfl
    | reloaded hopen heq | lost hopen heq =>
      rw [heq]
      exact .of_screen_eq rfl
    | greeted hopen hid heq =>
      rw [heq]
      refine .trans ?_ (stirred_sendEvents _ [])
      exact .of_screen_eq rfl
    | answered hopen => cases (heard_rerun hopen _ _).symm.trans hheard

variable {admits : Screen → Fragment → Prop}

/-- A step leads on with a history, if the tree that it shows may be swapped in. -/
theorem reached_step (hs : s.screen.Reached admits)
    (hx : ∀ r f, s.shown x = some r → r.Shows f → s.screen.Accepts f.id → admits s.screen f) :
    (s.step x).screen.Reached admits := by
  cases hshown : s.shown x with
  | none => exact hs.stirs (stirred_step hshown)
  | some r =>
    obtain ⟨f, now, report, hf, hswap⟩ := swapped_step hshown
    exact hs.swap_ok (hx r f hshown hf) hswap

/-- Trees are only ever swapped in as they are read. -/
theorem Reachable.reached_of (hs : s.Reachable)
    (hadmits : ∀ (s : Screen) (f : Fragment), f.WellFormed → admits s f) :
    s.screen.Reached admits := by
  induction hs with
  | start config host => exact .start config.fade
  | step hs x ih => exact reached_step ih fun r f _ hf _ => hadmits _ f hf.wellFormed

/-- What a session shows has come about by swaps and by what a user can do. -/
theorem Reachable.reached (hs : s.Reachable) : s.screen.Reached fun _ _ => True :=
  hs.reached_of fun _ _ _ => trivial

end Session

end RemoteUi
