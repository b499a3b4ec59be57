/-
# RemoteUi.Proofs.Screen.Focus — how the focus moves.

The focus is stored twice: the surface names the identity that has it, and every widget has a flag.
The two are written by different functions, so that it has to be shown that they go together.

To move the focus is to look for a widget among those that are shown (`focus_found`,
`focus_not_found`).  It is taken from the one that has it in any case, so that moving it to what is
not shown is the same as taking it away (`focus_eq_blur`).

A swap takes the focus from a widget that leaves, and gives it back to one of the same identity.
`Refocusing` tells the three ways in which this comes out, with what happens to the flags:

* `apart`: nothing that the fragment showed had it, and it stays where it is;
* `dropped`: what had it is gone, and nothing has it from then on;
* `again`: it is taken and given back, to a widget that is shown under the same identity.

The invariant is `FocusHeld`: the widget that the surface takes to have the focus is live and has
it.  It holds along every history (`Reached.focusHeld`), by one lemma for what happens between swaps
(`FocusHeld.stirs`) and one for a swap (`FocusHeld.swap`).  Both use that screens are coherent,
since the surface looks among what is shown and the flag is set on what is live.
-/
import RemoteUi.Proofs.Screen.History
import RemoteUi.Proofs.Screen.Placement

namespace RemoteUi

open Rendered (ofLeaves_handle?)

namespace Widget

variable {w w' : Widget}

/-- An input that does not move the focus leaves it where it is. -/
theorem focused_interpret {input : Input} {message : Option Message}
    (hinput : input.movesFocus = false) (h : w.interpret input = .ok (w', message)) :
    w'.touched.focused = w.touched.focused := by
  unfold interpret at h
  split at h
  -- of all inputs only focus and blur set the flag
  case h_1 | h_2 => cases hinput
  case h_4 => split at h <;> cases h <;> rfl
  case h_9 =>
    unfold editCell at h
    split at h
    · cases h
    · split at h
      · cases h
      · split at h <;> cases h <;> rfl
  all_goals cases h <;> rfl

end Widget

/-! ## The focus -/

namespace Surface

variable {s : Surface} {pool pool' : WidgetPool} {key : String} {h : Handle}

/-- What is found is shown, and has the identity. -/
theorem findWidget_eq_some (hfind : s.findWidget pool key = some h) :
    h ∈ s.handles ∧ pool.key h = key := by
  unfold findWidget at hfind
  have hany := List.find?_some hfind
  obtain ⟨w, hw, hkey⟩ := (Option.any_eq_true _ _).mp hany
  refine ⟨List.mem_of_find?_eq_some hfind, ?_⟩
  rw [WidgetPool.key_of_get? hw]
  exact of_decide_eq_true hkey

/-- What is shown under a key is found. -/
theorem isSome_findWidget_iff : (s.findWidget pool key).isSome ↔
    ∃ h ∈ s.handles, ∃ w, pool.get? h = some w ∧ w.key = key := by
  simp [findWidget, List.find?_isSome, Option.any_eq_true]

/-- What is found under an identity has to do with identities only. -/
theorem findWidget_alike (s : Surface) (hpool : pool.Alike pool') (key : String) :
    s.findWidget pool' key = s.findWidget pool key := by
  have hany : (fun h => (pool'.get? h).any fun w => decide (w.key = key)) =
      fun h => (pool.get? h).any fun w => decide (w.key = key) := by
    funext h
    have hmap := hpool.map_eq (f := fun w => decide (w.key = key)) (fun _ => rfl) h
    have hid : ∀ o : Option Widget, (o.any fun w => decide (w.key = key)) =
        (o.map fun w => decide (w.key = key)).any id := fun o => by cases o <;> rfl
    rw [hid, hmap, ← hid]
  exact congrArg (List.find? · s.handles) hany

/-- The focus goes to what is found. -/
theorem focus_found (hfind : s.findWidget pool key = some h) : ∃ pool', pool.Alike pool' ∧
    s.focus pool key = ({ s with focused := some key }, pool'.setFocused h true) := by
  obtain ⟨pool', hpool, hblur⟩ := s.blur_eq pool
  have hagain : findWidget { s with focused := none } pool' key = some h :=
    (s.findWidget_alike hpool key).trans hfind
  refine ⟨pool', hpool, ?_⟩
  unfold focus
  rw [hblur]
  dsimp only
  rw [hagain]

/-- Where nothing is found, the focus is taken away and given to none. -/
theorem focus_not_found (hfind : s.findWidget pool key = none) : ∃ pool', pool.Alike pool' ∧
    s.focus pool key = ({ s with focused := none }, pool') := by
  obtain ⟨pool', hpool, hblur⟩ := s.blur_eq pool
  have hagain : findWidget { s with focused := none } pool' key = none :=
    (s.findWidget_alike hpool key).trans hfind
  refine ⟨pool', hpool, ?_⟩
  unfold focus
  rw [hblur]
  dsimp only
  rw [hagain]

end Surface

namespace WidgetPool

theorem get?_setFocused (p : WidgetPool) (h h' : Nat) (focused : Bool) :
    (p.setFocused h focused).get? h' = if h = h'
      then (p.get? h').map fun w => { w with touched := { w.touched with focused := focused } }
      else p.get? h' :=
  p.get?_modify h h' _

/-- What was taken and is given back might as well not have been taken. -/
theorem get?_setFocused_setFocused (p : WidgetPool) (h h' : Nat) (before after : Bool) :
    ((p.setFocused h before).setFocused h after).get? h' = (p.setFocused h after).get? h' := by
  rw [get?_setFocused, get?_setFocused, get?_setFocused]
  split
  · cases p.get? h' <;> rfl
  · rfl

end WidgetPool

namespace Screen

variable {s s' t : Screen} {f : Fragment} {key : String} {now : Nat} {report : SwapReport}

/-- Nothing has the focus once it is taken away. -/
theorem focused_blur (s : Screen) : s.blur.surface.focused = none := by
  obtain ⟨pool, -, hblur⟩ := s.surface.blur_eq s.pool
  rw [Screen.blur, hblur]

/-- Without a widget that has the focus there is nothing to take away. -/
theorem blur_eq_self (h : s.surface.focused = none) : s.blur = s := by
  unfold Screen.blur Surface.blur
  rw [h]

/-- The focus goes to a widget that is shown, and to no other. -/
theorem focused_focus_iff : (s.focus key).surface.focused = some key ↔
    ∃ h, s.surface.findWidget s.pool key = some h := by
  cases hfind : s.surface.findWidget s.pool key with
  | none =>
    obtain ⟨pool, -, hfocus⟩ := Surface.focus_not_found hfind
    rw [Screen.focus, hfocus]
    simp
  | some h =>
    obtain ⟨pool, -, hfocus⟩ := Surface.focus_found hfind
    rw [Screen.focus, hfocus]
    simp

/-- To move the focus to what is not shown is to take it away. -/
theorem focus_eq_blur (h : s.surface.findWidget s.pool key = none) : s.focus key = s.blur := by
  obtain ⟨pool, hpool, hblur⟩ := s.surface.blur_eq s.pool
  have hagain : Surface.findWidget { s.surface with focused := none } pool key = none :=
    (s.surface.findWidget_alike hpool key).trans h
  unfold Screen.focus Screen.blur Surface.focus
  rw [hblur]
  dsimp only
  rw [hagain]

/-- To move the focus to a widget that is shown is to take it away first. -/
theorem focus_eq_of_found {h : Handle} (hfind : s.surface.findWidget s.pool key = some h) :
    s.focus key = { s with
      surface := { s.surface with focused := some key }
      pool := s.blur.pool.setFocused h true } := by
  obtain ⟨pool, hpool, hblur⟩ := s.surface.blur_eq s.pool
  have hagain : Surface.findWidget { s.surface with focused := none } pool key = some h :=
    (s.surface.findWidget_alike hpool key).trans hfind
  unfold Screen.focus Screen.blur Surface.focus
  rw [hblur]
  dsimp only
  rw [hagain]

/-- What becomes of the focus when an outgoing container leaves it to what has been inserted. -/
inductive Carrying (s : Screen) (outgoing : Panel) : Screen → Prop where
  /-- Nothing of the outgoing container had it. -/
  | apart (h : ∀ id, s.surface.focused = some id → id ∉ outgoing.widgetIds s.pool) :
    Carrying s outgoing s
  /-- What had it is gone. -/
  | dropped : Carrying s outgoing { s with surface := { s.surface with focused := none } }
  /-- It is taken and given back. -/
  | again {id : String} {h : Handle} {pool : WidgetPool} (hid : s.surface.focused = some id)
    (hmem : id ∈ outgoing.widgetIds s.pool) (hfind : s.surface.findWidget s.pool id = some h)
    (hget : ∀ h', pool.get? h' = (s.pool.setFocused h true).get? h') :
    Carrying s outgoing { s with pool := pool }

/-- There is no other way for the focus to be carried over. -/
theorem carrying_carryFocus (s : Screen) (outgoing : Panel) (b : Build) :
    s.Carrying outgoing (s.carryFocus outgoing b).1 := by
  unfold carryFocus
  split
  · rename_i hnone
    refine .apart fun id hid hmem => ?_
    rw [hid, Option.filter_some, if_pos (List.contains_iff_mem.mpr hmem)] at hnone
    cases hnone
  · rename_i id hsome
    obtain ⟨hid, hmem⟩ := Option.filter_eq_some_iff.mp hsome
    have hmem := List.contains_iff_mem.mp hmem
    split
    · -- something came in under the identity: the focus is taken from it and given back
      unfold Surface.focus Surface.blur
      rw [hid]
      dsimp only
      -- the widget that gives the focus away is found again under the same identity
      have hagain : Surface.findWidget { s.surface with focused := none }
          (s.surface.flag s.pool id false) id = s.surface.findWidget s.pool id :=
        s.surface.findWidget_alike (s.surface.alike_flag s.pool id false) id
      rw [hagain, Surface.flag]
      cases hfind : s.surface.findWidget s.pool id with
      | none => exact .dropped
      | some h =>
        dsimp only
        have hsurface : ({ s.surface with focused := some id } : Surface) = s.surface := by
          rw [← hid]
        rw [hsurface]
        exact .again hid hmem hfind fun h' => s.pool.get?_setFocused_setFocused h h' false true
    · exact .dropped

/-! ## The focus across a swap -/

/-- What becomes of the focus, and of the widgets once they are built. -/
inductive Refocusing (s : Screen) (f : Fragment) (s' : Screen) : Prop where
  /-- Nothing that the fragment showed had it. -/
  | apart (hfocused : s'.surface.focused = s.surface.focused)
    (hget : ∀ h, s'.pool.get? h = (s.built f).build.pool.get? h)
    (hapart : ∀ id old, s.surface.focused = some id → s.surface.fragment? f.id = some old →
      id ∉ old.widgetIds (s.built f).build.pool)
  | dropped (hfocused : s'.surface.focused = none)
    (hget : ∀ h, s'.pool.get? h = (s.built f).build.pool.get? h)
  | again {id : String} {h : Handle} (hbefore : s.surface.focused = some id)
    (hfocused : s'.surface.focused = some id) (hne : id ≠ "") (hshown : h ∈ s'.surface.handles)
    (hkey : (s.built f).build.pool.key h = id)
    (hget : ∀ h', s'.pool.get? h' = ((s.built f).build.pool.setFocused h true).get? h')

/-- At the end of a swap only opacities and transitions are set. -/
theorem pool_concluded (s : Screen) (id : String) : (s.concluded id).pool = s.pool := by
  unfold concluded
  cases s.strategy <;> rfl

/-- No edit moves the focus. -/
theorem focused_edit (s : Surface) (p : Box → Bool) (f : Panel → Panel) :
    (s.edit p f).focused = s.focused := by
  unfold Surface.edit
  split <;> rfl

theorem focused_replace (s : Surface) (id : String) (incoming : Panel) :
    (s.replace id incoming).focused = s.focused := by
  unfold Surface.replace
  split
  · rfl
  · exact focused_edit s _ _

theorem focused_concluded (s : Screen) (id : String) :
    (s.concluded id).surface.focused = s.surface.focused := by
  unfold concluded
  cases s.strategy with
  | instant => exact focused_edit s.surface _ _
  | crossFade duration => rfl

theorem handles_concluded (s : Screen) (id : String) :
    (s.concluded id).surface.handles = s.surface.handles := by
  unfold concluded
  cases s.strategy with
  | instant => exact Surface.leaves_fade ofLeaves_handle? id 1
  | crossFade duration => rfl

theorem focused_inserted (s : Screen) (f : Fragment) (now : Nat) :
    (s.inserted f now).surface.focused = s.surface.focused :=
  (focused_replace _ _ _).trans (focused_edit s.surface _ _)

/-- There is no other way for a swap to treat the focus. -/
theorem refocusing_swap (h : s.swap f now = .ok (s', report)) : s.Refocusing f s' := by
  obtain ⟨report', heq⟩ := swap_eq (swap_accepts h) now
  obtain ⟨rfl, -⟩ := Prod.mk.inj (Except.ok.inj (h.symm.trans heq))
  have hfocused := s.focused_inserted f now
  cases hold : s.surface.fragment? f.id with
  | none =>
    refine .apart ((focused_concluded _ _).trans hfocused) (fun handle => ?_)
      fun id old _ hsome => ?_
    · rw [pool_concluded]
      rfl
    · cases hold.symm.trans hsome
  | some old =>
    -- what is forgotten loses its place in the index, and is otherwise as it was built
    have hcarrying := ((s.inserted f now).forget old (s.built f).build).1.carrying_carryFocus old
      (s.built f).build
    show s.Refocusing f (Screen.concluded (Screen.carryFocus _ old _).1 f.id)
    generalize (Screen.carryFocus _ old (s.built f).build).1 = t at hcarrying
    cases hcarrying with
    | apart hapart =>
      refine .apart ((focused_concluded _ _).trans hfocused) (fun handle => ?_) ?_
      · rw [pool_concluded]
        rfl
      · intro id old' hid hsome
        obtain rfl := Option.some.inj (hold.symm.trans hsome)
        exact hapart id (hfocused.trans hid)
    | dropped =>
      refine .dropped (focused_concluded _ _) fun handle => ?_
      rw [pool_concluded]
      rfl
    | again hid hmem hfind hget =>
      obtain ⟨hshown, hkey⟩ := Surface.findWidget_eq_some hfind
      refine .again (hfocused.symm.trans hid) ((focused_concluded _ _).trans hid)
        (Panel.mem_widgetIds.mp hmem).2 ?_ hkey fun handle => ?_
      · rw [handles_concluded]
        exact hshown
      · rw [pool_concluded]
        exact hget handle

/-! ## Who has the focus -/

/-- The widget that the surface takes to have the focus is live, and has it. -/
def FocusHeld (s : Screen) : Prop :=
  ∀ key, s.surface.focused = some key → key ≠ "" →
    ∃ h w, s.pool.lookup key = some h ∧ s.pool.get? h = some w ∧ w.touched.focused = true

/-- What changes neither who is taken to have the focus nor who has it. -/
theorem FocusHeld.of_focused_eq (hs : s.FocusHeld)
    (hfocused : t.surface.focused = s.surface.focused)
    (hlookup : ∀ key, t.pool.lookup key = s.pool.lookup key)
    (hget : ∀ h, (t.pool.get? h).map (fun w => w.touched.focused) =
      (s.pool.get? h).map fun w => w.touched.focused) : t.FocusHeld := by
  intro key hkey hne
  obtain ⟨h, w, hlive, hw, hflag⟩ := hs key (hfocused.symm.trans hkey) hne
  have hmap := hget h
  rw [hw, Option.map_some, hflag] at hmap
  obtain ⟨w', hw', hflag'⟩ := Option.map_eq_some_iff.mp hmap
  exact ⟨h, w', (hlookup key).trans hlive, hw', hflag'⟩

/-- Without a focus there is nothing to show. -/
theorem focusHeld_none (h : s.surface.focused = none) : s.FocusHeld :=
  fun _ hkey => nomatch h.symm.trans hkey

theorem focused_faded (duration now : Nat) (transitions : List (String × Transition))
    (surface : Surface) : (faded transitions duration now surface).focused = surface.focused :=
  faded_eq (fun s _ _ => focused_edit s _ _) _ _ _ _

/-- A widget that is given the focus is shown, and so it is live. -/
theorem Coherent.focusHeld_focus (hs : s.Coherent) (key : String) : (s.focus key).FocusHeld := by
  cases hfind : s.surface.findWidget s.pool key with
  | none =>
    obtain ⟨pool, -, hfocus⟩ := Surface.focus_not_found hfind
    rw [Screen.focus, hfocus]
    exact focusHeld_none rfl
  | some h =>
    obtain ⟨hshown, hkey⟩ := Surface.findWidget_eq_some hfind
    obtain ⟨pool, hpool, hfocus⟩ := Surface.focus_found hfind
    rw [Screen.focus, hfocus]
    intro key' hkey' hne
    obtain rfl : key = key' := Option.some.inj hkey'
    have hlive : s.pool.lookup key = some h := by
      have hlive := hs.live h hshown (hkey.symm ▸ hne)
      rwa [hkey] at hlive
    have hlt : h < pool.widgets.size := hpool.lt_size_iff.mpr (hs.sound.present h hshown)
    obtain ⟨w, hw⟩ : ∃ w, pool.get? h = some w := ⟨_, Array.getElem?_eq_getElem hlt⟩
    refine ⟨h, { w with touched := { w.touched with focused := true } }, ?_, ?_, rfl⟩
    · exact (hpool.lookup_eq key).trans hlive
    · dsimp only
      rw [WidgetPool.get?_setFocused, if_pos rfl, hw, Option.map_some]

/-- Between swaps the focus is moved or taken away, or stays as it is. -/
theorem Stirs.focusing (h : s.Stirs t) : (∃ key, t = s.focus key) ∨ t = s.blur ∨
    (t.surface.focused = s.surface.focused ∧
      ∀ h, (t.pool.get? h).map (fun w => w.touched.focused) =
        (s.pool.get? h).map fun w => w.touched.focused) := by
  cases h with
  | focus key => exact Or.inl ⟨key, rfl⟩
  | blur => exact Or.inr (Or.inl rfl)
  | @input key handle w w' input message hlive hw hinput hinterpret =>
    refine Or.inr (Or.inr ⟨rfl, fun h' => ?_⟩)
    rw [WidgetPool.get?_set hw]
    split
    · rename_i heq
      rw [← heq, hw, Option.map_some, Option.map_some, Widget.focused_interpret hinput hinterpret]
    · rfl
  | @uploaded key handle files hlive =>
    refine Or.inr (Or.inr ⟨rfl, fun h' => ?_⟩)
    rw [WidgetPool.get?_modify]
    split
    · have htouched : ∀ w : Widget, (Session.showUploaded files w).touched = w.touched := by
        intro w
        unfold Session.showUploaded
        split <;> rfl
      rw [Option.map_map]
      refine congrArg (Option.map · (s.pool.get? h')) (funext fun w => ?_)
      exact congrArg LocalState.focused (htouched w)
    · rfl
  | toggled | chosen | settled => exact Or.inr (Or.inr ⟨rfl, fun _ => rfl⟩)
  | scrolled | faded => exact Or.inr (Or.inr ⟨focused_edit s.surface _ _, fun _ => rfl⟩)
  | ticked now =>
    unfold tick
    split
    · exact Or.inr (Or.inr ⟨rfl, fun _ => rfl⟩)
    · exact Or.inr (Or.inr ⟨focused_faded _ now _ _, fun _ => rfl⟩)
  | completed ticket =>
    unfold complete
    split
    · exact Or.inr (Or.inr ⟨focused_edit s.surface _ _, fun _ => rfl⟩)
    · exact Or.inr (Or.inr ⟨rfl, fun _ => rfl⟩)

/-- What happens between swaps leaves the focus with a widget that has it. -/
theorem FocusHeld.stirs (hs : s.FocusHeld) (hcoherent : s.Coherent) (h : s.Stirs t) :
    t.FocusHeld := by
  -- moved, taken away, or left as it is
  rcases h.focusing with ⟨key, rfl⟩ | rfl | ⟨hfocused, hget⟩
  · exact hcoherent.focusHeld_focus key
  · exact focusHeld_none s.focused_blur
  · exact hs.of_focused_eq hfocused h.steady.lookup_eq hget

/-- A widget outside the fragment is left alone. -/
theorem Coherent.get?_built_outside (hs : s.Coherent) (hf : s.Admits f) {h : Handle}
    (hh : h ∈ (s.surface.cleared f.id).handles) :
    (s.built f).build.pool.get? h = s.pool.get? h := by
  obtain ⟨head, own, children, hroot⟩ := hf.wellFormed.container
  have hmade := f.build_placesMade s.groups hs.sound.pool hroot
  refine hmade.apart h (hs.sound.outside hh) fun hmem => ?_
  refine absurd (List.mem_map_of_mem hh) (hf.apart (s.pool.key h) ?_)
  rwa [Fragment.widgetKeys, hroot, Node.widgetKeys_container]

/-- A swap leaves the focus with a widget that has it. -/
theorem FocusHeld.swap (hs : s.FocusHeld) (hcoherent : s.Coherent) (hf : s.Admits f)
    (h : s.swap f now = .ok (s', report)) : s'.FocusHeld := by
  cases refocusing_swap h with
  | dropped hfocused hget => exact focusHeld_none hfocused
  | apart hfocused hget hapart =>
    intro key hkey hne
    rw [hfocused] at hkey
    obtain ⟨handle, w, hlive, hw, hflag⟩ := hs key hkey hne
    have hid := hcoherent.sound.pool.key_eq hlive
    have hshown := hcoherent.shown key handle hlive
    -- the widget that has the focus is not in the fragment, and so it stays as it is
    have houtside : handle ∈ (s.surface.cleared f.id).handles := by
      refine ((s.surface.mem_leaves_iff ofLeaves_handle? f.id).mp hshown).resolve_right ?_
      rintro ⟨old, hold, hmem⟩
      refine hapart key old hkey hold (Panel.mem_widgetIds.mpr ⟨⟨handle, hmem, ?_⟩, hne⟩)
      have hkept := (hcoherent.sound.widgetsMade f).key_eq handle (WidgetPool.lt_size_of_get? hw)
      exact hkept.trans hid
    have hlookup := hcoherent.lookup_outside hf houtside (hid.symm ▸ hne)
    have hgone := hcoherent.not_mem_goneIds houtside
    rw [hid] at hlookup hgone
    refine ⟨handle, w, ?_, ?_, hflag⟩
    · rw [lookup_swap h, if_neg hgone, hlookup]
    · rw [hget, hcoherent.get?_built_outside hf houtside, hw]
  | @again id handle hbefore hfocused hne hshown hkey hget =>
    intro key hkey' _
    obtain rfl : id = key := Option.some.inj (hfocused.symm.trans hkey')
    -- the widget is shown on the new screen, and so it is the one that is live there
    have hcoherent' := hcoherent.swap hf h
    have hkey'' : s'.pool.key handle = id := (key_swap h handle).trans hkey
    have hlive := hcoherent'.live handle hshown (hkey''.symm ▸ hne)
    rw [hkey''] at hlive
    obtain ⟨w, hw, -⟩ := hcoherent'.sound.pool id handle hlive
    refine ⟨handle, w, hlive, hw, ?_⟩
    rw [hget, WidgetPool.get?_setFocused, if_pos rfl] at hw
    obtain ⟨w', -, rfl⟩ := Option.map_eq_some_iff.mp hw
    rfl

/-- Along every history, the widget that the surface takes to have the focus has it. -/
theorem Reached.focusHeld (hs : s.Reached Admits) : s.FocusHeld := by
  induction hs with
  | start strategy => exact focusHeld_none rfl
  | @swap s f now hs hf ih =>
    rcases s.attempt_eq f now with heq | ⟨report, hswap⟩
    · exact heq.symm ▸ ih
    · exact ih.swap hs.coherent (hf (swap_accepts hswap)) hswap
  | stir hs ht ih => exact ih.stirs hs.coherent ht

end Screen

end RemoteUi
