/-
# RemoteUi.Proofs.Screen.Visibility — nothing that is shown is hidden.

A swap hides the outgoing container just before it takes another one in its place.  If anything went
wrong between the two, a part of the page would be left that nobody can see; so it is shown here
that between one operation and the next all containers are visible (`Screen.Reached.allVisible`).

The argument is about any property of presentations, with visibility as the case at hand:

* `EveryBox` says it of all containers in a list of trees.  An edit of one container keeps it if the
  edit does (`EveryBox.edit?`), and so does putting scroll offsets back (`EveryBox.restoreScroll`).
* Whatever is newly rendered has a property that every new presentation has
  (`renderClosed_everyBox`), and a container comes in as it was rendered, but for its opacity and
  the offsets (`Screen.everyBox_incoming`).
* `Surface.Every` says it of a surface, of which every operation is an edit.

Other properties of presentations are told by the same lemmas: that opacities are in range, for one.
So nothing here unfolds what a swap does beyond the surface that it leaves.
-/
import RemoteUi.Proofs.Screen.History

namespace RemoteUi

open Rendered (box? leaves_append)

/-! ## The boxes of a tree -/

namespace Rendered

/-- Every container in a list of trees has a presentation that satisfies `P`. -/
def EveryBox (P : Box → Prop) (rs : List Rendered) : Prop :=
  ∀ b ∈ leaves box? rs, P b

variable {P : Box → Prop}

theorem everyBox_append {rs ss : List Rendered} :
    EveryBox P (rs ++ ss) ↔ EveryBox P rs ∧ EveryBox P ss := by
  rw [EveryBox, leaves_append, List.forall_mem_append, EveryBox, EveryBox]

theorem everyBox_cons {r : Rendered} {rs : List Rendered} :
    EveryBox P (r :: rs) ↔ EveryBox P [r] ∧ EveryBox P rs :=
  @everyBox_append P [r] rs

theorem everyBox_container {box : Box} {children : List Rendered} :
    EveryBox P [.container box children] ↔ P box ∧ EveryBox P children := by
  simp [EveryBox, leaves, nodesOf, nodes, box?]

theorem everyBox_node {panel : Panel} :
    EveryBox P [panel.node] ↔ P panel.box ∧ EveryBox P panel.children :=
  everyBox_container

-- an edit changes the first container that it applies to, which is either this one or inside; where
-- it does not apply it yields nothing, and there is no edited tree to speak of
mutual
theorem EveryBox.edit? {p : Box → Bool} {f : Panel → Panel}
    (hf : ∀ panel : Panel, EveryBox P [panel.node] → EveryBox P [(f panel).node]) :
    ∀ {r r' : Rendered}, EveryBox P [r] → r.edit? p f = some r' → EveryBox P [r']
  | .container box children, r', h, he => by
    simp only [Rendered.edit?] at he
    split at he
    · cases he
      exact hf ⟨box, children⟩ h
    · obtain ⟨rs', hrs', rfl⟩ := Option.map_eq_some_iff.mp he
      obtain ⟨hbox, hchildren⟩ := everyBox_container.mp h
      exact everyBox_container.mpr ⟨hbox, EveryBox.editIn? hf hchildren hrs'⟩
  | .markup _ _ _, _, _, he => by cases he
  | .widget _, _, _, he => by cases he
  | .group _ _, _, _, he => by cases he

theorem EveryBox.editIn? {p : Box → Bool} {f : Panel → Panel}
    (hf : ∀ panel : Panel, EveryBox P [panel.node] → EveryBox P [(f panel).node]) :
    ∀ {rs rs' : List Rendered}, EveryBox P rs → Rendered.editIn? p f rs = some rs' →
      EveryBox P rs'
  | [], _, _, he => by cases he
  | r :: rest, rs', h, he => by
    obtain ⟨hr, hrest⟩ := everyBox_cons.mp h
    simp only [Rendered.editIn?] at he
    split at he
    · rename_i r' hr'
      cases he
      exact everyBox_cons.mpr ⟨EveryBox.edit? hf hr hr', hrest⟩
    · obtain ⟨rest', hrest', rfl⟩ := Option.map_eq_some_iff.mp he
      exact everyBox_cons.mpr ⟨hr, EveryBox.editIn? hf hrest hrest'⟩
end

mutual
theorem EveryBox.restoreScroll {offsets : Table Nat}
    (hP : ∀ b, P b → P (b.restoreScroll offsets)) :
    ∀ {r : Rendered}, EveryBox P [r] → EveryBox P [r.restoreScroll offsets]
  | .container box children, h => by
    obtain ⟨hbox, hchildren⟩ := everyBox_container.mp h
    exact everyBox_container.mpr ⟨hP box hbox, EveryBox.restoreScrollIn hP hchildren⟩
  | .markup _ _ _, h => h
  | .widget _, h => h
  | .group _ _, h => h

theorem EveryBox.restoreScrollIn {offsets : Table Nat}
    (hP : ∀ b, P b → P (b.restoreScroll offsets)) :
    ∀ {rs : List Rendered}, EveryBox P rs → EveryBox P (Rendered.restoreScrollIn offsets rs)
  | [], h => h
  | r :: rest, h => by
    obtain ⟨hr, hrest⟩ := everyBox_cons.mp h
    exact everyBox_cons.mpr ⟨EveryBox.restoreScroll hP hr, EveryBox.restoreScrollIn hP hrest⟩
end

end Rendered

open Rendered (EveryBox everyBox_append everyBox_container everyBox_node)

theorem Box.visible_restoreScroll (offsets : Table Nat) (b : Box) :
    (b.restoreScroll offsets).visible = b.visible := by
  unfold restoreScroll
  split <;> rfl

theorem Box.opacity_restoreScroll (offsets : Table Nat) (b : Box) :
    (b.restoreScroll offsets).opacity = b.opacity := by
  unfold restoreScroll
  split <;> rfl

/-! ## What is newly rendered -/

section

variable {P : Box → Prop} (hP : ∀ head fragmentId, P (Box.make head fragmentId))

include hP

/-- Whatever is newly rendered is as every new presentation is. -/
theorem renderClosed_everyBox : RenderClosed fun _ _ _ rs _ => EveryBox P rs where
  nil := fun _ _ => nofun
  append := fun hns hms => everyBox_append.mpr ⟨hns, hms⟩
  container := fun _ hns => everyBox_container.mpr ⟨hP _ _, hns⟩
  markup := fun _ _ _ _ _ => nofun
  widget := fun _ _ _ _ => nofun
  group := fun fragmentId head spec b => by
    generalize hr : b.group fragmentId head spec = r
    -- a group is no container, however it is met
    cases hr ▸ b.group_meets fragmentId head spec with
    | nameless | repeated | attached => exact nofun

/-- What a fragment is built to, its root included, whose id is the only thing that is set besides.
-/
theorem Fragment.build_everyBox (hroot : ∀ b id, P b → P { b with fragmentId := id })
    (f : Fragment) (pool : WidgetPool) (groups : Groups) :
    EveryBox P [(f.build pool groups).root.node] := by
  have hrendered := (renderClosed_everyBox hP).render f.id f.root (Build.start pool groups)
  unfold build
  cases hr : (f.root.render f.id (Build.start pool groups)).1.bind Rendered.panel? with
  | none =>
    simp only [hr]
    exact everyBox_container.mpr ⟨hP _ _, nofun⟩
  | some panel =>
    obtain ⟨r, hr', hpanel⟩ := Option.bind_eq_some_iff.mp hr
    obtain rfl := Rendered.eq_node_of_panel? hpanel
    rw [hr'] at hrendered
    obtain ⟨hbox, hchildren⟩ := everyBox_node.mp hrendered
    simp only [hr]
    exact everyBox_container.mpr ⟨hroot _ _ hbox, hchildren⟩

/-- A container comes in as new ones are, but for its opacity and the offsets. -/
theorem Screen.everyBox_incoming (hroot : ∀ b id, P b → P { b with fragmentId := id })
    (hscroll : ∀ b offsets, P b → P (b.restoreScroll offsets)) (s : Screen) (f : Fragment)
    (outgoing : Option Panel)
    (hopacity : ∀ b, P b → P { b with opacity := (incoming (s.built f) outgoing).box.opacity }) :
    EveryBox P [(incoming (s.built f) outgoing).node] := by
  obtain ⟨hbox, hchildren⟩ := everyBox_node.mp (f.build_everyBox hP hroot s.pool s.groups)
  -- offsets are put back only if there was a container before
  cases outgoing with
  | none => exact everyBox_node.mpr ⟨hopacity _ hbox, hchildren⟩
  | some old =>
    exact everyBox_node.mpr ⟨hopacity _ (hscroll _ _ hbox),
      hchildren.restoreScrollIn fun b => hscroll b _⟩

end

/-! ## What is on the surface -/

namespace Surface

variable {s : Surface} {P : Box → Prop}

/-- Every container on the surface has a presentation that satisfies `P`. -/
def Every (s : Surface) (P : Box → Prop) : Prop :=
  ∀ r, s.root = some r → ∀ b ∈ r.boxes, P b

/-- A surface that shows something shows one tree. -/
theorem every_iff {r : Panel} (hroot : s.root = some r) : s.Every P ↔ EveryBox P [r.node] := by
  rw [everyBox_node, Every, hroot]
  simp [Panel.boxes, EveryBox, Rendered.leaves]

/-- What is on a surface is in its tree. -/
theorem Every.of_root_eq {t : Surface} (hs : s.Every P) (h : t.root = s.root) : t.Every P :=
  fun r hr => hs r (h.symm.trans hr)

/-- An edit that applies nowhere leaves the surface as it is. -/
theorem Every.edit (hs : s.Every P) (p : Box → Bool) {f : Panel → Panel}
    (hf : ∀ panel : Panel, EveryBox P [panel.node] → EveryBox P [(f panel).node]) :
    (s.edit p f).Every P := by
  cases hroot : s.root with
  | none => simpa [Surface.edit, hroot] using hs
  | some root =>
    cases hedit : root.node.edit? p f with
    | none => simpa [Surface.edit, hroot, Panel.edit?, hedit] using hs
    | some r' =>
      obtain ⟨root', rfl⟩ := Rendered.edit?_node hedit
      rw [edit_eq hroot hedit, every_iff rfl]
      exact EveryBox.edit? hf ((every_iff hroot).mp hs) hedit

theorem Every.edit_box (hs : s.Every P) (p : Box → Bool) {f : Box → Box}
    (hf : ∀ b, P b → P (f b)) : (s.edit p fun panel => { panel with box := f panel.box }).Every P :=
  hs.edit p fun panel h => by
    obtain ⟨hbox, hchildren⟩ := everyBox_node.mp h
    exact everyBox_node.mpr ⟨hf panel.box hbox, hchildren⟩

theorem Every.fade (hs : s.Every P) (id : String) {opacity : Float32}
    (hopacity : ∀ b, P b → P { b with opacity := opacity }) : (s.fade id opacity).Every P :=
  hs.edit_box _ (f := fun b => { b with opacity := opacity }) hopacity

/-- A container that is put in the place of another one brings its own presentations. -/
theorem Every.replace (hs : s.Every P) (id : String) {incoming : Panel}
    (h : EveryBox P [incoming.node]) : (s.replace id incoming).Every P := by
  unfold Surface.replace
  split
  · exact (every_iff rfl).mpr h
  · exact hs.edit _ fun _ _ => h

/-- No container is hidden, wherever it is. -/
def AllVisible (s : Surface) : Prop :=
  ∀ r, s.root = some r → ∀ b ∈ r.boxes, b.visible = true

theorem allVisible_iff : s.AllVisible ↔ s.Every fun b => b.visible = true := Iff.rfl

end Surface

namespace Screen

variable {s s' t : Screen} {f : Fragment} {now : Nat} {report : SwapReport}

/-- What holds of the surface while its fragments fade in, one after the other. -/
theorem faded_induction {Q : Surface → Prop} {entries : List (String × Transition)}
    {duration now : Nat} {surface : Surface} (hsurface : Q surface)
    (hQ : ∀ e ∈ entries, e.2.phase = .transitioning → ∀ s : Surface, Q s →
      Q (s.fade e.1 (opacityAt e.2.start (e.2.progress duration now)))) :
    Q (faded entries duration now surface) := by
  unfold faded
  induction entries generalizing surface with
  | nil => exact hsurface
  | cons e rest ih =>
    obtain ⟨he, hrest⟩ := List.forall_mem_cons.mp hQ
    rw [List.foldl_cons]
    split
    · rename_i hphase
      exact ih (he hphase _ hsurface) hrest
    · exact ih hsurface hrest

/-- The container that comes in is visible, and the one that was hidden is gone. -/
theorem allVisible_swap (hs : s.surface.AllVisible) (h : s.swap f now = .ok (s', report)) :
    s'.surface.AllVisible := by
  obtain ⟨focused, hsurface⟩ := surface_swap h
  have hincoming := everyBox_incoming (P := fun b => b.visible = true) (fun _ _ => rfl)
    (fun _ _ hb => hb) (fun b offsets hb => (b.visible_restoreScroll offsets).trans hb) s f
    (s.surface.fragment? f.id) fun _ hb => hb
  have hreplace : Surface.Every { s.surface.replace f.id
      (incoming (s.built f) (s.surface.fragment? f.id)) with focused := focused }
      fun b => b.visible = true :=
    (Surface.Every.replace hs f.id hincoming).of_root_eq rfl
  rw [hsurface, Surface.allVisible_iff]
  unfold nextSurface
  -- at once or in the course of a fade: either way only its opacity is set once more
  cases s.strategy with
  | instant => exact hreplace.fade f.id fun _ hb => hb
  | crossFade duration => exact hreplace

/-- Nothing between two swaps hides a container. -/
theorem Stirs.allVisible (h : s.Stirs t) (hs : s.surface.AllVisible) : t.surface.AllVisible := by
  rw [Surface.allVisible_iff] at hs ⊢
  -- most of what happens changes no presentation, and the rest sets an opacity or an offset
  cases h with
  | input | uploaded | toggled | chosen | settled => exact hs
  | focus key =>
    obtain ⟨focused, pool, -, hfocus⟩ := s.surface.focus_eq s.pool key
    rw [Screen.focus, hfocus]
    exact hs.of_root_eq rfl
  | blur =>
    obtain ⟨pool, -, hblur⟩ := s.surface.blur_eq s.pool
    rw [Screen.blur, hblur]
    exact hs.of_root_eq rfl
  | scrolled id offset =>
    exact hs.edit_box _ (f := fun b => { b with scrollTop := offset }) fun _ hb => hb
  | faded id opacity => exact hs.fade id fun _ hb => hb
  | ticked now =>
    unfold tick
    split
    · exact hs
    · exact faded_induction (Q := fun surface => surface.Every fun b => b.visible = true) hs
        fun e _ _ _ hsurface => hsurface.fade e.1 fun _ hb => hb
  | completed ticket =>
    unfold complete
    split
    · exact hs.fade _ fun _ hb => hb
    · exact hs

/-- Along every history, all that is shown is visible. -/
theorem Reached.allVisible {admits : Screen → Fragment → Prop} (hs : s.Reached admits) :
    s.surface.AllVisible := by
  induction hs with
  | start strategy => exact nofun
  | @swap s f now hs hf ih =>
    rcases s.attempt_eq f now with heq | ⟨report, hswap⟩
    · exact heq.symm ▸ ih
    · exact allVisible_swap ih hswap
  | stir hs ht ih => exact ht.allVisible ih

end Screen

end RemoteUi
