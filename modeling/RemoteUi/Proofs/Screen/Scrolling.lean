/-
# RemoteUi.Proofs.Screen.Scrolling — where the containers of a new tree are scrolled to.

Before a fragment is replaced, the offsets of its containers are noted by id, and whatever container
of the new tree has one of these ids is scrolled there, wherever in the tree it is.  The two trees
need not be alike in anything else: a container may be deeper, in another fragment inside the
fragment, or in another place among its neighbours.

* `get?_scrollOffsets` says which offset is noted for an id: that of the last outgoing container
  with it.  Where no two of the outgoing containers share an id, it is that of the container
  (`get?_scrollOffsets_of_mem`); the new ones may share ids as they like.
* A tree is restored container by container, and none is added, lost or moved
  (`boxes_restoreScroll`).  The induction is over trees and lists of trees at once.
* The containers that are rendered are those of the description, in document order
  (`renderClosed_containerIds`), and they come in at the beginning.
* A surface shows the containers before a fragment, those of the fragment, and those after it, and a
  swap leaves the first and the last as they are (`boxes_swap`).

So after a swap every container of the fragment is where the outgoing one of its id was, or at its
beginning, and no other container is scrolled (`scroll_continues`).
-/
import Mathlib.Data.List.Induction
import RemoteUi.Proofs.Screen.Outshining
import RemoteUi.Proofs.Screen.Rebuild

namespace RemoteUi

open Rendered (box? leaves leaves_append leaves_cons leaves_singleton_container everyBox_node
  ofNodes_box?)

/-! ## Offsets that are noted -/

/-- A container that is scrolled is the same container. -/
theorem Box.id_restoreScroll (offsets : Table Nat) (b : Box) :
    (b.restoreScroll offsets).id = b.id := by
  unfold restoreScroll
  split <;> rfl

/-- A container goes to the offset that is noted for its id, and else stays. -/
theorem Box.scrollTop_restoreScroll (offsets : Table Nat) (b : Box) :
    (b.restoreScroll offsets).scrollTop = (b.id.bind offsets.get?).getD b.scrollTop := by
  unfold restoreScroll
  split
  · rename_i offset hoffset
    rw [hoffset, Option.getD_some]
  · rename_i hnone
    rw [hnone, Option.getD_none]

theorem Box.hasId_iff {b : Box} {id : String} : b.hasId id = true ↔ b.id = some id :=
  beq_iff_eq

/-- Where no two containers have one id, a container is found by its id. -/
theorem Box.find?_hasId {bs : List Box} {b : Box} {id : String}
    (hdistinct : (bs.filterMap Box.id).Nodup) (hb : b ∈ bs) (hid : b.id = some id) :
    bs.find? (Box.hasId id) = some b := by
  induction bs with
  | nil => cases hb
  | cons first rest ih =>
    rcases List.mem_cons.mp hb with rfl | hrest
    · exact List.find?_cons_of_pos (hasId_iff.mpr hid)
    · rw [List.filterMap_cons] at hdistinct
      have hne : first.id ≠ some id := by
        intro hfirst
        rw [hfirst, List.nodup_cons] at hdistinct
        exact hdistinct.1 (List.mem_filterMap.mpr ⟨b, hrest, hid⟩)
      have hdistinct : (rest.filterMap Box.id).Nodup := by
        split at hdistinct
        · exact hdistinct
        · exact hdistinct.of_cons
      rw [List.find?_cons_of_neg (mt hasId_iff.mp hne)]
      exact ih hdistinct hrest

namespace Panel

variable {p : Panel} {b : Box} {id : String}

/-- The offset that is noted for an id is that of the last container with it. -/
theorem get?_scrollOffsets (p : Panel) (id : String) :
    p.scrollOffsets.get? id = (p.boxes.reverse.find? (Box.hasId id)).map Box.scrollTop := by
  unfold scrollOffsets
  induction p.boxes using List.reverseRecOn with
  | nil => rfl
  | append_singleton bs b ih =>
    rw [List.foldl_append, List.reverse_concat]
    by_cases hid : b.id = some id
    · rw [List.find?_cons_of_pos (Box.hasId_iff.mpr hid)]
      simp [hid]
    · rw [List.find?_cons_of_neg (mt Box.hasId_iff.mp hid), ← ih]
      -- a container with another id, or with none, does not touch the offset
      cases hother : b.id with
      | none => simp [hother]
      | some other =>
        have hne : id ≠ other := fun heq => hid (heq ▸ hother)
        simp [hother, hne]

/-- Where no two containers have one id, each container's offset is noted. -/
theorem get?_scrollOffsets_of_mem (hdistinct : (p.boxes.filterMap Box.id).Nodup)
    (hb : b ∈ p.boxes) (hid : b.id = some id) : p.scrollOffsets.get? id = some b.scrollTop := by
  have hreverse : (p.boxes.reverse.filterMap Box.id).Nodup := by
    rwa [List.filterMap_reverse, List.nodup_reverse]
  rw [get?_scrollOffsets, Box.find?_hasId hreverse (List.mem_reverse.mpr hb) hid, Option.map_some]

/-- No offset is noted for an id that no container has. -/
theorem get?_scrollOffsets_eq_none (h : ∀ b ∈ p.boxes, b.id ≠ some id) :
    p.scrollOffsets.get? id = none := by
  rw [get?_scrollOffsets, Option.map_eq_none_iff, List.find?_eq_none]
  intro b hb hid
  exact h b (List.mem_reverse.mp hb) (eq_of_beq hid)

/-- The offset at which a container comes in: that of the outgoing one with its id. -/
def offsetFor (outgoing : Option Panel) (id : Option String) : Nat :=
  (outgoing.bind fun old => id.bind old.scrollOffsets.get?).getD 0

end Panel

/-! ## Offsets that are restored -/

namespace Rendered

mutual
/-- Each container of a tree is restored, and none is added, lost or moved. -/
theorem boxes_restoreScroll (offsets : Table Nat) : ∀ r : Rendered,
    leaves box? [r.restoreScroll offsets] = (leaves box? [r]).map (Box.restoreScroll offsets)
  | .container box children => by
    rw [restoreScroll, leaves_singleton_container, leaves_singleton_container,
      boxes_restoreScrollIn offsets children]
    rfl
  | .markup _ _ _ => rfl
  | .widget _ => rfl
  | .group _ _ => rfl

theorem boxes_restoreScrollIn (offsets : Table Nat) : ∀ rs : List Rendered,
    leaves box? (restoreScrollIn offsets rs) = (leaves box? rs).map (Box.restoreScroll offsets)
  | [] => rfl
  | r :: rest => by
    rw [restoreScrollIn, leaves_cons, leaves_cons box? r, List.map_append,
      boxes_restoreScroll offsets r, boxes_restoreScrollIn offsets rest]
end

end Rendered

/-- A container and all in it are restored. -/
theorem Panel.boxes_restoreScroll (offsets : Table Nat) (p : Panel) :
    (p.restoreScroll offsets).boxes = p.boxes.map (Box.restoreScroll offsets) :=
  congrArg _ (Rendered.boxes_restoreScrollIn offsets p.children)

/-! ## The containers of a tree -/

/-- The id of a container. -/
def Node.containerId? : Node → Option (Option String)
  | .container head _ _ => some head.id
  | _ => none

/-- The ids of the containers of a fragment, its root first, in document order. -/
def Fragment.containerIds (f : Fragment) : List (Option String) :=
  f.root.head.id :: (Node.nodesOf f.root.children).filterMap Node.containerId?

/-- Every container of a tree is rendered, in its place. -/
theorem renderClosed_containerIds : RenderClosed fun _ ns _ rs _ =>
    (leaves box? rs).map Box.id = (Node.nodesOf ns).filterMap Node.containerId? where
  nil := fun _ _ => rfl
  append := fun hns hms => by
    rw [leaves_append, List.map_append, hns, hms, Node.nodesOf_append, List.filterMap_append]
  container := fun head hns => by
    rw [leaves_singleton_container, List.map_append, hns]
    simp [Node.nodesOf, Node.nodes, Node.containerId?, box?, Box.make]
  markup := fun _ _ _ _ _ => rfl
  widget := fun _ _ _ _ => rfl
  group := fun fragmentId head spec b => by
    generalize hr : b.group fragmentId head spec = r
    cases hr ▸ b.group_meets fragmentId head spec with
    | nameless | repeated | attached => rfl

/-- What is built of a fragment has the containers of its description. -/
theorem Fragment.containerIds_build (f : Fragment) (pool : WidgetPool) (groups : Groups) :
    (f.build pool groups).root.boxes.map Box.id = f.containerIds := by
  cases hroot : f.root with
  | container head own children =>
    have hchildren := renderClosed_containerIds.renderAll (effectiveFragment f.id own) children
      (Build.start pool groups)
    rw [f.build_container pool groups hroot, containerIds, hroot]
    exact congrArg _ hchildren
  | markup | group | widget =>
    have hnot : ∀ head own children, f.root ≠ .container head own children := by
      intro head own children heq
      cases hroot.symm.trans heq
    have hnone := bind_panel?_render f.id (Build.start pool groups) hnot
    unfold build
    simp only [hnone]
    rw [containerIds, hroot]
    rfl

/-! ## The containers of a surface -/

namespace Surface

variable {s : Surface} {id : String} {old : Panel}

/-- The presentations of the containers of a fragment, its root first, in document order. -/
def boxesIn (s : Surface) (id : String) : List Box :=
  ((s.fragment? id).map Panel.boxes).getD []

/-- Where a fragment is shown, its containers are those of its panel. -/
theorem boxesIn_eq (hold : s.fragment? id = some old) : s.boxesIn id = old.boxes := by
  rw [boxesIn, hold]
  rfl

/-- The containers shown are those before a fragment, those of the fragment, and those after it; an
edit of the fragment leaves the others. -/
theorem boxes_edit (hold : s.fragment? id = some old) :
    ∃ pre post, s.boxes = pre ++ old.boxes ++ post ∧
      ∀ f, (s.edit (Box.isFragment id) f).boxes = pre ++ (f old).boxes ++ post := by
  obtain ⟨root, hroot, hfind⟩ := Option.bind_eq_some_iff.mp hold
  obtain ⟨pre, post, hpre, hedit⟩ := Rendered.leaves_edit? ofNodes_box? hfind
  have hnode : ∀ p : Panel, Rendered.leaves box? [p.node] = p.boxes := fun p =>
    leaves_singleton_container box? p.box p.children
  refine ⟨pre, post, ?_, fun f => ?_⟩
  · rw [boxes_eq hroot, hpre, hnode]
  · obtain ⟨r', hr', hleaves⟩ := hedit f
    obtain ⟨root', rfl⟩ := Rendered.edit?_node hr'
    rw [edit_eq hroot hr', boxes_eq rfl, hleaves, hnode]

/-- A container that takes the place of a fragment stands between what stood around the old one. -/
theorem boxes_replace (hshown : s.root = none ∨ ∃ old, s.fragment? id = some old) :
    ∃ pre post, s.boxes = pre ++ s.boxesIn id ++ post ∧
      ∀ incoming, (s.replace id incoming).boxes = pre ++ incoming.boxes ++ post := by
  rcases hshown with hroot | ⟨old, hold⟩
  · exact ⟨[], [], by simp [boxes, boxesIn, fragment?, hroot],
      fun incoming => by simp [boxes, replace, hroot]⟩
  · obtain ⟨pre, post, hbefore, hafter⟩ := boxes_edit hold
    refine ⟨pre, post, ?_, fun incoming => ?_⟩
    · rw [boxesIn_eq hold, hbefore]
    · rw [replace_eq_edit hold, hafter]

/-- A fragment that is replaced and then changed is replaced by what is changed. -/
theorem edit_replace {incoming : Panel} (hbox : incoming.box.isFragment id = true)
    (hshown : s.root = none ∨ ∃ old, s.fragment? id = some old) (f : Panel → Panel) :
    (s.replace id incoming).edit (Box.isFragment id) f = s.replace id (f incoming) := by
  rcases hshown with hroot | ⟨old, hold⟩
  · simp [replace, edit, hroot, Panel.edit?, Rendered.edit?, Panel.node, Rendered.panel?, hbox]
  · rw [replace_eq_edit hold, replace_eq_edit hold, (edit_again hold hbox).2]
    rfl

/-- Who has the focus makes no difference to what is replaced. -/
theorem replace_focused (s : Surface) (id : String) (incoming : Panel) (focused : Option String) :
    { s.replace id incoming with focused := focused } =
      replace ⟨s.root, focused⟩ id incoming := by
  unfold replace edit
  dsimp only
  split
  · rfl
  · split <;> rfl

end Surface

namespace Screen

variable {s s' : Screen} {f : Fragment} {now : Nat} {report : SwapReport}

/-- The containers of a new tree, and where each is scrolled to. -/
theorem boxes_incoming (s : Screen) (f : Fragment) (outgoing : Option Panel) :
    (incoming (s.built f) outgoing).boxes.map (fun b => (b.id, b.scrollTop)) =
      f.containerIds.map fun id => (id, Panel.offsetFor outgoing id) := by
  have hbuilt : ∀ b ∈ (s.built f).root.boxes, b.scrollTop = 0 := by
    obtain ⟨hroot, hchildren⟩ := everyBox_node.mp (f.build_everyBox (P := fun b => b.scrollTop = 0)
      (fun _ _ => rfl) (fun _ _ h => h) s.pool s.groups)
    exact List.forall_mem_cons.mpr ⟨hroot, hchildren⟩
  rw [← f.containerIds_build s.pool s.groups, List.map_map]
  cases outgoing with
  | none =>
    have hsame : (incoming (s.built f) none).boxes.map (fun b => (b.id, b.scrollTop)) =
        (s.built f).root.boxes.map fun b => (b.id, b.scrollTop) := rfl
    rw [hsame]
    exact List.map_congr_left fun b hb => Prod.ext rfl (hbuilt b hb)
  | some old =>
    have hrestored : (incoming (s.built f) (some old)).boxes.map (fun b => (b.id, b.scrollTop)) =
        ((s.built f).root.restoreScroll old.scrollOffsets).boxes.map fun b => (b.id, b.scrollTop) :=
      rfl
    rw [hrestored, Panel.boxes_restoreScroll, List.map_map]
    refine List.map_congr_left fun b hb => Prod.ext (b.id_restoreScroll _) ?_
    exact (b.scrollTop_restoreScroll _).trans (congrArg _ (hbuilt b hb))

/-- The containers of a fragment after a swap, and where each is scrolled to. -/
theorem boxesIn_swap (h : s.swap f now = .ok (s', report)) :
    (s'.surface.boxesIn f.id).map (fun b => (b.id, b.scrollTop)) =
      f.containerIds.map fun id => (id, Panel.offsetFor (s.surface.fragment? f.id) id) := by
  obtain ⟨opacity, hshown⟩ := fragment?_swap h
  rw [Surface.boxesIn_eq hshown]
  exact boxes_incoming s f _

/-- The surface after a swap is the one before with a container in the place of the fragment. -/
theorem nextSurface_eq (haccepts : s.Accepts f.id) (focused : Option String) :
    ∃ panel, panel.box.isFragment f.id = true ∧
      s.nextSurface f focused = Surface.replace ⟨s.surface.root, focused⟩ f.id panel := by
  have hbox := s.isFragment_incoming f (s.surface.fragment? f.id)
  unfold nextSurface
  rw [Surface.replace_focused]
  cases s.strategy with
  | instant =>
    refine ⟨_, ?_, Surface.edit_replace (s := ⟨s.surface.root, focused⟩) hbox haccepts _⟩
    exact hbox
  | crossFade duration => exact ⟨_, hbox, rfl⟩

/-- The containers before and after a fragment stay as they are when it is swapped. -/
theorem boxes_swap (h : s.swap f now = .ok (s', report)) : ∃ pre post,
    s.surface.boxes = pre ++ s.surface.boxesIn f.id ++ post ∧
      s'.surface.boxes = pre ++ s'.surface.boxesIn f.id ++ post := by
  obtain ⟨focused, hsurface⟩ := surface_swap h
  have haccepts := swap_accepts h
  obtain ⟨panel, hbox, hnext⟩ := nextSurface_eq haccepts focused
  -- who has the focus makes no difference to the containers
  let t : Surface := ⟨s.surface.root, focused⟩
  obtain ⟨pre, post, hbefore, hafter⟩ := Surface.boxes_replace (s := t) haccepts
  have hshown : (t.replace f.id panel).fragment? f.id = some panel :=
    Surface.fragment?_replace hbox haccepts
  refine ⟨pre, post, hbefore, ?_⟩
  rw [hsurface, hnext, hafter panel, Surface.boxesIn_eq hshown]

/-! ## What a swap keeps of the offsets -/

/-- The containers of a fragment's new tree are where the old ones of their ids were, or at their
beginning. -/
structure ScrollsOn (s : Screen) (f : Fragment) (s' : Screen) : Prop where
  /-- Every container of the tree is shown. -/
  shown : (s'.surface.boxesIn f.id).map Box.id = f.containerIds
  kept : ∀ b ∈ s'.surface.boxesIn f.id, ∀ old ∈ s.surface.boxesIn f.id, ∀ id,
    b.id = some id → old.id = some id → b.scrollTop = old.scrollTop
  fresh : ∀ b ∈ s'.surface.boxesIn f.id,
    (∀ id, b.id = some id → ∀ old ∈ s.surface.boxesIn f.id, old.id ≠ some id) → b.scrollTop = 0
  /-- The containers before and after the fragment are the same as before. -/
  outside : ∃ pre post, s.surface.boxes = pre ++ s.surface.boxesIn f.id ++ post ∧
    s'.surface.boxes = pre ++ s'.surface.boxesIn f.id ++ post

/-- Each container of a fragment is where it is to be after a swap. -/
theorem scrollTop_swap (h : s.swap f now = .ok (s', report)) {b : Box}
    (hb : b ∈ s'.surface.boxesIn f.id) :
    b.scrollTop = Panel.offsetFor (s.surface.fragment? f.id) b.id := by
  have hpair : (b.id, b.scrollTop) ∈ f.containerIds.map fun id =>
      (id, Panel.offsetFor (s.surface.fragment? f.id) id) := by
    rw [← boxesIn_swap h]
    exact List.mem_map_of_mem hb
  obtain ⟨id, -, heq⟩ := List.mem_map.mp hpair
  obtain ⟨rfl, hoffset⟩ := Prod.mk.inj heq
  exact hoffset.symm

/-- Whatever the two trees are like, a swap takes each container of the new one to where the old
container of its id was, and one whose id is new, or that has none, to its beginning. -/
theorem scroll_continues (h : s.swap f now = .ok (s', report))
    (hdistinct : ((s.surface.boxesIn f.id).filterMap Box.id).Nodup) : s.ScrollsOn f s' where
  shown := by
    have hids := congrArg (List.map Prod.fst) (boxesIn_swap h)
    simpa [Function.comp_def] using hids
  kept := by
    intro b hb old hold id hid hidold
    cases hpanel : s.surface.fragment? f.id with
    | none => simp [Surface.boxesIn, hpanel] at hold
    | some panel =>
      rw [Surface.boxesIn_eq hpanel] at hold hdistinct
      have hoffset := Panel.get?_scrollOffsets_of_mem hdistinct hold hidold
      rw [scrollTop_swap h hb, hpanel, hid]
      simp [Panel.offsetFor, hoffset]
  fresh := by
    intro b hb hnew
    rw [scrollTop_swap h hb]
    cases hpanel : s.surface.fragment? f.id with
    | none => rfl
    | some panel =>
      rw [Surface.boxesIn_eq hpanel] at hnew
      cases hid : b.id with
      | none => rfl
      | some id =>
        have hoffset := Panel.get?_scrollOffsets_eq_none (hnew id hid)
        simp [Panel.offsetFor, hoffset]
  outside := boxes_swap h

/-- A list, and another container beside it. -/
def listFirst : Fragment :=
  ⟨"main", .container (.ofId (some "page")) (some "main")
    [.container (.ofId (some "list")) none [], .container (.ofId (some "old")) none []]⟩

/-- The list stands deeper, in another fragment, and beside a new container. -/
def listNext : Fragment :=
  ⟨"main", .container (.ofId none) (some "main")
    [.container (.ofId (some "new")) (some "side") [.container (.ofId (some "list")) none []]]⟩

/-- The list has been scrolled. -/
def listScrolled : Screen :=
  let s := (empty .instant).attempt listFirst 0
  { s with surface := s.surface.scrollTo "list" 240 }

/-- The list is where it was, although it has moved. -/
theorem scroll_continues_list :
    ((listScrolled.surface.boxesIn listNext.id).filterMap Box.id).Nodup ∧
      ∃ s' report, listScrolled.swap listNext 1 = .ok (s', report) ∧
        listScrolled.ScrollsOn listNext s' ∧
        (s'.surface.boxesIn "main").map (fun b => (b.id, b.scrollTop)) =
          [(none, 0), (some "new", 0), (some "list", 240)] := by
  have hdistinct : ((listScrolled.surface.boxesIn listNext.id).filterMap Box.id).Nodup := by
    decide +kernel
  have haccepts : listScrolled.Accepts listNext.id := Or.inr ⟨_, rfl⟩
  obtain ⟨report, hswap⟩ := swap_attempt haccepts
  exact ⟨hdistinct, _, report, hswap, scroll_continues hswap hdistinct, by rfl⟩

end Screen

end RemoteUi
