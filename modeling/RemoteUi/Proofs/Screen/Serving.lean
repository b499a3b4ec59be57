/-
# RemoteUi.Proofs.Screen.Serving — what the widget that is shown for a node serves.

The handles of what is rendered stand in the order of the widget nodes, and each leads to a widget
that serves its node: in the node's fragment, and with the contents that the node describes.  No
other widget is touched (`renderClosed_serves`).  The same goes for a swap (`Sound.served_swap`,
`Sound.served_apart`), whatever identities occur twice.

What a widget serves is the widget without what belongs to the client (`WidgetPool.served?`); the
focus and retiring an identity make no difference to it.  So what is known after the build is known
after the swap.

* A widget that is handed out is not touched again by the same build, as no widget is handed out
  twice.
* A widget that is not handed out keeps what it served: it is left alone by every way to meet a
  node.

Between swaps a widget stays in its fragment and a picture stays the same (`Stirs.fragmentId_eq`,
`Stirs.picture_eq`), by one lemma for all that an input, an upload and the focus leave alone
(`Stirs.map_eq`).
-/
import RemoteUi.Proofs.Screen.Content
import RemoteUi.Proofs.Screen.History
import RemoteUi.Proofs.Screen.Placement

namespace RemoteUi

open Rendered (leaves handle? leaves_append leaves_container ofLeaves_handle?)

/-- What a node has served. -/
def Placed.served (p : Placed) : Widget :=
  (Widget.make (p.head.identity.getD "") p.fragmentId p.head p.spec).served

/-- What a widget serves, if there is one. -/
def WidgetPool.served? (pool : WidgetPool) (h : Handle) : Option Widget :=
  (pool.get? h).map Widget.served

theorem WidgetPool.Alike.served?_eq {p q : WidgetPool} (h : p.Alike q) (handle : Handle) :
    q.served? handle = p.served? handle :=
  h.map_eq (fun _ => rfl) handle

/-! ## Rendering -/

/-- Rendering nodes has each of them served, and changes no widget that is not shown for one. -/
structure Serves (fragmentId : String) (ns : List Node) (b : Build) (rs : List Rendered)
    (b' : Build) : Prop where
  widgets : WidgetsMade ns b rs b'
  served : (leaves handle? rs).map b'.pool.served? =
    (Node.placedAll fragmentId ns).map fun p => some p.served
  others : ∀ h < b.pool.widgets.size, h ∉ leaves handle? rs → b'.pool.get? h = b.pool.get? h

namespace Serves

variable {fragmentId : String} {ns ms : List Node} {b b' b'' : Build} {rs ss : List Rendered}

/-- Nodes without widgets leave all widgets alone. -/
theorem of_no_widget (hwidgets : WidgetsMade ns b rs b') (hpool : b'.pool = b.pool)
    (hns : Node.placedAll fragmentId ns = []) (hrs : leaves handle? rs = []) :
    Serves fragmentId ns b rs b' :=
  ⟨hwidgets, by rw [hns, hrs]; rfl, fun h _ _ => by rw [hpool]⟩

theorem append (hns : Serves fragmentId ns b rs b') (hms : Serves fragmentId ms b' ss b'') :
    Serves fragmentId (ns ++ ms) b (rs ++ ss) b'' where
  widgets := hns.widgets.append hms.widgets
  served := by
    -- what was handed out first is left alone by what is rendered next
    have hfirst : (leaves handle? rs).map b''.pool.served? =
        (leaves handle? rs).map b'.pool.served? := by
      refine List.map_congr_left fun h hh => ?_
      rw [WidgetPool.served?, (hms.widgets.kept h (hns.widgets.made h hh).2).2]
      rfl
    rw [leaves_append, List.map_append, hfirst, hns.served, hms.served, Node.placedAll_append,
      List.map_append]
  others := fun h hlt hnot => by
    rw [leaves_append, List.mem_append, not_or] at hnot
    have hlt' := Nat.lt_of_lt_of_le hlt hns.widgets.size_le
    exact (hms.others h hlt' hnot.2).trans (hns.others h hlt hnot.1)

theorem container {own : Option String}
    (hns : Serves (effectiveFragment fragmentId own) ns b rs b') (head : NodeHead) (box : Box) :
    Serves fragmentId [.container head own ns] b [.container box rs] b' where
  widgets := hns.widgets.container head own box
  served := by
    rw [Node.placedAll_container, leaves_container ofLeaves_handle?]
    exact hns.served
  others := by
    rw [leaves_container ofLeaves_handle?]
    exact hns.others

end Serves

/-- Only the widget that is handed out changes. -/
theorem Build.Meets.others {b : Build} {fragmentId : String} {head : NodeHead} {spec : WidgetSpec}
    {r : Handle × Build} (hr : b.Meets fragmentId head spec r) {h : Nat}
    (hlt : h < b.pool.widgets.size) (hne : h ≠ r.1) : r.2.pool.get? h = b.pool.get? h := by
  cases hr with
  | nameless | repeated =>
    refine (congrArg (WidgetPool.get? · h) (pool_count _ _)).trans ?_
    exact (WidgetPool.get?_add _ h _).trans (if_neg (Nat.ne_of_lt hlt))
  | continued hid hkey hlookup hold hnew =>
    rw [pool_count, WidgetPool.get?_set hold, if_neg (Ne.symm hne)]
  | fresh =>
    refine (congrArg (WidgetPool.get? · h) (pool_count _ _)).trans ?_
    exact (WidgetPool.get?_register _ h _).trans (if_neg (Nat.ne_of_lt hlt))

/-- Rendering has each widget node served, and leaves all other widgets alone. -/
theorem renderClosed_serves :
    RenderClosed fun fragmentId ns b rs b' => b.pool.Sound → Serves fragmentId ns b rs b' where
  nil := fun fragmentId b hb =>
    .of_no_widget (renderClosed_widgetsMade.nil fragmentId b hb) rfl rfl rfl
  append := fun hns hms hb => (hns hb).append (hms (hns hb).widgets.sound)
  container := fun head hns hb => (hns hb).container head _
  markup := fun fragmentId head tag content b hb =>
    .of_no_widget (renderClosed_widgetsMade.markup fragmentId head tag content b hb) rfl rfl rfl
  group := fun fragmentId head spec b hb => by
    have hwidgets := renderClosed_widgetsMade.group fragmentId head spec b hb
    generalize hr : b.group fragmentId head spec = r at hwidgets
    cases hr ▸ b.group_meets fragmentId head spec with
    | nameless | repeated => exact .of_no_widget hwidgets rfl rfl rfl
    | attached => exact .of_no_widget hwidgets (Build.pool_count _ _) rfl rfl
  widget := fun fragmentId head spec b hb => by
    have hmeets := b.widget_meets fragmentId head spec
    refine ⟨renderClosed_widgetsMade.widget fragmentId head spec b hb, ?_, fun h hlt hne => ?_⟩
    · exact congrArg (fun w => [w]) (hmeets.served hb)
    · exact hmeets.others hlt fun heq => hne (List.mem_singleton.mpr heq)

/-! ## Swaps -/

/-- The nodes of a fragment with a container as its root. -/
theorem Fragment.placed_eq {f : Fragment} {head : NodeHead} {own : Option String}
    {children : List Node} (hroot : f.root = .container head own children) :
    f.placed = Node.placedAll f.id [f.root] := by
  rw [placed, hroot, Node.placedAll_container]

namespace Screen

variable {s s' : Screen} {f : Fragment} {now : Nat} {report : SwapReport}

theorem Sound.serves (hs : s.Sound) (f : Fragment) :
    Serves f.id [f.root] (Build.start s.pool s.groups) (f.rendered s.pool s.groups)
      (s.built f).build := by
  rw [built, f.build_build]
  exact renderClosed_serves.render f.id f.root (Build.start s.pool s.groups) hs.pool

/-- The end of a swap changes nothing that is served. -/
theorem served?_swap (h : s.swap f now = .ok (s', report)) (handle : Handle) :
    s'.pool.served? handle = (s.built f).build.pool.served? handle :=
  (alike_swap h).served?_eq handle

/-- The widgets shown for the nodes of a tree serve them, in document order. -/
theorem Sound.served_swap (hs : s.Sound) (hf : f.WellFormed)
    (h : s.swap f now = .ok (s', report)) :
    (leaves handle? (f.rendered s.pool s.groups)).map s'.pool.served? =
      f.placed.map fun p => some p.served := by
  obtain ⟨head, own, children, hroot⟩ := hf.container
  rw [Fragment.placed_eq hroot, ← (hs.serves f).served]
  exact List.map_congr_left fun handle _ => served?_swap h handle

/-- A widget that is shown for no node of the tree goes on serving what it served. -/
theorem Sound.served_apart (hs : s.Sound) (h : s.swap f now = .ok (s', report)) {handle : Handle}
    (hlt : handle < s.pool.widgets.size)
    (hnot : handle ∉ leaves handle? (f.rendered s.pool s.groups)) :
    s'.pool.served? handle = s.pool.served? handle := by
  rw [served?_swap h, WidgetPool.served?, (hs.serves f).others handle hlt hnot]
  rfl

end Screen

/-! ## Between swaps -/

/-- The source of the picture that a state shows. -/
def WidgetState.picture? : WidgetState → Option String
  | .image i => some i.src
  | _ => none

namespace Widget

variable {w w' : Widget} {message : Option Message}

/-- The source of the picture that a widget shows. -/
def picture? (w : Widget) : Option String :=
  w.state.picture?

/-- The widgets stand in one fragment, and show one picture if any. -/
def SamePlace (w w' : Widget) : Prop :=
  w'.fragmentId = w.fragmentId ∧ w'.picture? = w.picture?

theorem samePlace_editCell {g : Grid} {row : Nat} {column : String} {value : Json}
    (hstate : w.state = .dataGrid g) (h : w.editCell g row column value = .ok (w', message)) :
    w.SamePlace w' := by
  unfold editCell at h
  split at h
  · cases h
  · split at h
    · cases h
    · split at h <;> cases h
      · exact ⟨rfl, by rw [picture?, picture?, hstate]; rfl⟩
      · exact ⟨rfl, rfl⟩

/-- An input does not move a widget, and no input is for pictures. -/
theorem samePlace_interpret {input : Input} (h : w.interpret input = .ok (w', message)) :
    w.SamePlace w' := by
  unfold interpret at h
  split at h
  case h_4 => split at h <;> cases h <;> exact ⟨rfl, rfl⟩
  case h_9 => exact samePlace_editCell (by assumption) h
  case h_11 => cases h
  all_goals
    cases h
    exact ⟨rfl, by simp_all [picture?, WidgetState.picture?, withState]⟩

/-- An upload does not move a widget. -/
theorem samePlace_showUploaded (files : List UploadedFile) (w : Widget) :
    w.SamePlace (Session.showUploaded files w) := by
  unfold Session.showUploaded
  split
  · rename_i u hstate
    exact ⟨rfl, by rw [picture?, picture?, hstate]; rfl⟩
  · exact ⟨rfl, rfl⟩

end Widget

namespace Screen

variable {s t : Screen}

/-- Whatever happens between swaps, a widget keeps what an input, an upload and the focus leave
alone. -/
theorem Stirs.map_eq {α : Type} {g : Widget → α} (h : s.Stirs t)
    (huntouched : ∀ w, g w.untouched = g w)
    (hinput : ∀ {w w' : Widget} {input : Input} {message : Option Message},
      w.interpret input = .ok (w', message) → g w' = g w)
    (hupload : ∀ files w, g (Session.showUploaded files w) = g w) (handle : Handle) :
    (t.pool.get? handle).map g = (s.pool.get? handle).map g := by
  cases h with
  | @input key h w w' input message hlive hw hmoves hinterpret =>
    rw [WidgetPool.get?_set hw]
    split
    · rename_i heq
      rw [← heq, hw, Option.map_some, Option.map_some, hinput hinterpret]
    · rfl
  | @uploaded key h files hlive =>
    rw [WidgetPool.get?_modify]
    split
    · cases s.pool.get? handle with
      | none => rfl
      | some w => exact congrArg some (hupload files w)
    · rfl
  | focus key =>
    obtain ⟨focused, pool, hpool, hfocus⟩ := s.surface.focus_eq s.pool key
    rw [Screen.focus, hfocus]
    exact hpool.map_eq huntouched handle
  | blur =>
    obtain ⟨pool, hpool, hblur⟩ := s.surface.blur_eq s.pool
    rw [Screen.blur, hblur]
    exact hpool.map_eq huntouched handle
  | ticked now =>
    unfold tick
    split <;> rfl
  | completed ticket =>
    unfold complete
    split <;> rfl
  | toggled | chosen | settled | scrolled | faded => rfl

/-- A widget stays in its fragment. -/
theorem Stirs.fragmentId_eq (h : s.Stirs t) (handle : Handle) :
    (t.pool.get? handle).map Widget.fragmentId = (s.pool.get? handle).map Widget.fragmentId :=
  h.map_eq (fun _ => rfl) (fun hinput => (Widget.samePlace_interpret hinput).1)
    (fun files w => (Widget.samePlace_showUploaded files w).1) handle

/-- A picture stays the same. -/
theorem Stirs.picture_eq (h : s.Stirs t) (handle : Handle) :
    (t.pool.get? handle).map Widget.picture? = (s.pool.get? handle).map Widget.picture? :=
  h.map_eq (fun _ => rfl) (fun hinput => (Widget.samePlace_interpret hinput).2)
    (fun files w => (Widget.samePlace_showUploaded files w).2) handle

end Screen

end RemoteUi
