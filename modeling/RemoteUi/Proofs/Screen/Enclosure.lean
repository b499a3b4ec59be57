/-
# RemoteUi.Proofs.Screen.Enclosure — the fragment around what is shown.

What is shown stands in the fragment of the nearest container around it that is the root of one.  A
view of the leaves sees each of them with that fragment (`Rendered.enclosed`): the fragment is
handed down from container to container, and replaced where a container carries one of its own.
Without the fragments it is the view of the leaves (`map_snd_enclosed`).

* *The surface.* An edit leaves the fragments around everything but what it changes
  (`Surface.enclosed_edit`), and every fragment that is around something is found on the surface
  (`Surface.isSome_fragment?`).
* *Rendering.* It finds the fragment around a node on its way down, in the same way, and makes it
  that of the widget or group (`renderClosed_enclosed`, `renderClosed_groupsTagged`).  So a widget
  and a group carry the fragment that they stand in.
* *Histories.* A swap leaves the fragments around what stays (`mem_enclosed_swap`), and nothing
  between swaps changes them (`Stirs.enclosed_eq`).

That a widget still carries the right fragment after it was moved to another one is the subject of a
module of its own; here it is said where it stands.
-/
import RemoteUi.Proofs.Screen.Serving

namespace RemoteUi

open Rendered (leaves handle? groupKey? leaves_append leaves_cons leaves_container OfLeaves
  ofLeaves_handle? ofLeaves_groupKey? panel?)

variable {α : Type}

/-- The fragment of a container does not depend on how far it is scrolled. -/
theorem Box.fragmentId_restoreScroll (offsets : Table Nat) (b : Box) :
    (b.restoreScroll offsets).fragmentId = b.fragmentId := by
  unfold restoreScroll
  split <;> rfl

/-! ## Views with the fragment around -/

namespace Rendered

mutual
/-- What a view of single nodes sees in a tree, in document order, each with the fragment around it:
that of the nearest container that carries one, or the fragment around the tree. -/
def enclosed (g : Rendered → Option α) (outer : Option String) :
    Rendered → List (Option String × α)
  | .container box children => enclosedIn g (box.fragmentId.or outer) children
  | .markup tag content style => ((g (.markup tag content style)).map fun a => (outer, a)).toList
  | .widget h => ((g (.widget h)).map fun a => (outer, a)).toList
  | .group key kind => ((g (.group key kind)).map fun a => (outer, a)).toList

/-- `enclosed` in a list of trees. -/
def enclosedIn (g : Rendered → Option α) (outer : Option String) :
    List Rendered → List (Option String × α)
  | [] => []
  | r :: rest => enclosed g outer r ++ enclosedIn g outer rest
end

variable {g : Rendered → Option α} {p : Box → Bool} {outer : Option String}

/-- Two lists of trees in one fragment. -/
theorem enclosedIn_append (rs ss : List Rendered) :
    enclosedIn g outer (rs ++ ss) = enclosedIn g outer rs ++ enclosedIn g outer ss := by
  induction rs with
  | nil => rfl
  | cons r rest ih => rw [List.cons_append, enclosedIn, enclosedIn, ih, List.append_assoc]

theorem enclosedIn_singleton (r : Rendered) : enclosedIn g outer [r] = enclosed g outer r := by
  rw [enclosedIn, enclosedIn, List.append_nil]

mutual
theorem map_snd_enclosed (hg : OfLeaves g) (outer : Option String) :
    ∀ r : Rendered, (enclosed g outer r).map Prod.snd = leaves g [r]
  | .container box children => by
    rw [enclosed, leaves_container hg]
    exact map_snd_enclosedIn hg _ children
  | .markup tag content style => by
    cases hr : g (.markup tag content style) <;> simp [enclosed, leaves, nodesOf, nodes, hr]
  | .widget h => by
    cases hr : g (.widget h) <;> simp [enclosed, leaves, nodesOf, nodes, hr]
  | .group key kind => by
    cases hr : g (.group key kind) <;> simp [enclosed, leaves, nodesOf, nodes, hr]

/-- Nothing is left out, and nothing comes in another order. -/
theorem map_snd_enclosedIn (hg : OfLeaves g) (outer : Option String) :
    ∀ rs : List Rendered, (enclosedIn g outer rs).map Prod.snd = leaves g rs
  | [] => rfl
  | r :: rest => by
    rw [enclosedIn, List.map_append, leaves_cons, map_snd_enclosed hg outer r,
      map_snd_enclosedIn hg outer rest]
end

mutual
/-- The fragment around what is seen is that around the tree, or is found in the tree. -/
theorem isSome_find?_of_enclosed {id : String} {a : α} :
    ∀ {r : Rendered} {outer : Option String}, (some id, a) ∈ enclosed g outer r →
      outer = some id ∨ (r.find? (Box.isFragment id)).isSome = true
  | .container box children, outer, h => by
    rw [enclosed] at h
    by_cases hbox : box.isFragment id = true
    · right
      simp [find?, hbox]
    · rcases isSome_findIn?_of_enclosed h with hown | hfound
      · -- the container itself is no root of the fragment, so that the fragment is around it
        left
        cases hid : box.fragmentId with
        | none => rwa [hid] at hown
        | some own =>
          rw [hid] at hown
          exact absurd (beq_iff_eq.mpr (hid.trans hown)) hbox
      · right
        simpa [find?, hbox] using hfound
  | .markup tag content style, outer, h => by
    simp only [enclosed, Option.mem_toList, Option.map_eq_some_iff, Prod.mk.injEq] at h
    obtain ⟨_, -, houter, -⟩ := h
    exact Or.inl houter
  | .widget handle, outer, h => by
    simp only [enclosed, Option.mem_toList, Option.map_eq_some_iff, Prod.mk.injEq] at h
    obtain ⟨_, -, houter, -⟩ := h
    exact Or.inl houter
  | .group key kind, outer, h => by
    simp only [enclosed, Option.mem_toList, Option.map_eq_some_iff, Prod.mk.injEq] at h
    obtain ⟨_, -, houter, -⟩ := h
    exact Or.inl houter

theorem isSome_findIn?_of_enclosed {id : String} {a : α} :
    ∀ {rs : List Rendered} {outer : Option String}, (some id, a) ∈ enclosedIn g outer rs →
      outer = some id ∨ (findIn? (Box.isFragment id) rs).isSome = true
  | [], _, h => nomatch h
  | r :: rest, outer, h => by
    rw [enclosedIn, List.mem_append] at h
    rw [findIn?]
    cases hr : r.find? (Box.isFragment id) with
    | some panel => exact Or.inr rfl
    | none =>
      rcases h with hfirst | hrest
      · exact (isSome_find?_of_enclosed hfirst).imp_right fun hfound => by simp [hr] at hfound
      · exact isSome_findIn?_of_enclosed hrest
end

mutual
/-- An edit leaves what stands before and after the container that it finds, with the fragments
around it, and the fragment around that container. -/
theorem enclosed_edit? (g : Rendered → Option α) :
    ∀ {r : Rendered} {old : Panel}, r.find? p = some old → ∀ outer : Option String,
      ∃ around pre post, enclosed g outer r = pre ++ enclosed g around old.node ++ post ∧
        ∀ f, ∃ r', r.edit? p f = some r' ∧
          enclosed g outer r' = pre ++ enclosed g around (f old).node ++ post
  | .container box children, old, h, outer => by
    simp only [find?] at h
    split at h
    · rename_i hp
      cases h
      refine ⟨outer, [], [], by simp [Panel.node], fun f => ⟨(f ⟨box, children⟩).node, ?_, ?_⟩⟩
      · simp [edit?, hp]
      · simp
    · rename_i hp
      -- further in, the container hands down its own fragment if it has one
      obtain ⟨around, pre, post, hpre, hedit⟩ := enclosed_editIn? g h (box.fragmentId.or outer)
      refine ⟨around, pre, post, by rw [enclosed, hpre], fun f => ?_⟩
      obtain ⟨rs', hrs', henclosed⟩ := hedit f
      refine ⟨.container box rs', ?_, ?_⟩
      · simp [edit?, hp, hrs']
      · rw [enclosed, henclosed]
  | .markup _ _ _, _, h, _ => nomatch h
  | .widget _, _, h, _ => nomatch h
  | .group _ _, _, h, _ => nomatch h

theorem enclosed_editIn? (g : Rendered → Option α) :
    ∀ {rs : List Rendered} {old : Panel}, findIn? p rs = some old → ∀ outer : Option String,
      ∃ around pre post, enclosedIn g outer rs = pre ++ enclosed g around old.node ++ post ∧
        ∀ f, ∃ rs', editIn? p f rs = some rs' ∧
          enclosedIn g outer rs' = pre ++ enclosed g around (f old).node ++ post
  | [], _, h, _ => nomatch h
  | r :: rest, old, h, outer => by
    simp only [findIn?] at h
    split at h
    · rename_i panel hr
      cases h
      obtain ⟨around, pre, post, hpre, hedit⟩ := enclosed_edit? g hr outer
      refine ⟨around, pre, post ++ enclosedIn g outer rest, ?_, fun f => ?_⟩
      · rw [enclosedIn, hpre, List.append_assoc]
      · obtain ⟨r', hr', henclosed⟩ := hedit f
        refine ⟨r' :: rest, by simp [editIn?, hr'], ?_⟩
        rw [enclosedIn, henclosed, List.append_assoc]
    · rename_i hr
      obtain ⟨around, pre, post, hpre, hedit⟩ := enclosed_editIn? g h outer
      refine ⟨around, enclosed g outer r ++ pre, post, ?_, fun f => ?_⟩
      · rw [enclosedIn, hpre]
        simp only [List.append_assoc]
      · obtain ⟨rs', hrs', henclosed⟩ := hedit f
        refine ⟨r :: rs', by simp [editIn?, edit?_eq_none hr, hrs'], ?_⟩
        rw [enclosedIn, henclosed]
        simp only [List.append_assoc]
end

mutual
theorem enclosed_restoreScroll (g : Rendered → Option α) (offsets : Table Nat) :
    ∀ (outer : Option String) (r : Rendered),
      enclosed g outer (r.restoreScroll offsets) = enclosed g outer r
  | outer, .container box children => by
    rw [restoreScroll, enclosed, enclosed, Box.fragmentId_restoreScroll]
    exact enclosedIn_restoreScrollIn g offsets _ children
  | _, .markup _ _ _ => rfl
  | _, .widget _ => rfl
  | _, .group _ _ => rfl

/-- Scrolling moves nothing to another fragment. -/
theorem enclosedIn_restoreScrollIn (g : Rendered → Option α) (offsets : Table Nat) :
    ∀ (outer : Option String) (rs : List Rendered),
      enclosedIn g outer (restoreScrollIn offsets rs) = enclosedIn g outer rs
  | _, [] => rfl
  | outer, r :: rest => by
    rw [restoreScrollIn, enclosedIn, enclosedIn, enclosed_restoreScroll g offsets outer r,
      enclosedIn_restoreScrollIn g offsets outer rest]
end

end Rendered

/-! ## The surface -/

namespace Surface

variable {g : Rendered → Option α} {s : Surface} {id : String} {old : Panel}

/-- What a view of single nodes sees on the surface, in document order, each with the fragment
around it. -/
def enclosed (g : Rendered → Option α) (s : Surface) : List (Option String × α) :=
  (s.root.map fun r => r.node.enclosed g none).getD []

theorem map_snd_enclosed (hg : OfLeaves g) (s : Surface) :
    (s.enclosed g).map Prod.snd = s.leaves g := by
  unfold enclosed leaves
  cases s.root with
  | none => rfl
  | some root => exact (Rendered.map_snd_enclosed hg none root.node).trans (Rendered.leaves_node hg root)

/-- What is shown stands in a fragment. -/
theorem exists_enclosed (hg : OfLeaves g) {a : α} (ha : a ∈ s.leaves g) :
    ∃ around, (around, a) ∈ s.enclosed g := by
  rw [← map_snd_enclosed hg] at ha
  obtain ⟨⟨around, a⟩, hmem, rfl⟩ := List.mem_map.mp ha
  exact ⟨around, hmem⟩

/-- The fragment around what is shown is shown. -/
theorem isSome_fragment? {a : α} (h : (some id, a) ∈ s.enclosed g) :
    (s.fragment? id).isSome = true := by
  unfold enclosed at h
  unfold fragment?
  cases hroot : s.root with
  | none =>
    rw [hroot] at h
    cases h
  | some root =>
    rw [hroot] at h
    exact (Rendered.isSome_find?_of_enclosed h).resolve_left nofun

/-- An edit leaves what stands before and after the container that it changes, with the fragments
around it. -/
theorem enclosed_edit (g : Rendered → Option α) {p : Box → Bool}
    (hold : (s.root.bind fun r => r.find? p) = some old) :
    ∃ around pre post, s.enclosed g = pre ++ old.node.enclosed g around ++ post ∧
      ∀ f, (s.edit p f).enclosed g = pre ++ (f old).node.enclosed g around ++ post := by
  obtain ⟨root, hroot, hfind⟩ := Option.bind_eq_some_iff.mp hold
  obtain ⟨around, pre, post, hpre, hedit⟩ := Rendered.enclosed_edit? g hfind none
  refine ⟨around, pre, post, by simp [enclosed, hroot, hpre], fun f => ?_⟩
  obtain ⟨r', hr', henclosed⟩ := hedit f
  obtain ⟨root', rfl⟩ := Rendered.edit?_node hr'
  rw [edit_eq hroot hr', ← henclosed]
  rfl

/-- What changes the presentation of a container only leaves all that is shown in its fragment. -/
theorem enclosed_edit_box {p : Box → Bool} {f : Panel → Panel}
    (hf : ∀ panel, (f panel).children = panel.children ∧
      (f panel).box.fragmentId = panel.box.fragmentId) :
    (s.edit p f).enclosed g = s.enclosed g := by
  cases hold : s.root.bind fun r => r.find? p with
  | none => rw [edit_eq_self hold]
  | some old =>
    obtain ⟨around, pre, post, hpre, hedit⟩ := enclosed_edit g hold
    obtain ⟨hchildren, hid⟩ := hf old
    rw [hedit f, hpre, Panel.node, Panel.node, Rendered.enclosed, Rendered.enclosed, hchildren, hid]

/-- Fading moves nothing to another fragment. -/
theorem enclosed_fade (id : String) (opacity : Float32) :
    (s.fade id opacity).enclosed g = s.enclosed g :=
  enclosed_edit_box fun _ => ⟨rfl, rfl⟩

/-- What a root of a fragment holds stands in that fragment. -/
theorem enclosed_node {p : Panel} {around : Option String} (hbox : p.box.fragmentId = some id) :
    p.node.enclosed g around = Rendered.enclosedIn g (some id) p.children := by
  rw [Panel.node, Rendered.enclosed, hbox, Option.some_or]

/-- What is shown once a container is in the place of a fragment: what stood outside the fragment, in
the fragments around it, and what the container holds. -/
theorem mem_enclosed_replace {incoming : Panel} (hbox : incoming.box.isFragment id = true)
    (hold : s.fragment? id = some old) {e : Option String × α}
    (he : e ∈ (s.replace id incoming).enclosed g) :
    e ∈ s.enclosed g ∧ e ∈ (s.cleared id).enclosed g ∨
      e ∈ Rendered.enclosedIn g (some id) incoming.children := by
  obtain ⟨around, pre, post, hpre, hedit⟩ := enclosed_edit g hold
  -- an empty container shows nothing, so what is left is what stands before and after it
  have hcleared : (s.cleared id).enclosed g = pre ++ post := by
    rw [cleared, hedit]
    simp [Panel.node, Rendered.enclosed, Rendered.enclosedIn]
  rw [replace_eq_edit hold, hedit, enclosed_node (beq_iff_eq.mp hbox)] at he
  rw [hpre, hcleared]
  simp only [List.mem_append] at he ⊢
  grind

end Surface

/-! ## Rendering -/

/-- A container hands on the fragment that it finds: its own, or the one around it. -/
theorem Rendered.enclosed_make (g : Rendered → Option α) (outer : String) (head : NodeHead)
    (own : Option String) (rs : List Rendered) :
    enclosed g (some outer)
        (.container (.make head (own.map fun _ => effectiveFragment outer own)) rs) =
      enclosedIn g (some (effectiveFragment outer own)) rs := by
  rw [enclosed, Box.make]
  cases own <;> rfl

/-- The fragments around the widgets that are shown are those that their nodes stand in. -/
theorem renderClosed_enclosed :
    RenderClosed fun fragmentId ns _ rs _ =>
      (Rendered.enclosedIn handle? (some fragmentId) rs).map Prod.fst =
        (Node.placedAll fragmentId ns).map fun p => some p.fragmentId where
  nil := fun _ _ => rfl
  append := fun hns hms => by
    rw [Rendered.enclosedIn_append, List.map_append, hns, hms, Node.placedAll_append,
      List.map_append]
  container := fun head hns => by
    rw [Rendered.enclosedIn_singleton, Rendered.enclosed_make, Node.placedAll_container]
    exact hns
  markup := fun _ _ _ _ _ => rfl
  widget := fun _ _ _ _ => rfl
  group := fun fragmentId head spec b => by
    generalize hr : b.group fragmentId head spec = r
    cases hr ▸ b.group_meets fragmentId head spec with
    | nameless | repeated | attached => rfl

/-- A group that is shown has the fragment around it as its own. -/
structure GroupsTagged (fragmentId : String) (ns : List Node) (b : Build) (rs : List Rendered)
    (b' : Build) : Prop where
  made : GroupsMade ns b rs b'
  tagged : ∀ e ∈ Rendered.enclosedIn groupKey? (some fragmentId) rs,
    ∃ g, b'.groups.get? e.2 = some g ∧ e.1 = some g.fragmentId

namespace GroupsTagged

variable {fragmentId : String} {ns ms : List Node} {b b' b'' : Build} {rs ss : List Rendered}

/-- Where no group is shown there is nothing to tag. -/
theorem of_none (hmade : GroupsMade ns b rs b')
    (hrs : Rendered.enclosedIn groupKey? (some fragmentId) rs = []) :
    GroupsTagged fragmentId ns b rs b' :=
  ⟨hmade, fun e he => by rw [hrs] at he; cases he⟩

/-- Two lists of nodes, one after the other. -/
theorem append (hns : GroupsTagged fragmentId ns b rs b')
    (hms : GroupsTagged fragmentId ms b' ss b'') :
    GroupsTagged fragmentId (ns ++ ms) b (rs ++ ss) b'' where
  made := hns.made.append hms.made
  tagged := fun e he => by
    rw [Rendered.enclosedIn_append, List.mem_append] at he
    rcases he with he | he
    · -- a key that has been met is left alone by what is rendered next
      have hshown : e.2 ∈ leaves groupKey? rs := by
        rw [← Rendered.map_snd_enclosedIn ofLeaves_groupKey? (some fragmentId)]
        exact List.mem_map_of_mem he
      have hmet : e.2 ∈ b'.groupKeys :=
        (hns.made.met e.2).mpr (Or.inr ((hns.made.shown e.2).mp hshown).1)
      rw [hms.made.get?_eq e.2 (Or.inl hmet)]
      exact hns.tagged e he
    · exact hms.tagged e he

theorem container {own : Option String}
    (hns : GroupsTagged (effectiveFragment fragmentId own) ns b rs b') (head : NodeHead) :
    GroupsTagged fragmentId [.container head own ns] b
      [.container (.make head (own.map fun _ => effectiveFragment fragmentId own)) rs] b' where
  made := hns.made.container head own _
  tagged := by
    rw [Rendered.enclosedIn_singleton, Rendered.enclosed_make]
    exact hns.tagged

end GroupsTagged

theorem renderClosed_groupsTagged : RenderClosed GroupsTagged where
  nil := fun fragmentId b => .of_none (renderClosed_groupsMade.nil fragmentId b) rfl
  append := fun hns hms => hns.append hms
  container := fun head hns => hns.container head
  markup := fun fragmentId head tag content b =>
    .of_none (renderClosed_groupsMade.markup fragmentId head tag content b) rfl
  widget := fun fragmentId head spec b =>
    .of_none (renderClosed_groupsMade.widget fragmentId head spec b) rfl
  group := fun fragmentId head spec b => by
    have hmade := renderClosed_groupsMade.group fragmentId head spec b
    generalize hr : b.group fragmentId head spec = r at hmade ⊢
    cases hr ▸ b.group_meets fragmentId head spec with
    | nameless | repeated => exact .of_none hmade rfl
    | @attached key a ha hid hkey =>
      refine ⟨hmade, fun e he => ?_⟩
      obtain rfl := List.mem_singleton.mp he
      refine ⟨a.group (b.groups.continued? key a.kind), ?_, ?_⟩
      · rw [Build.groups_count]
        exact (Table.get?_insert ..).trans (if_pos rfl)
      · cases spec <;> rw [ha] <;> rfl

namespace Fragment

variable {f : Fragment} {g : Rendered → Option α}

/-- What the root of a fragment holds has the fragment around it. -/
theorem Rooted.enclosed_build (hf : f.Rooted) (pool : WidgetPool) (groups : Groups) :
    Rendered.enclosedIn g (some f.id) (f.build pool groups).root.children =
      Rendered.enclosedIn g (some f.id) (f.rendered pool groups) := by
  obtain ⟨head, own, children, hroot, hid⟩ := hf
  have hinner : effectiveFragment f.id own = f.id := by
    rw [hid]
    cases own with
    | none => rfl
    | some id =>
      show (if id = "" then id else id) = id
      exact ite_self id
  have hrendered : f.rendered pool groups =
      [.container (.make head (own.map fun _ => effectiveFragment f.id own))
        (f.build pool groups).root.children] := by
    rw [rendered, build_container f pool groups hroot, hroot, Node.render]
    rfl
  rw [hrendered, Rendered.enclosedIn_singleton, Rendered.enclosed_make, hinner]

theorem build_groupsTagged (f : Fragment) (pool : WidgetPool) (groups : Groups) :
    GroupsTagged f.id [f.root] (Build.start pool groups) (f.rendered pool groups)
      (f.build pool groups).build := by
  rw [build_build]
  exact renderClosed_groupsTagged.render f.id f.root (Build.start pool groups)

/-- The fragments around the widgets of a fragment are those that its nodes stand in. -/
theorem map_fst_enclosed_rendered (f : Fragment) (pool : WidgetPool) (groups : Groups) :
    (Rendered.enclosedIn handle? (some f.id) (f.rendered pool groups)).map Prod.fst =
      (Node.placedAll f.id [f.root]).map fun p => some p.fragmentId :=
  renderClosed_enclosed.render f.id f.root (Build.start pool groups)

end Fragment

/-! ## Swaps -/

namespace Screen

variable {s s' t : Screen} {f : Fragment} {now : Nat} {report : SwapReport}
variable {g : Rendered → Option α}

theorem enclosed_incoming (around : Option String) (b : BuiltFragment) (outgoing : Option Panel) :
    Rendered.enclosedIn g around (incoming b outgoing).children =
      Rendered.enclosedIn g around b.root.children := by
  cases outgoing with
  | none => rfl
  | some old =>
    exact Rendered.enclosedIn_restoreScrollIn g old.scrollOffsets around b.root.children

/-- What is shown after a swap stood outside the fragment, in the fragment around it, or is in the
new tree. -/
theorem mem_enclosed_swap (h : s.swap f now = .ok (s', report)) {e : Option String × α}
    (he : e ∈ s'.surface.enclosed g) :
    e ∈ s.surface.enclosed g ∧ e ∈ (s.surface.cleared f.id).enclosed g ∨
      e ∈ Rendered.enclosedIn g (some f.id) (s.built f).root.children := by
  have hbox := s.isFragment_incoming f (s.surface.fragment? f.id)
  have hreplaced : s'.surface.enclosed g =
      (s.surface.replace f.id (incoming (s.built f) (s.surface.fragment? f.id))).enclosed g := by
    obtain ⟨focused, hsurface⟩ := surface_swap h
    rw [hsurface, nextSurface]
    cases s.strategy with
    | instant => exact Surface.enclosed_fade f.id 1
    | crossFade duration => rfl
  rw [hreplaced] at he
  rcases swap_accepts h with hroot | ⟨old, hold⟩
  · right
    simp only [Surface.replace, hroot, Surface.enclosed, Option.map_some, Option.getD_some] at he
    rwa [Surface.enclosed_node (beq_iff_eq.mp hbox), enclosed_incoming] at he
  · rcases Surface.mem_enclosed_replace hbox hold he with hout | hnew
    · exact Or.inl hout
    · rw [enclosed_incoming] at hnew
      exact Or.inr hnew

/-- Whatever happens between swaps, what is shown stays in its fragment. -/
theorem Stirs.enclosed_eq (h : s.Stirs t) : t.surface.enclosed g = s.surface.enclosed g := by
  cases h with
  | input | uploaded | toggled | chosen | settled => rfl
  | focus key =>
    obtain ⟨focused, pool, -, hfocus⟩ := s.surface.focus_eq s.pool key
    rw [Screen.focus, hfocus]
    rfl
  | blur =>
    obtain ⟨pool, -, hblur⟩ := s.surface.blur_eq s.pool
    rw [Screen.blur, hblur]
    rfl
  | scrolled id offset => exact Surface.enclosed_edit_box fun _ => ⟨rfl, rfl⟩
  | faded id opacity => exact Surface.enclosed_fade id opacity
  | ticked now =>
    unfold tick
    split
    · rfl
    · exact faded_eq (fun _ id opacity => Surface.enclosed_fade id opacity) _ _ _ _
  | completed ticket =>
    unfold complete
    split
    · exact Surface.enclosed_fade _ 1
    · rfl

end Screen

end RemoteUi
