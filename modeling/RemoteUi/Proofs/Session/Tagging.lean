/-
# RemoteUi.Proofs.Session.Tagging — events carry the fragment that the user sees.

A screen is tagged when every widget and every group that is shown has the fragment around it as its
own, and every group that is attached is shown (`Tagged`).  A tree that comes in is tagged as it is
rendered, whatever its containers override or inherit; what stays keeps its fragment, unless the
tree has its identity or its key (`Tagged.swap`).

Why it takes a condition: a widget that stays outside the fragment would be moved to it by a tree
that has a widget of its identity, and then name a fragment that it does not stand in.  The
condition is that neither an identity nor a key of a group is on the surface twice as trees arrive
(`Distinct`); that no tree has anything of what stays follows from it
(`Sound.admitsApart_of_nodup`).

Between swaps no widget and no group changes its fragment.  An input is answered by the widget that
is live under an id, which is shown, since screens are coherent; so what it says names a fragment
that is found on the surface.  The same goes for what a group reports (`tags_run`).

At the end a button is moved out of an inner fragment by the next tree, and goes on in the page.
-/
import Mathlib.Data.List.Infix
import RemoteUi.Proofs.Group.Exclusive
import RemoteUi.Proofs.Screen.Enclosure
import RemoteUi.Proofs.Session.Delivery

namespace RemoteUi

open Rendered (leaves handle? groupKey? ofLeaves_handle? ofLeaves_groupKey?)

/-- The fragment that a message is about. -/
def Message.fragmentId : Message → String
  | .clicked _ id => id
  | .valueChanged _ id _ _ => id
  | .cellEdited _ _ id _ _ _ => id
  | .downloadRequested _ id _ => id
  | .filesSelected _ _ id _ _ => id

namespace Screen

variable {s s' : Screen} {f : Fragment} {now : Nat} {report : SwapReport}

/-! ## Tagged screens -/

/-- What is shown has the fragment around it as its own. -/
structure Tagged (s : Screen) : Prop where
  widgets : ∀ e ∈ s.surface.enclosed handle?, (s.pool.get? e.2).map Widget.fragmentId = e.1
  groups : ∀ e ∈ s.surface.enclosed groupKey?, ∀ g, s.groups.get? e.2 = some g →
    e.1 = some g.fragmentId
  /-- A group that is attached is shown. -/
  attached : ∀ key g, s.groups.get? key = some g → key ∈ s.surface.groupKeys

/-- Nothing is shown on an empty screen. -/
theorem tagged_empty (strategy : FadeStrategy) : (empty strategy).Tagged :=
  ⟨nofun, nofun, nofun⟩

/-- The tree is that of a fragment as it is read, and has no identity and no key that occurs
elsewhere. -/
structure AdmitsApart (s : Screen) (f : Fragment) : Prop where
  admits : s.Admits f
  rooted : f.Rooted
  groupsApart : ∀ key ∈ f.groupKeys, key ∉ (s.surface.cleared f.id).groupKeys

/-! ## Swaps -/

/-- The fragment of a widget is part of what it serves. -/
theorem fragmentId_of_served? (pool : WidgetPool) (h : Handle) :
    (pool.get? h).map Widget.fragmentId = (pool.served? h).map Widget.fragmentId := by
  rw [WidgetPool.served?, Option.map_map]
  rfl

/-- The widgets of a tree have the fragments around them. -/
theorem Sound.tagged_rendered (hs : s.Sound) (hf : f.WellFormed)
    (h : s.swap f now = .ok (s', report)) {e : Option String × Handle}
    (he : e ∈ Rendered.enclosedIn handle? (some f.id) (f.rendered s.pool s.groups)) :
    (s'.pool.get? e.2).map Widget.fragmentId = e.1 := by
  obtain ⟨head, own, children, hroot⟩ := hf.container
  -- handles and nodes are both in document order, and so are the fragments around them
  have hserved := hs.served_swap hf h
  rw [← Rendered.map_snd_enclosedIn ofLeaves_handle? (some f.id), List.map_map,
    Fragment.placed_eq hroot] at hserved
  have haround := f.map_fst_enclosed_rendered s.pool s.groups
  have hsame : (Rendered.enclosedIn handle? (some f.id) (f.rendered s.pool s.groups)).map
        (fun e => (s'.pool.get? e.2).map Widget.fragmentId) =
      (Rendered.enclosedIn handle? (some f.id) (f.rendered s.pool s.groups)).map Prod.fst := by
    have hmap := congrArg (List.map (Option.map Widget.fragmentId)) hserved
    rw [List.map_map, List.map_map] at hmap
    rw [haround]
    refine Eq.trans ?_ hmap
    exact List.map_congr_left fun e _ => fragmentId_of_served? s'.pool e.2
  exact List.map_inj_left.mp hsame e he

/-- The groups of a tree have the fragments around them. -/
theorem tagged_group_rendered (h : s.swap f now = .ok (s', report))
    {e : Option String × String}
    (he : e ∈ Rendered.enclosedIn groupKey? (some f.id) (f.rendered s.pool s.groups)) {g : Group}
    (hg : s'.groups.get? e.2 = some g) : e.1 = some g.fragmentId := by
  have htagged := f.build_groupsTagged s.pool s.groups
  obtain ⟨g', hg', haround⟩ := htagged.tagged e he
  have hkey : e.2 ∈ f.groupKeys := by
    have hshown : e.2 ∈ leaves groupKey? (f.rendered s.pool s.groups) := by
      rw [← Rendered.map_snd_enclosedIn ofLeaves_groupKey? (some f.id)]
      exact List.mem_map_of_mem he
    exact ((htagged.made.shown e.2).mp hshown).1
  rw [groups_swap h, get?_nextGroups fun _ _ _ => hkey, Option.filter_eq_some_iff] at hg
  obtain rfl := Option.some.inj (hg'.symm.trans hg.1)
  exact haround

/-- A group that the tree does not have is as it was, and the outgoing tree did not have it. -/
theorem group_apart_of_swap (h : s.swap f now = .ok (s', report)) {key : String} {g : Group}
    (hkey : key ∉ f.groupKeys) (hg : s'.groups.get? key = some g) :
    s.groups.get? key = some g ∧ ∀ old, s.surface.fragment? f.id = some old → key ∉ old.groupKeys := by
  rw [groups_swap h] at hg
  have hout : ∀ old, s.surface.fragment? f.id = some old → key ∉ old.groupKeys := by
    intro old hold hmem
    rw [get?_nextGroups_gone hold hmem hkey] at hg
    cases hg
  refine ⟨?_, hout⟩
  rw [get?_nextGroups fun old hold hmem => absurd hmem (hout old hold),
    Option.filter_eq_some_iff, built, (f.build_groupsMade s.pool s.groups).get?_eq key (Or.inr hkey)]
    at hg
  exact hg.1

/-- A tree that occurs nowhere else leaves a screen tagged. -/
theorem Tagged.swap (hs : s.Tagged) (hcoherent : s.Coherent) (hf : s.AdmitsApart f)
    (h : s.swap f now = .ok (s', report)) : s'.Tagged := by
  have hbuilt : ∀ {α : Type} {g : Rendered → Option α},
      Rendered.enclosedIn g (some f.id) (s.built f).root.children =
        Rendered.enclosedIn g (some f.id) (f.rendered s.pool s.groups) :=
    hf.rooted.enclosed_build s.pool s.groups
  constructor
  case widgets =>
    intro e he
    rcases mem_enclosed_swap h he with ⟨hold, hout⟩ | hnew
    -- a widget outside is left alone, as the tree does not have its identity
    · have hhandle : e.2 ∈ (s.surface.cleared f.id).handles := by
        rw [← Surface.leaves_handle?, ← Surface.map_snd_enclosed ofLeaves_handle?]
        exact List.mem_map_of_mem hout
      have hserved := hcoherent.sound.served_apart h (hcoherent.sound.outside hhandle)
        (hcoherent.not_mem_rendered hf.admits hhandle)
      rw [fragmentId_of_served?, hserved, ← fragmentId_of_served?]
      exact hs.widgets e hold
    · rw [hbuilt] at hnew
      exact hcoherent.sound.tagged_rendered hf.admits.wellFormed h hnew
  case groups =>
    intro e he g hg
    rcases mem_enclosed_swap h he with ⟨hold, hout⟩ | hnew
    · have hkey : e.2 ∉ f.groupKeys := by
        intro hmem
        apply hf.groupsApart e.2 hmem
        rw [Surface.groupKeys, ← Surface.map_snd_enclosed ofLeaves_groupKey?]
        exact List.mem_map_of_mem hout
      exact hs.groups e hold g (group_apart_of_swap h hkey hg).1
    · rw [hbuilt] at hnew
      exact tagged_group_rendered h hnew hg
  case attached =>
    intro key g hg
    rw [Surface.groupKeys, mem_leaves_swap h ofLeaves_groupKey?]
    -- a group that the swap leaves attached is one of the tree, or was shown outside
    by_cases hkey : key ∈ f.groupKeys
    · right
      rw [built, f.leaves_build s.pool s.groups ofLeaves_groupKey? hf.admits.wellFormed.container,
        (f.build_groupsMade s.pool s.groups).shown]
      exact ⟨hkey, List.not_mem_nil⟩
    · left
      obtain ⟨hbefore, hout⟩ := group_apart_of_swap h hkey hg
      rcases (s.surface.mem_leaves_iff ofLeaves_groupKey? f.id).mp (hs.attached key g hbefore) with
        hcleared | ⟨old, hold, hmem⟩
      · exact hcleared
      · exact absurd hmem (hout old hold)

/-- Where neither an identity nor a key is shown twice after a swap, its tree has none of what
stayed. -/
theorem Sound.admitsApart_of_nodup (hs : s.Sound) (hf : f.WellFormed) (hrooted : f.Rooted)
    (h : s.swap f now = .ok (s', report)) (hids : s'.shownIds.Nodup)
    (hkeys : s'.surface.groupKeys.Nodup) : s.AdmitsApart f := by
  refine ⟨hs.admits_of_nodup hf h hids, hrooted, fun key hkey hout => ?_⟩
  obtain ⟨pre, post, -, hcleared, hafter⟩ := leaves_swap h ofLeaves_groupKey?
  rw [Surface.groupKeys, hafter, List.append_assoc] at hkeys
  have hsplit := (List.perm_append_comm_assoc pre _ post).nodup_iff.mp hkeys
  have hnew : key ∈ leaves groupKey? (s.built f).root.children := by
    rw [built, f.leaves_build s.pool s.groups ofLeaves_groupKey? hf.container,
      (f.build_groupsMade s.pool s.groups).shown]
    exact ⟨hkey, List.not_mem_nil⟩
  rw [Surface.groupKeys, hcleared] at hout
  exact (List.nodup_append.mp hsplit).2.2 key hnew key hout rfl

end Screen

/-! ## Between swaps -/

namespace Group

variable {g g' : Group} {value : String}

theorem fragmentId_toggle? (h : g.toggle? value = some g') : g'.fragmentId = g.fragmentId := by
  obtain ⟨members, -, rfl⟩ := Option.map_eq_some_iff.mp h
  rfl

theorem fragmentId_select? (h : g.select? value = some g') : g'.fragmentId = g.fragmentId := by
  unfold select? at h
  split at h
  · cases h
    rfl
  · cases h

end Group

/-- A group that the user changes stays in its fragment. -/
theorem Groups.fragmentId_edit? {gs gs' : Groups} {key : String} {f : Group → Option Group}
    (hf : ∀ {g g'}, f g = some g' → g'.fragmentId = g.fragmentId)
    (h : gs.edit? key f = some gs') (k : String) :
    (gs'.get? k).map Group.fragmentId = (gs.get? k).map Group.fragmentId := by
  obtain ⟨g, g', hg, hedit, rfl⟩ := edit?_eq_some h
  rw [Table.get?_insert]
  split
  · rename_i heq
    subst heq
    rw [hg, Option.map_some, Option.map_some, hf hedit]
  · rfl

namespace Screen

variable {s t : Screen}

/-- Whatever happens between swaps, a group stays in its fragment. -/
theorem Stirs.groupFragment_eq (h : s.Stirs t) (key : String) :
    (t.groups.get? key).map Group.fragmentId = (s.groups.get? key).map Group.fragmentId := by
  cases h with
  | input | uploaded | scrolled | faded => rfl
  | toggled hgroups => exact Groups.fragmentId_edit? Group.fragmentId_toggle? hgroups key
  | chosen hgroups => exact Groups.fragmentId_edit? Group.fragmentId_select? hgroups key
  | settled =>
    rw [Groups.settled, Table.get?_mapVal, Option.map_map]
    rfl
  | focus key' =>
    obtain ⟨focused, pool, -, hfocus⟩ := s.surface.focus_eq s.pool key'
    rw [Screen.focus, hfocus]
  | blur =>
    obtain ⟨pool, -, hblur⟩ := s.surface.blur_eq s.pool
    rw [Screen.blur, hblur]
  | ticked now => rw [groups_tick]
  | completed ticket =>
    unfold complete
    split <;> rfl

/-- The same groups are shown. -/
theorem Stirs.groupKeys_eq (h : s.Stirs t) : t.surface.groupKeys = s.surface.groupKeys := by
  rw [Surface.groupKeys, Surface.groupKeys, ← Surface.map_snd_enclosed ofLeaves_groupKey?,
    ← Surface.map_snd_enclosed ofLeaves_groupKey?, h.enclosed_eq]

/-- What happens between swaps keeps a screen tagged. -/
theorem Tagged.stirs (hs : s.Tagged) (h : s.Stirs t) : t.Tagged := by
  have hbefore : ∀ key g', t.groups.get? key = some g' →
      ∃ g, s.groups.get? key = some g ∧ g.fragmentId = g'.fragmentId := by
    intro key g' hg'
    have hmap := h.groupFragment_eq key
    rw [hg', Option.map_some] at hmap
    exact Option.map_eq_some_iff.mp hmap.symm
  constructor
  case widgets =>
    intro e he
    rw [h.enclosed_eq] at he
    rw [h.fragmentId_eq]
    exact hs.widgets e he
  case groups =>
    intro e he g' hg'
    obtain ⟨g, hg, hsame⟩ := hbefore e.2 g' hg'
    rw [h.enclosed_eq] at he
    rw [← hsame]
    exact hs.groups e he g hg
  case attached =>
    intro key g' hg'
    obtain ⟨g, hg, -⟩ := hbefore key g' hg'
    rw [h.groupKeys_eq]
    exact hs.attached key g hg

/-- Along every history in which nothing occurs twice, screens are tagged. -/
theorem Reached.tagged (hs : s.Reached AdmitsApart) : s.Tagged := by
  induction hs with
  | start strategy => exact tagged_empty strategy
  | @swap s f now hs hf ih =>
    rcases s.attempt_eq f now with heq | ⟨report, hswap⟩
    · rw [heq]
      exact ih
    · have hcoherent := (hs.mono fun _ _ hf => hf.admits).coherent
      exact ih.swap hcoherent (hf (swap_accepts hswap)) hswap
  | stir hs ht ih => exact ih.stirs ht

/-! ## What is tagged is shown -/

/-- A live widget names a fragment that is shown. -/
theorem Tagged.widget_fragment (hs : s.Tagged) (hcoherent : s.Coherent) {key : String}
    {h : Handle} {w : Widget} (hlive : s.pool.lookup key = some h) (hw : s.pool.get? h = some w) :
    (s.surface.fragment? w.fragmentId).isSome = true := by
  have hshown : h ∈ s.surface.leaves handle? := hcoherent.shown key h hlive
  obtain ⟨around, hmem⟩ := Surface.exists_enclosed ofLeaves_handle? hshown
  have haround : (s.pool.get? h).map Widget.fragmentId = around := hs.widgets _ hmem
  rw [hw, Option.map_some] at haround
  exact Surface.isSome_fragment? (haround ▸ hmem)

/-- So does a group that is attached. -/
theorem Tagged.group_fragment (hs : s.Tagged) {key : String} {g : Group}
    (hg : s.groups.get? key = some g) : (s.surface.fragment? g.fragmentId).isSome = true := by
  obtain ⟨around, hmem⟩ := Surface.exists_enclosed ofLeaves_groupKey? (hs.attached key g hg)
  have haround : around = some g.fragmentId := hs.groups _ hmem g hg
  exact Surface.isSome_fragment? (haround ▸ hmem)

end Screen

/-! ## What widgets say -/

/-- A widget speaks about its own fragment. -/
theorem Widget.fragmentId_of_says {w : Widget} {input : Input} {m : Message}
    (h : w.says input = some m) : m.fragmentId = w.fragmentId := by
  obtain ⟨⟨w', message⟩, hinterpret, hm⟩ := Option.bind_eq_some_iff.mp h
  have hm : message = some m := hm
  subst hm
  have hok : w.interpret input = .ok (w', some m) := by
    cases hr : w.interpret input with
    | error e => simp [hr, Except.toOption] at hinterpret
    | ok out => simpa [hr, Except.toOption] using hinterpret
  unfold interpret at hok
  split at hok
  case h_4 => split at hok <;> cases hok <;> rfl
  case h_9 =>
    unfold editCell at hok
    split at hok
    · cases hok
    · split at hok
      · cases hok
      · split at hok <;> cases hok
        rfl
  all_goals
    cases hok
    try rfl

namespace Session

variable {s : Session} {x : Stimulus} {run earlier : List Stimulus}

/-- What is reported is about the fragment that the widget spoke of. -/
theorem fragmentId_reported {m m' : Message} (h : s.reported m = some m') :
    m'.fragmentId = m.fragmentId := by
  cases m with
  | downloadRequested => cases h
  | clicked | valueChanged | cellEdited | filesSelected =>
    cases h
    rfl

/-! ## Runs -/

/-- As trees arrive, no identity and no key of a group is on the surface twice. -/
structure Distinct (s : Session) (run : List Stimulus) : Prop where
  widgets : ∀ earlier, earlier <+: run → (s.after earlier).screen.shownIds.Nodup
  groups : ∀ earlier, earlier <+: run → (s.after earlier).screen.surface.groupKeys.Nodup

theorem Distinct.of_prefix (h : s.Distinct run) (hrun : earlier <+: run) : s.Distinct earlier :=
  ⟨fun before hbefore => h.widgets before (hbefore.trans hrun),
    fun before hbefore => h.groups before (hbefore.trans hrun)⟩

/-- Widgets, groups and what comes of them name the fragment that the user sees. -/
structure Tags (s : Session) : Prop where
  /-- A widget on the surface is in the fragment of the nearest container that carries one. -/
  widgets : ∀ e ∈ s.screen.surface.enclosed handle?,
    ∃ w, s.screen.pool.get? e.2 = some w ∧ e.1 = some w.fragmentId
  /-- So is a group on the surface that is attached. -/
  groups : ∀ e ∈ s.screen.surface.enclosed groupKey?, ∀ g,
    s.screen.groups.get? e.2 = some g → e.1 = some g.fragmentId
  /-- Whatever input a widget is given, it answers about a fragment that is shown. -/
  answered : ∀ id input m, s.answer id input = some m →
    (s.screen.surface.fragment? m.fragmentId).isSome = true
  /-- Each message that is produced for the server is about a fragment that is shown. -/
  produced : ∀ x, ∀ m ∈ s.produced x, (s.screen.surface.fragment? m.fragmentId).isSome = true
  /-- A change of a group that waits to be taken is about a fragment that is shown. -/
  changed : ∀ c ∈ s.screen.groups.changes,
    (s.screen.surface.fragment? c.fragmentId).isSome = true

/-- On a tagged screen all that is said names a fragment that is shown. -/
theorem tags_of_reached (hs : s.screen.Reached Screen.AdmitsApart) : s.Tags := by
  have htagged := hs.tagged
  have hcoherent := (hs.mono fun _ _ hf => hf.admits).coherent
  have hanswered : ∀ id input m, s.answer id input = some m →
      (s.screen.surface.fragment? m.fragmentId).isSome = true := by
    intro id input m hm
    obtain ⟨w, hlive, hsays⟩ := Option.bind_eq_some_iff.mp hm
    obtain ⟨h, hlookup, hw⟩ := Option.bind_eq_some_iff.mp hlive
    rw [Widget.fragmentId_of_says hsays]
    exact htagged.widget_fragment hcoherent hlookup hw
  constructor
  case widgets =>
    intro e he
    have hshown : e.2 ∈ s.screen.surface.handles := by
      rw [← Surface.leaves_handle?, ← Surface.map_snd_enclosed ofLeaves_handle?]
      exact List.mem_map_of_mem he
    have hsome : s.screen.pool.get? e.2 ≠ none := by
      rw [Ne, WidgetPool.get?_eq_none_iff]
      exact Nat.not_le.mpr (hcoherent.sound.present e.2 hshown)
    obtain ⟨w, hw⟩ := Option.ne_none_iff_exists'.mp hsome
    have haround := htagged.widgets e he
    rw [hw, Option.map_some] at haround
    exact ⟨w, hw, haround.symm⟩
  case groups => exact htagged.groups
  case answered => exact hanswered
  case produced =>
    intro x m hm
    cases x with
    | action a =>
      rw [produced] at hm
      split at hm
      · obtain ⟨said, hsaid, hreported⟩ := Option.bind_eq_some_iff.mp (Option.mem_toList.mp hm)
        rw [fragmentId_reported hreported]
        exact hanswered a.id a.input said hsaid
      · cases hm
    | opening | message | frame | drain | lost => cases hm
  case changed =>
    intro c hc
    obtain ⟨g, hg, -, hchange⟩ := Groups.mem_changes.mp hc
    rw [hchange]
    exact htagged.group_fragment hg

/-- Such a run admits each of its trees as it arrives. -/
theorem Distinct.reached (h : s.Distinct run) (hs : s.screen.Reached Screen.AdmitsApart) :
    (s.after run).screen.Reached Screen.AdmitsApart := by
  induction run using List.reverseRecOn with
  | nil => exact hs
  | append_singleton run x ih =>
    have hbefore := ih (h.of_prefix (List.prefix_append _ _))
    have hids := h.widgets _ (List.prefix_refl _)
    have hkeys := h.groups _ (List.prefix_refl _)
    rw [after_concat] at hids hkeys ⊢
    refine reached_step hbefore fun r f hshown hf _ => ?_
    obtain ⟨f', now, report, hf', hswap⟩ := swapped_step hshown
    obtain rfl := hf.unique hf'
    exact hbefore.sound_screen.admitsApart_of_nodup hf.wellFormed hf.rooted hswap hids hkeys

/-- Along a run in which no identity and no key occurs on the surface twice, events carry the
fragment that the user sees, at every moment. -/
theorem tags_run (config : Config) (host : Host) (run : List Stimulus)
    (h : (start config host).Distinct run) :
    ∀ earlier, earlier <+: run → ((start config host).after earlier).Tags :=
  fun _ hearlier => tags_of_reached ((h.of_prefix hearlier).reached (.start config.fade))

/-- A page shows a fragment in itself, and there a container that inherits that fragment, with a
button in it.  The next tree of the page has the button outside the inner fragment, where the
checkboxes stay, and a box is checked. -/
def buttonMoved : List Stimulus :=
  let button := .obj [("type", .str "button"), ("id", .str "b")]
  let fragment (id : String) (children : List Json) : Json :=
    .obj [("type", .str "container"), ("is_fragment_container", .bool true),
      ("fragment_id", .str id), ("children", .arr children)]
  let before := .page [fragment "side" [boxes, fragment "" [button]]]
  let after := .page [button, fragment "side" [boxes]]
  [.message (.hello "session" none) 0, .message (.rerun ⟨none, some before, none, none⟩) 0,
    .message (.rerun ⟨none, some after, none, none⟩) 1, .action ⟨"c", .toggle "y"⟩]

/-- The button goes on in the fragment that it has come to, and the checkboxes report for theirs. -/
theorem tags_buttonMoved :
    let s := (start .default .minimal).after buttonMoved
    (start .default .minimal).Distinct buttonMoved ∧
      s.screen.surface.enclosed handle? = [(some "main", 0)] ∧
      s.screen.surface.enclosed groupKey? = [(some "side", "c")] ∧
      (s.answer "b" .click).map Message.fragmentId = some "main" ∧
      s.screen.groups.changes.map GroupChange.fragmentId = ["side"] ∧ s.Tags := by
  intro s
  have hwidgets : ∀ earlier ∈ buttonMoved.inits,
      ((start .default .minimal).after earlier).screen.shownIds.Nodup := by
    decide +kernel
  have hgroups : ∀ earlier ∈ buttonMoved.inits,
      ((start .default .minimal).after earlier).screen.surface.groupKeys.Nodup := by
    decide +kernel
  have h : (start .default .minimal).Distinct buttonMoved :=
    ⟨fun earlier hearlier => hwidgets earlier ((List.mem_inits _ _).mpr hearlier),
      fun earlier hearlier => hgroups earlier ((List.mem_inits _ _).mpr hearlier)⟩
  have htags : s.Tags := tags_run .default .minimal buttonMoved h buttonMoved (List.prefix_refl _)
  exact ⟨h, by decide +kernel, by decide +kernel, by decide +kernel, by decide +kernel, htags⟩

end Session

end RemoteUi
