/-
# RemoteUi.Proofs.Screen.Coherence — the surface and the index of live widgets.

A screen is coherent when its index of live widgets is no more and no less than what the surface
shows: every widget shown under an identity is the one that is live under it, every live widget is
shown, and no widget is shown twice (`Screen.Coherent`).  Swaps keep a screen coherent as long as a
tree has no identity twice, and none of a widget that stays (`Screen.Admits`).

* A widget that stays outside the fragment is neither handed out again by the new tree
  (`not_mem_rendered`) nor forgotten with the old one (`not_mem_goneIds`).  Both are because its
  identity is its own.
* A widget of the new tree is live under its identity, since no two nodes share one
  (`WidgetsMade.lookup_key`).
* A live widget that is neither in the new tree nor forgotten was shown before, outside the fragment
  (`mem_cleared_of_kept`).  This is where coherence before the swap is used.
* From the other side, if no identity is shown twice after a swap, the tree was one of these
  (`Sound.admits_of_nodup`).  It makes the condition on trees one on what is shown.

`Coherent.swap` is the step, and `coherent_after_swaps` the run: any sequence of swaps, of which
those that the screen refuses may be of any trees, as they leave it alone.  Then as many widgets are
live as are shown under an identity.
-/
import Mathlib.Data.List.Nodup
import RemoteUi.Proofs.Screen.Swap

namespace RemoteUi

open Rendered (leaves handle? ofLeaves_handle?)

namespace Screen

/-! ## Coherent screens -/

/-- The index of live widgets is what the surface shows. -/
structure Coherent (s : Screen) : Prop where
  /-- What is live under an identity or shown is there, and has that identity. -/
  sound : s.Sound
  /-- Nothing is live without an identity. -/
  named : s.pool.lookup "" = none
  /-- A widget shown under an identity is the one that is live under it. -/
  live : ∀ h ∈ s.surface.handles, s.pool.key h ≠ "" → s.pool.lookup (s.pool.key h) = some h
  /-- A live widget is shown. -/
  shown : ∀ key h, s.pool.lookup key = some h → h ∈ s.surface.handles
  /-- No widget is shown twice. -/
  once : s.surface.handles.Nodup

/-- The widgets of a fragment's next tree have identities of their own: none occurs twice, and none
is that of a widget outside the fragment. -/
structure Admits (s : Screen) (f : Fragment) : Prop where
  wellFormed : f.WellFormed
  nodup : f.widgetKeys.Nodup
  apart : ∀ key ∈ f.widgetKeys, key ∉ s.keysOutside f.id

/-- The screens that swaps lead to, of trees whose widgets have identities of their own. -/
inductive ReachedBySwaps (strategy : FadeStrategy) : Screen → Prop where
  | start : ReachedBySwaps strategy (empty strategy)
  | swap {s : Screen} {f : Fragment} (now : Nat) (hs : ReachedBySwaps strategy s)
    (hf : s.Accepts f.id → s.Admits f) : ReachedBySwaps strategy (s.attempt f now)

end Screen

/-! ## Trees without repeated identities -/

namespace WidgetsMade

variable {ns : List Node} {b b' : Build} {rs : List Rendered}

/-- Where no identity occurs twice, each widget that is handed out under one is live under it. -/
theorem lookup_key (hmade : WidgetsMade ns b rs b') (hb : b.widgetIds = [])
    (hns : (Node.widgetKeys ns).Nodup) {h : Handle} (hh : h ∈ leaves handle? rs)
    (hkey : b'.pool.key h ≠ "") : b'.pool.lookup (b'.pool.key h) = some h := by
  have hnew := hmade.lookup_new _ (hmade.mem_widgetKeys hh hkey) (by simp [hb])
  obtain ⟨h', hh', hlookup⟩ := hnew
  have hkey' := hmade.sound.key_eq hlookup
  -- two widgets of one identity would be two nodes of it
  have hnodup : (((leaves handle? rs).filter (b'.pool.key · ≠ "")).map b'.pool.key).Nodup := by
    have hfilter := List.filter_map (f := b'.pool.key) (p := (· ≠ "")) (l := leaves handle? rs)
    rw [hmade.keys, Node.filter_shownKeys] at hfilter
    exact hfilter ▸ hns.filter _
  have hmem : ∀ h ∈ leaves handle? rs, b'.pool.key h ≠ "" →
      h ∈ (leaves handle? rs).filter (b'.pool.key · ≠ "") := fun h hh hkey =>
    List.mem_filter.mpr ⟨hh, by simpa using hkey⟩
  have heq : h' = h :=
    List.inj_on_of_nodup_map hnodup (hmem h' hh' (hkey'.symm ▸ hkey)) (hmem h hh hkey) hkey'
  rw [hlookup, heq]

end WidgetsMade

/-! ## One swap -/

namespace Screen

variable {s s' : Screen} {f : Fragment} {now : Nat} {report : SwapReport}

/-- Nothing is shown, and nothing is live. -/
theorem coherent_empty (strategy : FadeStrategy) : (empty strategy).Coherent where
  sound := sound_empty strategy
  named := rfl
  live := nofun
  shown := nofun
  once := List.nodup_nil

/-- No widget that stays outside is handed out again. -/
theorem Coherent.not_mem_rendered (hs : s.Coherent) (hf : s.Admits f) {h : Handle}
    (hh : h ∈ (s.surface.cleared f.id).handles) :
    h ∉ leaves handle? (f.rendered s.pool s.groups) := by
  intro hnew
  have hmade := hs.sound.widgetsMade f
  have hlt := hs.sound.outside hh
  refine (hmade.made h hnew).1 ⟨hlt, fun key hlookup => ?_⟩
  have hkey : s.pool.key h = key := hs.sound.pool.key_eq hlookup
  have hne : key ≠ "" := by
    rintro rfl
    exact nomatch hs.named.symm.trans hlookup
  have hmem := hmade.mem_widgetKeys hnew
  rw [hmade.key_eq h hlt] at hmem
  exact absurd (List.mem_map_of_mem hh) (hf.apart _ (hmem (hkey ▸ hne)))

/-- A widget that stays outside stays live. -/
theorem Coherent.lookup_outside (hs : s.Coherent) (hf : s.Admits f) {h : Handle}
    (hh : h ∈ (s.surface.cleared f.id).handles) (hkey : s.pool.key h ≠ "") :
    (s.built f).build.pool.lookup (s.pool.key h) = some h := by
  have hmade := hs.sound.widgetsMade f
  have hshown := (s.surface.leaves_cleared_sublist ofLeaves_handle? f.id).subset hh
  have hnew : s.pool.key h ∉ Node.widgetKeys [f.root] := fun hmem =>
    hf.apart _ hmem (List.mem_map_of_mem hh)
  rw [hmade.lookup_eq _ (Or.inr hnew)]
  exact hs.live h hshown hkey

/-- No two widgets that are shown have one identity. -/
theorem Coherent.eq_of_key_eq (hs : s.Coherent) {h h' : Handle} (hh : h ∈ s.surface.handles)
    (hh' : h' ∈ s.surface.handles) (hkey : s.pool.key h = s.pool.key h') (hne : s.pool.key h ≠ "") :
    h = h' := by
  have hlive := hs.live h hh hne
  have hlive' := hs.live h' hh' (hkey ▸ hne)
  rw [hkey, hlive'] at hlive
  exact (Option.some.inj hlive).symm

/-- What is known by an identity outside a fragment is not known by it inside. -/
theorem Coherent.not_mem_outgoing (hs : s.Coherent) {id : String} {old : Panel} {h : Handle}
    (hold : s.surface.fragment? id = some old) (hh : h ∈ (s.surface.cleared id).handles) :
    s.pool.key h ∉ old.widgetIds s.pool := by
  intro hmem
  obtain ⟨⟨h', hh', hkey⟩, hne⟩ := Panel.mem_widgetIds.mp hmem
  have hshown := (s.surface.leaves_cleared_sublist ofLeaves_handle? id).subset hh
  have hshown' := (s.surface.mem_leaves_iff ofLeaves_handle? id).mpr (Or.inr ⟨old, hold, hh'⟩)
  -- it would be one widget in two places
  obtain rfl := hs.eq_of_key_eq hshown hshown' hkey.symm hne
  exact Surface.not_mem_cleared ofLeaves_handle? hold hs.once hh' hh

/-- No widget that stays outside is forgotten. -/
theorem Coherent.not_mem_goneIds (hs : s.Coherent) {h : Handle}
    (hh : h ∈ (s.surface.cleared f.id).handles) : s.pool.key h ∉ s.goneIds f := by
  rw [hs.sound.mem_goneIds]
  rintro ⟨⟨old, hold, hmem⟩, -⟩
  exact hs.not_mem_outgoing hold hh hmem

/-- A live widget that the new tree does not have, and that is not forgotten, stays outside. -/
theorem Coherent.mem_cleared_of_kept (hs : s.Coherent) {key : String} {h : Handle}
    (hlive : s.pool.lookup key = some h) (hnew : key ∉ f.widgetKeys) (hkept : key ∉ s.goneIds f) :
    h ∈ (s.surface.cleared f.id).handles := by
  refine ((s.surface.mem_leaves_iff ofLeaves_handle? f.id).mp
    (hs.shown key h hlive)).resolve_right ?_
  -- a widget of the outgoing tree that the new one does not have is forgotten
  rintro ⟨old, hfragment, hh⟩
  refine hkept (hs.sound.mem_goneIds.mpr ⟨⟨old, hfragment, ?_⟩, hnew⟩)
  refine Panel.mem_widgetIds.mpr ⟨⟨h, hh, hs.sound.pool.key_eq hlive⟩, ?_⟩
  rintro rfl
  exact nomatch hs.named.symm.trans hlive

/-- No widget is shown twice after a swap. -/
theorem Coherent.nodup_swap (hs : s.Coherent) (hf : s.Admits f)
    (h : s.swap f now = .ok (s', report)) : s'.surface.handles.Nodup := by
  obtain ⟨pre, post, -, hcleared, hafter⟩ := leaves_swap h ofLeaves_handle?
  have hsub := s.surface.leaves_cleared_sublist ofLeaves_handle? f.id
  have hperm : (pre ++ leaves handle? (s.built f).root.children ++ post).Perm
      ((pre ++ post) ++ leaves handle? (s.built f).root.children) := by
    rw [List.append_assoc, List.append_assoc]
    exact List.perm_append_comm.append_left pre
  have hbuilt : leaves handle? (s.built f).root.children =
      leaves handle? (f.rendered s.pool s.groups) :=
    f.leaves_build s.pool s.groups ofLeaves_handle? hf.wellFormed.container
  rw [← Surface.leaves_handle?, hafter, hperm.nodup_iff, ← hcleared, hbuilt, List.nodup_append]
  refine ⟨hsub.nodup hs.once, (hs.sound.widgetsMade f).nodup, fun h' hh' h'' hh'' heq => ?_⟩
  exact hs.not_mem_rendered hf hh' (heq ▸ hh'')

/-- A swap keeps the surface and the index of live widgets together. -/
theorem Coherent.swap (hs : s.Coherent) (hf : s.Admits f) (h : s.swap f now = .ok (s', report)) :
    s'.Coherent := by
  have hmade := hs.sound.widgetsMade f
  have hlookup := lookup_swap h
  have hkey := key_swap h
  have hmem : ∀ h, h ∈ s'.surface.handles ↔ h ∈ (s.surface.cleared f.id).handles ∨
      h ∈ leaves handle? (f.rendered s.pool s.groups) := fun _ => mem_handles_swap_iff hf.wellFormed h
  constructor
  case sound => exact hs.sound.swap h
  case named =>
    have hne : "" ∉ f.widgetKeys := fun hmem => hf.wellFormed.ne_empty_of_mem hmem rfl
    have hnamed : (s.built f).build.pool.lookup "" = none :=
      (hmade.lookup_eq "" (Or.inr hne)).trans hs.named
    rw [hlookup, hnamed, ite_self]
  case live =>
    intro h' hh' hne
    rcases (hmem h').mp hh' with hh' | hh'
    · rw [hs.sound.key_swap_outside h hh'] at hne ⊢
      rw [hlookup, if_neg (hs.not_mem_goneIds hh')]
      exact hs.lookup_outside hf hh' hne
    · rw [hkey] at hne ⊢
      rw [hlookup, if_neg]
      · exact hmade.lookup_key rfl hf.nodup hh' hne
      · rw [hs.sound.mem_goneIds]
        exact fun hgone => hgone.2 (hmade.mem_widgetKeys hh' hne)
  case shown =>
    intro key h' hlive
    rw [hlookup] at hlive
    split at hlive
    · cases hlive
    · -- the index after the swap is that of the build, without what was forgotten
      rename_i hkept
      rw [hmem]
      by_cases hnew : key ∈ f.widgetKeys
      · obtain ⟨h'', hh'', hlive'⟩ := hmade.lookup_new key hnew List.not_mem_nil
        obtain rfl := Option.some.inj (hlive.symm.trans hlive')
        exact Or.inr hh''
      · have hold : s.pool.lookup key = some h' :=
          (hmade.lookup_eq key (Or.inr hnew)).symm.trans hlive
        exact Or.inl (hs.mem_cleared_of_kept hold hnew hkept)
  case once => exact hs.nodup_swap hf h

/-- Where no identity is shown twice after a swap, the widgets of its tree have identities of their
own. -/
theorem Sound.admits_of_nodup (hs : s.Sound) (hf : f.WellFormed)
    (h : s.swap f now = .ok (s', report)) (hnodup : s'.shownIds.Nodup) : s.Admits f := by
  have hmade := hs.widgetsMade f
  obtain ⟨pre, post, -, hcleared, hafter⟩ := leaves_swap h ofLeaves_handle?
  rw [Surface.leaves_handle?] at hcleared hafter
  rw [built, f.leaves_build s.pool s.groups ofLeaves_handle? hf.container] at hafter
  -- the identities of the new tree stand between those before and after it
  have hkeys : (leaves handle? (f.rendered s.pool s.groups)).map s'.pool.key =
      Node.shownKeys [f.root] := by
    rw [← hmade.keys]
    exact List.map_congr_left fun h' _ => key_swap h h'
  have hfilter : ((leaves handle? (f.rendered s.pool s.groups)).map s'.pool.key).filter (· ≠ "") =
      f.widgetKeys := by
    rw [hkeys, Node.filter_shownKeys]
    exact hf.filter_widgetKeys
  rw [shownIds, hafter, List.map_append, List.map_append, List.filter_append, List.filter_append,
    hfilter, List.append_assoc] at hnodup
  have hsplit := (List.perm_append_comm_assoc _ f.widgetKeys _).nodup_iff.mp hnodup
  obtain ⟨hnew, -, hdisjoint⟩ := List.nodup_append.mp hsplit
  refine ⟨hf, hnew, fun key hkey hout => ?_⟩
  obtain ⟨h', hh', rfl⟩ := List.mem_map.mp hout
  have hkept := hs.key_swap_outside h hh'
  refine hdisjoint _ hkey _ ?_ rfl
  rw [← List.filter_append, ← List.map_append, ← hcleared]
  refine List.mem_filter.mpr ⟨List.mem_map.mpr ⟨h', hh', hkept⟩, ?_⟩
  simpa using hf.ne_empty_of_mem hkey

/-! ## All swaps -/

/-- Along any sequence of such swaps the screen is coherent. -/
theorem ReachedBySwaps.coherent {strategy : FadeStrategy} (hs : ReachedBySwaps strategy s) :
    s.Coherent := by
  induction hs with
  | start => exact coherent_empty strategy
  | @swap s f now hs hf ih =>
    rcases s.attempt_eq f now with heq | ⟨report, hswap⟩
    · exact heq.symm ▸ ih
    · exact ih.swap (hf (swap_accepts hswap)) hswap

/-- The keys of the index are the ids that are shown. -/
theorem Coherent.mem_keys_iff (hs : s.Coherent) {key : String} :
    key ∈ s.pool.index.keys ↔ key ∈ s.shownIds := by
  rw [Table.mem_keys, mem_shownIds]
  constructor
  · rintro ⟨h, hlive⟩
    refine ⟨⟨h, hs.shown key h hlive, hs.sound.pool.key_eq hlive⟩, ?_⟩
    rintro rfl
    exact nomatch hs.named.symm.trans hlive
  · rintro ⟨⟨h, hh, rfl⟩, hne⟩
    exact ⟨h, hs.live h hh hne⟩

/-- No id is shown twice. -/
theorem Coherent.shownIds_nodup (hs : s.Coherent) : s.shownIds.Nodup := by
  have hfilter := List.filter_map (f := s.pool.key) (p := (· ≠ "")) (l := s.surface.handles)
  rw [shownIds, hfilter]
  refine List.Nodup.map_on (fun h hh h' hh' hkey => ?_) (hs.once.filter _)
  obtain ⟨hh, hne⟩ := List.mem_filter.mp hh
  exact hs.eq_of_key_eq hh (List.mem_filter.mp hh').1 hkey (by simpa using hne)

/-- As many widgets are live as are shown under an identity. -/
theorem Coherent.liveCount_eq (hs : s.Coherent) : s.pool.liveCount = s.shownIds.length := by
  have hperm : s.pool.index.keys.Perm s.shownIds :=
    (List.perm_ext_iff_of_nodup s.pool.index.keys_nodup hs.shownIds_nodup).mpr fun key =>
      hs.mem_keys_iff
  rw [WidgetPool.liveCount, ← Table.length_keys, hperm.length_eq]

/-- However trees come and go, succeed or are refused: the surface and the index of live widgets
stay together, as long as the widgets of each tree have identities of their own. -/
theorem coherent_after_swaps {strategy : FadeStrategy} {s : Screen}
    (hs : ReachedBySwaps strategy s) :
    s.Coherent ∧ s.pool.liveCount = s.shownIds.length :=
  ⟨hs.coherent, hs.coherent.liveCount_eq⟩

/-- A fragment inside another takes over a widget that changes its kind and a new one, beside
widgets without identity; a swap of a fragment that is not shown follows. -/
theorem coherent_after_nested_swaps :
    let main : Fragment := ⟨"main", .container (.ofId none) (some "main")
      [.button (some "a"), .container (.ofId none) (some "side") [.button (some "b"), .button none]]⟩
    let side : Fragment := ⟨"side", .container (.ofId none) (some "side")
      [.button (some "c"), .button none, .widget (.ofId (some "b")) (.textField none "")]⟩
    let lost : Fragment := ⟨"lost", .container (.ofId none) (some "lost") []⟩
    let s := (((empty .instant).attempt main 0).attempt side 1).attempt lost 2
    ReachedBySwaps .instant s ∧ s.shownIds = ["a", "c", "b"] ∧
      s.Coherent ∧ s.pool.liveCount = s.shownIds.length := by
  intro main side lost s
  have hs : ReachedBySwaps .instant s := by
    refine .swap 2 (.swap 1 (.swap 0 .start fun _ => ?_) fun _ => ?_) fun _ => ?_
    all_goals exact ⟨⟨⟨_, _, _, rfl⟩, by decide⟩, by decide, by decide⟩
  exact ⟨hs, by decide, coherent_after_swaps hs⟩

end Screen

end RemoteUi
