/-
# RemoteUi.Proofs.Screen.Swap — what one swap does to the screen.

A swap succeeds exactly when nothing is shown yet or its fragment is (`Accepts`, `swap_eq`).  It has
many parts: the tree is built, the outgoing container is hidden and replaced, what only it showed is
forgotten, the focus is carried over, and the fade begins or is skipped.  This module tells all of
that in one equation for the next screen (`swap_ok`), with a name for each of its parts, so that no
later proof has to go through the steps.

* `goneIds` are the identities that the fragment showed and its next tree does not have; they are
  retired.
* `nextGroups` are the groups that the build left, without those that only the old tree showed.
* `nextSurface` is the surface with the new tree in the place of the old one.  That the old one was
  hidden in between makes no difference.
* `nextTransitions` has the new swap as the latest of its fragment.

Focus and opacity concern nobody else: the pool is otherwise `Alike`.  So the surface shows the new
tree between what stood before and after the old one (`leaves_swap`), and what is live afterwards
can be told from what was live before and the identities in the tree (`lookup_swap`,
`Sound.mem_goneIds`, `get?_nextGroups`).

A screen is `Sound` if everything that is live or shown is there; swaps keep this (`Sound.swap`).
-/
import RemoteUi.Proofs.Screen.Build
import RemoteUi.Screen.Swap

namespace RemoteUi

open Rendered (leaves handle? ofLeaves_handle?)

/-- The identities in a container are those of its widgets, but for the empty one. -/
theorem Panel.mem_widgetIds {p : Panel} {pool : WidgetPool} {key : String} :
    key ∈ p.widgetIds pool ↔ (∃ h ∈ p.handles, pool.key h = key) ∧ key ≠ "" := by
  simp [widgetIds]

/-! ## The focus -/

namespace Surface

theorem alike_flag (s : Surface) (pool : WidgetPool) (key : String) (focused : Bool) :
    pool.Alike (s.flag pool key focused) := by
  unfold flag
  split
  · exact pool.alike_setFocused _ focused
  · exact .refl pool

/-- Taking the focus away changes nothing else. -/
theorem blur_eq (s : Surface) (pool : WidgetPool) :
    ∃ pool', pool.Alike pool' ∧ s.blur pool = ({ s with focused := none }, pool') := by
  unfold blur
  split
  · rename_i previous hfocused
    exact ⟨_, s.alike_flag pool previous false, rfl⟩
  · rename_i hfocused
    exact ⟨pool, .refl pool, by rw [← hfocused]⟩

/-- Moving the focus changes nothing else. -/
theorem focus_eq (s : Surface) (pool : WidgetPool) (key : String) :
    ∃ focused pool', pool.Alike pool' ∧
      s.focus pool key = ({ s with focused := focused }, pool') := by
  obtain ⟨pool', hpool', hblur⟩ := s.blur_eq pool
  unfold focus
  rw [hblur]
  dsimp only
  split
  · rename_i h hfind
    exact ⟨some key, _, hpool'.trans (pool'.alike_setFocused h true), rfl⟩
  · exact ⟨none, pool', hpool', rfl⟩

end Surface

namespace Screen

variable {s s' : Screen} {f : Fragment} {key : String} {now : Nat} {report : SwapReport}

/-- Carrying the focus over changes nothing else. -/
theorem carryFocus_eq (s : Screen) (outgoing : Panel) (b : Build) :
    ∃ focused pool', s.pool.Alike pool' ∧ (s.carryFocus outgoing b).1 =
      { s with surface := { s.surface with focused := focused }, pool := pool' } := by
  unfold carryFocus
  split
  · exact ⟨s.surface.focused, s.pool, .refl _, rfl⟩
  · rename_i id hid
    split
    · obtain ⟨focused, pool', hpool', hfocus⟩ := s.surface.focus_eq s.pool id
      exact ⟨focused, pool', hpool', by rw [hfocus]⟩
    · exact ⟨none, s.pool, .refl _, rfl⟩

/-! ## What leaves the screen -/

/-- The fragment as it is rendered next. -/
def built (s : Screen) (f : Fragment) : BuiltFragment :=
  f.build s.pool s.groups

/-- The identities of the widgets that a fragment shows and its next tree does not have. -/
def goneIds (s : Screen) (f : Fragment) : List String :=
  match s.surface.fragment? f.id with
  | none => []
  | some old =>
    (old.widgetIds (s.built f).build.pool).filter fun id => !(s.built f).build.widgetIds.contains id

/-- The groups once a fragment's next tree has taken its place. -/
def nextGroups (s : Screen) (f : Fragment) : Groups :=
  match s.surface.fragment? f.id with
  | none => (s.built f).build.groups.pruned
  | some old =>
    ((s.built f).build.groups.detach old.groupKeys (s.built f).build.groupKeys).pruned

/-- The surface once a fragment's next tree has taken its place, with a focus. -/
def nextSurface (s : Screen) (f : Fragment) (focused : Option String) : Surface :=
  let surface := { s.surface.replace f.id (incoming (s.built f) (s.surface.fragment? f.id)) with
    focused := focused }
  match s.strategy with
  | .instant => surface.fade f.id 1
  | .crossFade _ => surface

/-- The latest swap of a fragment is the one whose number is next. -/
def nextTransitions (s : Screen) (f : Fragment) (now : Nat) : Table Transition :=
  s.transitions.insert f.id (transition s.strategy s.nextSwapId
    (incoming (s.built f) (s.surface.fragment? f.id)).box.opacity now)

/-- The screen with a fragment's next tree inserted, and nothing forgotten yet. -/
def inserted (s : Screen) (f : Fragment) (now : Nat) : Screen :=
  ⟨s.strategy, s.nextSwapId + 1, s.nextTransitions f now, (s.built f).build.pool,
    (s.built f).build.groups, (s.surface.setVisible f.id false).replace f.id
      (incoming (s.built f) (s.surface.fragment? f.id))⟩

/-- The screen once the outgoing container, if there is one, has been forgotten. -/
def departed (s : Screen) (outgoing : Option Panel) (b : Build) : Screen :=
  match outgoing with
  | none => s
  | some old => ((s.forget old b).1.carryFocus old b).1

/-- The screen at the end of a swap: groups without members are gone, and what appears at once is
in full view. -/
def concluded (s : Screen) (id : String) : Screen :=
  let s := { s with groups := s.groups.pruned }
  match s.strategy with
  | .instant => { s with surface := s.surface.fade id 1 }
  | .crossFade _ => s

/-- A fragment can be swapped in: nothing is shown yet, or it is. -/
def Accepts (s : Screen) (id : String) : Prop :=
  s.surface.root = none ∨ ∃ old, s.surface.fragment? id = some old

theorem refuses_iff {id : String} :
    (s.surface.root.isSome ∧ (s.surface.fragment? id).isNone) ↔ ¬ s.Accepts id := by
  unfold Accepts
  cases s.surface.root <;> cases s.surface.fragment? id <;> simp

/-- A swap that succeeds was accepted. -/
theorem swap_accepts (h : s.swap f now = .ok (s', report)) : s.Accepts f.id := by
  unfold swap at h
  dsimp only at h
  split at h
  · cases h
  · rename_i hrefused
    exact Classical.not_not.mp fun hnot => hrefused (refuses_iff.mpr hnot)

/-- A swap in its stages. -/
theorem swap_eq (haccepts : s.Accepts f.id) (now : Nat) :
    ∃ report, s.swap f now = .ok (((s.inserted f now).departed (s.surface.fragment? f.id)
      (s.built f).build).concluded f.id, report) := by
  unfold swap
  dsimp only
  rw [if_neg fun hrefused => refuses_iff.mp hrefused haccepts]
  refine ⟨_, congrArg Except.ok (Prod.ext ?_ rfl)⟩
  unfold inserted nextTransitions built
  generalize s.surface.fragment? f.id = outgoing
  cases outgoing with
  | none => rfl
  | some old => rfl

/-- What leaves takes its identities and its groups along. -/
theorem departed_eq (s : Screen) (old : Panel) (b : Build) :
    ∃ focused pool', (s.pool.retire
        ((old.widgetIds s.pool).filter fun id => !b.widgetIds.contains id)).Alike pool' ∧
      s.departed (some old) b =
        { s with
          pool := pool'
          groups := s.groups.detach old.groupKeys b.groupKeys
          surface := { s.surface with focused := focused } } := by
  obtain ⟨focused, pool', hpool', hfocus⟩ := (s.forget old b).1.carryFocus_eq old b
  exact ⟨focused, pool', hpool', hfocus⟩

/-- What a successful swap leaves. -/
theorem swap_ok (h : s.swap f now = .ok (s', report)) :
    ∃ focused pool', ((s.built f).build.pool.retire (s.goneIds f)).Alike pool' ∧
      s' = ⟨s.strategy, s.nextSwapId + 1, s.nextTransitions f now, pool', s.nextGroups f,
        s.nextSurface f focused⟩ := by
  obtain ⟨report', heq⟩ := swap_eq (swap_accepts h) now
  obtain ⟨rfl, -⟩ := Prod.mk.inj (Except.ok.inj (h.symm.trans heq))
  have hreplace := s.surface.replace_setVisible f.id false
    (incoming (s.built f) (s.surface.fragment? f.id))
  unfold goneIds nextGroups nextSurface inserted
  -- that the outgoing container was hidden makes no difference
  rw [hreplace]
  generalize s.nextTransitions f now = transitions
  cases s.surface.fragment? f.id with
  | none =>
    refine ⟨(s.surface.replace f.id (incoming (s.built f) none)).focused, _,
      WidgetPool.alike_retire_nil _, ?_⟩
    unfold concluded departed
    cases s.strategy <;> rfl
  | some old =>
    obtain ⟨focused, pool', hpool', hdeparted⟩ := departed_eq ⟨s.strategy, s.nextSwapId + 1,
      transitions, (s.built f).build.pool, (s.built f).build.groups,
      s.surface.replace f.id (incoming (s.built f) (some old))⟩ old (s.built f).build
    refine ⟨focused, pool', hpool', ?_⟩
    rw [hdeparted]
    unfold concluded
    cases s.strategy <;> rfl

/-- The screen after a swap, if it succeeds; a refused swap changes nothing. -/
def attempt (s : Screen) (f : Fragment) (now : Nat) : Screen :=
  match s.swap f now with
  | .ok (s', _) => s'
  | .error _ => s

/-- A swap is refused and changes nothing, or it succeeds. -/
theorem attempt_eq (s : Screen) (f : Fragment) (now : Nat) :
    s.attempt f now = s ∨ ∃ report, s.swap f now = .ok (s.attempt f now, report) := by
  unfold attempt
  split
  · rename_i s' report h
    exact Or.inr ⟨report, h⟩
  · exact Or.inl rfl

theorem swap_attempt (h : s.Accepts f.id) :
    ∃ report, s.swap f now = .ok (s.attempt f now, report) := by
  obtain ⟨report, heq⟩ := swap_eq h now
  exact ⟨report, by rw [attempt, heq]⟩

/-! ## Views of the screen after a swap -/

/-- The identities shown, in document order. -/
def shownIds (s : Screen) : List String :=
  (s.surface.handles.map s.pool.key).filter (· ≠ "")

theorem mem_shownIds {key : String} :
    key ∈ s.shownIds ↔ (∃ h ∈ s.surface.handles, s.pool.key h = key) ∧ key ≠ "" := by
  simp [shownIds]

/-- Widgets are those that the build left, without what was retired. -/
theorem alike_swap (h : s.swap f now = .ok (s', report)) :
    ((s.built f).build.pool.retire (s.goneIds f)).Alike s'.pool := by
  obtain ⟨focused, pool', hpool', rfl⟩ := swap_ok h
  exact hpool'

theorem key_swap (h : s.swap f now = .ok (s', report)) (handle : Handle) :
    s'.pool.key handle = (s.built f).build.pool.key handle :=
  (alike_swap h).key_eq handle

/-- What is live after a swap. -/
theorem lookup_swap (h : s.swap f now = .ok (s', report)) (key : String) :
    s'.pool.lookup key =
      if key ∈ s.goneIds f then none else (s.built f).build.pool.lookup key := by
  rw [(alike_swap h).lookup_eq, WidgetPool.lookup_retire]

theorem groups_swap (h : s.swap f now = .ok (s', report)) : s'.groups = s.nextGroups f := by
  obtain ⟨focused, pool', hpool', rfl⟩ := swap_ok h
  rfl

theorem surface_swap (h : s.swap f now = .ok (s', report)) :
    ∃ focused, s'.surface = s.nextSurface f focused := by
  obtain ⟨focused, pool', hpool', rfl⟩ := swap_ok h
  exact ⟨focused, rfl⟩

variable {α : Type} {g : Rendered → Option α}

/-- That containers go on being scrolled changes nothing that is shown. -/
theorem leaves_incoming (hg : Rendered.OfLeaves g) (b : BuiltFragment) (outgoing : Option Panel) :
    Rendered.leaves g (incoming b outgoing).children = Rendered.leaves g b.root.children := by
  cases outgoing with
  | none => rfl
  | some old => exact Rendered.leaves_restoreScrollIn hg old.scrollOffsets b.root.children

theorem isFragment_incoming (s : Screen) (f : Fragment) (outgoing : Option Panel) :
    (incoming (s.built f) outgoing).box.isFragment f.id = true := by
  have hbox := f.isFragment_build s.pool s.groups
  cases outgoing with
  | none => exact hbox
  | some old => exact (Box.isFragment_restoreScroll _ _ _).trans hbox

theorem leaves_nextSurface (hg : Rendered.OfLeaves g) (s : Screen) (f : Fragment)
    (focused : Option String) : (s.nextSurface f focused).leaves g =
      (s.surface.replace f.id (incoming (s.built f) (s.surface.fragment? f.id))).leaves g := by
  unfold nextSurface
  cases s.strategy with
  | instant => exact Surface.leaves_fade hg f.id 1
  | crossFade duration => rfl

/-- The new tree is shown between what stood before and after the old one. -/
theorem leaves_swap (h : s.swap f now = .ok (s', report)) (hg : Rendered.OfLeaves g) :
    ∃ pre post,
      s.surface.leaves g = pre ++ ((s.surface.fragment? f.id).map fun old =>
        Rendered.leaves g old.children).getD [] ++ post ∧
      (s.surface.cleared f.id).leaves g = pre ++ post ∧
      s'.surface.leaves g = pre ++ Rendered.leaves g (s.built f).root.children ++ post := by
  obtain ⟨focused, hsurface⟩ := surface_swap h
  rw [hsurface, leaves_nextSurface hg]
  rcases swap_accepts h with hroot | ⟨old, hold⟩
  · have hnone : s.surface.fragment? f.id = none := by simp [Surface.fragment?, hroot]
    refine ⟨[], [], ?_, Surface.leaves_cleared_root hroot, ?_⟩
    · rw [Surface.leaves_root_none hroot, hnone]
      rfl
    · rw [Surface.leaves_replace_root hroot, leaves_incoming hg, List.nil_append, List.append_nil]
  · obtain ⟨pre, post, hpre, hcleared, hreplace⟩ := Surface.leaves_replace hg hold
    refine ⟨pre, post, ?_, hcleared, ?_⟩
    · rw [hpre, hold]
      rfl
    · rw [hreplace, leaves_incoming hg]

/-- What is shown after a swap was outside the fragment or is in its new tree. -/
theorem mem_leaves_swap (h : s.swap f now = .ok (s', report)) (hg : Rendered.OfLeaves g) {a : α} :
    a ∈ s'.surface.leaves g ↔ a ∈ (s.surface.cleared f.id).leaves g ∨
      a ∈ Rendered.leaves g (s.built f).root.children := by
  obtain ⟨pre, post, -, houtside, hafter⟩ := leaves_swap h hg
  rw [hafter, houtside]
  simp only [List.mem_append]
  grind

/-- The fragment shows the new tree from then on. -/
theorem fragment?_swap (h : s.swap f now = .ok (s', report)) :
    ∃ opacity, s'.surface.fragment? f.id =
      let shown := incoming (s.built f) (s.surface.fragment? f.id)
      some { shown with box := { shown.box with opacity := opacity } } := by
  obtain ⟨focused, hsurface⟩ := surface_swap h
  have hshown := Surface.fragment?_replace (s.isFragment_incoming f (s.surface.fragment? f.id))
    (swap_accepts h)
  rw [hsurface]
  unfold nextSurface
  cases s.strategy with
  | instant =>
    refine ⟨1, ?_⟩
    dsimp only
    rw [Surface.fragment?_fade]
    exact congrArg (Option.map _) hshown
  | crossFade duration => exact ⟨_, hshown⟩

/-! ## What a swap makes of the live widgets and groups -/

/-- Everything that is live or shown is there. -/
structure Sound (s : Screen) : Prop where
  pool : s.pool.Sound
  present : ∀ h ∈ s.surface.handles, h < s.pool.widgets.size

theorem sound_empty (strategy : FadeStrategy) : (empty strategy).Sound :=
  ⟨WidgetPool.sound_empty, nofun⟩

/-- What the widgets outside a fragment are known by, in document order. -/
def keysOutside (s : Screen) (id : String) : List String :=
  (s.surface.cleared id).handles.map s.pool.key

/-- What is outside a fragment was there before its next tree. -/
theorem Sound.outside (hs : s.Sound) {id : String} {h : Handle}
    (hh : h ∈ (s.surface.cleared id).handles) : h < s.pool.widgets.size :=
  hs.present h ((s.surface.leaves_cleared_sublist ofLeaves_handle? id).subset hh)

theorem Sound.widgetsMade (hs : s.Sound) (f : Fragment) :
    WidgetsMade [f.root] (Build.start s.pool s.groups) (f.rendered s.pool s.groups)
      (s.built f).build :=
  f.build_widgetsMade s.pool s.groups hs.pool

/-- What is shown after a swap was outside the fragment, or was handed out for its next tree. -/
theorem mem_handles_swap (h : s.swap f now = .ok (s', report)) {handle : Handle}
    (hh : handle ∈ s'.surface.handles) : handle ∈ (s.surface.cleared f.id).handles ∨
      handle ∈ Rendered.leaves Rendered.handle? (f.rendered s.pool s.groups) :=
  ((mem_leaves_swap h ofLeaves_handle?).mp hh).imp_right fun hh =>
    (f.leaves_build_sublist s.pool s.groups ofLeaves_handle?).subset hh

/-- A tree that was read is shown as a whole. -/
theorem mem_handles_swap_iff (hf : f.WellFormed) (h : s.swap f now = .ok (s', report))
    {handle : Handle} : handle ∈ s'.surface.handles ↔
      handle ∈ (s.surface.cleared f.id).handles ∨
        handle ∈ leaves handle? (f.rendered s.pool s.groups) := by
  rw [← f.leaves_build s.pool s.groups ofLeaves_handle? hf.container]
  exact mem_leaves_swap h ofLeaves_handle?

/-- What is live or shown after a swap is there. -/
theorem Sound.swap (hs : s.Sound) (h : s.swap f now = .ok (s', report)) : s'.Sound := by
  have hmade := hs.widgetsMade f
  refine ⟨(alike_swap h).sound (hmade.sound.retire _), fun handle hh => ?_⟩
  rw [(alike_swap h).lt_size_iff, WidgetPool.size_retire]
  rcases mem_handles_swap h hh with hh | hh
  · exact Nat.lt_of_lt_of_le (hs.outside hh) hmade.size_le
  · exact (hmade.made handle hh).2.1

/-- A widget outside the fragment keeps its identity. -/
theorem Sound.key_swap_outside (hs : s.Sound) (h : s.swap f now = .ok (s', report))
    {handle : Handle} (hh : handle ∈ (s.surface.cleared f.id).handles) :
    s'.pool.key handle = s.pool.key handle :=
  (key_swap h handle).trans ((hs.widgetsMade f).key_eq handle (hs.outside hh))

theorem Sound.mem_widgetIds_built (hs : s.Sound) {key : String} :
    key ∈ (s.built f).build.widgetIds ↔ key ∈ f.widgetKeys := by
  rw [(hs.widgetsMade f).met]
  exact or_iff_right List.not_mem_nil

/-- A build meets the groups of the tree. -/
theorem mem_groupKeys_built {key : String} :
    key ∈ (s.built f).build.groupKeys ↔ key ∈ f.groupKeys := by
  rw [built, (f.build_groupsMade s.pool s.groups).met]
  exact or_iff_right List.not_mem_nil

/-- A build changes none of the identities that are shown before it. -/
theorem Sound.widgetIds_built (hs : s.Sound) {id : String} {old : Panel}
    (hold : s.surface.fragment? id = some old) :
    old.widgetIds (s.built f).build.pool = old.widgetIds s.pool := by
  have hmade := hs.widgetsMade f
  have hmap : old.handles.map (s.built f).build.pool.key = old.handles.map s.pool.key :=
    List.map_congr_left fun h hh => hmade.key_eq h
      (hs.present h ((s.surface.mem_leaves_iff ofLeaves_handle? id).mpr (Or.inr ⟨old, hold, hh⟩)))
  rw [Panel.widgetIds, hmap, Panel.widgetIds]

/-- The identities that are forgotten: those that the fragment showed and its next tree does not
have. -/
theorem Sound.mem_goneIds (hs : s.Sound) {key : String} : key ∈ s.goneIds f ↔
    (∃ old, s.surface.fragment? f.id = some old ∧ key ∈ old.widgetIds s.pool) ∧
      key ∉ f.widgetKeys := by
  unfold goneIds
  cases hold : s.surface.fragment? f.id with
  | none => simp
  | some old => simp [hs.widgetIds_built hold, hs.mem_widgetIds_built]

/-- After a swap, what is shown was shown outside the fragment or is in its new tree. -/
theorem Sound.mem_shownIds_swap (hs : s.Sound) (hf : f.WellFormed)
    (h : s.swap f now = .ok (s', report)) :
    key ∈ s'.shownIds ↔ key ∈ s.keysOutside f.id ∧ key ≠ "" ∨ key ∈ f.widgetKeys := by
  have hmade := hs.widgetsMade f
  rw [mem_shownIds]
  constructor
  · rintro ⟨⟨handle, hh, rfl⟩, hne⟩
    rcases (mem_handles_swap_iff hf h).mp hh with hout | hnew
    · left
      rw [hs.key_swap_outside h hout] at hne ⊢
      exact ⟨List.mem_map_of_mem hout, hne⟩
    · right
      rw [key_swap h] at hne ⊢
      exact hmade.mem_widgetKeys hnew hne
  · rintro (⟨hout, hne⟩ | hnew)
    · obtain ⟨handle, hh, rfl⟩ := List.mem_map.mp hout
      exact ⟨⟨handle, (mem_handles_swap_iff hf h).mpr (Or.inl hh), hs.key_swap_outside h hh⟩, hne⟩
    · obtain ⟨handle, hh, hlive⟩ := hmade.lookup_new key hnew List.not_mem_nil
      refine ⟨⟨handle, (mem_handles_swap_iff hf h).mpr (Or.inr hh), ?_⟩, hf.ne_empty_of_mem hnew⟩
      rw [key_swap h]
      exact hmade.sound.key_eq hlive

/-- What was shown stays, unless only the outgoing container showed it. -/
theorem mem_keysOutside_of_shown {id : String} (hkey : key ∈ s.shownIds)
    (hnot : ∀ old, s.surface.fragment? id = some old → key ∉ old.widgetIds s.pool) :
    key ∈ s.keysOutside id := by
  obtain ⟨⟨h, hh, rfl⟩, hne⟩ := mem_shownIds.mp hkey
  rcases (s.surface.mem_leaves_iff ofLeaves_handle? id).mp hh with hout | ⟨old, hold, hin⟩
  · exact List.mem_map_of_mem hout
  · exact absurd (Panel.mem_widgetIds.mpr ⟨⟨h, hin, rfl⟩, hne⟩) (hnot old hold)

/-- A group that only the outgoing container shows is gone. -/
theorem get?_nextGroups_gone {old : Panel} {key : String}
    (hold : s.surface.fragment? f.id = some old) (hkey : key ∈ old.groupKeys)
    (hnew : key ∉ f.groupKeys) : (s.nextGroups f).get? key = none := by
  rw [← mem_groupKeys_built (s := s)] at hnew
  simp only [nextGroups, hold, Groups.pruned, Groups.detach, Table.get?_filter, Table.get?_mapVal]
  cases (s.built f).build.groups.get? key with
  | none => rfl
  | some g => simp [hkey, hnew, Group.detached]

/-- Any other group is as it was built, if it has members. -/
theorem get?_nextGroups {key : String}
    (hkey : ∀ old, s.surface.fragment? f.id = some old → key ∈ old.groupKeys → key ∈ f.groupKeys) :
    (s.nextGroups f).get? key =
      ((s.built f).build.groups.get? key).filter fun g => !g.members.isEmpty := by
  unfold nextGroups
  cases hold : s.surface.fragment? f.id with
  | none => exact Table.get?_filter _ _ key
  | some old =>
    simp only [Groups.pruned, Groups.detach, Table.get?_filter, Table.get?_mapVal]
    cases (s.built f).build.groups.get? key with
    | none => rfl
    | some g =>
      have hkept : ¬ (old.groupKeys.contains key && !(s.built f).build.groupKeys.contains key) := by
        simpa [mem_groupKeys_built] using hkey old hold
      rw [Option.map_some, if_neg hkept]

end Screen

end RemoteUi
