/-
# RemoteUi.Proofs.Screen.Liveness — what is shown and can no longer be reached.

A swap forgets the widgets and groups of the outgoing tree that the next tree does not have, and
does not look whether they are also shown outside the fragment.  So what is shown stays live through
a run of swaps exactly when no swap *strands* anything, that is, takes away what is still shown
elsewhere (`alive_throughout_iff`).

* `Alive` says that what is shown can be reached: a widget under its identity, and a group under its
  key with the members that it was given last.  The options that were last attached under a key are
  read off the history of trees (`lastOptions`), and not off the groups, which may be gone.
* `Strands` is a condition on one swap that can be read off the surface before it and the next tree.
  A swap that strands nothing keeps all alive (`Sound.alive_swap`); one that strands something
  leaves it dead (`Sound.not_alive_swap`).
* A run of swaps carries the screen after each tree, the latest first.  The equivalence is by
  induction over the run: whether the last swap strands anything is told at the end of it, and of
  the swaps before it the induction hypothesis speaks.

A widget that moves from one fragment to another is stranded by the next tree of the fragment that
it left (`moved_widget_stranded`).
-/
import RemoteUi.Proofs.Screen.Swap

namespace RemoteUi

open Rendered (leaves handle? groupKey? ofLeaves_handle? ofLeaves_groupKey?)

/-! ## Runs of swaps -/

/-- The options that were last attached under a key, in a history of trees, the latest first. -/
def Fragment.lastOptions (history : List Fragment) (key : String) : List String :=
  (history.findSome? fun f => f.options? key).getD []

namespace Screen

/-- What is shown can be reached: a widget under its identity, and a group under its key, with the
members that it was last given. -/
structure Alive (s : Screen) (lastOptions : String → List String) : Prop where
  widgets : ∀ h ∈ s.surface.handles, s.pool.key h ≠ "" →
    ∃ h' w, s.pool.lookup (s.pool.key h) = some h' ∧ s.pool.get? h' = some w
  groups : ∀ key ∈ s.surface.groupKeys, lastOptions key ≠ [] →
    ∃ g, s.groups.get? key = some g ∧ g.members.map Member.value = lastOptions key

/-- A swap takes away a widget, or a group with members, that is also shown outside its fragment:
the outgoing tree has it and the next tree does not. -/
def Strands (s : Screen) (lastOptions : String → List String) (f : Fragment) : Prop :=
  ∃ old, s.surface.fragment? f.id = some old ∧
    ((∃ key ∈ old.widgetIds s.pool, key ∉ f.widgetKeys ∧ key ∈ s.keysOutside f.id) ∨
      ∃ key ∈ old.groupKeys, key ∉ f.groupKeys ∧ key ∈ (s.surface.cleared f.id).groupKeys ∧
        lastOptions key ≠ [])

end Screen

/-- The swaps of a run, the latest first: each tree, and the screen after it. -/
abbrev SwapRun := List (Fragment × Screen)

namespace SwapRun

/-- The screen at the end of a run. -/
def screen (strategy : FadeStrategy) : SwapRun → Screen
  | [] => .empty strategy
  | (_, s) :: _ => s

/-- The options that were last attached under a key. -/
def lastOptions (run : SwapRun) : String → List String :=
  Fragment.lastOptions (run.map Prod.fst)

/-- Every swap succeeded. -/
inductive Succeeds (strategy : FadeStrategy) : SwapRun → Prop where
  | nil : Succeeds strategy []
  | cons {run : SwapRun} {f : Fragment} {now : Nat} {s' : Screen} {report : SwapReport}
    (hrun : Succeeds strategy run)
    (hswap : (run.screen strategy).swap f now = .ok (s', report)) :
    Succeeds strategy ((f, s') :: run)

end SwapRun

/-! ## One swap -/

namespace Screen

variable {s s' : Screen} {f : Fragment} {now : Nat} {report : SwapReport}

/-- An identity in the next tree is live. -/
theorem Sound.lookup_swap_new (hs : s.Sound) (h : s.swap f now = .ok (s', report)) {key : String}
    (hkey : key ∈ f.widgetKeys) : ∃ handle, s'.pool.lookup key = some handle := by
  obtain ⟨handle, -, hlive⟩ := (hs.widgetsMade f).lookup_new key hkey List.not_mem_nil
  refine ⟨handle, ?_⟩
  rw [lookup_swap h, if_neg fun hgone => (hs.mem_goneIds.mp hgone).2 hkey, hlive]

/-- An identity that is neither in the outgoing tree nor in the next is live if it was. -/
theorem Sound.lookup_swap_old (hs : s.Sound) (h : s.swap f now = .ok (s', report)) {key : String}
    (hkey : key ∉ f.widgetKeys) (hgone : key ∉ s.goneIds f) :
    s'.pool.lookup key = s.pool.lookup key := by
  rw [lookup_swap h, if_neg hgone]
  exact (hs.widgetsMade f).lookup_eq key (Or.inr hkey)

/-- A group in the next tree has the members that it is given there. -/
theorem get?_swap_new (h : s.swap f now = .ok (s', report)) {key : String} {options : List String}
    (hoptions : f.options? key = some options) (hne : options ≠ []) :
    ∃ g, s'.groups.get? key = some g ∧ g.members.map Member.value = options := by
  have hmem : key ∈ f.groupKeys :=
    Node.isSome_options?_iff.mp (Option.isSome_of_eq_some hoptions)
  obtain ⟨g, hg, hmembers⟩ := (f.build_groupsMade s.pool s.groups).get?_new key options
    List.not_mem_nil hoptions
  refine ⟨g, ?_, hmembers⟩
  rw [groups_swap h, get?_nextGroups fun _ _ _ => hmem, built, hg]
  -- a group with members is not pruned
  refine Option.filter_eq_some_iff.mpr ⟨rfl, ?_⟩
  cases hnil : g.members with
  | nil =>
    rw [hnil] at hmembers
    exact absurd hmembers.symm hne
  | cons => rfl

/-- A group that is neither in the outgoing tree nor in the next is as it was. -/
theorem get?_swap_old (h : s.swap f now = .ok (s', report)) {key : String} {g : Group}
    (hkey : key ∉ f.groupKeys)
    (hout : ∀ old, s.surface.fragment? f.id = some old → key ∉ old.groupKeys)
    (hg : s.groups.get? key = some g) (hne : g.members ≠ []) : s'.groups.get? key = some g := by
  rw [groups_swap h, get?_nextGroups fun old hold hmem => absurd hmem (hout old hold), built,
    (f.build_groupsMade s.pool s.groups).get?_eq key (Or.inr hkey)]
  refine Option.filter_eq_some_iff.mpr ⟨hg, ?_⟩
  cases hnil : g.members with
  | nil => exact absurd hnil hne
  | cons => rfl

/-- A swap that strands nothing leaves alive what was alive. -/
theorem Sound.alive_swap (hs : s.Sound) {lastOptions : String → List String}
    (halive : s.Alive lastOptions) (hstrands : ¬ s.Strands lastOptions f)
    (h : s.swap f now = .ok (s', report)) :
    s'.Alive fun key => (f.options? key).getD (lastOptions key) := by
  constructor
  case widgets =>
    intro handle hh hne
    suffices hlive : ∃ h', s'.pool.lookup (s'.pool.key handle) = some h' by
      obtain ⟨h', hlive⟩ := hlive
      obtain ⟨w, hw, -⟩ := (hs.swap h).pool _ h' hlive
      exact ⟨h', w, hlive, hw⟩
    by_cases hnew : s'.pool.key handle ∈ f.widgetKeys
    · exact hs.lookup_swap_new h hnew
    rcases mem_handles_swap h hh with hh | hh
    -- a widget outside the fragment is forgotten only if it is stranded
    · have houtside : s'.pool.key handle ∈ s.keysOutside f.id :=
        List.mem_map.mpr ⟨handle, hh, (hs.key_swap_outside h hh).symm⟩
      have hgone : s'.pool.key handle ∉ s.goneIds f := fun hgone => by
        obtain ⟨⟨old, hold, hmem⟩, -⟩ := hs.mem_goneIds.mp hgone
        exact hstrands ⟨old, hold, Or.inl ⟨_, hmem, hnew, houtside⟩⟩
      rw [hs.lookup_swap_old h hnew hgone]
      rw [hs.key_swap_outside h hh] at hne ⊢
      have hshown := (s.surface.leaves_cleared_sublist ofLeaves_handle? f.id).subset hh
      obtain ⟨h', -, hlive, -⟩ := halive.widgets handle hshown hne
      exact ⟨h', hlive⟩
    -- and one in the next tree has an identity of the tree
    · rw [key_swap h] at hne hnew
      exact absurd ((hs.widgetsMade f).mem_widgetKeys hh hne) hnew
  case groups =>
    intro key hkey hne
    cases hoptions : f.options? key with
    | some options =>
      rw [hoptions] at hne
      exact get?_swap_new h hoptions hne
    | none =>
      rw [hoptions] at hne
      have hnew := Fragment.options?_eq_none_iff.mp hoptions
      rcases (mem_leaves_swap h ofLeaves_groupKey?).mp hkey with hkey | hkey
      · have hshown := (s.surface.leaves_cleared_sublist ofLeaves_groupKey? f.id).subset hkey
        obtain ⟨g, hg, hmembers⟩ := halive.groups key hshown hne
        refine ⟨g, get?_swap_old h hnew (fun old hold hmem => ?_) hg ?_, hmembers⟩
        · exact hstrands ⟨old, hold, Or.inr ⟨key, hmem, hnew, hkey, hne⟩⟩
        · rintro hnil
          exact hne (by rw [Option.getD_none, ← hmembers, hnil]; rfl)
      · have hmem := (f.leaves_build_sublist s.pool s.groups ofLeaves_groupKey?).subset hkey
        exact absurd (((f.build_groupsMade s.pool s.groups).shown key).mp hmem).1 hnew

/-- What a swap strands is dead. -/
theorem Sound.not_alive_swap (hs : s.Sound) {lastOptions : String → List String}
    (hstrands : s.Strands lastOptions f) (h : s.swap f now = .ok (s', report)) :
    ¬ s'.Alive fun key => (f.options? key).getD (lastOptions key) := by
  intro halive
  obtain ⟨old, hold, ⟨key, hkey, hnew, houtside⟩ | ⟨key, hkey, hnew, houtside, hne⟩⟩ := hstrands
  · -- the widget is shown outside, and its identity was forgotten
    obtain ⟨handle, hh, rfl⟩ := List.mem_map.mp houtside
    have hshown : handle ∈ s'.surface.handles :=
      (mem_leaves_swap h ofLeaves_handle?).mpr (Or.inl hh)
    have hgone : s.pool.key handle ∈ s.goneIds f := hs.mem_goneIds.mpr ⟨⟨old, hold, hkey⟩, hnew⟩
    have hlive := halive.widgets handle hshown
    rw [hs.key_swap_outside h hh, lookup_swap h, if_pos hgone] at hlive
    obtain ⟨_, _, hnone, _⟩ := hlive (Panel.mem_widgetIds.mp hkey).2
    exact nomatch hnone
  · have hshown : key ∈ s'.surface.groupKeys :=
      (mem_leaves_swap h ofLeaves_groupKey?).mpr (Or.inl houtside)
    have hlive := halive.groups key hshown
    rw [Fragment.options?_eq_none_iff.mpr hnew, groups_swap h,
      get?_nextGroups_gone hold hkey hnew] at hlive
    obtain ⟨_, hnone, _⟩ := hlive hne
    exact nomatch hnone

end Screen

/-! ## All swaps -/

namespace SwapRun

variable {strategy : FadeStrategy} {run : SwapRun}

/-- The latest tree decides where it has the group. -/
theorem lastOptions_cons (f : Fragment) (s : Screen) (run : SwapRun) :
    lastOptions ((f, s) :: run) = fun key => (f.options? key).getD (run.lastOptions key) := by
  funext key
  unfold lastOptions Fragment.lastOptions
  cases hoptions : f.options? key <;> simp [hoptions]

/-- Along a run of swaps the screen is sound. -/
theorem Succeeds.sound (hrun : run.Succeeds strategy) : (run.screen strategy).Sound := by
  induction hrun with
  | nil => exact Screen.sound_empty strategy
  | cons hrun hswap ih => exact ih.swap hswap

/-- What is shown stays alive through a run of swaps exactly when no swap strands anything. -/
theorem alive_throughout_iff (hrun : run.Succeeds strategy) :
    (∀ earlier : SwapRun, earlier <:+ run →
      (earlier.screen strategy).Alive earlier.lastOptions) ↔
    ∀ f s' (earlier : SwapRun), (f, s') :: earlier <:+ run →
      ¬ (earlier.screen strategy).Strands earlier.lastOptions f := by
  induction hrun with
  | nil =>
    refine ⟨fun _ f s' earlier h => ?_, fun _ earlier h => ?_⟩
    · exact absurd (List.suffix_nil.mp h) (List.cons_ne_nil _ _)
    · obtain rfl := List.suffix_nil.mp h
      exact ⟨nofun, nofun⟩
  | @cons run f now s' report hrun hswap ih =>
    have hsound := hrun.sound
    constructor
    -- what the last swap strands is dead right after it; the swaps before it are for the induction
    · intro halive f₁ s₁ earlier h hstrands
      rcases List.suffix_cons_iff.mp h with heq | h
      · cases heq
        have hdead := hsound.not_alive_swap hstrands hswap
        rw [← lastOptions_cons f s' run] at hdead
        exact hdead (halive _ List.suffix_rfl)
      · exact ih.mp (fun earlier h => halive earlier (List.suffix_cons_iff.mpr (Or.inr h)))
          f₁ s₁ earlier h hstrands
    · intro hstrands earlier h
      have hall := ih.mpr fun f₁ s₁ earlier h =>
        hstrands f₁ s₁ earlier (List.suffix_cons_iff.mpr (Or.inr h))
      rcases List.suffix_cons_iff.mp h with rfl | h
      · rw [lastOptions_cons]
        exact hsound.alive_swap (hall run List.suffix_rfl) (hstrands f s' run List.suffix_rfl) hswap
      · exact hall earlier h

/-! ## A widget that moves -/

/-- The swaps of some trees, each with the screen after it. -/
def ofTrees (strategy : FadeStrategy) : List Fragment → SwapRun
  | [] => []
  | f :: earlier =>
    let run := ofTrees strategy earlier
    (f, (run.screen strategy).attempt f 0) :: run

/-- Two fragments side by side; the widget `w` moves from the right to the left one, and then the
right one is without it. -/
def moving : SwapRun :=
  let fragment := fun id children => (.container (.ofId none) (some id) children : Node)
  ofTrees .instant [
    ⟨"right", fragment "right" []⟩,
    ⟨"left", fragment "left" [.button (some "w")]⟩,
    ⟨"main", fragment "main" [fragment "left" [], fragment "right" [.button (some "w")]]⟩]

/-- A swap that the screen takes makes the run longer. -/
theorem Succeeds.attempt (hrun : run.Succeeds strategy) {f : Fragment}
    (hf : (run.screen strategy).Accepts f.id) :
    Succeeds strategy ((f, (run.screen strategy).attempt f 0) :: run) := by
  obtain ⟨report, hswap⟩ := Screen.swap_attempt hf
  exact hrun.cons hswap

/-- All three trees are taken. -/
theorem succeeds_moving : moving.Succeeds .instant := by
  refine .attempt (.attempt (.attempt .nil ?main) ?left) ?right
  case main => exact Or.inl rfl
  case left => exact Or.inr ⟨_, rfl⟩
  case right => exact Or.inr ⟨_, rfl⟩

/-- The widget that moved is shown on the left, and nothing is live under its identity. -/
theorem moved_widget_stranded :
    moving.Succeeds .instant ∧ (moving.screen .instant).shownIds = ["w"] ∧
      (moving.screen .instant).pool.lookup "w" = none ∧
      ¬ (moving.screen .instant).Alive moving.lastOptions := by
  have hshown : (moving.screen .instant).shownIds = ["w"] := by decide
  have hdead : (moving.screen .instant).pool.lookup "w" = none := by decide
  refine ⟨succeeds_moving, hshown, hdead, fun halive => ?_⟩
  have hmem : "w" ∈ (moving.screen .instant).shownIds := hshown ▸ List.mem_singleton_self "w"
  obtain ⟨⟨h, hh, hkey⟩, hne⟩ := Screen.mem_shownIds.mp hmem
  obtain ⟨_, _, hlive, _⟩ := halive.widgets h hh (hkey ▸ hne)
  rw [hkey, hdead] at hlive
  cases hlive

/-- The equivalence at that run: its last swap strands the widget. -/
theorem alive_throughout_iff_moving :
    moving.Succeeds .instant ∧
      ((∀ earlier : SwapRun, earlier <:+ moving →
        (earlier.screen .instant).Alive earlier.lastOptions) ↔
      ∀ f s' (earlier : SwapRun), (f, s') :: earlier <:+ moving →
        ¬ (earlier.screen .instant).Strands earlier.lastOptions f) :=
  ⟨succeeds_moving, alive_throughout_iff succeeds_moving⟩

end SwapRun

end RemoteUi
