/-
# RemoteUi.Proofs.Screen.Registration — which widgets and groups of a tree are registered.

A build keeps a list of the identities that it has met, and reports a node whose identity is in it.
So after any part of a tree the lists hold the identities of that part without repetition, and there
is one report for each repetition (`Tally.Counts`).  This is an invariant of rendering, and it is
shown for all trees by one induction (`renderClosed_counts`): a list of trees is counted behind what
was counted before.

How many elements of a list occurred before is a number of its own (`repeats`), which is zero
exactly if the list has no repetition (`repeats_eq_zero_iff`).

Whether every node is registered is thus a question about the tree alone: about how its names are
spelled (`Fragment.keepsApart_iff`).  Different names may be spelled alike, since a name can be put
together of two parts; then the second widget is shown without being found, and the second group is
dropped.  What it means that a build keeps all names apart is put together in `Fragment.KeepsApart`,
with the reports, the groups and the widgets in it.
-/
import Mathlib.Data.List.Induction
import RemoteUi.Proofs.Screen.Coherence
import RemoteUi.Proofs.Screen.Rebuild
import RemoteUi.Proofs.Tree.Naming

namespace RemoteUi

open Rendered (leaves handle? groupKey? leaves_append leaves_container ofLeaves_handle?
  ofLeaves_groupKey?)

/-! ## Repetitions -/

section Repetition

variable {α : Type} [BEq α] [LawfulBEq α] {l : List α} {a : α}

/-- How many elements of a list occurred before. -/
def repeats (l : List α) : Nat :=
  l.length - l.eraseDups.length

/-- An element that occurred before is left out. -/
theorem eraseDups_concat_of_mem (ha : a ∈ l) : (l ++ [a]).eraseDups = l.eraseDups := by
  simp [List.eraseDups_append, List.removeAll, ha]

/-- A new element comes last. -/
theorem eraseDups_concat_of_not_mem (ha : a ∉ l) :
    (l ++ [a]).eraseDups = l.eraseDups ++ [a] := by
  simp [List.eraseDups_append, List.removeAll, ha, List.eraseDups_cons]

theorem length_eraseDups_le (l : List α) : l.eraseDups.length ≤ l.length := by
  induction l using List.reverseRecOn with
  | nil => exact Nat.le_refl 0
  | append_singleton l a ih =>
    rw [List.length_append]
    by_cases ha : a ∈ l
    · rw [eraseDups_concat_of_mem ha]
      exact Nat.le_add_right_of_le ih
    · rw [eraseDups_concat_of_not_mem ha, List.length_append]
      exact Nat.add_le_add_right ih 1

theorem repeats_concat_of_mem (ha : a ∈ l) : repeats (l ++ [a]) = repeats l + 1 := by
  rw [repeats, eraseDups_concat_of_mem ha, List.length_append, List.length_singleton,
    Nat.sub_add_comm (length_eraseDups_le l), repeats]

theorem repeats_concat_of_not_mem (ha : a ∉ l) : repeats (l ++ [a]) = repeats l := by
  rw [repeats, eraseDups_concat_of_not_mem ha, List.length_append, List.length_append,
    Nat.add_sub_add_right, repeats]

/-- Nothing occurred before if nothing occurs twice. -/
theorem repeats_eq_zero_iff : repeats l = 0 ↔ l.Nodup := by
  -- from the end, since what occurred before stands in front
  induction l using List.reverseRecOn with
  | nil => exact iff_of_true rfl List.nodup_nil
  | append_singleton l a ih =>
    have hcomm : (l ++ [a]).Nodup ↔ (a :: l).Nodup := List.nodup_append_comm
    rw [hcomm, List.nodup_cons]
    by_cases ha : a ∈ l
    · rw [repeats_concat_of_mem ha]
      exact iff_of_false (Nat.succ_ne_zero _) fun h => h.1 ha
    · rw [repeats_concat_of_not_mem ha, ih]
      exact (and_iff_right ha).symm

theorem eraseDups_of_nodup (h : l.Nodup) : l.eraseDups = l := by
  induction l using List.reverseRecOn with
  | nil => rfl
  | append_singleton l a ih =>
    have hcomm : (a :: l).Nodup := List.nodup_append_comm.mp h
    obtain ⟨ha, hl⟩ := List.nodup_cons.mp hcomm
    rw [eraseDups_concat_of_not_mem ha, ih hl]

end Repetition

/-- The problem is an identity that occurs again. -/
def Diagnostic.isDuplicate : Diagnostic → Bool
  | .duplicateId _ _ => true
  | _ => false

namespace Tally

/-- How many nodes were reported for their identity. -/
def duplicates (t : Tally) : Nat :=
  t.diagnostics.countP Diagnostic.isDuplicate

/-- A report of another problem does not count. -/
theorem duplicates_report (t : Tally) (d : Diagnostic) :
    (t.report d).duplicates = t.duplicates + if d.isDuplicate then 1 else 0 := by
  rw [duplicates, report, List.countP_append, List.countP_singleton, duplicates]

/-- The tally is that of widgets and groups with the identities. -/
structure Counts (t : Tally) (widgets groups : List String) : Prop where
  widgetIds_eq : t.widgetIds = widgets.eraseDups
  groupKeys_eq : t.groupKeys = groups.eraseDups
  duplicates_eq : t.duplicates = repeats widgets + repeats groups

namespace Counts

variable {t : Tally} {widgets groups : List String}

/-- Nothing was met yet. -/
theorem empty : Tally.empty.Counts [] [] where
  widgetIds_eq := rfl
  groupKeys_eq := rfl
  duplicates_eq := rfl

theorem mem_widgetIds_iff (h : t.Counts widgets groups) {key : String} :
    key ∈ t.widgetIds ↔ key ∈ widgets := by
  rw [h.widgetIds_eq, List.mem_eraseDups]

theorem mem_groupKeys_iff (h : t.Counts widgets groups) {key : String} :
    key ∈ t.groupKeys ↔ key ∈ groups := by
  rw [h.groupKeys_eq, List.mem_eraseDups]

/-- A widget is met: it has no identity, or one that was met before, or a new one. -/
theorem widget (h : t.Counts widgets groups) (fragmentId : String) (head : NodeHead) :
    (t.widget fragmentId head).Counts (widgets ++ head.identity.toList) groups := by
  unfold Tally.widget
  cases head.identity with
  | none =>
    rw [Option.toList_none, List.append_nil]
    exact ⟨h.widgetIds_eq, h.groupKeys_eq, h.duplicates_eq⟩
  | some key =>
    rw [Option.toList_some]
    dsimp only
    by_cases hkey : key ∈ widgets
    · rw [if_pos (h.mem_widgetIds_iff.mpr hkey)]
      refine ⟨?_, h.groupKeys_eq, ?_⟩
      · rw [eraseDups_concat_of_mem hkey]
        exact h.widgetIds_eq
      · rw [repeats_concat_of_mem hkey, Nat.add_right_comm, ← h.duplicates_eq]
        exact t.duplicates_report _
    · rw [if_neg (mt h.mem_widgetIds_iff.mp hkey)]
      refine ⟨?_, h.groupKeys_eq, ?_⟩
      · rw [eraseDups_concat_of_not_mem hkey, ← h.widgetIds_eq]
        rfl
      · rw [repeats_concat_of_not_mem hkey]
        exact h.duplicates_eq

/-- A group is met, in the same three ways. -/
theorem group (h : t.Counts widgets groups) (fragmentId : String) (head : NodeHead)
    (spec : GroupSpec) :
    (t.group fragmentId head spec).Counts widgets (groups ++ head.identity.toList) := by
  unfold Tally.group
  cases head.identity with
  | none =>
    rw [Option.toList_none, List.append_nil]
    refine ⟨h.widgetIds_eq, h.groupKeys_eq, ?_⟩
    rw [duplicates_report]
    exact h.duplicates_eq
  | some key =>
    rw [Option.toList_some]
    dsimp only
    by_cases hkey : key ∈ groups
    · rw [if_pos (h.mem_groupKeys_iff.mpr hkey)]
      refine ⟨h.widgetIds_eq, ?_, ?_⟩
      · rw [eraseDups_concat_of_mem hkey]
        exact h.groupKeys_eq
      · rw [repeats_concat_of_mem hkey, ← Nat.add_assoc, ← h.duplicates_eq]
        exact t.duplicates_report _
    · rw [if_neg (mt h.mem_groupKeys_iff.mp hkey)]
      refine ⟨h.widgetIds_eq, ?_, ?_⟩
      · rw [eraseDups_concat_of_not_mem hkey, ← h.groupKeys_eq]
        rfl
      · rw [repeats_concat_of_not_mem hkey]
        exact h.duplicates_eq

end Counts

end Tally

namespace Node

theorem widgetKeys_widget (head : NodeHead) (spec : WidgetSpec) :
    widgetKeys [.widget head spec] = head.identity.toList := by
  simp only [widgetKeys, nodesOf, nodes, List.append_nil]
  cases hid : head.identity with
  | none => exact List.filterMap_cons_none hid
  | some key => exact List.filterMap_cons_some hid

theorem groupKeys_group (head : NodeHead) (spec : GroupSpec) :
    groupKeys [.group head spec] = head.identity.toList := by
  simp only [groupKeys, nodesOf, nodes, List.append_nil]
  cases hid : head.identity with
  | none => exact List.filterMap_cons_none hid
  | some key => exact List.filterMap_cons_some hid

end Node

/-- A build that has counted some identities counts those of what it renders next. -/
theorem renderClosed_counts :
    RenderClosed fun _ ns b _ b' => ∀ widgets groups, b.tally.Counts widgets groups →
      b'.tally.Counts (widgets ++ Node.widgetKeys ns) (groups ++ Node.groupKeys ns) where
  nil := fun _ b widgets groups h => by
    show b.tally.Counts (widgets ++ []) (groups ++ [])
    rwa [List.append_nil, List.append_nil]
  append := fun hns hms widgets groups h => by
    rw [Node.widgetKeys_append, Node.groupKeys_append, ← List.append_assoc, ← List.append_assoc]
    exact hms _ _ (hns _ _ h)
  container := fun head hns widgets groups h => by
    rw [Node.widgetKeys_container, Node.groupKeys_container]
    exact hns _ _ h
  markup := fun _ _ _ _ b widgets groups h => by
    show b.tally.Counts (widgets ++ []) (groups ++ [])
    rwa [List.append_nil, List.append_nil]
  widget := fun fragmentId head spec b widgets groups h => by
    rw [(b.widget_meets fragmentId head spec).tally_eq, Node.widgetKeys_widget]
    show (b.tally.widget fragmentId head).Counts _ (groups ++ [])
    rw [List.append_nil]
    exact h.widget fragmentId head
  group := fun fragmentId head spec b widgets groups h => by
    rw [b.tally_group, Node.groupKeys_group]
    show (b.tally.group fragmentId head spec).Counts (widgets ++ []) _
    rw [List.append_nil]
    exact h.group fragmentId head spec

/-- The groups that are met are those that are shown. -/
theorem renderClosed_groupKeys :
    RenderClosed fun _ _ b rs b' => b'.groupKeys = b.groupKeys ++ leaves groupKey? rs where
  nil := fun _ b => (List.append_nil b.groupKeys).symm
  append := fun hns hms => by rw [hms, hns, leaves_append, List.append_assoc]
  container := fun head hns => by
    rw [leaves_container ofLeaves_groupKey?]
    exact hns
  markup := fun _ _ _ _ b => (List.append_nil b.groupKeys).symm
  widget := fun fragmentId head spec b => by
    rw [(b.widget_meets fragmentId head spec).groups_eq.2]
    exact (List.append_nil b.groupKeys).symm
  group := fun fragmentId head spec b => by
    generalize hr : b.group fragmentId head spec = r
    cases hr ▸ b.group_meets fragmentId head spec with
    | nameless | repeated => exact (List.append_nil b.groupKeys).symm
    | attached a ha hid hkey => exact Build.groupKeys_count _ _

/-! ## Fragments -/

namespace Fragment

variable (f : Fragment) (pool : WidgetPool) (groups : Groups)

/-- A build starts with nothing, and counts the whole fragment. -/
theorem counts_build : (f.build pool groups).build.tally.Counts f.widgetKeys f.groupKeys := by
  rw [build_build]
  exact renderClosed_counts.render f.id f.root (Build.start pool groups) [] [] .empty

/-- Every widget and group of a fragment that has an identity can be found by it. -/
structure KeepsApart (f : Fragment) (b : BuiltFragment) : Prop where
  /-- Nothing is reported for its identity. -/
  unreported : ∀ key fragmentId, .duplicateId key fragmentId ∉ b.build.diagnostics
  /-- No group is dropped. -/
  groups : leaves groupKey? b.root.children = f.groupKeys
  /-- Each widget node is shown by a widget with its identity. -/
  widgets : (leaves handle? b.root.children).map b.build.pool.key = Node.shownKeys [f.root]
  /-- A widget with an identity is the one that is live under it. -/
  live : ∀ h ∈ leaves handle? b.root.children, b.build.pool.key h ≠ "" →
    b.build.pool.lookup (b.build.pool.key h) = some h

variable {f} {pool}

theorem leaves_groupKey?_build (hf : f.WellFormed) :
    leaves groupKey? (f.build pool groups).root.children = f.groupKeys.eraseDups := by
  rw [f.leaves_build pool groups ofLeaves_groupKey? hf.container,
    ← (f.counts_build pool groups).groupKeys_eq]
  show _ = (f.build pool groups).build.groupKeys
  rw [build_build]
  exact (renderClosed_groupKeys.render f.id f.root (Build.start pool groups)).symm

theorem keepsApart_of_nodup (hf : f.WellFormed) (hpool : pool.Sound) (hwidgets : f.widgetKeys.Nodup)
    (hgroups : f.groupKeys.Nodup) : f.KeepsApart (f.build pool groups) := by
  have hmade := f.build_widgetsMade pool groups hpool
  have hleaves := f.leaves_build pool groups ofLeaves_handle? hf.container
  have hcounts := f.counts_build pool groups
  have hnone : (f.build pool groups).build.tally.duplicates = 0 := by
    rw [hcounts.duplicates_eq, repeats_eq_zero_iff.mpr hwidgets, repeats_eq_zero_iff.mpr hgroups]
  refine ⟨fun key fragmentId hmem => ?_, ?_, ?_, ?_⟩
  · exact List.countP_eq_zero.mp hnone _ hmem rfl
  · rw [leaves_groupKey?_build groups hf, eraseDups_of_nodup hgroups]
  · rw [hleaves]
    exact hmade.keys
  · rw [hleaves]
    exact fun h hh hkey => hmade.lookup_key rfl hwidgets hh hkey

theorem KeepsApart.nodup (h : f.KeepsApart (f.build pool groups)) :
    f.widgetKeys.Nodup ∧ f.groupKeys.Nodup := by
  have hnone : (f.build pool groups).build.tally.duplicates = 0 := by
    refine List.countP_eq_zero.mpr fun d hd hdup => ?_
    cases d with
    | duplicateId key fragmentId => exact h.unreported key fragmentId hd
    | unknownKind | malformedNode | renderSkipped | requestTooLarge => cases hdup
  rw [(f.counts_build pool groups).duplicates_eq, Nat.add_eq_zero_iff] at hnone
  exact hnone.imp repeats_eq_zero_iff.mp repeats_eq_zero_iff.mp

/-- In a tree in which no two nodes were given one id, and no two others have one place, every widget
and every group with an identity can be found by it, and none is reported, if and only if no two
widgets and no two groups have names that are spelled the same. -/
theorem keepsApart_iff {root : Json} {parsed : ParsedFragment} (h : ofJson root = .ok parsed)
    (hdistinct : parsed.fragment.Distinct) (hpool : pool.Sound) :
    parsed.fragment.KeepsApart (parsed.fragment.build pool groups) ↔
      parsed.fragment.Unambiguous := by
  rw [← hdistinct.keys_nodup_iff]
  refine ⟨fun hapart => hapart.nodup, fun hnodup => ?_⟩
  exact keepsApart_of_nodup groups (ofJson_wellFormed h) hpool hnodup.1 hnodup.2

/-- A button without id at a place. -/
def placedButton (containerId localId : String) : Json :=
  .obj [("type", .str "button"), ("container_id", .str containerId), ("local_id", .str localId)]

/-- A group without id at a place. -/
def placedGroup (containerId localId : String) : Json :=
  .obj [("type", .str "radio"), ("container_id", .str containerId), ("local_id", .str localId),
    ("options", .arr [.str "x", .str "y"])]

/-- Separators alone do no harm, and a widget may be named like a group. -/
def apartRoot : Json :=
  .page [.obj [("type", .str "button"), ("id", .str "a/b")],
    placedButton "a" "b/c", placedGroup "a" "b", placedGroup "a/b" "c/d"]

theorem keepsApart_apartRoot :
    ∃ parsed, ofJson apartRoot = .ok parsed ∧ parsed.fragment.Distinct ∧
      WidgetPool.empty.Sound ∧ parsed.fragment.widgetKeys = ["a/b", "a/b/c"] ∧
      parsed.fragment.groupKeys = ["a/b", "a/b/c/d"] ∧
      parsed.fragment.KeepsApart (parsed.fragment.build .empty .empty) := by
  obtain ⟨parsed, hparsed, hdistinct, hwidgets, hgroups⟩ :
      ∃ parsed, ofJson apartRoot = .ok parsed ∧ parsed.fragment.Distinct ∧
        parsed.fragment.widgetKeys = ["a/b", "a/b/c"] ∧
        parsed.fragment.groupKeys = ["a/b", "a/b/c/d"] :=
    ⟨_, rfl, ⟨by decide, by decide⟩, by decide, by decide⟩
  have hnodup : parsed.fragment.widgetKeys.Nodup ∧ parsed.fragment.groupKeys.Nodup := by
    rw [hwidgets, hgroups]
    decide
  refine ⟨parsed, hparsed, hdistinct, WidgetPool.sound_empty, hwidgets, hgroups, ?_⟩
  exact (keepsApart_iff .empty hparsed hdistinct WidgetPool.sound_empty).mpr
    (hdistinct.keys_nodup_iff.mp hnodup)

/-- A button is at the place that reads like the other's id, and two groups are at places that read
the same. -/
def clashingRoot : Json :=
  .page [.obj [("type", .str "button"), ("id", .str "a/b")],
    placedButton "a" "b", placedGroup "a/b" "c", placedGroup "a" "b/c"]

/-- One of the buttons is not live, and one of the groups is not shown. -/
theorem not_keepsApart_clashingRoot :
    ∃ parsed, ofJson clashingRoot = .ok parsed ∧ parsed.fragment.Distinct ∧
      (parsed.fragment.build .empty .empty).build.diagnostics =
        [.duplicateId "a/b" "main", .duplicateId "a/b/c" "main"] ∧
      ¬ parsed.fragment.KeepsApart (parsed.fragment.build .empty .empty) := by
  refine ⟨_, rfl, ⟨by decide, by decide⟩, by decide, fun h => ?_⟩
  exact h.unreported "a/b" "main" (by decide)

end Fragment

end RemoteUi
