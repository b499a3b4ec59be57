/-
# RemoteUi.Proofs.Screen.Pictures — the pictures that a tree has shown.

The sources that are fetched for a tree are those of its pictures, in document order and as often as
they occur (`Fragment.imageSources_eq`), and once the tree is shown its pictures have these very
sources (`Sound.pictures_swap`).  So a swap has no other picture appear (`Sound.showsPicture_swap`),
and what is not a swap has no picture come or go (`Stirs.showsPicture_iff`).

* `Node.pictures` is the specification, by recursion on the tree.  What is fetched is gathered from
  a list of all nodes instead, and what is shown from the places of the widgets; that both give the
  same sources is by induction over trees and lists of trees.
* A picture on the screen is told by its handle and its source (`ShowsPicture`).  Two widgets may
  show one source, and a widget that goes on may come to show another.
* Which source a widget shows is part of what the server decides of it, so it is read off the
  description that the widget was served last (`WidgetPool.picture?_eq`).
-/
import RemoteUi.Proofs.Screen.Serving

namespace RemoteUi

open Rendered (leaves handle? ofLeaves_handle?)

/-! ## Pictures in trees -/

/-- The source of a described picture. -/
def WidgetSpec.picture? : WidgetSpec → Option String
  | .image i => some i.src
  | _ => none

mutual
/-- The sources of the pictures in a node, in document order. -/
def Node.pictures : Node → List String
  | .widget _ spec => spec.picture?.toList
  | .container _ _ children => Node.picturesOf children
  | .markup _ _ _ => []
  | .group _ _ => []

/-- The sources of the pictures in a list of nodes, in document order. -/
def Node.picturesOf : List Node → List String
  | [] => []
  | n :: rest => n.pictures ++ Node.picturesOf rest
end

namespace Node

mutual
/-- Among the nodes of a tree are its pictures, in document order. -/
theorem imageSources_nodes : ∀ n : Node, n.nodes.filterMap imageSource? = n.pictures
  | .widget head spec => by cases spec <;> rfl
  | .container head own children => by
    rw [nodes, pictures, List.filterMap_cons_none rfl]
    exact imageSources_nodesOf children
  | .markup _ _ _ => rfl
  | .group _ _ => rfl

theorem imageSources_nodesOf : ∀ ns : List Node,
    (nodesOf ns).filterMap imageSource? = picturesOf ns
  | [] => rfl
  | n :: rest => by
    rw [nodesOf, picturesOf, List.filterMap_append, imageSources_nodes n,
      imageSources_nodesOf rest]
end

mutual
/-- Among the places of a tree are those of its pictures. -/
theorem pictures_placed (fragmentId : String) : ∀ n : Node,
    (n.placed fragmentId).filterMap (fun p => p.spec.picture?) = n.pictures
  | .widget head spec => by
    rw [placed, pictures]
    cases h : spec.picture? <;> simp [h]
  | .container head own children => pictures_placedAll (effectiveFragment fragmentId own) children
  | .markup _ _ _ => rfl
  | .group _ _ => rfl

theorem pictures_placedAll (fragmentId : String) : ∀ ns : List Node,
    (placedAll fragmentId ns).filterMap (fun p => p.spec.picture?) = picturesOf ns
  | [] => rfl
  | n :: rest => by
    rw [placedAll, picturesOf, List.filterMap_append, pictures_placed fragmentId n,
      pictures_placedAll fragmentId rest]
end

end Node

/-- What is fetched for a fragment are the pictures of its tree, at whatever depth, in document
order and each as often as it occurs. -/
theorem Fragment.imageSources_eq (f : Fragment) : f.imageSources = f.root.pictures :=
  Node.imageSources_nodes f.root

/-- Every picture of a fragment has a place in it. -/
theorem Fragment.pictures_placed {f : Fragment} (hf : f.WellFormed) :
    f.placed.filterMap (fun p => p.spec.picture?) = f.imageSources := by
  obtain ⟨head, own, children, hroot⟩ := hf.container
  rw [placed_eq hroot, Node.pictures_placedAll, imageSources_eq, Node.picturesOf, Node.picturesOf,
    List.append_nil]

/-! ## Pictures on the screen -/

theorem Widget.picture?_served (w : Widget) : w.served.picture? = w.picture? := by
  unfold picture? served
  cases w.state <;> rfl

theorem Placed.picture?_served (p : Placed) : p.served.picture? = p.spec.picture? := by
  rw [served, Widget.picture?_served]
  show (WidgetState.ofSpec p.spec).picture? = p.spec.picture?
  cases p.spec <;> rfl

/-- The source of the picture that a widget shows, if it shows one. -/
def WidgetPool.picture? (pool : WidgetPool) (h : Handle) : Option String :=
  (pool.get? h).bind Widget.picture?

theorem WidgetPool.picture?_eq (pool : WidgetPool) (h : Handle) :
    pool.picture? h = (pool.served? h).bind Widget.picture? := by
  unfold picture? served?
  cases pool.get? h with
  | none => rfl
  | some w => exact (Widget.picture?_served w).symm

namespace Screen

variable {s s' t : Screen} {f : Fragment} {now : Nat} {report : SwapReport} {handle : Handle}
  {src : String}

/-- A picture is shown, by one of the widgets on the surface. -/
def ShowsPicture (s : Screen) (handle : Handle) (src : String) : Prop :=
  handle ∈ s.surface.handles ∧ s.pool.picture? handle = some src

/-- Pictures neither come nor go between swaps. -/
theorem Stirs.showsPicture_iff (h : s.Stirs t) :
    t.ShowsPicture handle src ↔ s.ShowsPicture handle src := by
  have hpicture : t.pool.picture? handle = s.pool.picture? handle := by
    have hmap := h.picture_eq handle
    unfold WidgetPool.picture?
    cases ht : t.pool.get? handle with
    | none =>
      rw [ht, Option.map_none] at hmap
      rw [Option.map_eq_none_iff.mp hmap.symm]
    | some w =>
      rw [ht, Option.map_some] at hmap
      obtain ⟨w', hw', heq⟩ := Option.map_eq_some_iff.mp hmap.symm
      rw [hw', Option.bind_some, Option.bind_some, heq]
  unfold ShowsPicture
  rw [h.steady.handles_eq, hpicture]

/-- However much happens between two swaps, the pictures are the same. -/
theorem stirs_showsPicture_iff (h : Relation.ReflTransGen Stirs s t) :
    t.ShowsPicture handle src ↔ s.ShowsPicture handle src := by
  induction h with
  | refl => exact Iff.rfl
  | tail _ hlast ih => exact hlast.showsPicture_iff.trans ih

/-- The pictures that are shown of a tree are those that were fetched for it. -/
theorem Sound.pictures_swap (hs : s.Sound) (hf : f.WellFormed)
    (h : s.swap f now = .ok (s', report)) :
    (leaves handle? (f.rendered s.pool s.groups)).filterMap s'.pool.picture? =
      f.imageSources := by
  have hserved := hs.served_swap hf h
  have hpicture : s'.pool.picture? = fun h => (s'.pool.served? h).bind Widget.picture? :=
    funext s'.pool.picture?_eq
  calc (leaves handle? (f.rendered s.pool s.groups)).filterMap s'.pool.picture?
    _ = ((leaves handle? (f.rendered s.pool s.groups)).map s'.pool.served?).filterMap
          (fun w => w.bind Widget.picture?) := by rw [List.filterMap_map, hpicture]; rfl
    _ = f.placed.filterMap (fun p => p.spec.picture?) := by
      rw [hserved, List.filterMap_map]
      exact List.filterMap_congr fun p _ => Placed.picture?_served p
    _ = f.imageSources := Fragment.pictures_placed hf

/-- A picture that is shown after a swap was shown before, or was fetched for the tree. -/
theorem Sound.showsPicture_swap (hs : s.Sound) (hf : f.WellFormed)
    (h : s.swap f now = .ok (s', report)) (hshown : s'.ShowsPicture handle src) :
    s.ShowsPicture handle src ∨ src ∈ f.imageSources := by
  obtain ⟨hmem, hpicture⟩ := hshown
  by_cases hrendered : handle ∈ leaves handle? (f.rendered s.pool s.groups)
  · right
    rw [← hs.pictures_swap hf h]
    exact List.mem_filterMap.mpr ⟨handle, hrendered, hpicture⟩
  · left
    -- a widget that is not in the new tree is shown outside the fragment, with the source it had
    have houtside : handle ∈ (s.surface.cleared f.id).handles :=
      (mem_handles_swap h hmem).resolve_right hrendered
    refine ⟨(s.surface.leaves_cleared_sublist ofLeaves_handle? f.id).subset houtside, ?_⟩
    have hserved := hs.served_apart h (hs.outside houtside) hrendered
    rw [WidgetPool.picture?_eq, ← hserved, ← WidgetPool.picture?_eq, hpicture]

end Screen

end RemoteUi
