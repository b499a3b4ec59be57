/-
# RemoteUi.Proofs.Screen.Placement — which widget a node is given.

The widget nodes of a tree stand in document order, and so do the handles of what is shown for them;
the two lists are of one length (`WidgetsMade.length_leaves`).  So a node can be told by its
position, and the widget that it is given is the handle at that position.

The first node of an identity is given the widget that is live under it, updated in place, if that
is of its kind; widgets of other identities are left alone (`renderClosed_placesMade`).  What makes
a node the one with which a widget goes on is put together in `Resumes`: it is the first of its
identity, the identity was not met before, and the widget takes the node as an update.

`PlacesMade` adds to what is known of the widgets of a build (`WidgetsMade`) these two facts about
widgets that were there before, and is closed under the parts of a tree as well.  The one step that
is not immediate puts two lists of nodes together: a widget that goes on in the first list is
settled there, and one that goes on in the second is none that the first list has met.

A tree is looked at with the fragment that its nodes stand in, since that is handed on to the
widgets too; for identities it makes no difference (`Node.mem_widgetKeys_iff`).
-/
import RemoteUi.Proofs.Screen.Build

namespace RemoteUi

open Rendered (leaves handle? leaves_append leaves_container ofLeaves_handle?)

/-! ## Widget nodes in their places -/

/-- A widget node, and the fragment it stands in. -/
structure Placed where
  fragmentId : String
  head : NodeHead
  spec : WidgetSpec

mutual
/-- The widget nodes in a node, in document order. -/
def Node.placed (fragmentId : String) : Node → List Placed
  | .widget head spec => [⟨fragmentId, head, spec⟩]
  | .container _ own children => Node.placedAll (effectiveFragment fragmentId own) children
  | .markup _ _ _ => []
  | .group _ _ => []

/-- The widget nodes in a list of nodes, in document order. -/
def Node.placedAll (fragmentId : String) : List Node → List Placed
  | [] => []
  | n :: rest => n.placed fragmentId ++ Node.placedAll fragmentId rest
end

/-- The widget nodes that a fragment shows, in document order. -/
def Fragment.placed (f : Fragment) : List Placed :=
  match f.root with
  | .container _ own children => Node.placedAll (effectiveFragment f.id own) children
  | _ => []

namespace Node

theorem placedAll_append (fragmentId : String) (ns ms : List Node) :
    placedAll fragmentId (ns ++ ms) = placedAll fragmentId ns ++ placedAll fragmentId ms := by
  induction ns with
  | nil => rfl
  | cons n rest ih => rw [List.cons_append, placedAll, placedAll, ih, List.append_assoc]

theorem placedAll_container (fragmentId : String) (head : NodeHead) (own : Option String)
    (ns : List Node) : placedAll fragmentId [.container head own ns] =
      placedAll (effectiveFragment fragmentId own) ns := by
  rw [placedAll, placedAll, placed, List.append_nil]

-- the identities among the widget nodes are those that the tree is said to have, in whichever
-- fragment they stand
mutual
theorem widgetKeys_placed (fragmentId : String) : ∀ n : Node,
    (n.placed fragmentId).filterMap (fun p => p.head.identity) = widgetKeys [n]
  | .widget _ _ => rfl
  | .container head own children => by
    rw [placed, widgetKeys_container]
    exact widgetKeys_placedAll (effectiveFragment fragmentId own) children
  | .markup _ _ _ => rfl
  | .group _ _ => rfl

theorem widgetKeys_placedAll (fragmentId : String) : ∀ ns : List Node,
    (placedAll fragmentId ns).filterMap (fun p => p.head.identity) = widgetKeys ns
  | [] => rfl
  | n :: rest => by
    have hkeys := widgetKeys_append [n] rest
    rw [List.singleton_append] at hkeys
    rw [placedAll, List.filterMap_append, widgetKeys_placed fragmentId n,
      widgetKeys_placedAll fragmentId rest, hkeys]
end

mutual
theorem length_placed (fragmentId : String) : ∀ n : Node,
    (n.placed fragmentId).length = (shownKeys [n]).length
  | .widget _ _ => rfl
  | .container head own children => by
    rw [placed, shownKeys_container]
    exact length_placedAll (effectiveFragment fragmentId own) children
  | .markup _ _ _ => rfl
  | .group _ _ => rfl

theorem length_placedAll (fragmentId : String) : ∀ ns : List Node,
    (placedAll fragmentId ns).length = (shownKeys ns).length
  | [] => rfl
  | n :: rest => by
    have hkeys := shownKeys_append [n] rest
    rw [List.singleton_append] at hkeys
    rw [placedAll, List.length_append, length_placed fragmentId n,
      length_placedAll fragmentId rest, hkeys, List.length_append]
end

theorem mem_widgetKeys_iff (fragmentId : String) {ns : List Node} {key : String} :
    key ∈ widgetKeys ns ↔ ∃ p ∈ placedAll fragmentId ns, p.head.identity = some key := by
  rw [← widgetKeys_placedAll fragmentId ns, List.mem_filterMap]

end Node

/-- There is one handle for every widget node. -/
theorem WidgetsMade.length_leaves {ns : List Node} {b b' : Build} {rs : List Rendered}
    (h : WidgetsMade ns b rs b') (fragmentId : String) :
    (leaves handle? rs).length = (Node.placedAll fragmentId ns).length := by
  have hkeys := congrArg List.length h.keys
  rw [List.length_map] at hkeys
  rw [hkeys, Node.length_placedAll]

/-! ## What the build hands out -/

/-- The node at a position is the first of its identity, and the widget that is live under it takes
the node as an update. -/
structure Resumes (b : Build) (ps : List Placed) (i : Nat) (key : String) (h : Handle)
    (new : Widget) : Prop where
  node : ∃ p old, ps[i]? = some p ∧ p.head.identity = some key ∧ b.pool.get? h = some old ∧
    old.update p.fragmentId p.head p.spec = some new
  first : ∀ q ∈ ps.take i, q.head.identity ≠ some key
  unmet : key ∉ b.widgetIds
  live : b.pool.lookup key = some h

/-- What rendering nodes does to widgets that were there before. -/
structure PlacesMade (fragmentId : String) (ns : List Node) (b : Build) (rs : List Rendered)
    (b' : Build) : Prop where
  widgets : WidgetsMade ns b rs b'
  /-- A widget is left alone if none of the nodes has its identity. -/
  apart : ∀ h < b.pool.widgets.size, b.pool.key h ∉ Node.widgetKeys ns →
    b'.pool.get? h = b.pool.get? h
  /-- The first node of an identity is given the widget that takes it as an update. -/
  resumed : ∀ i key h new, Resumes b (Node.placedAll fragmentId ns) i key h new →
    (leaves handle? rs)[i]? = some h ∧ b'.pool.lookup key = some h ∧ b'.pool.get? h = some new

namespace Build.Meets

variable {b : Build} {fragmentId : String} {head : NodeHead} {spec : WidgetSpec}
  {r : Handle × Build}

/-- A node that is met has nothing to do with the widgets of other identities. -/
theorem apart (hr : b.Meets fragmentId head spec r) (hb : b.pool.Sound) {h : Nat}
    (hlt : h < b.pool.widgets.size) (hkey : head.identity ≠ some (b.pool.key h)) :
    r.2.pool.get? h = b.pool.get? h := by
  -- a widget is made behind all others, or the one of the identity is updated
  cases hr with
  | nameless hid | repeated hid hmem =>
    refine (congrArg (WidgetPool.get? · h) (pool_count _ _)).trans ?_
    exact (WidgetPool.get?_add _ h _).trans (if_neg (Nat.ne_of_lt hlt))
  | @continued key handle old new hid hmem hlookup hold hnew =>
    rw [pool_count, WidgetPool.get?_set hold, if_neg]
    rintro rfl
    exact hkey (hid.trans (congrArg some (hb.key_eq hlookup).symm))
  | fresh hid hmem hnone =>
    refine (congrArg (WidgetPool.get? · h) (pool_count _ _)).trans ?_
    exact (WidgetPool.get?_register _ h _).trans (if_neg (Nat.ne_of_lt hlt))

/-- A node of a live widget's identity and kind, not met before, is given that widget. -/
theorem resumed (hr : b.Meets fragmentId head spec r) {key : String} {h : Handle}
    {old new : Widget} (hid : head.identity = some key) (hunmet : key ∉ b.widgetIds)
    (hlive : b.pool.lookup key = some h) (hold : b.pool.get? h = some old)
    (hnew : old.update fragmentId head spec = some new) :
    r.1 = h ∧ r.2.pool.lookup key = some h ∧ r.2.pool.get? h = some new := by
  -- what is known of the node excludes the other three ways to meet it
  cases hr with
  | nameless hid' => exact nomatch hid.symm.trans hid'
  | repeated hid' hmem =>
    obtain rfl := Option.some.inj (hid.symm.trans hid')
    exact absurd hmem hunmet
  | continued hid' hmem hlive' hold' hnew' =>
    obtain rfl := Option.some.inj (hid.symm.trans hid')
    obtain rfl := Option.some.inj (hlive.symm.trans hlive')
    obtain rfl := Option.some.inj (hold.symm.trans hold')
    obtain rfl := Option.some.inj (hnew.symm.trans hnew')
    refine ⟨rfl, ?_, ?_⟩
    · rw [pool_count, WidgetPool.lookup_set, hlive]
    · rw [pool_count, WidgetPool.get?_set hold, if_pos rfl]
  | fresh hid' hmem hnone =>
    obtain rfl := Option.some.inj (hid.symm.trans hid')
    simp [continued?, hlive, hold, hnew] at hnone

end Build.Meets

namespace PlacesMade

variable {fragmentId : String} {ns ms : List Node} {b b' b'' : Build} {rs ss : List Rendered}

/-- Nodes among which there is no widget do nothing to any. -/
theorem of_no_widget (hwidgets : WidgetsMade ns b rs b') (hpool : b'.pool = b.pool)
    (hns : Node.placedAll fragmentId ns = []) : PlacesMade fragmentId ns b rs b' where
  widgets := hwidgets
  apart := fun h _ _ => by rw [hpool]
  resumed := fun i key h new hresumes => by
    obtain ⟨p, old, hp, -⟩ := hresumes.node
    simp [hns] at hp

/-- Two lists of nodes, one after the other. -/
theorem append (hns : PlacesMade fragmentId ns b rs b') (hms : PlacesMade fragmentId ms b' ss b'') :
    PlacesMade fragmentId (ns ++ ms) b (rs ++ ss) b'' where
  widgets := hns.widgets.append hms.widgets
  apart := fun h hlt hkey => by
    rw [Node.widgetKeys_append, List.mem_append, not_or] at hkey
    have hlt' := Nat.lt_of_lt_of_le hlt hns.widgets.size_le
    have hkey' : b'.pool.key h ∉ Node.widgetKeys ms := by
      rw [hns.widgets.key_eq h hlt]
      exact hkey.2
    exact (hms.apart h hlt' hkey').trans (hns.apart h hlt hkey.1)
  resumed := fun i key h new hresumes => by
    obtain ⟨⟨p, old, hp, hid, hold, hnew⟩, hfirst, hunmet, hlive⟩ := hresumes
    have hlength := hns.widgets.length_leaves fragmentId
    rw [Node.placedAll_append] at hp hfirst
    rw [leaves_append]
    by_cases hi : i < (Node.placedAll fragmentId ns).length
    -- the node is among the first ones, and what it is given is settled from then on
    · rw [List.getElem?_append_left hi] at hp
      rw [List.take_append_of_le_length (Nat.le_of_lt hi)] at hfirst
      obtain ⟨hhandle, hlookup, hget⟩ :=
        hns.resumed i key h new ⟨⟨p, old, hp, hid, hold, hnew⟩, hfirst, hunmet, hlive⟩
      have hmet : key ∈ b'.widgetIds := by
        refine (hns.widgets.met key).mpr (Or.inr ?_)
        exact (Node.mem_widgetKeys_iff fragmentId).mpr ⟨p, List.mem_of_getElem? hp, hid⟩
      have hsettled := (hns.widgets.made h (List.mem_of_getElem? hhandle)).2
      refine ⟨?_, ?_, ?_⟩
      · rw [List.getElem?_append_left (by omega), hhandle]
      · rw [hms.widgets.lookup_eq key (Or.inl hmet), hlookup]
      · rw [(hms.widgets.kept h hsettled).2, hget]
    -- the node is among the others, and the first ones leave its widget alone
    · have hle := Nat.le_of_not_lt hi
      rw [List.getElem?_append_right hle] at hp
      rw [List.take_append, List.take_of_length_le hle, List.forall_mem_append] at hfirst
      have hnot : key ∉ Node.widgetKeys ns := by
        rw [Node.mem_widgetKeys_iff fragmentId]
        rintro ⟨q, hq, hqid⟩
        exact hfirst.1 q hq hqid
      have hsound := hns.widgets.sound
      have hlive' : b'.pool.lookup key = some h := by
        rw [hns.widgets.lookup_eq key (Or.inr hnot), hlive]
      have hlt := WidgetPool.lt_size_of_get? hold
      have hkey : b.pool.key h = key := by
        rw [← hns.widgets.key_eq h hlt]
        exact hsound.key_eq hlive'
      have hold' : b'.pool.get? h = some old := by
        rw [hns.apart h hlt (by rwa [hkey]), hold]
      have hunmet' : key ∉ b'.widgetIds := by
        rw [hns.widgets.met]
        exact not_or.mpr ⟨hunmet, hnot⟩
      have hlater := hms.resumed (i - (Node.placedAll fragmentId ns).length) key h new
        ⟨⟨p, old, hp, hid, hold', hnew⟩, hfirst.2, hunmet', hlive'⟩
      rw [List.getElem?_append_right (by omega), hlength]
      exact hlater

/-- A container is its nodes. -/
theorem container {own : Option String}
    (hns : PlacesMade (effectiveFragment fragmentId own) ns b rs b') (head : NodeHead) (box : Box) :
    PlacesMade fragmentId [.container head own ns] b [.container box rs] b' where
  widgets := hns.widgets.container head own box
  apart := by
    rw [Node.widgetKeys_container]
    exact hns.apart
  resumed := by
    rw [Node.placedAll_container, leaves_container ofLeaves_handle?]
    exact hns.resumed

end PlacesMade

/-- Rendering a tree, in a sound pool, has each widget go on at the first node of its identity. -/
theorem renderClosed_placesMade :
    RenderClosed fun fragmentId ns b rs b' =>
      b.pool.Sound → PlacesMade fragmentId ns b rs b' where
  nil := fun fragmentId b hb => .of_no_widget (renderClosed_widgetsMade.nil fragmentId b hb) rfl rfl
  append := fun hns hms hb => (hns hb).append (hms (hns hb).widgets.sound)
  container := fun head hns hb => (hns hb).container head _
  markup := fun fragmentId head tag content b hb =>
    .of_no_widget (renderClosed_widgetsMade.markup fragmentId head tag content b hb) rfl rfl
  group := fun fragmentId head spec b hb => by
    refine .of_no_widget (renderClosed_widgetsMade.group fragmentId head spec b hb) ?_ rfl
    generalize hr : b.group fragmentId head spec = r
    cases hr ▸ b.group_meets fragmentId head spec with
    | nameless | repeated => rfl
    | attached => exact Build.pool_count _ _
  widget := fun fragmentId head spec b hb => by
    have hmeets := b.widget_meets fragmentId head spec
    refine ⟨renderClosed_widgetsMade.widget fragmentId head spec b hb, fun h hlt hkey => ?_, ?_⟩
    · rw [Node.mem_widgetKeys_widget] at hkey
      exact hmeets.apart hb hlt hkey
    · intro i key h new ⟨⟨p, old, hp, hid, hold, hnew⟩, _, hunmet, hlive⟩
      obtain ⟨rfl, rfl⟩ : i = 0 ∧ (⟨fragmentId, head, spec⟩ : Placed) = p := by
        cases i with
        | zero => exact ⟨rfl, Option.some.inj hp⟩
        | succ i => cases hp
      obtain ⟨hhandle, hrest⟩ := hmeets.resumed hid hunmet hlive hold hnew
      exact ⟨congrArg some hhandle, hrest⟩

/-- What holds of rendering, for what is inside the root of a fragment. -/
theorem Fragment.build_placesMade (f : Fragment) {pool : WidgetPool} (groups : Groups)
    (hpool : pool.Sound) {head : NodeHead} {own : Option String} {children : List Node}
    (hroot : f.root = .container head own children) :
    PlacesMade (effectiveFragment f.id own) children (Build.start pool groups)
      (f.build pool groups).root.children (f.build pool groups).build := by
  rw [f.build_container pool groups hroot]
  exact renderClosed_placesMade.renderAll _ children (Build.start pool groups) hpool

end RemoteUi
