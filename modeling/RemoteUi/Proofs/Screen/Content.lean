/-
# RemoteUi.Proofs.Screen.Content — what the server decides of what is shown.

The content of a rendered tree is all of it but what belongs to the client: opacity and scroll
offsets, what the user did to a widget, changes that were not reported yet.  It says what the server
has decided, and here it is shown that nothing else decides it.

* A tree has a content of its own (`Node.content`), which takes no account of what was there before.
  It depends on the fragment around a node and on the groups that came earlier in the tree, as a
  second group of a key is dropped.
* Rendering the tree on any sound pool comes to that content (`renderClosed_contentsMade`).  A
  widget that goes on is updated, and whatever it was before, the update makes of it what its
  description says (`WidgetState.served_update`).  What is rendered first is left alone by what is
  rendered next, so that the parts of a tree can be put together.
* A swap shows that content but for groups without members (`content_swap`): what has been scrolled
  goes on being scrolled, the new tree may have the opacity of the old one, and neither is content.

What belongs to the user is part of a state for grids, editors and uploaders only
(`WidgetState.served`); there the server says how the widget begins, and nothing from then on.
-/
import RemoteUi.Proofs.Screen.Swap

namespace RemoteUi

open Rendered (leaves handle? groupKey? leaves_cons leaves_container ofLeaves_handle?
  ofLeaves_groupKey?)

/-! ## What the server decides -/

/-- The state without what belongs to the user once the widget exists. -/
def WidgetState.served : WidgetState → WidgetState
  | .dataGrid g => .dataGrid ⟨[], [], g.height⟩
  | .codeEditor _ lineNumbers => .codeEditor "" lineNumbers
  | .fileUploader u => .fileUploader { u with selection := [], summary := none }
  | state => state

/-- The widget without what belongs to the client. -/
def Widget.served (w : Widget) : Widget :=
  { w with touched := .untouched, state := w.state.served, updates := 0 }

/-- The group without the mark of a change. -/
def Group.served (g : Group) : Group :=
  { g with pending := false }

/-- The presentation without what changes on the client. -/
def Box.served (b : Box) : Box :=
  { b with opacity := 1, visible := true, scrollTop := 0 }

/-- What the server decides of a tree that is shown. -/
inductive Content where
  | markup (tag : String) (content : Markup) (style : Json.Members)
  | container (box : Box) (children : List Content)
  | widget (widget : Option Widget)
  | group (key : String) (kind : GroupKind) (group : Option Group)

mutual
/-- The content of a rendered tree. -/
def Rendered.content (pool : WidgetPool) (groups : Groups) : Rendered → Content
  | .markup tag content style => .markup tag content style
  | .container box children => .container box.served (Rendered.contents pool groups children)
  | .widget h => .widget ((pool.get? h).map Widget.served)
  | .group key kind => .group key kind ((groups.get? key).map Group.served)

/-- The contents of rendered trees, in order. -/
def Rendered.contents (pool : WidgetPool) (groups : Groups) : List Rendered → List Content
  | [] => []
  | r :: rest => r.content pool groups :: Rendered.contents pool groups rest
end

/-- The content of a container. -/
def Panel.content (p : Panel) (pool : WidgetPool) (groups : Groups) : Content :=
  p.node.content pool groups

/-- The content of a fragment that is shown. -/
def Screen.content (s : Screen) (id : String) : Option Content :=
  (s.surface.fragment? id).map fun p => p.content s.pool s.groups

mutual
/-- The content of a node in a fragment, after groups with the keys that were seen: nothing, for a
group that is dropped. -/
def Node.content (fragmentId : String) (seen : List String) : Node → List Content
  | .markup head tag content => [.markup tag content head.style]
  | .widget head spec =>
    [.widget (some (Widget.make (head.identity.getD "") fragmentId head spec).served)]
  | .group head spec =>
    match head.identity with
    | none => []
    | some key =>
      if key ∈ seen then []
      else
        let a := Build.attachment fragmentId head spec
        [.group key a.kind (some (a.group none).served)]
  | .container head own children =>
    let inner := effectiveFragment fragmentId own
    [.container (Box.make head (own.map fun _ => inner)).served
      (Node.contents inner seen children)]

/-- The contents of nodes, in order. -/
def Node.contents (fragmentId : String) (seen : List String) : List Node → List Content
  | [] => []
  | n :: rest =>
    n.content fragmentId seen ++ Node.contents fragmentId (seen ++ Node.groupKeys [n]) rest
end

/-- The content of a fragment. -/
def Fragment.content (f : Fragment) : Content :=
  match f.root with
  | .container head own children =>
    .container (Box.make head (some f.id)).served
      (Node.contents (effectiveFragment f.id own) [] children)
  | root => .container (Box.make root.head (some f.id)).served []

mutual
/-- The content once groups without members are gone. -/
def Content.pruned : Content → Content
  | .container box children => .container box (Content.prunedAll children)
  | .group key kind g => .group key kind (g.filter fun g => !g.members.isEmpty)
  | content => content

/-- `pruned` in a list of contents. -/
def Content.prunedAll : List Content → List Content
  | [] => []
  | c :: rest => c.pruned :: Content.prunedAll rest
end

/-! ## Widgets -/

/-- Whatever a widget was before, an update makes of it what its description says. -/
theorem WidgetState.served_update {before after : WidgetState} {spec : WidgetSpec}
    (h : before.update spec = some after) : after.served = (WidgetState.ofSpec spec).served := by
  cases before <;> cases spec <;> cases h <;> rfl

/-- An update makes of a widget what its description would have made of a new one. -/
theorem Widget.served_update {w w' : Widget} {fragmentId : String} {head : NodeHead}
    {spec : WidgetSpec} (h : w.update fragmentId head spec = some w') :
    w'.served = (Widget.make w.key fragmentId head spec).served := by
  obtain ⟨state, hstate, rfl⟩ := Option.map_eq_some_iff.mp h
  simp only [served, make, WidgetState.served_update hstate]

namespace Rendered

variable {pool pool' : WidgetPool} {groups groups' : Groups}

@[simp]
theorem contents_append (rs ss : List Rendered) :
    contents pool groups (rs ++ ss) = contents pool groups rs ++ contents pool groups ss := by
  induction rs with
  | nil => rfl
  | cons r rest ih => simp [contents, ih]

mutual
theorem content_congr : ∀ {r : Rendered},
    (∀ h ∈ leaves handle? [r], (pool'.get? h).map Widget.served = (pool.get? h).map Widget.served) →
    (∀ key ∈ leaves groupKey? [r],
      (groups'.get? key).map Group.served = (groups.get? key).map Group.served) →
    r.content pool' groups' = r.content pool groups
  | .container box children, hwidgets, hgroups => by
    rw [leaves_container ofLeaves_handle?] at hwidgets
    rw [leaves_container ofLeaves_groupKey?] at hgroups
    rw [content, content, contents_congr hwidgets hgroups]
  | .markup _ _ _, _, _ => rfl
  | .widget h, hwidgets, _ => by
    rw [content, content, hwidgets h (List.mem_singleton_self h)]
  | .group key kind, _, hgroups => by
    rw [content, content, hgroups key (List.mem_singleton_self key)]

/-- The content says no more of the widgets and groups than what is said of those shown. -/
theorem contents_congr : ∀ {rs : List Rendered},
    (∀ h ∈ leaves handle? rs, (pool'.get? h).map Widget.served = (pool.get? h).map Widget.served) →
    (∀ key ∈ leaves groupKey? rs,
      (groups'.get? key).map Group.served = (groups.get? key).map Group.served) →
    contents pool' groups' rs = contents pool groups rs
  | [], _, _ => rfl
  | r :: rest, hwidgets, hgroups => by
    rw [leaves_cons, List.forall_mem_append] at hwidgets hgroups
    rw [contents, contents, content_congr hwidgets.1 hgroups.1,
      contents_congr hwidgets.2 hgroups.2]
end

end Rendered

/-! ## Trees that are rendered -/

/-- A list of nodes after another one, which has seen its groups. -/
theorem Node.contents_append (fragmentId : String) (seen : List String) (ns ms : List Node) :
    contents fragmentId seen (ns ++ ms) =
      contents fragmentId seen ns ++ contents fragmentId (seen ++ groupKeys ns) ms := by
  induction ns generalizing seen with
  | nil =>
    rw [List.nil_append, contents, List.nil_append]
    exact congrArg (contents fragmentId · ms) (List.append_nil seen).symm
  | cons n rest ih =>
    have hkeys := groupKeys_append [n] rest
    rw [List.singleton_append] at hkeys
    rw [List.cons_append, contents, contents, ih, hkeys, List.append_assoc, List.append_assoc]

/-- What rendering nodes comes to: the widgets and groups made, and the nodes' own contents. -/
structure ContentsMade (fragmentId : String) (ns : List Node) (b : Build) (rs : List Rendered)
    (b' : Build) : Prop where
  widgets : WidgetsMade ns b rs b'
  groups : GroupsMade ns b rs b'
  contents : ∀ seen, (∀ key, key ∈ seen ↔ key ∈ b.groupKeys) →
    Rendered.contents b'.pool b'.groups rs = Node.contents fragmentId seen ns

namespace ContentsMade

variable {fragmentId : String} {ns ms : List Node} {b b' b'' : Build} {rs ss : List Rendered}

theorem append (hns : ContentsMade fragmentId ns b rs b')
    (hms : ContentsMade fragmentId ms b' ss b'') :
    ContentsMade fragmentId (ns ++ ms) b (rs ++ ss) b'' := by
  refine ⟨hns.widgets.append hms.widgets, hns.groups.append hms.groups, fun seen hseen => ?_⟩
  -- what was rendered first is left alone by what is rendered next
  have hfirst : Rendered.contents b''.pool b''.groups rs =
      Rendered.contents b'.pool b'.groups rs := by
    refine Rendered.contents_congr (fun h hh => ?_) fun key hkey => ?_
    · rw [(hms.widgets.kept h (hns.widgets.made h hh).2).2]
    · have hmet := (hns.groups.met key).mpr (Or.inr ((hns.groups.shown key).mp hkey).1)
      rw [hms.groups.get?_eq key (Or.inl hmet)]
  -- the second list begins with the groups of the first
  have hseen' : ∀ key, key ∈ seen ++ Node.groupKeys ns ↔ key ∈ b'.groupKeys := fun key => by
    rw [List.mem_append, hseen, hns.groups.met]
  rw [Rendered.contents_append, hfirst, hns.contents seen hseen, hms.contents _ hseen',
    Node.contents_append]

/-- A container has the content of what is in it. -/
theorem container {own : Option String}
    (hns : ContentsMade (effectiveFragment fragmentId own) ns b rs b')
    (head : NodeHead) :
    ContentsMade fragmentId [.container head own ns] b
      [.container (.make head (own.map fun _ => effectiveFragment fragmentId own)) rs] b' := by
  refine ⟨hns.widgets.container head own _, hns.groups.container head own _, fun seen hseen => ?_⟩
  rw [Rendered.contents, Rendered.contents, Rendered.content, hns.contents seen hseen,
    Node.contents, Node.contents, Node.content]
  rfl

end ContentsMade

/-- Whichever way a node is met, the widget that is handed out for it serves it. -/
theorem Build.Meets.served {b : Build} {fragmentId : String} {head : NodeHead} {spec : WidgetSpec}
    {r : Handle × Build} (hr : b.Meets fragmentId head spec r) (hb : b.pool.Sound) :
    (r.2.pool.get? r.1).map Widget.served =
      some (Widget.make (head.identity.getD "") fragmentId head spec).served := by
  cases hr with
  | nameless hid => rw [get?_loose, hid, Option.map_some, Option.getD_none]
  | repeated hid hkey => rw [get?_loose, hid, Option.map_some, Option.getD_some]
  | @continued key h old new hid hkey hlookup hold hnew =>
    have hkey : old.key = key := by rw [← hb.key_eq hlookup, WidgetPool.key_of_get? hold]
    rw [pool_count, WidgetPool.get?_set hold, if_pos rfl, Option.map_some, hid, Option.getD_some,
      Widget.served_update hnew, hkey]
  | fresh hid hkey hnone => rw [get?_fresh, hid, Option.map_some, Option.getD_some]

/-- Rendering comes to the content of the nodes, whatever was there before. -/
theorem renderClosed_contentsMade :
    RenderClosed fun fragmentId ns b rs b' =>
      b.pool.Sound → ContentsMade fragmentId ns b rs b' where
  nil := fun fragmentId b hb => ⟨renderClosed_widgetsMade.nil fragmentId b hb,
    renderClosed_groupsMade.nil fragmentId b, fun _ _ => rfl⟩
  append := fun hns hms hb => (hns hb).append (hms (hns hb).widgets.sound)
  container := fun head hns hb => (hns hb).container head
  markup := fun fragmentId head tag content b hb =>
    ⟨renderClosed_widgetsMade.markup fragmentId head tag content b hb,
      renderClosed_groupsMade.markup fragmentId head tag content b, fun _ _ => rfl⟩
  widget := fun fragmentId head spec b hb => by
    refine ⟨renderClosed_widgetsMade.widget fragmentId head spec b hb,
      renderClosed_groupsMade.widget fragmentId head spec b, fun seen _ => ?_⟩
    rw [Rendered.contents, Rendered.contents, Rendered.content,
      (b.widget_meets fragmentId head spec).served hb]
    rfl
  group := fun fragmentId head spec b hb => by
    refine ⟨renderClosed_widgetsMade.group fragmentId head spec b hb,
      renderClosed_groupsMade.group fragmentId head spec b, fun seen hseen => ?_⟩
    generalize hr : b.group fragmentId head spec = r
    cases hr ▸ b.group_meets fragmentId head spec with
    | nameless d hid => simp [Node.contents, Node.content, Rendered.contents, hid]
    | repeated d hid hkey =>
      simp [Node.contents, Node.content, Rendered.contents, hid, (hseen _).mpr hkey]
    | @attached key a ha hid hkey =>
      have hnew : key ∉ seen := fun hmem => hkey ((hseen key).mp hmem)
      rw [Option.toList_some, Rendered.contents, Rendered.contents, Rendered.content,
        Build.groups_count, Groups.attach, Table.get?_insert, if_pos rfl, Node.contents,
        Node.contents, List.append_nil, Node.content]
      simp only [hid]
      rw [if_neg hnew, ha]
      rfl

/-! ## Fragments -/

/-- How far a container is scrolled is not content. -/
theorem Box.served_restoreScroll (offsets : Table Nat) (b : Box) :
    (b.restoreScroll offsets).served = b.served := by
  unfold restoreScroll
  split <;> rfl

/-- What a fragment with a container as root is rendered as has the content of the fragment. -/
theorem Fragment.content_build (f : Fragment)
    (hroot : ∃ head own children, f.root = .container head own children) {pool : WidgetPool}
    (groups : Groups) (hpool : pool.Sound) :
    (f.build pool groups).root.content (f.build pool groups).build.pool
      (f.build pool groups).build.groups = f.content := by
  obtain ⟨head, own, children, hroot⟩ := hroot
  have hmade := renderClosed_contentsMade.renderAll (effectiveFragment f.id own) children
    (Build.start pool groups) hpool
  have hcontents := hmade.contents [] fun key => Iff.rfl
  rw [f.build_container pool groups hroot, content, hroot]
  dsimp only
  rw [Panel.content, Panel.node, Rendered.content, hcontents]

namespace Rendered

mutual
theorem content_restoreScroll (pool : WidgetPool) (groups : Groups) (offsets : Table Nat) :
    ∀ r : Rendered, (r.restoreScroll offsets).content pool groups = r.content pool groups
  | .container box children => by
    rw [restoreScroll, content, content, contents_restoreScrollIn pool groups offsets children,
      Box.served_restoreScroll]
  | .markup _ _ _ => rfl
  | .widget _ => rfl
  | .group _ _ => rfl

/-- Scroll offsets are not content. -/
theorem contents_restoreScrollIn (pool : WidgetPool) (groups : Groups) (offsets : Table Nat) :
    ∀ rs : List Rendered,
      contents pool groups (restoreScrollIn offsets rs) = contents pool groups rs
  | [] => rfl
  | r :: rest => by
    rw [restoreScrollIn, contents, contents, content_restoreScroll pool groups offsets r,
      contents_restoreScrollIn pool groups offsets rest]
end

variable {pool pool' : WidgetPool} {groups groups' : Groups}

mutual
theorem content_pruned : ∀ {r : Rendered},
    (∀ h ∈ leaves handle? [r], (pool'.get? h).map Widget.served = (pool.get? h).map Widget.served) →
    (∀ key ∈ leaves groupKey? [r],
      groups'.get? key = (groups.get? key).filter fun g => !g.members.isEmpty) →
    r.content pool' groups' = (r.content pool groups).pruned
  | .container box children, hwidgets, hgroups => by
    rw [leaves_container ofLeaves_handle?] at hwidgets
    rw [leaves_container ofLeaves_groupKey?] at hgroups
    rw [content, content, contents_pruned hwidgets hgroups]
    rfl
  | .markup _ _ _, _, _ => rfl
  | .widget h, hwidgets, _ => by
    rw [content, content, hwidgets h (List.mem_singleton_self h)]
    rfl
  | .group key kind, _, hgroups => by
    rw [content, content, hgroups key (List.mem_singleton_self key), Content.pruned]
    cases groups.get? key with
    | none => rfl
    | some g => by_cases hm : g.members.isEmpty <;> simp [Option.filter, Group.served, hm]

/-- Where groups without members are gone, so they are from the content. -/
theorem contents_pruned : ∀ {rs : List Rendered},
    (∀ h ∈ leaves handle? rs, (pool'.get? h).map Widget.served = (pool.get? h).map Widget.served) →
    (∀ key ∈ leaves groupKey? rs,
      groups'.get? key = (groups.get? key).filter fun g => !g.members.isEmpty) →
    contents pool' groups' rs = Content.prunedAll (contents pool groups rs)
  | [], _, _ => rfl
  | r :: rest, hwidgets, hgroups => by
    rw [leaves_cons, List.forall_mem_append] at hwidgets hgroups
    rw [contents, contents, content_pruned hwidgets.1 hgroups.1,
      contents_pruned hwidgets.2 hgroups.2]
    rfl
end

end Rendered

namespace Screen

variable {s s' : Screen} {f : Fragment} {now : Nat} {report : SwapReport}

/-- What is put in the place of a fragment has the content that was built, whatever was there. -/
theorem content_incoming (b : BuiltFragment) (outgoing : Option Panel) (opacity : Float32)
    (pool : WidgetPool) (groups : Groups) :
    let shown := incoming b outgoing
    ({ shown with box := { shown.box with opacity := opacity } } : Panel).content pool groups =
      b.root.content pool groups := by
  cases outgoing with
  | none => rfl
  | some old =>
    have hbox : (b.root.box.restoreScroll old.scrollOffsets).served = b.root.box.served :=
      Box.served_restoreScroll _ _
    have hcontents := Rendered.contents_restoreScrollIn pool groups old.scrollOffsets
      b.root.children
    show Content.container _ _ = Content.container _ _
    exact congr (congrArg Content.container hbox) hcontents

/-- What a swap shows is the content of its tree, but for groups without members: nothing of it
depends on what the screen was before. -/
theorem content_swap (hs : s.pool.Sound) (hf : f.WellFormed)
    (h : s.swap f now = .ok (s', report)) : s'.content f.id = some f.content.pruned := by
  obtain ⟨opacity, hshown⟩ := fragment?_swap h
  have hbuilt := f.content_build hf.container s.groups hs
  rw [content, hshown, Option.map_some, content_incoming, ← hbuilt]
  refine congrArg some (Rendered.content_pruned (fun handle _ => ?_) fun key hkey => ?_)
  · exact (alike_swap h).map_eq (fun _ => rfl) handle
  · rw [Rendered.leaves_node ofLeaves_groupKey?, built,
      f.leaves_build s.pool s.groups ofLeaves_groupKey? hf.container] at hkey
    have hmem := (((f.build_groupsMade s.pool s.groups).shown key).mp hkey).1
    rw [groups_swap h, get?_nextGroups fun _ _ _ => hmem]
    rfl

end Screen

end RemoteUi
