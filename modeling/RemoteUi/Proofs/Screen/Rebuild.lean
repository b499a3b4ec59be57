/-
# RemoteUi.Proofs.Screen.Rebuild — a tree is rendered the same whatever was there before.

Rendering a tree on live widgets and groups comes to the same as rendering it on none, in all that
the server decides: the content of what is shown (`Fragment.content_build_eq`), and the tally of
identities met, widgets and groups counted and problems reported (`Fragment.tally_build`).  Widgets
that go on and widgets that are made anew differ in what belongs to the client only
(`rebuilt_the_same`).

* A `Tally` is worked out from the tree alone, by recursion (`Node.tally`), and shares with
  rendering only the texts of the problems.  The recursion carries the identities met so far, as the
  second node of an identity is reported.
* Each way of meeting a widget or a group changes the tally of a build as the node changes the tally
  of the tree (`Build.Meets.tally_eq`, `Build.tally_group`).  Whether the widget was there before
  has no part in it: reused and constructed widgets are counted together.
* From these, what a whole tree does follows by the rule for relations that rendering is closed
  under (`renderClosed_tally`).

A root that is no container has no content, on whatever it is rendered.
-/
import RemoteUi.Proofs.Screen.Content
import RemoteUi.Proofs.Screen.History

namespace RemoteUi

/-! ## Tallies -/

/-- What a build has counted and reported. -/
structure Tally where
  /-- The identities of the widgets met, in order. -/
  widgetIds : List String
  /-- The keys of the groups met, in order. -/
  groupKeys : List String
  /-- How many widgets and groups were rendered, whether they were there before or not. -/
  rendered : Nat
  diagnostics : List Diagnostic
  deriving DecidableEq

/-- What the build has counted and reported. -/
def Build.tally (b : Build) : Tally :=
  ⟨b.widgetIds, b.groupKeys, b.reused + b.constructed, b.diagnostics⟩

namespace Tally

/-- Nothing was met. -/
def empty : Tally := ⟨[], [], 0, []⟩

/-- Reports a problem. -/
def report (t : Tally) (d : Diagnostic) : Tally :=
  { t with diagnostics := t.diagnostics ++ [d] }

/-- Counts a widget or group. -/
def count (t : Tally) : Tally :=
  { t with rendered := t.rendered + 1 }

/-- The tally after a widget node. -/
def widget (t : Tally) (fragmentId : String) (head : NodeHead) : Tally :=
  match head.identity with
  | none => t.count
  | some key =>
    if key ∈ t.widgetIds then (t.report (.duplicateId key fragmentId)).count
    else { t with widgetIds := t.widgetIds ++ [key] }.count

/-- The tally after a group node. -/
def group (t : Tally) (fragmentId : String) (head : NodeHead) (spec : GroupSpec) : Tally :=
  match head.identity with
  | none =>
    t.report (.malformedNode ((Build.attachment fragmentId head spec).kind.name ++ " group")
      ("fragment '" ++ fragmentId ++ "'") "group node without id")
  | some key =>
    if key ∈ t.groupKeys then t.report (.duplicateId key fragmentId)
    else { t with groupKeys := t.groupKeys ++ [key] }.count

end Tally

mutual
/-- The tally after a node. -/
def Node.tally (fragmentId : String) : Node → Tally → Tally
  | .markup _ _ _, t => t
  | .widget head _, t => t.widget fragmentId head
  | .group head spec, t => t.group fragmentId head spec
  | .container _ own children, t => Node.tallyAll (effectiveFragment fragmentId own) children t

/-- The tally after nodes, in order. -/
def Node.tallyAll (fragmentId : String) : List Node → Tally → Tally
  | [], t => t
  | n :: rest, t => Node.tallyAll fragmentId rest (n.tally fragmentId t)
end

/-- Nodes are tallied one after the other. -/
theorem Node.tallyAll_append (fragmentId : String) (ns ms : List Node) (t : Tally) :
    tallyAll fragmentId (ns ++ ms) t = tallyAll fragmentId ms (tallyAll fragmentId ns t) := by
  induction ns generalizing t with
  | nil => rfl
  | cons n rest ih => exact ih (n.tally fragmentId t)

namespace Build

variable (b : Build)

@[simp]
theorem tally_count (reused : Bool) : (b.count reused).tally = b.tally.count := by
  cases reused with
  | true => simp [count, tally, Tally.count, Nat.add_right_comm]
  | false => simp [count, tally, Tally.count, Nat.add_assoc]

@[simp]
theorem tally_report (d : Diagnostic) : (b.report d).tally = b.tally.report d := rfl

/-- A widget without identity is counted. -/
theorem tally_loose (w : Widget) : (b.loose w).2.tally = b.tally.count := tally_count _ _

/-- A widget that is made anew is counted. -/
theorem tally_fresh (w : Widget) : (b.fresh w).2.tally = b.tally.count := tally_count _ _

/-- However a widget is met, the tally is that of its node. -/
theorem Meets.tally_eq {b : Build} {fragmentId : String} {head : NodeHead} {spec : WidgetSpec}
    {r : Handle × Build} (hr : b.Meets fragmentId head spec r) :
    r.2.tally = b.tally.widget fragmentId head := by
  unfold Tally.widget
  cases hr with
  | nameless hid => rw [hid, tally_loose]
  | repeated hid hkey =>
    rw [hid, tally_loose, tally_report]
    exact (if_pos hkey).symm
  | continued hid hkey hlookup hold hnew =>
    rw [hid, tally_count]
    exact (if_neg hkey).symm
  | fresh hid hkey hnone =>
    rw [hid, tally_fresh]
    exact (if_neg hkey).symm

/-- The tally of a group is that of its node. -/
theorem tally_group (fragmentId : String) (head : NodeHead) (spec : GroupSpec) :
    (b.group fragmentId head spec).2.tally = b.tally.group fragmentId head spec := by
  unfold group Tally.group
  cases head.identity with
  | none => rfl
  | some key =>
    dsimp only
    by_cases hkey : key ∈ b.groupKeys
    · rw [if_pos (List.contains_iff_mem.mpr hkey)]
      exact (if_pos hkey).symm
    · rw [if_neg fun hmem => hkey (List.contains_iff_mem.mp hmem), tally_count]
      exact (if_neg hkey).symm

end Build

/-- What a build counts and reports is in the tree, and in nothing that was there before. -/
theorem renderClosed_tally :
    RenderClosed fun fragmentId ns b _ b' => b'.tally = Node.tallyAll fragmentId ns b.tally where
  nil := fun _ _ => rfl
  append := fun hns hms => by rw [hms, hns, Node.tallyAll_append]
  container := fun _ hns => hns
  markup := fun _ _ _ _ _ => rfl
  widget := fun fragmentId head spec b => (b.widget_meets fragmentId head spec).tally_eq
  group := fun fragmentId head spec b => b.tally_group fragmentId head spec

/-! ## Fragments -/

namespace BuiltFragment

/-- What the server decides of a fragment that has been rendered. -/
def content (b : BuiltFragment) : Content :=
  b.root.content b.build.pool b.build.groups

end BuiltFragment

namespace Fragment

variable (f : Fragment) (groups : Groups)

/-- What a build counts and reports is worked out from the tree. -/
theorem tally_build (pool : WidgetPool) :
    (f.build pool groups).build.tally = f.root.tally f.id .empty := by
  rw [build_build]
  exact renderClosed_tally.render f.id f.root (Build.start pool groups)

/-- A node that is no container is not rendered as one. -/
theorem bind_panel?_render (fragmentId : String) {n : Node} (b : Build)
    (hn : ∀ head own children, n ≠ .container head own children) :
    (n.render fragmentId b).1.bind Rendered.panel? = none := by
  cases n with
  | markup | widget => rfl
  | container head own children => exact absurd rfl (hn head own children)
  | group head spec =>
    rw [Node.render]
    generalize hr : b.group fragmentId head spec = r
    cases hr ▸ b.group_meets fragmentId head spec with
    | nameless | repeated | attached => rfl

/-- A fragment is rendered with the content of its tree; a root that is no container has none. -/
theorem content_build_eq {pool : WidgetPool} (hpool : pool.Sound) :
    (f.build pool groups).content = f.content := by
  cases hroot : f.root with
  | container head own children => exact f.content_build ⟨head, own, children, hroot⟩ groups hpool
  | markup | group | widget =>
    have hnot : ∀ head own children, f.root ≠ .container head own children := by
      intro head own children heq
      cases hroot.symm.trans heq
    have hnone := bind_panel?_render f.id (Build.start pool groups) hnot
    unfold BuiltFragment.content build
    simp only [hnone]
    rw [content, hroot]
    rfl

end Fragment

namespace Screen

variable {s : Screen}

/-- Rendering a tree on what swaps and a user have left comes to the same as rendering it on
nothing, in all that the server decides: content and structure, identities and keys, counts and
reports. -/
theorem rebuilt_the_same (hs : s.Reached fun _ _ => True) (f : Fragment) :
    (f.build s.pool s.groups).content = (f.build .empty .empty).content ∧
      (f.build s.pool s.groups).build.tally = (f.build .empty .empty).build.tally := by
  have hcontent := f.content_build_eq s.groups hs.sound
  have hanew := f.content_build_eq .empty WidgetPool.sound_empty
  refine ⟨hcontent.trans hanew.symm, ?_⟩
  rw [f.tally_build, f.tally_build]

/-- The user has typed into a field and an editor, moved the focus and checked a box. -/
def edited : Screen :=
  let tree := Json.page [
    .obj [("type", .str "text_input"), ("id", .str "name")],
    .obj [("type", .str "code"), ("id", .str "code"), ("initial_value", .str "old")],
    .obj [("type", .str "button"), ("id", .str "go")],
    .obj [("type", .str "checkboxes"), ("id", .str "boxes"), ("multiple", .bool true),
      ("options", .arr [.str "x", .str "y"])]]
  ((Session.start .default .minimal).after [
    .message (.hello "session" none) 0, .message (.rerun ⟨none, some tree, none, none⟩) 0,
    .action ⟨"code", .editCode "new"⟩, .action ⟨"name", .focus⟩,
    .action ⟨"name", .commitText "typed"⟩, .action ⟨"boxes", .toggle "x"⟩]).screen

/-- The editor moves before the field, the button becomes a field and occurs twice, and so does the
group, beside another one without id. -/
def editedNext : Fragment :=
  let boxes := GroupSpec.checkboxes ["y", "x"] (.arr [.str "y"]) true
  ⟨"main", .container (.ofId none) (some "main") [
    .widget (.ofId (some "code")) (.codeEditor "newer" true),
    .widget (.ofId (some "name")) (.textField (some "served") "hint"),
    .widget (.ofId (some "go")) (.textField none ""), .button (some "go"),
    .group (.ofId (some "boxes")) boxes, .group (.ofId (some "boxes")) boxes,
    .group (.ofId none) boxes]⟩

/-- The editor, the field and the group go on, and nothing of it is seen. -/
theorem rebuilt_the_same_edited :
    let b := editedNext.build edited.pool edited.groups
    let anew := editedNext.build .empty .empty
    edited.Reached (fun _ _ => True) ∧ b.build.reused = 3 ∧ anew.build.reused = 0 ∧
      b.build.tally.diagnostics.length = 3 ∧
      b.content = anew.content ∧ b.build.tally = anew.build.tally := by
  intro b anew
  have hedited : edited.Reached fun _ _ => True :=
    ((Session.Reachable.start _ _).after _).reached
  exact ⟨hedited, by decide +kernel, by decide +kernel, by decide +kernel,
    rebuilt_the_same hedited editedNext⟩

end Screen

end RemoteUi
