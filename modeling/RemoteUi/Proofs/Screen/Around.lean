/-
# RemoteUi.Proofs.Screen.Around — what stands around a container.

A swap is to leave everything around the fragment alone.  To say so, what stands around a container
is taken to be the tree with the container cut out of it (`Rendered.cut?`, `Surface.apartFrom`): all
other containers with the way they are drawn, all widgets, groups and markup, in their places.

* An edit of the container leaves that as it is, box by box, as long as the same container is found
  afterwards (`Surface.apartFrom_edit`).  This is why an edit has to keep the id of the fragment:
  another one would be cut out the second time.
* To a view of the leaves it is the tree with the container emptied (`Surface.leaves_apartFrom`),
  which is how most lemmas about swaps speak of it.
* Of two edits of a fragment only the later one counts (`Surface.replace_edit`).

The proofs go down to the container that is found, one case for the container itself and one for
each place at which it can be further in.
-/
import RemoteUi.Proofs.Screen.Edit

namespace RemoteUi

open Rendered (handle? leaves_append leaves_cons leaves_container ofLeaves_handle?)

/-! ## Cutting a container out -/

namespace Rendered

mutual
/-- The tree without the first container that satisfies `p`, if there is one; nothing is left of a
tree that is that container. -/
def cut? (p : Box → Bool) : Rendered → Option (Option Rendered)
  | .container box children =>
    if p box then some none
    else (cutIn? p children).map fun left => some (.container box left)
  | _ => none

/-- `cut?` in a list of trees. -/
def cutIn? (p : Box → Bool) : List Rendered → Option (List Rendered)
  | [] => none
  | r :: rest =>
    match r.cut? p with
    | some left => some (left.toList ++ rest)
    | none => (cutIn? p rest).map (r :: ·)
end

variable {p : Box → Bool}

/-- A container that is found is changed, and the tree is a container still. -/
theorem edit?_of_find? {r : Rendered} {old : Panel} (h : r.find? p = some old)
    (f : Panel → Panel) : ∃ panel : Panel, r.edit? p f = some panel.node := by
  obtain ⟨_, _, -, hedit⟩ := leaves_edit? ofNodes_box? h
  obtain ⟨r', hr', -⟩ := hedit f
  obtain ⟨panel, rfl⟩ := edit?_node hr'
  exact ⟨panel, hr'⟩

mutual
theorem cut?_eq_none : ∀ {r : Rendered}, r.find? p = none → r.cut? p = none
  | .container box children, h => by
    -- the search and the cut go the same way
    simp only [find?] at h
    split at h
    · cases h
    · rename_i hp
      simp [cut?, hp, cutIn?_eq_none h]
  | .markup _ _ _, _ => rfl
  | .widget _, _ => rfl
  | .group _ _, _ => rfl

theorem cutIn?_eq_none : ∀ {rs : List Rendered}, findIn? p rs = none → cutIn? p rs = none
  | [], _ => rfl
  | r :: rest, h => by
    simp only [findIn?] at h
    split at h
    · cases h
    · rename_i hr
      simp [cutIn?, cut?_eq_none hr, cutIn?_eq_none h]
end

mutual
/-- To the leaves, a container that is cut out is one that is emptied. -/
theorem leaves_cut? : ∀ {r : Rendered} {old : Panel}, r.find? p = some old →
    ∃ left cleared, r.cut? p = some left ∧
      r.edit? p (fun panel => { panel with children := [] }) = some cleared ∧
      ∀ {α : Type} {g : Rendered → Option α}, OfLeaves g →
        leaves g left.toList = leaves g [cleared]
  | .container box children, old, h => by
    simp only [find?] at h
    split at h
    · rename_i hp
      refine ⟨none, .container box [], by simp [cut?, hp], by simp [edit?, hp, Panel.node], ?_⟩
      intro α g hg
      rw [leaves_container hg]
      rfl
    · rename_i hp
      -- the container that is found is further in
      obtain ⟨left, cleared, hcut, hedit, hleaves⟩ := leaves_cutIn? h
      refine ⟨some (.container box left), .container box cleared, by simp [cut?, hp, hcut],
        by simp [edit?, hp, hedit], ?_⟩
      intro α g hg
      rw [Option.toList_some, leaves_container hg, leaves_container hg, hleaves hg]
  | .markup _ _ _, _, h => by cases h
  | .widget _, _, h => by cases h
  | .group _ _, _, h => by cases h

theorem leaves_cutIn? : ∀ {rs : List Rendered} {old : Panel}, findIn? p rs = some old →
    ∃ left cleared, cutIn? p rs = some left ∧
      editIn? p (fun panel => { panel with children := [] }) rs = some cleared ∧
      ∀ {α : Type} {g : Rendered → Option α}, OfLeaves g → leaves g left = leaves g cleared
  | [], _, h => by cases h
  | r :: rest, old, h => by
    simp only [findIn?] at h
    split at h
    · -- the container is in the first tree
      rename_i panel hr
      cases h
      obtain ⟨left, cleared, hcut, hedit, hleaves⟩ := leaves_cut? hr
      refine ⟨left.toList ++ rest, cleared :: rest, by simp [cutIn?, hcut],
        by simp [editIn?, hedit], ?_⟩
      intro α g hg
      rw [leaves_append, leaves_cons g cleared, hleaves hg]
    · -- it is in a later one
      rename_i hr
      obtain ⟨left, cleared, hcut, hedit, hleaves⟩ := leaves_cutIn? h
      refine ⟨r :: left, r :: cleared, by simp [cutIn?, cut?_eq_none hr, hcut],
        by simp [editIn?, edit?_eq_none hr, hedit], ?_⟩
      intro α g hg
      rw [leaves_cons, leaves_cons g r cleared, hleaves hg]
end

mutual
/-- An edit changes nothing around the container that it finds, as long as that is found again. -/
theorem cut?_edit? {f : Panel → Panel} :
    ∀ {r r' : Rendered} {old : Panel}, r.find? p = some old → p (f old).box = true →
      r.edit? p f = some r' → r'.cut? p = r.cut? p
  | .container box children, r', old, h, hf, he => by
    simp only [find?] at h
    split at h
    · rename_i hp
      cases h
      simp only [edit?, hp, if_true] at he
      cases he
      simp [cut?, Panel.node, hp, hf]
    · rename_i hp
      simp only [edit?, hp] at he
      obtain ⟨rs', hrs', rfl⟩ := Option.map_eq_some_iff.mp he
      simp [cut?, hp, cutIn?_editIn? h hf hrs']
  | .markup _ _ _, _, _, h, _, _ => by cases h
  | .widget _, _, _, h, _, _ => by cases h
  | .group _ _, _, _, h, _, _ => by cases h

theorem cutIn?_editIn? {f : Panel → Panel} :
    ∀ {rs rs' : List Rendered} {old : Panel}, findIn? p rs = some old → p (f old).box = true →
      editIn? p f rs = some rs' → cutIn? p rs' = cutIn? p rs
  | [], _, _, h, _, _ => by cases h
  | r :: rest, rs', old, h, hf, he => by
    simp only [findIn?] at h
    split at h
    · rename_i panel hr
      cases h
      -- the container is in the first tree, which has something left in either case
      obtain ⟨left, cleared, hcut, -⟩ := leaves_cut? hr
      obtain ⟨r', hr'⟩ := edit?_of_find? hr f
      simp only [editIn?, hr'] at he
      cases he
      have hcut' := (cut?_edit? hr hf hr').trans hcut
      simp [cutIn?, hcut, hcut']
    · rename_i hr
      simp only [editIn?, edit?_eq_none hr] at he
      obtain ⟨rest', hrest', rfl⟩ := Option.map_eq_some_iff.mp he
      simp [cutIn?, cut?_eq_none hr, cutIn?_editIn? h hf hrest']
end

end Rendered

namespace Surface

variable {s : Surface} {id : String} {old : Panel}

/-- What is shown around a fragment: the tree with the first container that is its root cut out. -/
def apartFrom (s : Surface) (id : String) : Option Rendered :=
  s.root.bind fun r => (r.node.cut? (Box.isFragment id)).getD (some r.node)

/-- What is around a fragment is what the surface shows once the fragment is emptied. -/
theorem leaves_apartFrom {α : Type} {g : Rendered → Option α} (hg : Rendered.OfLeaves g)
    (s : Surface) (id : String) :
    Rendered.leaves g (s.apartFrom id).toList = (s.cleared id).leaves g := by
  cases hroot : s.root with
  | none => rw [leaves_cleared_root hroot, apartFrom, hroot]; rfl
  | some root =>
    cases hold : s.fragment? id with
    | none =>
      have hnone : root.node.find? (Box.isFragment id) = none := by
        rwa [fragment?, hroot] at hold
      rw [cleared, edit_eq_self hold, Surface.leaves, apartFrom, hroot, Option.bind_some,
        Rendered.cut?_eq_none hnone, Option.map_some, Option.getD_some, Option.getD_none,
        Option.toList_some, Rendered.leaves_node hg]
    | some old =>
      have hfind : root.node.find? (Box.isFragment id) = some old := by
        rwa [fragment?, hroot] at hold
      obtain ⟨left, r', hcut, hedit, hleaves⟩ := Rendered.leaves_cut? hfind
      obtain ⟨root', rfl⟩ := Rendered.edit?_node hedit
      rw [cleared, edit_eq hroot hedit, apartFrom, hroot, Option.bind_some, hcut,
        Option.getD_some, hleaves hg, Rendered.leaves_node hg]
      rfl

/-- What becomes of a fragment makes no difference to what is around it. -/
theorem apartFrom_edit {f : Panel → Panel} (hold : s.fragment? id = some old)
    (hf : (f old).box.isFragment id = true) :
    (s.edit (Box.isFragment id) f).apartFrom id = s.apartFrom id := by
  obtain ⟨root, hroot, hfind⟩ := Option.bind_eq_some_iff.mp hold
  obtain ⟨left, _, hcut, -⟩ := Rendered.leaves_cut? hfind
  obtain ⟨root', hr'⟩ := Rendered.edit?_of_find? hfind f
  have hcut' := (Rendered.cut?_edit? hfind hf hr').trans hcut
  rw [edit_eq hroot hr', apartFrom, apartFrom, hroot, Option.bind_some, Option.bind_some, hcut,
    hcut', Option.getD_some, Option.getD_some]

/-- A container that is put in the place of a fragment makes no difference to what is around it. -/
theorem apartFrom_replace {incoming : Panel} (hbox : incoming.box.isFragment id = true)
    (hshown : s.root = none ∨ ∃ old, s.fragment? id = some old) :
    (s.replace id incoming).apartFrom id = s.apartFrom id := by
  rcases hshown with hroot | ⟨old, hold⟩
  · simp [replace, apartFrom, hroot, Rendered.cut?, Panel.node, hbox]
  · rw [replace_eq_edit hold]
    exact apartFrom_edit hold hbox

/-- A fragment that is changed and then replaced is replaced. -/
theorem replace_edit {f : Panel → Panel} (hold : s.fragment? id = some old)
    (hf : (f old).box.isFragment id = true) (panel : Panel) :
    (s.edit (Box.isFragment id) f).replace id panel = s.replace id panel := by
  obtain ⟨hagain, hcomp⟩ := edit_again hold hf
  rw [replace_eq_edit hagain, hcomp, replace_eq_edit hold]
  rfl

/-- Of two containers that are put in the place of a fragment, the later one is there. -/
theorem replace_replace {incoming : Panel} (hbox : incoming.box.isFragment id = true)
    (hshown : s.root = none ∨ ∃ old, s.fragment? id = some old) (panel : Panel) :
    (s.replace id incoming).replace id panel = s.replace id panel := by
  rcases hshown with hroot | ⟨old, hold⟩
  · simp [replace, edit, hroot, Panel.edit?, Rendered.edit?, Panel.node, Rendered.panel?, hbox]
  · rw [replace_eq_edit hold incoming]
    exact replace_edit hold hbox panel

/-- Who has the focus makes no difference to what is replaced. -/
theorem root_replace_eq {t : Surface} (h : t.root = s.root) (id : String) (panel : Panel) :
    (t.replace id panel).root = (s.replace id panel).root := by
  cases s
  cases t
  cases h
  unfold replace edit
  dsimp only
  split
  · rfl
  · split <;> rfl

end Surface

end RemoteUi
