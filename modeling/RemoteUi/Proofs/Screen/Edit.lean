/-
# RemoteUi.Proofs.Screen.Edit — what an edit of one container leaves alone.

The surface is a tree of what is rendered, and everything that is done to it is an edit of one
container: the first in document order that satisfies a predicate.  What is said of the surface is
mostly said of its leaves, the widgets and groups that it shows, in document order.

A *view* picks out what is of interest in single nodes (`leaves`); a view of the leaves sees nothing
in a container itself (`OfLeaves`).  The lemma that carries the module splits the leaves at the
container that is found: the same stands before and after it, whatever is put into its place
(`Rendered.leaves_edit?`, `Surface.leaves_edit`).  What follows from it:

* what changes only how a container is drawn leaves all that is shown (`leaves_edit_box`);
* a container that is put into the place of a fragment is found there again, and a second edit
  changes it (`edit_again`, `fragment?_replace`);
* what is shown is in a fragment or outside of it (`mem_leaves_iff`), and not both if nothing is
  shown twice (`not_mem_cleared`).

The proofs about trees come in pairs, one for a tree and one for the trees in a container, as the
functions do.
-/
import RemoteUi.Screen.Surface

namespace RemoteUi

variable {α : Type}

theorem Box.isFragment_restoreScroll (offsets : Table Nat) (b : Box) (id : String) :
    (b.restoreScroll offsets).isFragment id = b.isFragment id := by
  unfold restoreScroll
  split <;> rfl

/-! ## Views of the leaves -/

namespace Rendered

/-- What a view of single nodes sees in a list of trees, in document order. -/
def leaves (g : Rendered → Option α) (rs : List Rendered) : List α :=
  (nodesOf rs).filterMap g

/-- The view sees nothing in a container itself. -/
def OfLeaves (g : Rendered → Option α) : Prop :=
  ∀ box children, g (.container box children) = none

/-- What the view sees in a container itself has nothing to do with what the container holds. -/
def OfNodes (g : Rendered → Option α) : Prop :=
  ∀ box children children', g (.container box children) = g (.container box children')

theorem OfLeaves.ofNodes {g : Rendered → Option α} (hg : OfLeaves g) : OfNodes g :=
  fun box children children' => (hg box children).trans (hg box children').symm

/-- How a container is drawn has nothing to do with what it holds. -/
theorem ofNodes_box? : OfNodes box? := fun _ _ _ => rfl

theorem ofLeaves_handle? : OfLeaves handle? := fun _ _ => rfl

theorem ofLeaves_groupKey? : OfLeaves groupKey? := fun _ _ => rfl

@[simp]
theorem nodesOf_append (rs ss : List Rendered) : nodesOf (rs ++ ss) = nodesOf rs ++ nodesOf ss := by
  induction rs with
  | nil => rfl
  | cons r rest ih => simp [nodesOf, ih]

@[simp]
theorem leaves_nil (g : Rendered → Option α) : leaves g [] = [] := rfl

theorem leaves_append (g : Rendered → Option α) (rs ss : List Rendered) :
    leaves g (rs ++ ss) = leaves g rs ++ leaves g ss := by
  simp [leaves]

theorem leaves_cons (g : Rendered → Option α) (r : Rendered) (rs : List Rendered) :
    leaves g (r :: rs) = leaves g [r] ++ leaves g rs :=
  leaves_append g [r] rs

/-- A container is seen first, and then what it holds. -/
theorem leaves_singleton_container (g : Rendered → Option α) (box : Box)
    (children : List Rendered) :
    leaves g [.container box children] =
      (g (.container box children)).toList ++ leaves g children := by
  cases hbox : g (.container box children) <;> simp [leaves, nodesOf, nodes, hbox]

theorem leaves_container {g : Rendered → Option α} (hg : OfLeaves g) (box : Box)
    (children : List Rendered) : leaves g [.container box children] = leaves g children := by
  simp [leaves, nodesOf, nodes, hg box children]

theorem leaves_node {g : Rendered → Option α} (hg : OfLeaves g) (p : Panel) :
    leaves g [p.node] = leaves g p.children :=
  leaves_container hg p.box p.children

/-- Only a container is a panel. -/
theorem eq_node_of_panel? {r : Rendered} {panel : Panel} (h : r.panel? = some panel) :
    r = panel.node := by
  cases r with
  | container box children =>
    obtain rfl := Option.some.inj h
    rfl
  | markup | widget | group => cases h

mutual
theorem leaves_restoreScroll {g : Rendered → Option α} (hg : OfLeaves g) (offsets : Table Nat) :
    ∀ r : Rendered, leaves g [r.restoreScroll offsets] = leaves g [r]
  | .container box children => by
    rw [restoreScroll, leaves_container hg, leaves_container hg]
    exact leaves_restoreScrollIn hg offsets children
  | .markup _ _ _ => rfl
  | .widget _ => rfl
  | .group _ _ => rfl

/-- Scrolling changes nothing that is shown. -/
theorem leaves_restoreScrollIn {g : Rendered → Option α} (hg : OfLeaves g) (offsets : Table Nat) :
    ∀ rs : List Rendered, leaves g (restoreScrollIn offsets rs) = leaves g rs
  | [] => rfl
  | r :: rest => by
    rw [restoreScrollIn, leaves_cons, leaves_cons g r, leaves_restoreScroll hg offsets r,
      leaves_restoreScrollIn hg offsets rest]
end

/-! ## Edits of trees -/

variable {p : Box → Bool}

mutual
theorem edit?_eq_none {f : Panel → Panel} : ∀ {r : Rendered}, r.find? p = none → r.edit? p f = none
  | .container box children, h => by
    -- the search and the edit look at the same containers in the same order
    simp only [find?] at h
    split at h
    · cases h
    · rename_i hp
      simp [edit?, hp, editIn?_eq_none h]
  | .markup _ _ _, _ => rfl
  | .widget _, _ => rfl
  | .group _ _, _ => rfl

theorem editIn?_eq_none {f : Panel → Panel} :
    ∀ {rs : List Rendered}, findIn? p rs = none → editIn? p f rs = none
  | [], _ => rfl
  | r :: rest, h => by
    simp only [findIn?] at h
    split at h
    · cases h
    · rename_i hr
      simp [editIn?, edit?_eq_none hr, editIn?_eq_none h]
end

mutual
/-- An edit leaves what stands before and after the container that it finds. -/
theorem leaves_edit? {g : Rendered → Option α} (hg : OfNodes g) :
    ∀ {r : Rendered} {old : Panel}, r.find? p = some old →
      ∃ pre post, leaves g [r] = pre ++ leaves g [old.node] ++ post ∧
        ∀ f, ∃ r', r.edit? p f = some r' ∧
          leaves g [r'] = pre ++ leaves g [(f old).node] ++ post
  | .container box children, old, h => by
    simp only [find?] at h
    split at h
    · -- it is this container, with nothing before or after it
      rename_i hp
      cases h
      refine ⟨[], [], by simp [Panel.node], fun f => ⟨(f ⟨box, children⟩).node, ?_, ?_⟩⟩
      · simp [edit?, hp]
      · simp
    · rename_i hp
      -- the container that is found is further in
      obtain ⟨pre, post, hpre, hedit⟩ := leaves_editIn? hg h
      refine ⟨(g (.container box children)).toList ++ pre, post, ?_, fun f => ?_⟩
      · rw [leaves_singleton_container, hpre]
        simp only [List.append_assoc]
      · obtain ⟨rs', hrs', hleaves⟩ := hedit f
        refine ⟨.container box rs', by simp [edit?, hp, hrs'], ?_⟩
        rw [leaves_singleton_container, hg box rs' children, hleaves]
        simp only [List.append_assoc]
  | .markup _ _ _, _, h => nomatch h
  | .widget _, _, h => nomatch h
  | .group _ _, _, h => nomatch h

theorem leaves_editIn? {g : Rendered → Option α} (hg : OfNodes g) :
    ∀ {rs : List Rendered} {old : Panel}, findIn? p rs = some old →
      ∃ pre post, leaves g rs = pre ++ leaves g [old.node] ++ post ∧
        ∀ f, ∃ rs', editIn? p f rs = some rs' ∧
          leaves g rs' = pre ++ leaves g [(f old).node] ++ post
  | [], _, h => nomatch h
  | r :: rest, old, h => by
    simp only [findIn?] at h
    split at h
    · rename_i panel hr
      cases h
      -- it is in the first tree, and the rest comes after
      obtain ⟨pre, post, hpre, hedit⟩ := leaves_edit? hg hr
      refine ⟨pre, post ++ leaves g rest, ?_, fun f => ?_⟩
      · rw [leaves_cons, hpre, List.append_assoc]
      · obtain ⟨r', hr', hleaves⟩ := hedit f
        refine ⟨r' :: rest, by simp [editIn?, hr'], ?_⟩
        rw [leaves_cons, hleaves, List.append_assoc]
    · rename_i hr
      -- it is in a later tree, and the first one comes before
      obtain ⟨pre, post, hpre, hedit⟩ := leaves_editIn? hg h
      refine ⟨leaves g [r] ++ pre, post, ?_, fun f => ?_⟩
      · rw [leaves_cons, hpre]
        simp only [List.append_assoc]
      · obtain ⟨rs', hrs', hleaves⟩ := hedit f
        refine ⟨r :: rs', by simp [editIn?, edit?_eq_none hr, hrs'], ?_⟩
        rw [leaves_cons, hleaves]
        simp only [List.append_assoc]
end

mutual
theorem find?_box : ∀ {r : Rendered} {old : Panel}, r.find? p = some old → p old.box = true
  | .container box children, old, h => by
    simp only [find?] at h
    split at h
    · rename_i hp
      cases h
      exact hp
    · exact findIn?_box h
  | .markup _ _ _, _, h => nomatch h
  | .widget _, _, h => nomatch h
  | .group _ _, _, h => nomatch h

theorem findIn?_box :
    ∀ {rs : List Rendered} {old : Panel}, findIn? p rs = some old → p old.box = true
  | [], _, h => nomatch h
  | r :: rest, old, h => by
    simp only [findIn?] at h
    split at h
    · rename_i panel hr
      cases h
      exact find?_box hr
    · exact findIn?_box h
end

/-- An edit makes a container of a container. -/
theorem edit?_node {f : Panel → Panel} {r r' : Rendered} (h : r.edit? p f = some r') :
    ∃ panel : Panel, r' = panel.node := by
  cases r with
  | container box children =>
    simp only [edit?] at h
    split at h
    · exact ⟨f ⟨box, children⟩, (Option.some.inj h).symm⟩
    · obtain ⟨rs', -, rfl⟩ := Option.map_eq_some_iff.mp h
      exact ⟨⟨box, rs'⟩, rfl⟩
  | markup | widget | group => cases h

mutual
/-- A container that still satisfies the predicate is found again, and a second edit changes it. -/
theorem edit?_again {f : Panel → Panel} :
    ∀ {r r' : Rendered} {old : Panel}, r.find? p = some old → p (f old).box = true →
      r.edit? p f = some r' →
      r'.find? p = some (f old) ∧ ∀ f', r'.edit? p f' = r.edit? p (f' ∘ f)
  | .container box children, r', old, h, hf, he => by
    simp only [find?] at h
    split at h
    · rename_i hp
      cases h
      simp only [edit?, hp, if_true] at he ⊢
      cases he
      simp [Panel.node, find?, edit?, hf]
    · rename_i hp
      simp only [edit?, hp] at he ⊢
      obtain ⟨rs', hrs', rfl⟩ := Option.map_eq_some_iff.mp he
      obtain ⟨hfind, hedit⟩ := editIn?_again h hf hrs'
      exact ⟨by simp [find?, hp, hfind], fun f' => by simp [edit?, hp, hedit f']⟩
  | .markup _ _ _, _, _, h, _, _ => nomatch h
  | .widget _, _, _, h, _, _ => nomatch h
  | .group _ _, _, _, h, _, _ => nomatch h

theorem editIn?_again {f : Panel → Panel} :
    ∀ {rs rs' : List Rendered} {old : Panel}, findIn? p rs = some old → p (f old).box = true →
      editIn? p f rs = some rs' →
      findIn? p rs' = some (f old) ∧ ∀ f', editIn? p f' rs' = editIn? p (f' ∘ f) rs
  | [], _, _, h, _, _ => nomatch h
  | r :: rest, rs', old, h, hf, he => by
    simp only [findIn?] at h
    split at h
    · rename_i panel hr
      cases h
      -- the container is in the first tree
      obtain ⟨_, _, -, hedit⟩ := leaves_edit? ofNodes_box? hr
      obtain ⟨r', hr', -⟩ := hedit f
      simp only [editIn?, hr'] at he
      cases he
      obtain ⟨hfind, hagain⟩ := edit?_again hr hf hr'
      refine ⟨by simp [findIn?, hfind], fun f' => ?_⟩
      obtain ⟨r'', hr'', -⟩ := hedit (f' ∘ f)
      simp [editIn?, hagain, hr'']
    · rename_i hr
      simp only [editIn?, edit?_eq_none hr] at he
      obtain ⟨rest', hrest', rfl⟩ := Option.map_eq_some_iff.mp he
      obtain ⟨hfind, hagain⟩ := editIn?_again h hf hrest'
      exact ⟨by simp [findIn?, hr, hfind],
        fun f' => by simp [editIn?, edit?_eq_none hr, hagain]⟩
end

end Rendered

/-! ## Edits of the surface -/

namespace Surface

variable {g : Rendered → Option α} {s : Surface} {id : String} {old : Panel}

/-- What a view of single nodes sees on the surface, in document order. -/
def leaves (g : Rendered → Option α) (s : Surface) : List α :=
  (s.root.map fun r => Rendered.leaves g r.children).getD []

/-- The surface without what a fragment holds. -/
def cleared (s : Surface) (id : String) : Surface :=
  s.edit (Box.isFragment id) fun p => { p with children := [] }

/-- The keys of the groups shown, in document order. -/
def groupKeys (s : Surface) : List String :=
  s.leaves Rendered.groupKey?

theorem leaves_handle? (s : Surface) : s.leaves Rendered.handle? = s.handles := rfl

theorem leaves_root_none (hroot : s.root = none) : s.leaves g = [] := by
  simp [leaves, hroot]

theorem edit_eq {p : Box → Bool} {f : Panel → Panel} {root root' : Panel}
    (hroot : s.root = some root) (h : root.node.edit? p f = some root'.node) :
    s.edit p f = { s with root := some root' } := by
  have hpanel : root.edit? p f = some root' := by
    rw [Panel.edit?, h]
    rfl
  simp [edit, hroot, hpanel]

/-- Where nothing is found, nothing is edited. -/
theorem edit_eq_self {p : Box → Bool} {f : Panel → Panel}
    (hnone : (s.root.bind fun r => r.find? p) = none) : s.edit p f = s := by
  cases hroot : s.root with
  | none => simp [edit, hroot]
  | some root =>
    rw [hroot] at hnone
    simp [edit, hroot, Panel.edit?, Rendered.edit?_eq_none hnone]

/-- An edit leaves what stands before and after the container that it changes. -/
theorem leaves_edit (hg : Rendered.OfLeaves g) {p : Box → Bool}
    (hold : (s.root.bind fun r => r.find? p) = some old) :
    ∃ pre post, s.leaves g = pre ++ Rendered.leaves g old.children ++ post ∧
      ∀ f, (s.edit p f).leaves g = pre ++ Rendered.leaves g (f old).children ++ post := by
  obtain ⟨root, hroot, hfind⟩ := Option.bind_eq_some_iff.mp hold
  obtain ⟨pre, post, hpre, hedit⟩ := Rendered.leaves_edit? hg.ofNodes hfind
  rw [Rendered.leaves_node hg, Rendered.leaves_node hg] at hpre
  refine ⟨pre, post, by simp [leaves, hroot, hpre], fun f => ?_⟩
  obtain ⟨r', hr', hleaves⟩ := hedit f
  obtain ⟨root', rfl⟩ := Rendered.edit?_node hr'
  rw [Rendered.leaves_node hg, Rendered.leaves_node hg] at hleaves
  rw [edit_eq hroot hr', ← hleaves]
  rfl

/-- What changes the presentation of a container only leaves all that is shown. -/
theorem leaves_edit_box (hg : Rendered.OfLeaves g) {p : Box → Bool} {f : Panel → Panel}
    (hf : ∀ panel, (f panel).children = panel.children) : (s.edit p f).leaves g = s.leaves g := by
  cases hold : s.root.bind fun r => r.find? p with
  | none => rw [edit_eq_self hold]
  | some old =>
    obtain ⟨pre, post, hpre, hedit⟩ := leaves_edit hg hold
    rw [hedit f, hf old, hpre]

/-- Fading changes how a container is drawn. -/
theorem leaves_fade (hg : Rendered.OfLeaves g) (id : String) (opacity : Float32) :
    (s.fade id opacity).leaves g = s.leaves g :=
  leaves_edit_box hg fun _ => rfl

/-- A container that still satisfies the predicate is found after an edit, and edited again by a
second one. -/
theorem edit_again {p : Box → Bool} {f : Panel → Panel}
    (hold : (s.root.bind fun r => r.find? p) = some old) (hf : p (f old).box = true) :
    ((s.edit p f).root.bind fun r => r.find? p) = some (f old) ∧
      ∀ f', (s.edit p f).edit p f' = s.edit p (f' ∘ f) := by
  obtain ⟨root, hroot, hfind⟩ := Option.bind_eq_some_iff.mp hold
  obtain ⟨_, _, -, hedit⟩ := Rendered.leaves_edit? Rendered.ofNodes_box? hfind
  obtain ⟨r', hr', -⟩ := hedit f
  obtain ⟨root', rfl⟩ := Rendered.edit?_node hr'
  obtain ⟨hagain, hcomp⟩ := Rendered.edit?_again hfind hf hr'
  rw [edit_eq hroot hr']
  -- each edit leaves a container as root, so that the surface has a root to compare
  refine ⟨hagain, fun f' => ?_⟩
  obtain ⟨r'', hr'', -⟩ := hedit (f' ∘ f)
  obtain ⟨root'', rfl⟩ := Rendered.edit?_node hr''
  rw [edit_eq hroot hr'']
  exact edit_eq rfl ((hcomp f').trans hr'')

theorem fragment?_box (hold : s.fragment? id = some old) : old.box.isFragment id = true := by
  obtain ⟨root, -, hfind⟩ := Option.bind_eq_some_iff.mp hold
  exact Rendered.find?_box hfind

theorem replace_eq_edit (hold : s.fragment? id = some old) (incoming : Panel) :
    s.replace id incoming = s.edit (Box.isFragment id) fun _ => incoming := by
  obtain ⟨root, hroot, -⟩ := Option.bind_eq_some_iff.mp hold
  simp [replace, hroot]

/-- A fragment that is hidden and then replaced is replaced. -/
theorem replace_setVisible (s : Surface) (id : String) (visible : Bool) (incoming : Panel) :
    (s.setVisible id visible).replace id incoming = s.replace id incoming := by
  cases hold : s.fragment? id with
  | none => rw [setVisible, edit_eq_self hold]
  | some old =>
    have hbox := fragment?_box hold
    obtain ⟨hagain, hcomp⟩ := edit_again hold
      (f := fun p => { p with box := { p.box with visible := visible } }) hbox
    rw [setVisible, replace_eq_edit hagain, hcomp, replace_eq_edit hold]
    rfl

/-- What is put into the place of a fragment is the fragment from then on. -/
theorem fragment?_replace {incoming : Panel} (hbox : incoming.box.isFragment id = true)
    (hshown : s.root = none ∨ ∃ old, s.fragment? id = some old) :
    (s.replace id incoming).fragment? id = some incoming := by
  rcases hshown with hroot | ⟨old, hold⟩
  · simp [replace, fragment?, hroot, Panel.find?, Panel.node, Rendered.find?, hbox]
  · rw [replace_eq_edit hold]
    exact (edit_again hold hbox).1

/-- The fragment is found again, at another opacity. -/
theorem fragment?_fade (s : Surface) (id : String) (opacity : Float32) :
    (s.fade id opacity).fragment? id =
      (s.fragment? id).map fun p => { p with box := { p.box with opacity := opacity } } := by
  cases hold : s.fragment? id with
  | none => rw [fade, edit_eq_self hold, hold, Option.map_none]
  | some old =>
    have hbox := fragment?_box hold
    exact (edit_again hold
      (f := fun p => { p with box := { p.box with opacity := opacity } }) hbox).1

/-- What is shown once a container is in the place of a fragment: what was shown before and after
the fragment, and what the container holds in between. -/
theorem leaves_replace (hg : Rendered.OfLeaves g) (hold : s.fragment? id = some old) :
    ∃ pre post, s.leaves g = pre ++ Rendered.leaves g old.children ++ post ∧
      (s.cleared id).leaves g = pre ++ post ∧
      ∀ incoming, (s.replace id incoming).leaves g =
        pre ++ Rendered.leaves g incoming.children ++ post := by
  obtain ⟨pre, post, hpre, hedit⟩ := leaves_edit hg hold
  refine ⟨pre, post, hpre, by simp [cleared, hedit], fun incoming => ?_⟩
  rw [replace_eq_edit hold, hedit]

/-- What a fragment holds takes up no place of anything else. -/
theorem leaves_cleared_sublist (hg : Rendered.OfLeaves g) (s : Surface) (id : String) :
    ((s.cleared id).leaves g).Sublist (s.leaves g) := by
  cases hold : s.fragment? id with
  | none =>
    have hsame : s.cleared id = s := edit_eq_self hold
    simp only [hsame, List.Sublist.refl]
  | some old =>
    obtain ⟨pre, post, hpre, hcleared, -⟩ := leaves_replace hg hold
    rw [hpre, hcleared, List.append_assoc]
    exact (List.sublist_append_right _ post).append_left pre

/-- What is shown is outside a fragment or in it. -/
theorem mem_leaves_iff (hg : Rendered.OfLeaves g) (s : Surface) (id : String) {a : α} :
    a ∈ s.leaves g ↔ a ∈ (s.cleared id).leaves g ∨
      ∃ old, s.fragment? id = some old ∧ a ∈ Rendered.leaves g old.children := by
  cases hold : s.fragment? id with
  | none =>
    rw [cleared, edit_eq_self hold]
    simp
  | some old =>
    obtain ⟨pre, post, hpre, hcleared, -⟩ := leaves_replace hg hold
    rw [hpre, hcleared]
    simp only [List.mem_append, Option.some_inj, exists_eq_left']
    grind

/-- Where nothing is shown twice, nothing in a fragment is also outside. -/
theorem not_mem_cleared (hg : Rendered.OfLeaves g) (hold : s.fragment? id = some old)
    (honce : (s.leaves g).Nodup) {a : α} (ha : a ∈ Rendered.leaves g old.children) :
    a ∉ (s.cleared id).leaves g := by
  obtain ⟨pre, post, hpre, hcleared, -⟩ := leaves_replace hg hold
  rw [hpre, List.nodup_append] at honce
  -- what is in the fragment stands between the two lists, and no two of the three share anything
  obtain ⟨hfront, -, hpost⟩ := honce
  obtain ⟨-, -, hpre⟩ := List.nodup_append.mp hfront
  rw [hcleared, List.mem_append]
  rintro (hmem | hmem)
  · exact hpre a hmem a ha rfl
  · exact hpost a (List.mem_append_right _ ha) a hmem rfl

/-- The first container shown is all that an empty surface shows. -/
theorem leaves_replace_root (hroot : s.root = none) (incoming : Panel) :
    (s.replace id incoming).leaves g = Rendered.leaves g incoming.children := by
  simp [replace, leaves, hroot]

theorem leaves_cleared_root (hroot : s.root = none) : (s.cleared id).leaves g = [] := by
  simp [cleared, edit, leaves, hroot]

end Surface

end RemoteUi
