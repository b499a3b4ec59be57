/-
# RemoteUi.Proofs.Screen.Changes — which groups wait to be reported.

A group waits to be reported from the moment the user checks other members of it until its change is
taken.  A new tree has its members made anew, and the group goes on waiting if it goes on: that is,
if it is there before and after and is of one kind (`follows_swap`).  What waits is listed by
ascending key, each group with the value that it has at last (`Groups.mem_changes`,
`Groups.tells_of_mem_changes`).

How groups come from each other is told by one relation, `Groups.Follows`.  It has a parameter for
whether the user was at it, since the same difference in the members counts as a change if the user
has made it and does not count if a tree has.

* An edit by the user is `Follows true` (`follows_toggle?`, `follows_select?`).  To toggle a member
  always changes it, whereas to choose one that was the only one checked changes nothing.
* A swap is `Follows false`.  What a group was before a build is looked up where it is attached, and
  then it goes on waiting or begins anew (`ChangesMade`).
* Taking the changes lets all groups rest (`not_pending_settled`).

A group without members is not kept, and cannot be told from one that is not there; so it is an
invariant that all groups have some (`Groups.Peopled`).
-/
import RemoteUi.Proofs.Screen.Swap

namespace RemoteUi

/-! ## Edits of a group -/

namespace Group

variable {g g' : Group} {value : String} {ms ms' : List Member}

/-- The user has checked members: the group waits if it did before, or if any member is checked
otherwise. -/
structure Edited (g g' : Group) : Prop where
  kind_eq : g'.kind = g.kind
  members_ne_nil : g'.members ≠ []
  pending_iff : g'.pending = true ↔ g.pending = true ∨ g'.members ≠ g.members

/-- A member that is toggled is checked otherwise than before. -/
theorem flip_ne (h : flip value ms = some ms') : ms' ≠ [] ∧ ms' ≠ ms := by
  induction ms generalizing ms' with
  | nil => cases h
  | cons m rest ih =>
    unfold flip at h
    split at h
    · cases h
      refine ⟨List.cons_ne_nil _ _, fun heq => ?_⟩
      have hchecked : (!m.checked) = m.checked := congrArg Member.checked (List.cons.inj heq).1
      cases hm : m.checked <;> simp [hm] at hchecked
    · obtain ⟨flipped, hflip, rfl⟩ := Option.map_eq_some_iff.mp h
      exact ⟨List.cons_ne_nil _ _, fun heq => (ih hflip).2 (List.cons.inj heq).2⟩

/-- Toggling a member is an edit, and it always changes the group. -/
theorem edited_toggle? (h : g.toggle? value = some g') : g.Edited g' := by
  obtain ⟨members, hflip, rfl⟩ := Option.map_eq_some_iff.mp h
  obtain ⟨hnil, hne⟩ := flip_ne hflip
  exact ⟨rfl, hnil, iff_of_true rfl (Or.inr hne)⟩

/-- Choosing a member is an edit, and the group waits if that makes a difference. -/
theorem edited_select? (h : g.select? value = some g') : g.Edited g' := by
  unfold select? at h
  split at h
  · rename_i hany
    cases h
    refine ⟨rfl, fun hnil => ?_, ?_⟩
    · rw [List.map_eq_nil_iff.mp hnil] at hany
      cases hany
    · show (g.pending || decide _) = true ↔ _
      rw [Bool.or_eq_true, decide_eq_true_iff]
  · cases h

/-! ### The value of a group -/

/-- What a value says of a group: of checkboxes, the values of all that are checked, in order; of
radio buttons, the value of the first that is checked, and `null` if none is. -/
inductive Tells (g : Group) : Json → Prop
  | boxes (hkind : g.kind = .checkbox) :
      Tells g (.arr ((g.members.filter fun m => m.checked).map fun m => .str m.value))
  | chosen {m : Member} (hkind : g.kind = .radio)
      (hm : g.members.find? (fun m => m.checked) = some m) : Tells g (.str m.value)
  | unchosen (hkind : g.kind = .radio) (hnone : ∀ m ∈ g.members, m.checked = false) :
      Tells g .null

/-- The value that is reported for a group tells what is checked. -/
theorem tells_value (g : Group) : g.Tells g.value := by
  unfold Group.value
  cases hkind : g.kind with
  | checkbox =>
    have hboxes : g.checkedValues.map Json.str =
        (g.members.filter fun m => m.checked).map fun m => .str m.value := List.map_map
    rw [hboxes]
    exact .boxes hkind
  | radio =>
    -- the first of the checked values is that of the first checked member
    have hfirst : g.checkedValues.head? =
        (g.members.find? fun m => m.checked).map Member.value := by
      rw [checkedValues, List.head?_map, List.head?_filter]
    cases hchecked : g.checkedValues with
    | nil =>
      rw [hchecked, List.head?_nil, eq_comm, Option.map_eq_none_iff, List.find?_eq_none] at hfirst
      exact .unchosen hkind fun m hm => Bool.eq_false_iff.mpr (hfirst m hm)
    | cons v rest =>
      rw [hchecked, List.head?_cons, eq_comm] at hfirst
      obtain ⟨m, hm, rfl⟩ := Option.map_eq_some_iff.mp hfirst
      exact .chosen hkind hm

end Group

/-! ## What waits -/

namespace Groups

variable {gs gs' : Groups} {key value : String} {byUser : Bool}

/-- The group with a key waits to be reported. -/
def Pending (gs : Groups) (key : String) : Prop :=
  ∃ g, gs.get? key = some g ∧ g.pending = true

/-- Every group has members. -/
def Peopled (gs : Groups) : Prop :=
  ∀ key g, gs.get? key = some g → g.members ≠ []

/-- The group with a key goes on: it is there before and after, and of one kind. -/
def Kept (gs gs' : Groups) (key : String) : Prop :=
  ∃ g g', gs.get? key = some g ∧ gs'.get? key = some g' ∧ g'.kind = g.kind

/-- Members of the group with a key are checked otherwise than before. -/
def Rechecked (gs gs' : Groups) (key : String) : Prop :=
  ∃ g g', gs.get? key = some g ∧ gs'.get? key = some g' ∧ g'.members ≠ g.members

/-- Groups have come from others, by the user's hand or not: those wait that waited and go on, and
those in which the user checked other members. -/
structure Follows (gs : Groups) (byUser : Bool) (gs' : Groups) : Prop where
  peopled : gs'.Peopled
  pending_iff : ∀ key, gs'.Pending key ↔
    gs.Pending key ∧ Kept gs gs' key ∨ byUser = true ∧ Rechecked gs gs' key

/-- What is listed is what waits, each group with its own ids and value. -/
theorem mem_changes {c : GroupChange} :
    c ∈ gs.changes ↔ ∃ g, gs.get? c.key = some g ∧ g.pending = true ∧ c = g.change c.key := by
  simp only [changes, List.mem_map, List.mem_filter, Prod.exists]
  constructor
  · rintro ⟨key, g, ⟨hmem, hpending⟩, rfl⟩
    exact ⟨g, Table.get?_eq_some_iff.mpr hmem, hpending, rfl⟩
  · rintro ⟨g, hg, hpending, hc⟩
    exact ⟨c.key, g, ⟨Table.get?_eq_some_iff.mp hg, hpending⟩, hc.symm⟩

/-- A change tells of its group as it is. -/
theorem tells_of_mem_changes {c : GroupChange} (hc : c ∈ gs.changes) :
    ∃ g, gs.get? c.key = some g ∧ c = ⟨c.key, g.widgetId, g.fragmentId, g.value⟩ ∧
      g.Tells c.value := by
  obtain ⟨g, hg, -, hchange⟩ := mem_changes.mp hc
  have hvalue : c.value = g.value := congrArg GroupChange.value hchange
  exact ⟨g, hg, hchange, hvalue ▸ g.tells_value⟩

theorem mem_keys_changes : key ∈ gs.changes.map GroupChange.key ↔ gs.Pending key := by
  rw [List.mem_map]
  constructor
  · rintro ⟨c, hc, rfl⟩
    obtain ⟨g, hg, hpending, -⟩ := mem_changes.mp hc
    exact ⟨g, hg, hpending⟩
  · rintro ⟨g, hg, hpending⟩
    exact ⟨g.change key, mem_changes.mpr ⟨g, hg, hpending, rfl⟩, rfl⟩

/-- The list is by ascending key, so no group is in it twice. -/
theorem changes_sorted (gs : Groups) : gs.changes.Pairwise fun c d => c.key < d.key :=
  List.pairwise_map.mpr (gs.sorted.filter _)

theorem not_pending_settled : ¬ gs.settled.Pending key := by
  rintro ⟨g, hg, hpending⟩
  rw [settled, Table.get?_mapVal] at hg
  obtain ⟨g', -, rfl⟩ := Option.map_eq_some_iff.mp hg
  cases hpending

theorem changes_eq_nil_iff : gs.changes = [] ↔ ∀ key, ¬ gs.Pending key := by
  rw [← List.map_eq_nil_iff (f := GroupChange.key), List.eq_nil_iff_forall_not_mem]
  exact forall_congr' fun key => not_congr mem_keys_changes

theorem changes_settled (gs : Groups) : gs.settled.changes = [] :=
  changes_eq_nil_iff.mpr fun _ => not_pending_settled

theorem Peopled.settled (h : gs.Peopled) : gs.settled.Peopled := by
  intro key g hg
  rw [Groups.settled, Table.get?_mapVal] at hg
  obtain ⟨g', hg', rfl⟩ := Option.map_eq_some_iff.mp hg
  exact h key g' hg'

/-- A group goes on if there is one of its kind. -/
theorem Peopled.any_continued? (h : gs.Peopled) (key : String) (kind : GroupKind) :
    (gs.continued? key kind).any Group.pending = true ↔
      ∃ g, gs.get? key = some g ∧ g.pending = true ∧ kind = g.kind := by
  unfold continued?
  cases hg : gs.get? key with
  | none => simp
  | some g =>
    have hmembers := h key g hg
    by_cases hkind : g.kind = kind
    · simp [Option.filter_some, hmembers, hkind]
    · simp [Option.filter_some, hkind, Ne.symm hkind]

/-! ## How groups follow each other -/

/-- It suffices to look at the groups that there are afterwards. -/
theorem Follows.of_get? (h : ∀ key g', gs'.get? key = some g' → g'.members ≠ [] ∧
      (g'.pending = true ↔ ∃ g, gs.get? key = some g ∧
        (g.pending = true ∧ g'.kind = g.kind ∨ byUser = true ∧ g'.members ≠ g.members))) :
    gs.Follows byUser gs' := by
  refine ⟨fun key g' hg' => (h key g' hg').1, fun key => ?_⟩
  constructor
  · rintro ⟨g', hg', hpending⟩
    obtain ⟨g, hg, ⟨hwaits, hkind⟩ | ⟨hby, hne⟩⟩ := (h key g' hg').2.mp hpending
    · exact Or.inl ⟨⟨g, hg, hwaits⟩, g, g', hg, hg', hkind⟩
    · exact Or.inr ⟨hby, g, g', hg, hg', hne⟩
  · rintro (⟨⟨g, hg, hwaits⟩, _, g', hg₂, hg', hkind⟩ | ⟨hby, g, g', hg, hg', hne⟩)
    · obtain rfl := Option.some.inj (hg.symm.trans hg₂)
      exact ⟨g', hg', (h key g' hg').2.mpr ⟨g, hg, Or.inl ⟨hwaits, hkind⟩⟩⟩
    · exact ⟨g', hg', (h key g' hg').2.mpr ⟨g, hg, Or.inr ⟨hby, hne⟩⟩⟩

/-- Groups that nothing is done to follow themselves, whoever is at it. -/
theorem Follows.refl (hgs : gs.Peopled) (byUser : Bool) : gs.Follows byUser gs := by
  refine .of_get? fun key g hg => ⟨hgs key g hg, ?_⟩
  simp [hg]

/-- An edit of one group leaves all others as they are. -/
theorem follows_edit? {f : Group → Option Group} (hf : ∀ {g g'}, f g = some g' → g.Edited g')
    (hgs : gs.Peopled) (h : gs.edit? key f = some gs') : gs.Follows true gs' := by
  obtain ⟨g', hg', rfl⟩ := Option.map_eq_some_iff.mp h
  obtain ⟨g, hg, hedit⟩ := Option.bind_eq_some_iff.mp hg'
  have hedited := hf hedit
  refine .of_get? fun k g'' hk => ?_
  rw [Table.get?_insert] at hk
  split at hk
  · rename_i heq
    subst heq
    obtain rfl := Option.some.inj hk
    refine ⟨hedited.members_ne_nil, hedited.pending_iff.trans ?_⟩
    simp [hg, hedited.kind_eq]
  · refine ⟨hgs k g'' hk, ?_⟩
    simp [hk]

theorem follows_toggle? (hgs : gs.Peopled) (h : gs.toggle? key value = some gs') :
    gs.Follows true gs' :=
  follows_edit? Group.edited_toggle? hgs h

theorem follows_select? (hgs : gs.Peopled) (h : gs.select? key value = some gs') :
    gs.Follows true gs' :=
  follows_edit? Group.edited_select? hgs h

end Groups

/-! ## Rendering and swaps -/

/-- What rendering nodes makes of the groups, and of what waits: a group that is attached waits if
it continues one that did. -/
structure ChangesMade (ns : List Node) (b : Build) (rs : List Rendered) (b' : Build) : Prop where
  made : GroupsMade ns b rs b'
  pending_eq : ∀ key g, key ∉ b.groupKeys → key ∈ Node.groupKeys ns →
    b'.groups.get? key = some g → g.pending = (b.groups.continued? key g.kind).any Group.pending

namespace ChangesMade

variable {ns ms : List Node} {rs ss : List Rendered} {b b' b'' : Build}

theorem of_no_group (hmade : GroupsMade ns b rs b')
    (hns : ∀ key ∈ Node.groupKeys ns, key ∈ b.groupKeys) : ChangesMade ns b rs b' :=
  ⟨hmade, fun key _ hkey hmem _ => absurd (hns key hmem) hkey⟩

/-- Two lists of nodes: a group that the first list has is attached there, and is left alone by the
second. -/
theorem append (hns : ChangesMade ns b rs b') (hms : ChangesMade ms b' ss b'') :
    ChangesMade (ns ++ ms) b (rs ++ ss) b'' where
  made := hns.made.append hms.made
  pending_eq := fun key g hkey hmem hg => by
    rw [Node.groupKeys_append, List.mem_append] at hmem
    by_cases hfirst : key ∈ Node.groupKeys ns
    · have hmet := (hns.made.met key).mpr (Or.inr hfirst)
      rw [hms.made.get?_eq key (Or.inl hmet)] at hg
      exact hns.pending_eq key g hkey hfirst hg
    · have hunmet : key ∉ b'.groupKeys := fun hmet =>
        ((hns.made.met key).mp hmet).elim hkey hfirst
      have hpending := hms.pending_eq key g hunmet (hmem.resolve_left hfirst) hg
      rwa [Groups.continued?, hns.made.get?_eq key (Or.inr hfirst)] at hpending

end ChangesMade

theorem renderClosed_changesMade : RenderClosed fun _ => ChangesMade where
  nil := fun fragmentId b => .of_no_group (renderClosed_groupsMade.nil fragmentId b) nofun
  append := fun hns hms => hns.append hms
  container := fun head hns =>
    ⟨renderClosed_groupsMade.container head hns.made, by
      rw [Node.groupKeys_container]
      exact hns.pending_eq⟩
  markup := fun fragmentId head tag content b =>
    .of_no_group (renderClosed_groupsMade.markup fragmentId head tag content b) nofun
  widget := fun fragmentId head spec b =>
    .of_no_group (renderClosed_groupsMade.widget fragmentId head spec b) nofun
  group := fun fragmentId head spec b => by
    have hmade := renderClosed_groupsMade.group fragmentId head spec b
    generalize hr : b.group fragmentId head spec = r at hmade ⊢
    cases hr ▸ b.group_meets fragmentId head spec with
    | nameless d hid =>
      refine .of_no_group hmade fun key hkey => ?_
      rw [Node.mem_groupKeys_group, hid] at hkey
      cases hkey
    | repeated d hid hkey =>
      refine .of_no_group hmade fun key' hkey' => ?_
      rw [Node.mem_groupKeys_group, hid] at hkey'
      exact Option.some.inj hkey' ▸ hkey
    | attached a ha hid hkey =>
      refine ⟨hmade, fun key' g hkey' hmem hg => ?_⟩
      obtain rfl := Option.some.inj (hid.symm.trans (Node.mem_groupKeys_group.mp hmem))
      rw [Build.groups_count, Groups.attach, Table.get?_insert, if_pos rfl] at hg
      obtain rfl := Option.some.inj hg
      rfl

namespace Screen

variable {s s' : Screen} {f : Fragment} {now : Nat} {report : SwapReport}

/-- A frame has nothing to do with groups. -/
theorem groups_tick (s : Screen) (now : Nat) : (s.tick now).1.groups = s.groups := by
  unfold tick
  split <;> rfl

/-- A swap marks no group as changed: those wait that waited before and go on. -/
theorem follows_swap (hs : s.groups.Peopled) (h : s.swap f now = .ok (s', report)) :
    s.groups.Follows false s'.groups := by
  have hmade : ChangesMade [f.root] (Build.start s.pool s.groups) (f.rendered s.pool s.groups)
      (s.built f).build := by
    rw [built, f.build_build]
    exact renderClosed_changesMade.render f.id f.root (Build.start s.pool s.groups)
  refine .of_get? fun key g' hg' => ?_
  rw [groups_swap h] at hg'
  -- a group of the new tree was attached in the build
  by_cases hkey : key ∈ f.groupKeys
  · rw [get?_nextGroups fun _ _ _ => hkey, Option.filter_eq_some_iff] at hg'
    obtain ⟨hbuilt, hmembers⟩ := hg'
    have hpending : g'.pending = (s.groups.continued? key g'.kind).any Group.pending :=
      hmade.pending_eq key g' List.not_mem_nil hkey hbuilt
    refine ⟨by simpa using hmembers, ?_⟩
    rw [hpending, hs.any_continued?]
    simp
  · -- a group that the tree does not have was shown elsewhere, and is as it was
    have hout : ∀ old, s.surface.fragment? f.id = some old → key ∉ old.groupKeys := by
      intro old hold hmem
      rw [get?_nextGroups_gone hold hmem hkey] at hg'
      cases hg'
    rw [get?_nextGroups fun old hold hmem => absurd hmem (hout old hold), built,
      (f.build_groupsMade s.pool s.groups).get?_eq key (Or.inr hkey),
      Option.filter_eq_some_iff] at hg'
    obtain ⟨hg, hmembers⟩ := hg'
    have hg : s.groups.get? key = some g' := hg
    refine ⟨by simpa using hmembers, ?_⟩
    simp [hg]

end Screen

end RemoteUi
