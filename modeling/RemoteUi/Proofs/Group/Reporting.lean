/-
# RemoteUi.Proofs.Group.Reporting — exactly what the user changes is reported.

Groups are attached, toggled, selected, detached and pruned in any order, and now and then their
changes are taken.  A group waits to be reported from a change of its members by the user until the
changes are taken, or until it ends: it is detached, is pruned, or another group takes its place.
Here it is shown that exactly these groups are reported.

* An `Operation` is anything that can be done to groups, by the user, by a tree or by a frame.
  `Alters` says that an operation of the user changed the members of a group, told by the members
  before and after, and `Ends` that an operation ended the group.
* What one operation does to whether a group waits is told once (`pending_step`): the user changed
  it, or it waited before and the operation neither takes changes nor ends it.  There is a lemma for
  each kind of operation; toggles and selections are one case, as both edit a single group.
* For a sequence the same is said by looking back (`Unreported`): there is a last change by the
  user, no changes were taken after it, and the group has not ended since.  That this goes by the
  same recursion is `unreported_concat`, and `pending_after_iff` follows by induction from the end.

The server's value is never reported.  An attachment is written once more in its steps
(`attachInSteps`), in which the value is applied to a group that is silent meanwhile (`Draft.sync`),
and comes to the same (`attachInSteps_eq`).  So a group that is shown again goes on waiting, if it
did, and does not begin to.

Each reported change tells of its group as it is by then: its ids, and the values that are checked
(`Group.Tells`).
-/
import Mathlib.Data.List.Induction
import RemoteUi.Proofs.Screen.Changes

namespace RemoteUi

/-! ## The server's value -/

/-- A group, and whether changes of its members are kept quiet. -/
structure Group.Draft where
  group : Group
  silent : Bool

namespace Group.Draft

/-- The group is to be reported, unless it is silent. -/
def markChanged (d : Draft) : Draft :=
  if d.silent then d else { d with group := { d.group with pending := true } }

/-- Checks the members that the server's value says, and marks the group if that changes any. -/
def applyValue (d : Draft) (value : Json) : Draft :=
  let members := d.group.members.map fun m =>
    { m with checked := checksFor d.group.kind d.group.multiple value m.value }
  let changed : Draft := { d with group := { d.group with members := members } }
  if members ≠ d.group.members then changed.markChanged else changed

/-- Applies the server's value while the group is silent. -/
def sync (d : Draft) (value : Json) : Draft :=
  { ({ d with silent := true } : Draft).applyValue value with silent := false }

/-- What the server says is not reported, and what comes after it is. -/
theorem sync_eq (d : Draft) (value : Json) : d.sync value =
    ⟨{ d.group with members := d.group.members.map fun m =>
      { m with checked := checksFor d.group.kind d.group.multiple value m.value } }, false⟩ := by
  unfold sync applyValue markChanged
  dsimp only
  split <;> rfl

end Group.Draft

namespace Groups

/-- The members for the options of an attachment, before the server's value is applied: a value that
was checked in the group before still is. -/
def Attachment.survivors (a : Attachment) (previous : Option Group) : List Member :=
  a.options.map fun o => ⟨o, previous.any fun g => g.members.any fun m => m.checked && m.value == o⟩

/-- An attachment in its steps: the group is made with the members that survive, and then the
server's value is applied to it. -/
def attachInSteps (gs : Groups) (key : String) (a : Attachment) : Groups × Bool :=
  let previous := gs.continued? key a.kind
  let made : Group := ⟨a.widgetId.getD "", a.kind, a.fragmentId, a.multiple, a.survivors previous,
    previous.any Group.pending⟩
  (gs.insert key ((Group.Draft.mk made false).sync a.value).group, previous.isSome)

/-- An attachment goes by these steps. -/
theorem attachInSteps_eq (gs : Groups) (key : String) (a : Attachment) :
    gs.attachInSteps key a = gs.attach key a := by
  unfold attachInSteps attach
  dsimp only
  rw [Group.Draft.sync_eq]
  simp only [Attachment.survivors, Attachment.group, Group.membersFor, List.map_map]
  rfl

/-! ## Operations -/

/-- What can be done to the groups. -/
inductive Operation where
  | attach (key : String) (a : Attachment)
  | toggle (key value : String)
  | select (key value : String)
  /-- Changes are taken. -/
  | take
  | detach (keys keep : List String)
  | prune

/-- The operation is by the user's hand. -/
def Operation.isEdit : Operation → Bool
  | .toggle _ _ | .select _ _ => true
  | _ => false

/-- The operation is what comes of a tree. -/
def Operation.isRendering : Operation → Bool
  | .attach _ _ | .detach _ _ | .prune => true
  | _ => false

/-- The groups after an operation.  An edit that is refused does nothing. -/
def step (gs : Groups) : Operation → Groups
  | .attach key a => (gs.attachInSteps key a).1
  | .toggle key value => (gs.toggle? key value).getD gs
  | .select key value => (gs.select? key value).getD gs
  | .take => gs.settled
  | .detach keys keep => gs.detach keys keep
  | .prune => gs.pruned

/-- The groups after operations one after the other. -/
def after (gs : Groups) (ops : List Operation) : Groups :=
  ops.foldl step gs

variable {gs gs' : Groups} {key key' : String} {op : Operation} {ops : List Operation}

/-- One operation more. -/
theorem after_concat (gs : Groups) (ops : List Operation) (op : Operation) :
    gs.after (ops ++ [op]) = (gs.after ops).step op := by
  rw [after, List.foldl_append]
  rfl

/-- The user has changed members of the group with a key. -/
def Alters (key : String) (gs : Groups) (op : Operation) : Prop :=
  op.isEdit = true ∧ Rechecked gs (gs.step op) key

/-- The operation ends the group with a key, with all that was to be reported of it. -/
inductive Ends (key : String) (gs : Groups) : Operation → Prop
  /-- It is attached as another kind, or while it has no members. -/
  | attach {a : Attachment} {g : Group} (hg : gs.get? key = some g)
      (h : g.kind ≠ a.kind ∨ g.members = []) : Ends key gs (.attach key a)
  | detach {keys keep : List String} (hkey : key ∈ keys) (hkeep : key ∉ keep) :
      Ends key gs (.detach keys keep)
  /-- It has no members, and is pruned. -/
  | prune {g : Group} (hg : gs.get? key = some g) (hmembers : g.members = []) : Ends key gs .prune

/-! ## One operation -/

/-- A group that is there waits if it is marked. -/
theorem pending_iff {g : Group} (hg : gs.get? key = some g) :
    gs.Pending key ↔ g.pending = true := by
  simp [Pending, hg]

/-- Whether a group waits is a matter of that group alone. -/
theorem pending_congr (h : gs'.get? key = gs.get? key) : gs'.Pending key ↔ gs.Pending key := by
  rw [Pending, h, Pending]

/-- A group that is there was changed if its members were. -/
theorem rechecked_iff {g g' : Group} (hg : gs.get? key = some g) (hg' : gs'.get? key = some g') :
    Rechecked gs gs' key ↔ g'.members ≠ g.members := by
  simp [Rechecked, hg, hg']

/-- A group that is as it was has not been changed. -/
theorem not_rechecked (h : gs'.get? key = gs.get? key) : ¬ Rechecked gs gs' key := by
  rintro ⟨g, g', hg, hg', hne⟩
  rw [h, hg] at hg'
  exact hne (congrArg Group.members (Option.some.inj hg').symm)

/-- An edit changes one group, and marks it if that changes any of its members. -/
theorem pending_edit {f : Group → Option Group} (hf : ∀ {g g'}, f g = some g' → g.Edited g') :
    ((gs.edit? key' f).getD gs).Pending key ↔
      Rechecked gs ((gs.edit? key' f).getD gs) key ∨ gs.Pending key := by
  cases hedit : gs.edit? key' f with
  | none => exact (or_iff_right (not_rechecked rfl)).symm
  | some gs' =>
    obtain ⟨g', hg', rfl⟩ := Option.map_eq_some_iff.mp hedit
    obtain ⟨g, hg, hf'⟩ := Option.bind_eq_some_iff.mp hg'
    rw [Option.getD_some]
    by_cases hkey : key = key'
    · subst hkey
      have hinsert : (gs.insert key g').get? key = some g' := by rw [Table.get?_insert, if_pos rfl]
      rw [pending_iff hinsert, rechecked_iff hg hinsert, pending_iff hg, (hf hf').pending_iff]
      exact or_comm
    · have hinsert : (gs.insert key' g').get? key = gs.get? key := by
        rw [Table.get?_insert, if_neg hkey]
      rw [pending_congr hinsert]
      exact (or_iff_right (not_rechecked hinsert)).symm

/-- A group that is attached goes on waiting, unless this ends it. -/
theorem pending_attach {a : Attachment} : (gs.attach key' a).1.Pending key ↔
    gs.Pending key ∧ ¬ Ends key gs (.attach key' a) := by
  by_cases hkey : key = key'
  · subst hkey
    have hattach : (gs.attach key a).1.get? key =
        some (a.group (gs.continued? key a.kind)) := by
      rw [attach, Table.get?_insert, if_pos rfl]
    rw [pending_iff hattach]
    show (gs.continued? key a.kind).any Group.pending = true ↔ _
    cases hg : gs.get? key with
    | none => simp [continued?, Pending, hg]
    | some g =>
      have hends : Ends key gs (.attach key a) ↔ g.kind ≠ a.kind ∨ g.members = [] := by
        constructor
        · rintro (⟨hg', h⟩)
          exact Option.some.inj (hg.symm.trans hg') ▸ h
        · exact .attach hg
      rw [pending_iff hg, hends, continued?, hg, Option.filter_some]
      grind
  · have hattach : (gs.attach key' a).1.get? key = gs.get? key := by
      rw [attach, Table.get?_insert, if_neg hkey]
    rw [pending_congr hattach]
    exact (and_iff_left fun h => by cases h; exact hkey rfl).symm

/-- A group that leaves with its tree waits no more. -/
theorem pending_detach {keys keep : List String} : (gs.detach keys keep).Pending key ↔
    gs.Pending key ∧ ¬ Ends key gs (.detach keys keep) := by
  have hends : Ends key gs (.detach keys keep) ↔ key ∈ keys ∧ key ∉ keep :=
    ⟨fun h => by cases h with | detach hkey hkeep => exact ⟨hkey, hkeep⟩, fun h => .detach h.1 h.2⟩
  rw [hends]
  unfold Pending detach
  rw [Table.get?_mapVal]
  cases gs.get? key with
  | none => simp
  | some g => by_cases hgone : key ∈ keys ∧ key ∉ keep <;> simp [hgone, Group.detached]

/-- A group that has no members waits no more once it is pruned. -/
theorem pending_pruned : gs.pruned.Pending key ↔ gs.Pending key ∧ ¬ Ends key gs .prune := by
  unfold pruned
  cases hg : gs.get? key with
  | none => simp [Pending, Table.get?_filter, hg]
  | some g =>
    have hends : Ends key gs .prune ↔ g.members = [] := by
      constructor
      · intro h
        cases h with
        | prune hg' hnil => exact Option.some.inj (hg.symm.trans hg') ▸ hnil
      · exact .prune hg
    rw [hends, pending_iff hg, Pending, Table.get?_filter, hg, Option.filter_some]
    grind

/-- A group waits after an operation if the user changed it by that, or if it waited before and the
operation neither takes changes nor ends it. -/
theorem pending_step : (gs.step op).Pending key ↔
    Alters key gs op ∨ gs.Pending key ∧ op ≠ .take ∧ ¬ Ends key gs op := by
  have hedit : ∀ {f : Group → Option Group}, (∀ {g g'}, f g = some g' → g.Edited g') →
      ∀ key', op.isEdit = true → gs.step op = (gs.edit? key' f).getD gs →
      ((gs.step op).Pending key ↔
        Alters key gs op ∨ gs.Pending key ∧ op ≠ .take ∧ ¬ Ends key gs op) := by
    intro f hf key' hop hstep
    have hends : op ≠ .take ∧ ¬ Ends key gs op := by
      cases op with
      | toggle | select => exact ⟨nofun, nofun⟩
      | attach | take | detach | prune => cases hop
    rw [Alters, hstep, pending_edit hf, and_iff_left hends, and_iff_right hop]
  -- toggles and selections are edits of one group; of the others, none is by the user
  cases op with
  | toggle key' value => exact hedit Group.edited_toggle? key' rfl rfl
  | select key' value => exact hedit Group.edited_select? key' rfl rfl
  | attach key' a =>
    rw [step, attachInSteps_eq, pending_attach]
    simp [Alters, Operation.isEdit]
  | take => simp [step, not_pending_settled, Alters, Operation.isEdit]
  | detach keys keep =>
    rw [step, pending_detach]
    simp [Alters, Operation.isEdit]
  | prune =>
    rw [step, pending_pruned]
    simp [Alters, Operation.isEdit]

/-! ## Sequences of operations -/

/-- None of the operations does what `p` says, each on the groups that it meets. -/
def Never (p : Groups → Operation → Prop) (gs : Groups) : List Operation → Prop
  | [] => True
  | op :: rest => ¬ p gs op ∧ (gs.step op).Never p rest

/-- What never happens in a sequence does not happen at its end. -/
theorem never_concat {p : Groups → Operation → Prop} :
    gs.Never p (ops ++ [op]) ↔ gs.Never p ops ∧ ¬ p (gs.after ops) op := by
  induction ops generalizing gs with
  | nil => simp [Never, after]
  | cons first rest ih =>
    rw [List.cons_append, Never, Never, ih, and_assoc]
    rfl

/-- Among the operations the user's last change of a group, with no changes taken since. -/
structure LastChange (key : String) (gs : Groups) (ops earlier : List Operation) (op : Operation)
    (later : List Operation) : Prop where
  ops_eq : ops = earlier ++ op :: later
  alters : Alters key (gs.after earlier) op
  last : (gs.after (earlier ++ [op])).Never (Alters key) later
  untaken : .take ∉ later

/-- The user has changed a group since changes were taken, and it has not ended since. -/
def Unreported (key : String) (gs : Groups) (ops : List Operation) : Prop :=
  ∃ earlier op later, LastChange key gs ops earlier op later ∧
    (gs.after (earlier ++ [op])).Never (Ends key) later

/-- A sequence that is interrupted goes on where it was. -/
theorem after_after (gs : Groups) (earlier : List Operation) (op : Operation)
    (later : List Operation) :
    (gs.after (earlier ++ [op])).after later = gs.after (earlier ++ op :: later) := by
  rw [after_concat, after, after, after, List.foldl_append]
  rfl

/-- Looking back one operation more. -/
theorem unreported_concat : Unreported key gs (ops ++ [op]) ↔
    Alters key (gs.after ops) op ∨
      Unreported key gs ops ∧ op ≠ .take ∧ ¬ Ends key (gs.after ops) op := by
  constructor
  · rintro ⟨earlier, first, later, ⟨hops, halters, hlast, huntaken⟩, hends⟩
    -- either the change was the last operation, or something came after it
    rcases List.eq_nil_or_concat later with rfl | ⟨later, last, rfl⟩
    · obtain ⟨rfl, hop⟩ := List.append_inj' hops rfl
      obtain rfl := (List.cons.inj hop).1
      exact Or.inl halters
    · have hsplit : ops ++ [op] = (earlier ++ first :: later) ++ [last] := by simp [hops]
      obtain ⟨rfl, hop⟩ := List.append_inj' hsplit rfl
      obtain rfl := (List.cons.inj hop).1
      rw [List.concat_eq_append] at hlast hends huntaken
      rw [never_concat, after_after] at hlast hends
      rw [List.mem_append, not_or] at huntaken
      exact Or.inr ⟨⟨earlier, first, later, ⟨rfl, halters, hlast.1, huntaken.1⟩, hends.1⟩,
        fun h => huntaken.2 (h ▸ List.mem_singleton_self _), hends.2⟩
  · rintro (halters | ⟨⟨earlier, first, later, ⟨rfl, halters, hlast, huntaken⟩, hends⟩, hop, hgoes⟩)
    · exact ⟨ops, op, [], ⟨rfl, halters, trivial, List.not_mem_nil⟩, trivial⟩
    · by_cases hagain : Alters key (gs.after (earlier ++ first :: later)) op
      -- a change that comes later is the last one
      · exact ⟨_, op, [], ⟨rfl, hagain, trivial, List.not_mem_nil⟩, trivial⟩
      · refine ⟨earlier, first, later ++ [op], ⟨by simp, halters, ?_, ?_⟩, ?_⟩
        · rw [never_concat, after_after]
          exact ⟨hlast, hagain⟩
        · rw [List.mem_append, not_or, List.mem_singleton]
          exact ⟨huntaken, Ne.symm hop⟩
        · rw [never_concat, after_after]
          exact ⟨hends, hgoes⟩

/-- From no groups at all, a group waits if the user has changed it and it was not reported since.
-/
theorem pending_after_iff :
    (after Table.empty ops).Pending key ↔ Unreported key Table.empty ops := by
  induction ops using List.reverseRecOn with
  | nil =>
    constructor
    · rintro ⟨g, hg, -⟩
      cases hg
    · rintro ⟨earlier, op, later, ⟨hops, -, -, -⟩, -⟩
      exact absurd hops (by simp)
  | append_singleton ops op ih => rw [after_concat, pending_step, unreported_concat, ih]

/-- What comes of trees has no group wait that did not wait before. -/
theorem pending_of_rendering (hops : ∀ op ∈ ops, op.isRendering = true)
    (h : (gs.after ops).Pending key) : gs.Pending key := by
  induction ops using List.reverseRecOn with
  | nil => exact h
  | append_singleton ops op ih =>
    obtain ⟨hops, hop⟩ := List.forall_mem_append.mp hops
    rw [after_concat, pending_step] at h
    rcases h with ⟨hedit, -⟩ | ⟨hbefore, -⟩
    · have hop := hop op (List.mem_singleton_self op)
      cases op with
      | toggle | select | take => cases hop
      | attach | detach | prune => cases hedit
    · exact ih hops hbefore

/-- Changes report exactly what the user did. -/
structure Reports (ops : List Operation) (changes : List GroupChange) : Prop where
  /-- They come by ascending key, and each group once. -/
  ordered : changes.Pairwise fun c d => c.key < d.key
  mem_iff : ∀ key, key ∈ changes.map GroupChange.key ↔ Unreported key Table.empty ops
  /-- Each tells of a group as it is by then: its ids, and a value that says what is checked. -/
  current : ∀ c ∈ changes, ∃ g, (after Table.empty ops).get? c.key = some g ∧
    c = ⟨c.key, g.widgetId, g.fragmentId, g.value⟩ ∧ g.Tells c.value

/-- Whatever is done to the groups, the changes that are taken are those that the user made.  What
comes of trees adds none to those that wait. -/
theorem changes_report (ops : List Operation) :
    Reports ops (after Table.empty ops).changes ∧
      ∀ rendering : List Operation, (∀ op ∈ rendering, op.isRendering = true) →
        ∀ key ∈ ((after Table.empty ops).after rendering).changes.map GroupChange.key,
          key ∈ (after Table.empty ops).changes.map GroupChange.key := by
  refine ⟨⟨changes_sorted _, fun key => ?_, fun c hc => tells_of_mem_changes hc⟩,
    fun rendering hall key hkey => ?_⟩
  · rw [mem_keys_changes, pending_after_iff]
  · rw [mem_keys_changes] at hkey ⊢
    exact pending_of_rendering hall hkey

/-- A group that is shown again is still to be reported, and one of another kind is not. -/
example :
    let boxes := fun kind => Operation.attach "c" ⟨some "c", kind, "main", ["x", "y"], .null, true⟩
    ((after Table.empty [boxes .checkbox, .toggle "c" "x", boxes .checkbox]).changes.map
        GroupChange.key = ["c"]) ∧
      (after Table.empty [boxes .checkbox, .toggle "c" "x", boxes .radio]).changes.map
        GroupChange.key = [] := by
  decide +kernel

end Groups

end RemoteUi
