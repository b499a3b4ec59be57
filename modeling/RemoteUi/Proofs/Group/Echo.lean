/-
# RemoteUi.Proofs.Group.Echo — a group stays as it is when its own value comes back.

What a group reports and what it takes from the server are written in ways that differ by the kind
of group: a list of texts, one text, or null.  Read back, the report checks what was checked
(`membersFor_echo`), so that a server which answers a change with the value that it was told moves
nothing, in whatever order it lists the values, and leaves no change to report (`echo_stable`).

Three things are needed for it.

* No two members share a value.  Otherwise the value of a checked member would check an unchecked
  one as well.
* A group of checkboxes takes several values; one that takes a single value would read a list as
  nothing.
* Radio buttons are selected, never toggled.  A toggle may leave two of them checked, of which only
  one is reported.  This is a condition on the whole history of the group (`Mistoggles`), and the
  invariant that it preserves is that the group is exclusive (`ExclusiveAt`): one lemma for a step
  (`ExclusiveAt.step`) and one for a run (`exclusiveAt_after`).

What "moves nothing" means is `Unmoved`: the members are as they were, other groups are left alone,
and no group is to be reported that was not to be reported before.
-/
import Mathlib.Data.List.Nodup
import RemoteUi.Proofs.Group.Exclusive
import RemoteUi.Proofs.Group.Reporting

namespace RemoteUi

/-- A value comes back as it was reported, or, if it is a list, in some order. -/
inductive Json.Echoes (reported : Json) : Json → Prop
  | same : Echoes reported reported
  | reordered {items others : List Json} (h : reported = .arr items) (hperm : others.Perm items) :
      Echoes reported (.arr others)

namespace Group

variable {g : Group} {m : Member} {value : Json} {key : String}

/-! ## Values read back -/

/-- Where no two members share a value, those of the checked values are checked. -/
theorem value_mem_checkedValues_iff (hdistinct : (g.members.map Member.value).Nodup)
    (hm : m ∈ g.members) : m.value ∈ g.checkedValues ↔ m.checked = true := by
  rw [mem_checkedValues]
  constructor
  · intro hchecked
    rw [← List.inj_on_of_nodup_map hdistinct hchecked hm rfl]
  · intro hchecked
    rwa [← hchecked]

/-- A list of checked values checks the same, in whatever order it is. -/
theorem checksFor_reordered {items : List Json}
    (hperm : items.Perm (g.checkedValues.map Json.str)) (v : String) :
    checksFor .checkbox true (.arr items) v = true ↔ v ∈ g.checkedValues := by
  have htexts : (items.filterMap Json.text?).Perm g.checkedValues := by
    have htexts := hperm.filterMap Json.text?
    rwa [List.filterMap_map, show Json.text? ∘ Json.str = some from rfl, List.filterMap_some]
      at htexts
  rw [← htexts.mem_iff]
  exact List.contains_iff_mem

/-- Of radio buttons the one value that is checked is reported, or null. -/
theorem checksFor_selected (hg : g.Exclusive) (multiple : Bool) (v : String) :
    checksFor .radio multiple g.value v = true ↔ v ∈ g.checkedValues := by
  rw [← hg.value_iff]
  show (g.value.text? == some v) = true ↔ _
  cases hvalue : g.value with
  | str w => simp [Json.text?]
  | _ => simp [Json.text?]

/-- What checks a group's own value checks the members that are checked. -/
theorem checksFor_echo (hmultiple : g.kind = .checkbox → g.multiple = true)
    (hradio : g.kind = .radio → g.Exclusive) (h : g.value.Echoes value) (v : String) :
    checksFor g.kind g.multiple value v = true ↔ v ∈ g.checkedValues := by
  cases hkind : g.kind with
  | checkbox =>
    have hvalue : g.value = .arr (g.checkedValues.map .str) := by rw [Group.value, hkind]
    rw [hmultiple hkind]
    cases h with
    | same =>
      rw [hvalue]
      exact checksFor_reordered (.refl _) v
    | reordered hlist hperm =>
      obtain rfl := Json.arr.inj (hvalue.symm.trans hlist)
      exact checksFor_reordered hperm v
  | radio =>
    cases h with
    | same => exact checksFor_selected (hradio hkind) g.multiple v
    | reordered hlist hperm =>
      -- the value of radio buttons is no list
      rw [Group.value, hkind] at hlist
      dsimp only at hlist
      split at hlist <;> cases hlist

/-- The members that are made anew from a group's own value are those that it has. -/
theorem membersFor_echo (hdistinct : (g.members.map Member.value).Nodup)
    (hmultiple : g.kind = .checkbox → g.multiple = true)
    (hradio : g.kind = .radio → g.Exclusive) (h : g.value.Echoes value) :
    membersFor g.kind g.multiple (g.members.map Member.value) value = g.members := by
  rw [membersFor, List.map_map]
  refine (List.map_congr_left fun m hm => ?_).trans (List.map_id _)
  have hsame : checksFor g.kind g.multiple value m.value = m.checked := by
    rw [Bool.eq_iff_iff, checksFor_echo hmultiple hradio h, value_mem_checkedValues_iff hdistinct hm]
  exact congrArg (Member.mk m.value) hsame

end Group

namespace Groups

variable {gs : Groups} {key : String} {op : Operation} {ops : List Operation} {g : Group}
  {a : Attachment}

/-! ## Groups that are selected -/

/-- The group with a key does not consist of radio buttons of which two values are checked. -/
def ExclusiveAt (key : String) (gs : Groups) : Prop :=
  ∀ g, gs.get? key = some g → g.kind = .radio → g.Exclusive

/-- The operation toggles the group with a key as if it had checkboxes. -/
inductive Mistoggles (key : String) (gs : Groups) : Operation → Prop
  | toggle {g : Group} (hg : gs.get? key = some g) (hkind : g.kind = .radio) (value : String) :
      Mistoggles key gs (.toggle key value)

/-- A group that does not consist of radio buttons may be toggled. -/
theorem not_mistoggles (h : (gs.get? key).map Group.kind ≠ some .radio) :
    ¬ Mistoggles key gs op := by
  rintro ⟨hg, hkind, _⟩
  exact h (by rw [hg, Option.map_some, hkind])

/-- An operation on a single group need only be looked at for that group. -/
theorem ExclusiveAt.edit {f : Group → Option Group} (h : gs.ExclusiveAt key) (key' : String)
    (hf : ∀ g g', key = key' → gs.get? key = some g → f g = some g' → g'.kind = .radio →
      g'.Exclusive) : ExclusiveAt key ((gs.edit? key' f).getD gs) := by
  cases hedit : gs.edit? key' f with
  | none => exact h
  | some gs' =>
    obtain ⟨g, g', hg, hf', rfl⟩ := edit?_eq_some hedit
    intro g'' hg'' hkind
    rw [Option.getD_some, Table.get?_insert] at hg''
    split at hg''
    · -- the group in question was edited
      rename_i hkey
      obtain rfl := Option.some.inj hg''
      exact hf g g' hkey (hkey ▸ hg) hf' hkind
    · exact h g'' hg'' hkind

/-- Every operation but a toggle of radio buttons leaves them with one value checked. -/
theorem ExclusiveAt.step (h : gs.ExclusiveAt key) (hop : ¬ Mistoggles key gs op) :
    ExclusiveAt key (gs.step op) := by
  cases op with
  | attach key' a =>
    intro g hg hkind
    rw [Groups.step, attachInSteps_eq, attach, Table.get?_insert] at hg
    split at hg
    · obtain rfl := Option.some.inj hg
      exact Group.exclusive_attached a hkind _
    · exact h g hg hkind
  | toggle key' value =>
    refine h.edit key' fun g g' hkey hg hedit hkind => ?_
    subst hkey
    exact absurd (.toggle hg ((Group.kind_toggle? hedit).symm.trans hkind) value) hop
  | select key' value => exact h.edit key' fun g g' _ _ hedit => Group.exclusive_select? hedit
  | take =>
    intro g hg hkind
    rw [Groups.step, settled, Table.get?_mapVal] at hg
    obtain ⟨g', hg', rfl⟩ := Option.map_eq_some_iff.mp hg
    exact ⟨(h g' hg' hkind).same, (h g' hg' hkind).value_iff⟩
  | detach keys keep =>
    intro g hg hkind
    rw [Groups.step, detach, Table.get?_mapVal] at hg
    obtain ⟨g', hg', rfl⟩ := Option.map_eq_some_iff.mp hg
    by_cases hgone : keys.contains key && !keep.contains key
    · rw [if_pos hgone] at hkind ⊢
      exact g'.exclusive_detached hkind
    · rw [if_neg hgone] at hkind ⊢
      exact h g' hg' hkind
  | prune =>
    intro g hg hkind
    rw [Groups.step, pruned, Table.get?_filter] at hg
    exact h g (Option.filter_eq_some_iff.mp hg).1 hkind

/-- So they have one value checked at most after any operations of this kind. -/
theorem exclusiveAt_after (h : Never (Mistoggles key) Table.empty ops) :
    ExclusiveAt key (after Table.empty ops) := by
  induction ops using List.reverseRecOn with
  | nil => nofun
  | append_singleton ops op ih =>
    obtain ⟨hbefore, hop⟩ := never_concat.mp h
    rw [after_concat]
    exact (ih hbefore).step hop

/-! ## Attachments that repeat a group -/

/-- The attachment describes a group that is there, with the value that the group would report. -/
structure Attachment.Repeats (a : Attachment) (g : Group) : Prop where
  kind : a.kind = g.kind
  options : a.options = g.members.map Member.value
  multiple : a.multiple = g.multiple
  value : g.value.Echoes a.value

/-- Nothing has come of an attachment. -/
structure Unmoved (gs : Groups) (key : String) (gs' : Groups) : Prop where
  /-- The members are the same, checked as they were. -/
  members : (gs'.get? key).map Group.members = (gs.get? key).map Group.members
  others : ∀ key', key' ≠ key → gs'.get? key' = gs.get? key'
  /-- What is to be reported was to be reported before. -/
  pending : ∀ key', gs'.Pending key' → gs.Pending key'

/-- Groups of checkboxes, and of radio buttons that are selected, stay as they are when the value
that they report is attached again. -/
theorem echo_stable (hops : Never (Mistoggles key) Table.empty ops)
    (hg : (after Table.empty ops).get? key = some g)
    (hdistinct : (g.members.map Member.value).Nodup)
    (hmultiple : g.kind = .checkbox → g.multiple = true) :
    (∀ c ∈ (after Table.empty ops).changes, c.key = key → c.value = g.value) ∧
      ∀ a : Attachment, a.Repeats g →
        (after Table.empty ops).Unmoved key ((after Table.empty ops).step (.attach key a)) := by
  have hradio := exclusiveAt_after hops g hg
  generalize after Table.empty ops = gs at hg
  refine ⟨fun c hc hkey => ?_, fun a ha => ?_⟩
  · obtain ⟨g', hg', -, hchange⟩ := mem_changes.mp hc
    rw [hkey, hg] at hg'
    rw [hchange, Option.some.inj hg']
    rfl
  · rw [step, attachInSteps_eq]
    refine ⟨?_, fun key' hne => ?_, fun key' hpending => (pending_attach.mp hpending).1⟩
    · rw [attach, Table.get?_insert, if_pos rfl, hg]
      show some (Group.membersFor a.kind a.multiple a.options a.value) = some g.members
      rw [ha.kind, ha.multiple, ha.options,
        Group.membersFor_echo hdistinct hmultiple hradio ha.value]
    · rw [attach, Table.get?_insert, if_neg hne]

/-- Three checkboxes, of which the last and then the first are toggled. -/
def boxesToggled : List Operation :=
  [.attach "c" ⟨some "c", .checkbox, "main", ["x", "y", "z"], .null, true⟩, .toggle "c" "z",
    .toggle "c" "x"]

/-- Two radio buttons, of which one is selected and then the other. -/
def radioSelected : List Operation :=
  [.attach "r" ⟨some "r", .radio, "main", ["x", "y"], .null, false⟩, .select "r" "x",
    .select "r" "y"]

/-- The checked boxes come back in the order in which they were toggled, and the radio button that is
selected comes back. -/
theorem echo_stable_toggled_selected :
    (∃ g a, Never (Mistoggles "c") Table.empty boxesToggled ∧
      (after Table.empty boxesToggled).get? "c" = some g ∧
      g.members = [⟨"x", true⟩, ⟨"y", false⟩, ⟨"z", true⟩] ∧
      (g.members.map Member.value).Nodup ∧ (g.kind = .checkbox → g.multiple = true) ∧
      a.value = .arr [.str "z", .str "x"] ∧ a.Repeats g ∧
      (after Table.empty boxesToggled).Unmoved "c"
        ((after Table.empty boxesToggled).step (.attach "c" a))) ∧
    ∃ g a, Never (Mistoggles "r") Table.empty radioSelected ∧
      (after Table.empty radioSelected).get? "r" = some g ∧
      g.members = [⟨"x", false⟩, ⟨"y", true⟩] ∧
      (g.members.map Member.value).Nodup ∧ (g.kind = .checkbox → g.multiple = true) ∧
      a.value = .str "y" ∧ a.Repeats g ∧
      (after Table.empty radioSelected).Unmoved "r"
        ((after Table.empty radioSelected).step (.attach "r" a)) := by
  constructor
  · have hops : Never (Mistoggles "c") Table.empty boxesToggled :=
      ⟨nofun, not_mistoggles (by decide +kernel), not_mistoggles (by decide +kernel), trivial⟩
    have hrepeats : (Attachment.mk (some "c") .checkbox "main" ["x", "y", "z"]
        (.arr [.str "z", .str "x"]) true).Repeats
        ⟨"c", .checkbox, "main", true, [⟨"x", true⟩, ⟨"y", false⟩, ⟨"z", true⟩], true⟩ :=
      ⟨rfl, rfl, rfl, .reordered rfl (.swap _ _ _)⟩
    exact ⟨_, _, hops, rfl, rfl, by decide, fun _ => rfl, rfl, hrepeats,
      (echo_stable hops rfl (by decide) fun _ => rfl).2 _ hrepeats⟩
  · have hops : Never (Mistoggles "r") Table.empty radioSelected := ⟨nofun, nofun, nofun, trivial⟩
    have hrepeats : (Attachment.mk (some "r") .radio "main" ["x", "y"] (.str "y") false).Repeats
        ⟨"r", .radio, "main", false, [⟨"x", false⟩, ⟨"y", true⟩], true⟩ :=
      ⟨rfl, rfl, rfl, .same⟩
    exact ⟨_, _, hops, rfl, rfl, by decide, nofun, rfl, hrepeats,
      (echo_stable hops rfl (by decide) nofun).2 _ hrepeats⟩

end Groups

end RemoteUi
