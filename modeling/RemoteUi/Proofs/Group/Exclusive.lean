/-
# RemoteUi.Proofs.Group.Exclusive — what is checked in a group of radio buttons.

A group of radio buttons reports one value, so it is meant to have members of one value checked at
most (`Group.Exclusive`).  The value that is reported is the first that is checked, so that a second
one would be checked without being reported.

* The server's value and a selection see to that by themselves, whatever was checked before
  (`exclusive_attached`, `exclusive_select?`): each decides for every member whether its value is
  the one.
* A toggle does not: it flips a member whatever the kind of its group, and checks a second value
  where another one is checked (`exclusive_toggle?_iff`).

Several members may have one value, which is why the property speaks of values and not of members; a
toggle then flips the first of them.

The same is said of all groups of a screen (`Groups.Exclusive`), with the operations that leave
groups alone told once for any property of single groups (`Groups.Every`).
-/
import RemoteUi.Group.Basic

namespace RemoteUi

namespace Group

variable {g g' : Group} {value v : String} {ms ms' : List Member}

/-- The checked members all have one value. -/
structure Exclusive (g : Group) : Prop where
  same : ∀ v ∈ g.checkedValues, ∀ w ∈ g.checkedValues, v = w
  /-- The value that is reported is all that is checked. -/
  value_iff : ∀ v, g.value = .str v ↔ v ∈ g.checkedValues

/-- A value is checked if a member with it is. -/
theorem mem_checkedValues : v ∈ g.checkedValues ↔ ⟨v, true⟩ ∈ g.members := by
  simp only [checkedValues, List.mem_map, List.mem_filter]
  constructor
  · rintro ⟨m, ⟨hm, hchecked⟩, rfl⟩
    rwa [← hchecked]
  · exact fun hm => ⟨⟨v, true⟩, ⟨hm, rfl⟩, rfl⟩

/-- The value of a group of radio buttons is the first that is checked. -/
theorem value_radio_iff (hkind : g.kind = .radio) :
    g.value = .str v ↔ g.checkedValues.head? = some v := by
  unfold value
  rw [hkind]
  cases g.checkedValues <;> simp

/-- Of a radio group the second clause says no more than the first. -/
theorem exclusive_iff (hkind : g.kind = .radio) :
    g.Exclusive ↔ ∀ v ∈ g.checkedValues, ∀ w ∈ g.checkedValues, v = w := by
  refine ⟨Exclusive.same, fun hsame => ⟨hsame, fun v => ?_⟩⟩
  rw [value_radio_iff hkind]
  refine ⟨List.mem_of_mem_head?, fun hv => ?_⟩
  cases hchecked : g.checkedValues with
  | nil => rw [hchecked] at hv; cases hv
  | cons w rest =>
    have hw : w ∈ g.checkedValues := hchecked ▸ List.mem_cons_self
    exact congrArg some (hsame w hw v hv)

/-! ## What checks one value -/

/-- A group of which one value is checked at most is exclusive. -/
theorem exclusive_of_subsingleton (hkind : g.kind = .radio) (value : String)
    (h : ∀ v ∈ g.checkedValues, v = value) : g.Exclusive :=
  (exclusive_iff hkind).mpr fun v hv w hw => (h v hv).trans (h w hw).symm

/-- A selection checks the members of one value. -/
theorem exclusive_select? (h : g.select? value = some g') (hkind : g'.kind = .radio) :
    g'.Exclusive := by
  unfold select? at h
  split at h
  · cases h
    refine exclusive_of_subsingleton hkind value fun v hv => ?_
    obtain ⟨m, -, hm⟩ := List.mem_map.mp (mem_checkedValues.mp hv)
    have hchecked : decide (m.value = value) = true := congrArg Member.checked hm
    have hvalue : m.value = v := congrArg Member.value hm
    exact hvalue.symm.trans (of_decide_eq_true hchecked)
  · cases h

/-- The server's value checks the members of one value. -/
theorem exclusive_attached (a : Groups.Attachment) (hkind : a.kind = .radio)
    (previous : Option Group) : (a.group previous).Exclusive := by
  refine (exclusive_iff hkind).mpr fun v hv w hw => ?_
  have hchecks : ∀ u ∈ (a.group previous).checkedValues, a.value.text? = some u := by
    intro u hu
    obtain ⟨o, -, ho⟩ := List.mem_map.mp (mem_checkedValues.mp hu)
    have hchecked : checksFor a.kind a.multiple a.value o = true := congrArg Member.checked ho
    obtain rfl : o = u := congrArg Member.value ho
    rw [hkind] at hchecked
    exact beq_iff_eq.mp hchecked
  exact Option.some.inj ((hchecks v hv).symm.trans (hchecks w hw))

/-- A group that leaves the screen has no members. -/
theorem exclusive_detached (g : Group) (hkind : g.kind = .radio) : g.detached.Exclusive :=
  exclusive_of_subsingleton hkind "" fun _ hv => nomatch hv

/-! ## What flips a member -/

/-- The first member with the value is flipped, and no other. -/
theorem flip_eq_some (h : flip value ms = some ms') : ∃ pre m post,
    ms = pre ++ m :: post ∧ m.value = value ∧
      ms' = pre ++ { m with checked := !m.checked } :: post := by
  induction ms generalizing ms' with
  | nil => cases h
  | cons m rest ih =>
    unfold flip at h
    split at h
    · rename_i hvalue
      cases h
      exact ⟨[], m, rest, rfl, hvalue, rfl⟩
    · obtain ⟨flipped, hflip, rfl⟩ := Option.map_eq_some_iff.mp h
      obtain ⟨pre, n, post, rfl, hvalue, rfl⟩ := ih hflip
      exact ⟨m :: pre, n, post, rfl, hvalue, rfl⟩

/-- A toggle leaves one value checked where no other value was checked before, and only there. -/
theorem exclusive_toggle?_iff (hkind : g.kind = .radio) (hg : g.Exclusive)
    (h : g.toggle? value = some g') : g'.Exclusive ↔ ∀ v ∈ g.checkedValues, v = value := by
  obtain ⟨members, hflip, rfl⟩ := Option.map_eq_some_iff.mp h
  obtain ⟨pre, m, post, hmembers, rfl, rfl⟩ := flip_eq_some hflip
  constructor
  · refine fun hafter v hv => Decidable.byContradiction fun hne => ?_
    -- the member that is flipped was unchecked, since another value was checked
    have hunchecked : m.checked = false := by
      cases hm : m.checked with
      | false => rfl
      | true =>
        have hmem : m ∈ g.members := by simp [hmembers]
        have hvalue : m.value ∈ g.checkedValues := mem_checkedValues.mpr (hm ▸ hmem)
        exact absurd (hg.same v hv m.value hvalue) hne
    refine hne (hafter.same v (mem_checkedValues.mpr ?_) m.value (mem_checkedValues.mpr ?_))
    · have hv := mem_checkedValues.mp hv
      rw [hmembers] at hv
      simp only [List.mem_append, List.mem_cons] at hv ⊢
      refine hv.imp_right (Or.imp_left fun heq => ?_)
      exact absurd (congrArg Member.value heq) hne
    · simp [hunchecked]
  · intro hall
    refine exclusive_of_subsingleton hkind m.value fun v hv => ?_
    have hv := mem_checkedValues.mp hv
    simp only [List.mem_append, List.mem_cons] at hv
    rcases hv with hv | heq | hv
    · exact hall v (mem_checkedValues.mpr (by simp [hmembers, hv]))
    · exact congrArg Member.value heq
    · exact hall v (mem_checkedValues.mpr (by simp [hmembers, hv]))

/-- A toggle does not change the kind of a group. -/
theorem kind_toggle? (h : g.toggle? value = some g') : g'.kind = g.kind := by
  obtain ⟨members, -, rfl⟩ := Option.map_eq_some_iff.mp h
  rfl

theorem toggle?_isSome_iff : (g.toggle? value).isSome ↔ value ∈ g.members.map Member.value := by
  have hflip : ∀ ms : List Member, (flip value ms).isSome ↔ value ∈ ms.map Member.value := by
    intro ms
    induction ms with
    | nil => simp [flip]
    | cons m rest ih => unfold flip; split <;> grind
  rw [toggle?, Option.isSome_map]
  exact hflip g.members

end Group

namespace Groups

variable {gs gs' : Groups} {p : Group → Prop} {key : String}

/-- All groups satisfy `p`. -/
def Every (p : Group → Prop) (gs : Groups) : Prop :=
  ∀ key g, gs.get? key = some g → p g

/-- No group of radio buttons has members of different values checked. -/
def Exclusive (gs : Groups) : Prop :=
  gs.Every fun g => g.kind = .radio → g.Exclusive

namespace Every

theorem insert {g : Group} (h : gs.Every p) (hg : p g) (key : String) :
    Every p (gs.insert key g) := by
  intro key' g' hg'
  rw [Table.get?_insert] at hg'
  split at hg'
  · exact Option.some.inj hg' ▸ hg
  · exact h key' g' hg'

theorem mapVal {f : String → Group → Group} (h : gs.Every p) (hf : ∀ key g, p g → p (f key g)) :
    Every p (gs.mapVal f) := by
  intro key g hg
  rw [Table.get?_mapVal] at hg
  obtain ⟨g', hg', rfl⟩ := Option.map_eq_some_iff.mp hg
  exact hf key g' (h key g' hg')

theorem pruned (h : gs.Every p) : gs.pruned.Every p := by
  intro key g hg
  rw [Groups.pruned, Table.get?_filter] at hg
  exact h key g (Option.filter_eq_some_iff.mp hg).1

theorem detach (h : gs.Every p) (hp : ∀ g, p g → p g.detached) (keys keep : List String) :
    (gs.detach keys keep).Every p := by
  refine h.mapVal fun key g hg => ?_
  split
  · exact hp g hg
  · exact hg

end Every

theorem Exclusive.settled (h : gs.Exclusive) : gs.settled.Exclusive :=
  Every.mapVal h fun _ _ hg hkind => ⟨(hg hkind).same, (hg hkind).value_iff⟩

/-- The group with the key is changed, and no other. -/
theorem edit?_eq_some {f : Group → Option Group} (h : gs.edit? key f = some gs') :
    ∃ g g', gs.get? key = some g ∧ f g = some g' ∧ gs' = gs.insert key g' := by
  obtain ⟨g', hg', rfl⟩ := Option.map_eq_some_iff.mp h
  obtain ⟨g, hg, hedit⟩ := Option.bind_eq_some_iff.mp hg'
  exact ⟨g, g', hg, hedit, rfl⟩

/-- A selection in one group leaves all groups exclusive. -/
theorem Exclusive.select? {value : String} (h : gs.Exclusive)
    (hselect : gs.select? key value = some gs') : gs'.Exclusive := by
  obtain ⟨g, g', hg, hedit, rfl⟩ := edit?_eq_some hselect
  exact Every.insert h (Group.exclusive_select? hedit) key

/-- A toggle spoils a group of radio buttons in which another value is checked. -/
theorem Exclusive.toggle?_iff {value : String} (h : gs.Exclusive)
    (htoggle : gs.toggle? key value = some gs') : gs'.Exclusive ↔
      ∀ g, gs.get? key = some g → g.kind = .radio → ∀ v ∈ g.checkedValues, v = value := by
  obtain ⟨g, g', hg, hedit, rfl⟩ := edit?_eq_some htoggle
  have hkind' := Group.kind_toggle? hedit
  constructor
  · intro hafter g'' hg'' hkind
    obtain rfl := Option.some.inj (hg.symm.trans hg'')
    have hg' : (gs.insert key g').get? key = some g' := by rw [Table.get?_insert, if_pos rfl]
    exact (Group.exclusive_toggle?_iff hkind (h key g hg hkind) hedit).mp
      (hafter key g' hg' (hkind'.trans hkind))
  · refine fun hall => Every.insert h (fun hkind => ?_) key
    have hkind := hkind'.symm.trans hkind
    exact (Group.exclusive_toggle?_iff hkind (h key g hg hkind) hedit).mpr (hall g hg hkind)

end Groups

end RemoteUi
