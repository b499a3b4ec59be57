/-
# RemoteUi.Proofs.Screen.Ticking — the transitions are brought to a time in any order.

A frame goes through a table of transitions and fades the first container of each fragment that is
on its way.  The table is a hash table in the program, so that nothing is promised of the order;
here it is shown that none has to be.

* A change of presentation found by one predicate leaves what another predicate finds, if what
  satisfies the one does not satisfy the other, before the change or after (`Spares`).  Two such
  changes commute wherever the containers stand, one inside the other included
  (`Rendered.edit?_comm`), and so do the fades of two fragments (`Surface.fade_comm`).
* A walk (`Screen.walk`) looks up each transition, and changes the surface and the table as it goes,
  in a given order.  Visiting one fragment does not change the transition of another, so that a walk
  that comes to no fragment twice finds each transition as it was at the start (`foldl_visit`).
  What it does to the surface, to the table and to the list of swaps that settled is then three
  separate folds.
* A walk therefore ends the same in whatever order it takes the transitions, and as `tick` does
  (`Screen.walk_tick`); the swaps that settled come in the order of the walk.
-/
import RemoteUi.Proofs.Screen.Locality
import RemoteUi.Proofs.Screen.Opacity

namespace RemoteUi

/-! ## Changes of presentation -/

/-- A container with its presentation changed. -/
def Panel.present (g : Box → Box) (p : Panel) : Panel :=
  { p with box := g p.box }

/-- What satisfies `p` does not satisfy `q`, before it is changed or after. -/
def Spares (p : Box → Bool) (g : Box → Box) (q : Box → Bool) : Prop :=
  ∀ box, p box = true → q box = false ∧ q (g box) = false

namespace Rendered

variable {p q : Box → Bool} {g h : Box → Box}

/-- What is not edited is not there. -/
theorem find?_of_edit?_none {f : Panel → Panel} {r : Rendered} (hr : r.edit? p f = none) :
    r.find? p = none := by
  cases hfind : r.find? p with
  | none => rfl
  | some old =>
    obtain ⟨panel, hedit⟩ := edit?_of_find? hfind f
    cases hr.symm.trans hedit

/-- What is not found is not found after a change that spares it. -/
theorem edit?_none_of_spares (hp : Spares p g q) {f : Panel → Panel} {r r' : Rendered}
    (hr : r.edit? p (Panel.present g) = some r') (hnone : r.edit? q f = none) :
    r'.edit? q f = none := by
  have hspared : ∀ panel : Panel, p panel.box = true → q panel.box = false ∧
      q (panel.present g).box = false ∧ (panel.present g).children = panel.children := by
    intro panel hpanel
    obtain ⟨hbefore, hafter⟩ := hp panel.box hpanel
    exact ⟨hbefore, hafter, rfl⟩
  have hbox := find?_edit? hspared hr
  rw [find?_of_edit?_none hnone, Option.map_none, Option.map_eq_none_iff] at hbox
  exact edit?_eq_none hbox

mutual
/-- Two changes of presentation that spare each other meet, whichever comes first. -/
theorem edit?_comm (hp : Spares p g q) (hq : Spares q h p) : ∀ {r r₁ r₂ : Rendered},
    r.edit? p (Panel.present g) = some r₁ → r.edit? q (Panel.present h) = some r₂ →
    ∃ t, r₁.edit? q (Panel.present h) = some t ∧ r₂.edit? p (Panel.present g) = some t
  | .container box children, r₁, r₂, h₁, h₂ => by
    cases hbox : p box with
    | true =>
      -- the second change is further in
      obtain ⟨hbefore, hafter⟩ := hp box hbox
      simp only [edit?, hbox, hbefore, if_true] at h₁ h₂
      -- the first predicate finds this container, and the other one something inside it
      obtain ⟨children₂, hedit, rfl⟩ := Option.map_eq_some_iff.mp h₂
      obtain rfl := Option.some.inj h₁
      refine ⟨.container (g box) children₂, ?_, ?_⟩
      · simp [Panel.node, Panel.present, edit?, hafter, hedit]
      · simp [Panel.node, Panel.present, edit?, hbox]
    | false =>
      simp only [edit?, hbox] at h₁
      -- neither edit changes what the other one finds, and both may be further in
      obtain ⟨children₁, hedit₁, rfl⟩ := Option.map_eq_some_iff.mp h₁
      cases hbox' : q box with
      | true =>
        -- the first change is further in
        obtain ⟨-, hafter⟩ := hq box hbox'
        simp only [edit?, hbox', if_true] at h₂
        obtain rfl := Option.some.inj h₂
        refine ⟨.container (h box) children₁, ?_, ?_⟩
        · simp [Panel.node, Panel.present, edit?, hbox']
        · simp [Panel.node, Panel.present, edit?, hafter, hedit₁]
      | false =>
        simp only [edit?, hbox'] at h₂
        obtain ⟨children₂, hedit₂, rfl⟩ := Option.map_eq_some_iff.mp h₂
        obtain ⟨ts, hts₁, hts₂⟩ := editIn?_comm hp hq hedit₁ hedit₂
        refine ⟨.container box ts, ?_, ?_⟩
        · simp [edit?, hbox', hts₁]
        · simp [edit?, hbox, hts₂]
  | .markup _ _ _, _, _, h₁, _ => by cases h₁
  | .widget _, _, _, h₁, _ => by cases h₁
  | .group _ _, _, _, h₁, _ => by cases h₁

theorem editIn?_comm (hp : Spares p g q) (hq : Spares q h p) : ∀ {rs rs₁ rs₂ : List Rendered},
    editIn? p (Panel.present g) rs = some rs₁ → editIn? q (Panel.present h) rs = some rs₂ →
    ∃ ts, editIn? q (Panel.present h) rs₁ = some ts ∧ editIn? p (Panel.present g) rs₂ = some ts
  | [], _, _, h₁, _ => by cases h₁
  | r :: rest, rs₁, rs₂, h₁, h₂ => by
    simp only [editIn?] at h₁ h₂
    cases hr₁ : r.edit? p (Panel.present g) with
    | some r₁ =>
      rw [hr₁] at h₁
      obtain rfl := Option.some.inj h₁
      cases hr₂ : r.edit? q (Panel.present h) with
      | some r₂ =>
        rw [hr₂] at h₂
        obtain rfl := Option.some.inj h₂
        obtain ⟨t, ht₁, ht₂⟩ := edit?_comm hp hq hr₁ hr₂
        exact ⟨t :: rest, by simp [editIn?, ht₁], by simp [editIn?, ht₂]⟩
      | none =>
        rw [hr₂] at h₂
        obtain ⟨rest₂, hrest, rfl⟩ := Option.map_eq_some_iff.mp h₂
        have hnone := edit?_none_of_spares hp hr₁ hr₂
        exact ⟨r₁ :: rest₂, by simp [editIn?, hnone, hrest], by simp [editIn?, hr₁]⟩
    | none =>
      rw [hr₁] at h₁
      obtain ⟨rest₁, hrest₁, rfl⟩ := Option.map_eq_some_iff.mp h₁
      cases hr₂ : r.edit? q (Panel.present h) with
      | some r₂ =>
        rw [hr₂] at h₂
        obtain rfl := Option.some.inj h₂
        have hnone := edit?_none_of_spares hq hr₂ hr₁
        exact ⟨r₂ :: rest₁, by simp [editIn?, hr₂], by simp [editIn?, hnone, hrest₁]⟩
      | none =>
        rw [hr₂] at h₂
        obtain ⟨rest₂, hrest₂, rfl⟩ := Option.map_eq_some_iff.mp h₂
        obtain ⟨ts, hts₁, hts₂⟩ := editIn?_comm hp hq hrest₁ hrest₂
        exact ⟨r :: ts, by simp [editIn?, hr₂, hts₁], by simp [editIn?, hr₁, hts₂]⟩
end

end Rendered

namespace Surface

variable {p q : Box → Bool} {g h : Box → Box} {s : Surface}

/-- Where nothing is found on the surface, nothing is changed. -/
theorem edit_of_none {f : Panel → Panel}
    (hnone : ∀ root, s.root = some root → root.node.edit? p f = none) : s.edit p f = s := by
  cases hroot : s.root with
  | none => simp [edit, hroot]
  | some root => simp [edit, hroot, Panel.edit?, hnone root hroot]

/-- An edit has nothing to change, or changes the root. -/
theorem edit_cases (s : Surface) (p : Box → Bool) (f : Panel → Panel) :
    (∀ root, s.root = some root → root.node.edit? p f = none) ∨
      ∃ root root' : Panel, s.root = some root ∧ root.node.edit? p f = some root'.node := by
  cases hroot : s.root with
  | none => exact Or.inl nofun
  | some root =>
    cases hedit : root.node.edit? p f with
    | none =>
      refine Or.inl fun root' hroot' => ?_
      obtain rfl := Option.some.inj hroot'
      exact hedit
    | some r' =>
      obtain ⟨root', rfl⟩ := Rendered.edit?_node hedit
      exact Or.inr ⟨root, root', rfl, hedit⟩

/-- What is not found is not found after a change that spares it. -/
theorem edit_edit_of_none (hp : Spares p g q) {f : Panel → Panel}
    (hnone : ∀ root, s.root = some root → root.node.edit? q f = none) :
    (s.edit p (Panel.present g)).edit q f = s.edit p (Panel.present g) := by
  apply edit_of_none
  intro root' hroot'
  obtain hsame | ⟨root, root₁, hroot, hedit⟩ := s.edit_cases p (Panel.present g)
  · rw [edit_of_none hsame] at hroot'
    exact hnone root' hroot'
  · rw [edit_eq hroot hedit] at hroot'
    obtain rfl := Option.some.inj hroot'
    exact Rendered.edit?_none_of_spares hp hedit (hnone root hroot)

/-- Changes of presentation that spare each other commute. -/
theorem edit_comm (hp : Spares p g q) (hq : Spares q h p) (s : Surface) :
    (s.edit p (Panel.present g)).edit q (Panel.present h) =
      (s.edit q (Panel.present h)).edit p (Panel.present g) := by
  obtain hnone | ⟨root, root₁, hroot, hedit₁⟩ := s.edit_cases p (Panel.present g)
  · rw [edit_of_none hnone, edit_edit_of_none hq hnone]
  · obtain hnone | ⟨root', root₂, hroot', hedit₂⟩ := s.edit_cases q (Panel.present h)
    · rw [edit_of_none hnone, edit_edit_of_none hp hnone]
    · obtain rfl := Option.some.inj (hroot.symm.trans hroot')
      obtain ⟨t, ht₁, ht₂⟩ := Rendered.edit?_comm hp hq hedit₁ hedit₂
      obtain ⟨root₃, rfl⟩ := Rendered.edit?_node ht₁
      rw [edit_eq hroot hedit₁, edit_eq hroot hedit₂, edit_eq rfl ht₁, edit_eq rfl ht₂]

/-- The fades of two fragments commute, wherever their containers stand. -/
theorem fade_comm {id other : String} (hne : id ≠ other) (s : Surface) (x y : Float32) :
    (s.fade id x).fade other y = (s.fade other y).fade id x := by
  have hspares : ∀ {a b : String} (opacity : Float32), a ≠ b → Spares (Box.isFragment a)
      (fun box => { box with opacity := opacity }) (Box.isFragment b) := by
    intro a b opacity hab box hbox
    have hother : box.isFragment b = false := by
      rw [Box.isFragment, beq_iff_eq.mp hbox]
      exact beq_false_of_ne fun heq => hab (Option.some.inj heq)
    exact ⟨hother, hother⟩
  exact edit_comm (hspares x hne) (hspares y hne.symm) s

end Surface

/-! ## Walks -/

namespace Screen

/-- Looks at the transition of a fragment: one that is under way fades the fragment, and settles
once its time has passed, which is noted. -/
def visit (duration now : Nat) (walk : Screen × List SwapTicket) (id : String) :
    Screen × List SwapTicket :=
  let (s, settled) := walk
  match s.transitions.get? id with
  | none => walk
  | some t =>
    if t.phase = .transitioning then
      let progress := t.progress duration now
      let s := { s with surface := s.surface.fade id (opacityAt t.start progress) }
      if 1 ≤ progress then
        ({ s with transitions := s.transitions.modify id fun t => { t with phase := .settled } },
          settled ++ [⟨t.swapId, id⟩])
      else (s, settled)
    else walk

/-- Brings the transitions of fragments to a time, one after the other: the screen, and the swaps
that settled. -/
def walk (s : Screen) (order : List String) (now : Nat) : Screen × List SwapTicket :=
  match s.strategy with
  | .instant => (s, [])
  | .crossFade duration => order.foldl (visit duration now) (s, [])

variable {transitions : Table Transition} {duration now : Nat}

/-- The surface with a fragment faded, if its transition is under way. -/
def glow (transitions : Table Transition) (duration now : Nat) (s : Surface) (id : String) :
    Surface :=
  match transitions.get? id with
  | none => s
  | some t =>
    if t.phase = .transitioning then s.fade id (opacityAt t.start (t.progress duration now)) else s

/-- The ticket of a fragment's swap, if it settles. -/
def due (transitions : Table Transition) (duration now : Nat) (id : String) : Option SwapTicket :=
  (transitions.get? id).bind fun t =>
    if t.phase = .transitioning ∧ 1 ≤ t.progress duration now then some ⟨t.swapId, id⟩ else none

/-- The transitions with those of some fragments brought to a time. -/
def ticked (transitions : Table Transition) (duration now : Nat) (ids : List String) :
    Table Transition :=
  transitions.mapVal fun id t => if id ∈ ids then t.tick duration now else t

/-- Each transition is brought to the time, or left as it is. -/
theorem get?_ticked (ids : List String) (id : String) :
    (ticked transitions duration now ids).get? id =
      (transitions.get? id).map fun t => if id ∈ ids then t.tick duration now else t :=
  Table.get?_mapVal transitions _ id

/-- A fragment that is not in the list is left alone. -/
theorem get?_ticked_of_not_mem {ids : List String} {id : String} (hid : id ∉ ids) :
    (ticked transitions duration now ids).get? id = transitions.get? id := by
  simp [get?_ticked, hid]

/-- A transition that is not due stays as it is. -/
theorem ticked_of_not_due {id : String} (h : due transitions duration now id = none) :
    ticked transitions duration now [id] = transitions := by
  apply Table.ext_get?
  intro other
  by_cases hother : other = id
  · obtain rfl := hother
    cases ht : transitions.get? other with
    | none => simp [get?_ticked, ht]
    | some t =>
      have hnot : ¬ (t.phase = .transitioning ∧ 1 ≤ t.progress duration now) := by
        intro hdue
        simp [due, ht, hdue] at h
      simp [get?_ticked, ht, Transition.tick, hnot]
  · exact get?_ticked_of_not_mem (by simpa using hother)

/-- The transitions of different fragments are brought to a time one after the other. -/
theorem ticked_ticked (id : String) (ids : List String) (hid : id ∉ ids) :
    ticked (ticked transitions duration now [id]) duration now ids =
      ticked transitions duration now (id :: ids) := by
  apply Table.ext_get?
  intro other
  rw [get?_ticked, get?_ticked, get?_ticked, Option.map_map]
  refine congrArg (transitions.get? other).map (funext fun t => ?_)
  by_cases hother : other = id
  · simp [hother, hid]
  · simp [hother]

/-! ## One visit -/

/-- One visit, as three changes: of the table, of the surface, and of what has settled. -/
theorem visit_eq (s : Screen) (settled : List SwapTicket) (id : String) :
    visit duration now (s, settled) id =
      ({ s with
          transitions := ticked s.transitions duration now [id]
          surface := glow s.transitions duration now s.surface id },
        settled ++ (due s.transitions duration now id).toList) := by
  unfold visit
  cases ht : s.transitions.get? id with
  | none =>
    have hdue : due s.transitions duration now id = none := by simp [due, ht]
    rw [ticked_of_not_due hdue, hdue]
    simp [glow, ht]
  | some t =>
    simp only [ht]
    by_cases hphase : t.phase = .transitioning
    · by_cases hpast : 1 ≤ t.progress duration now
      · have hdue : due s.transitions duration now id = some ⟨t.swapId, id⟩ := by
          simp [due, ht, hphase, hpast]
        have hsettled : (s.transitions.modify id fun t => { t with phase := .settled }) =
            ticked s.transitions duration now [id] := by
          apply Table.ext_get?
          intro other
          by_cases hother : other = id
          · simp [hother, get?_ticked, ht, Transition.tick, hphase, hpast]
          · rw [get?_ticked_of_not_mem (by simpa using hother), Table.get?_modify, if_neg hother]
        rw [if_pos hphase, if_pos hpast, hsettled, hdue]
        simp [glow, ht, hphase]
      · have hdue : due s.transitions duration now id = none := by simp [due, ht, hpast]
        rw [if_pos hphase, if_neg hpast, ticked_of_not_due hdue, hdue]
        simp [glow, ht, hphase]
    · have hdue : due s.transitions duration now id = none := by simp [due, ht, hphase]
      rw [if_neg hphase, ticked_of_not_due hdue, hdue]
      simp [glow, ht, hphase]

/-! ## Whole walks -/

/-- What the transition of one fragment comes to has nothing to do with the others. -/
theorem glow_congr {us : Table Transition} {id : String} (h : us.get? id = transitions.get? id)
    (s : Surface) : glow us duration now s id = glow transitions duration now s id := by
  rw [glow, glow, h]

theorem due_congr {us : Table Transition} {id : String} (h : us.get? id = transitions.get? id) :
    due us duration now id = due transitions duration now id := by
  rw [due, due, h]

/-- A walk that comes to no fragment twice finds each transition as it was at the start. -/
theorem foldl_visit {order : List String} (hnodup : order.Nodup) (s : Screen)
    (settled : List SwapTicket) :
    order.foldl (visit duration now) (s, settled) =
      ({ s with
          transitions := ticked s.transitions duration now order
          surface := order.foldl (glow s.transitions duration now) s.surface },
        settled ++ order.filterMap (due s.transitions duration now)) := by
  induction order generalizing s settled with
  | nil =>
    have hnone : ticked s.transitions duration now [] = s.transitions :=
      Table.ext_get? fun id => get?_ticked_of_not_mem List.not_mem_nil
    simp [hnone]
  | cons id rest ih =>
    obtain ⟨hid, hrest⟩ := List.nodup_cons.mp hnodup
    -- the first visit leaves the transitions of all the others as they were
    have hkept : ∀ other ∈ rest, (ticked s.transitions duration now [id]).get? other =
        s.transitions.get? other := by
      intro other hother
      apply get?_ticked_of_not_mem
      intro hmem
      obtain rfl := List.mem_singleton.mp hmem
      exact hid hother
    have hsurface : ∀ u : Surface,
        rest.foldl (glow (ticked s.transitions duration now [id]) duration now) u =
          rest.foldl (glow s.transitions duration now) u := by
      intro u
      exact List.foldl_ext _ _ u fun u' other hother => glow_congr (hkept other hother) u'
    have hdue : rest.filterMap (due (ticked s.transitions duration now [id]) duration now) =
        rest.filterMap (due s.transitions duration now) :=
      List.filterMap_congr fun other hother => due_congr (hkept other hother)
    rw [List.foldl_cons, visit_eq, ih hrest, ticked_ticked id rest hid, hsurface, hdue,
      List.foldl_cons, List.append_assoc]
    cases hfirst : due s.transitions duration now id <;> simp [hfirst]

/-- A fragment is left alone on every surface, or is faded on every one. -/
theorem glow_cases (transitions : Table Transition) (duration now : Nat) (id : String) :
    (∀ u, glow transitions duration now u id = u) ∨
      ∃ opacity, ∀ u, glow transitions duration now u id = u.fade id opacity := by
  cases ht : transitions.get? id with
  | none => exact Or.inl fun u => by simp [glow, ht]
  | some t =>
    by_cases hphase : t.phase = .transitioning
    · refine Or.inr ⟨opacityAt t.start (t.progress duration now), fun u => ?_⟩
      simp [glow, ht, hphase]
    · exact Or.inl fun u => by simp [glow, ht, hphase]

/-- The order in which two fragments are faded makes no difference. -/
theorem glow_comm (s : Surface) (id other : String) :
    glow transitions duration now (glow transitions duration now s id) other =
      glow transitions duration now (glow transitions duration now s other) id := by
  by_cases heq : id = other
  · rw [heq]
  · rcases glow_cases transitions duration now id with hid | ⟨x, hid⟩
    · rw [hid, hid]
    · rcases glow_cases transitions duration now other with hother | ⟨y, hother⟩
      · rw [hother, hother]
      · rw [hid, hother, hother, hid, Surface.fade_comm heq]

/-- In the order of the table, the surface is that of a frame. -/
theorem foldl_glow_keys (s : Surface) :
    transitions.keys.foldl (glow transitions duration now) s =
      faded transitions.entries duration now s := by
  rw [Table.keys, List.foldl_map, faded]
  apply List.foldl_ext
  intro u e he
  have ht : transitions.get? e.1 = some e.2 := Table.get?_eq_some_iff.mpr he
  simp only [glow, ht]

/-- In the order of the table, the swaps that settle are those that a frame tells of. -/
theorem filterMap_due_keys :
    transitions.keys.filterMap (due transitions duration now) =
      (transitions.entries.filter fun e => decide (e.2.phase = .transitioning) &&
        decide ((e.2.tick duration now).phase = .settled)).map fun e => ⟨e.2.swapId, e.1⟩ := by
  rw [Table.keys, List.filterMap_map, ← List.filterMap_eq_filter, List.map_filterMap]
  apply List.filterMap_congr
  intro e he
  have ht : transitions.get? e.1 = some e.2 := Table.get?_eq_some_iff.mpr he
  by_cases hdue : e.2.phase = .transitioning ∧ 1 ≤ e.2.progress duration now
  · simp [due, ht, hdue, Transition.tick, Option.guard]
  · have hsettled : ¬ (e.2.phase = .transitioning ∧ (e.2.tick duration now).phase = .settled) := by
      rintro ⟨hphase, hafter⟩
      rw [Transition.tick, if_neg hdue, hphase] at hafter
      cases hafter
    simp [due, ht, hdue, hsettled, Option.guard]

/-- A walk through all fragments brings the whole table to the time. -/
theorem ticked_of_perm {order : List String} (horder : order.Perm transitions.keys) :
    ticked transitions duration now order =
      transitions.mapVal fun _ t => t.tick duration now := by
  apply Table.ext_get?
  intro id
  rw [get?_ticked, Table.get?_mapVal]
  cases ht : transitions.get? id with
  | none => rfl
  | some t =>
    have hmem : id ∈ order := horder.mem_iff.mpr (Table.mem_keys.mpr ⟨t, ht⟩)
    simp [hmem]

/-- In whatever order the transitions are looked at, the screen is brought to the same time and the
same swaps settle; for the fades of two fragments commute on every surface. -/
theorem walk_tick (s : Screen) (now : Nat) :
    (∀ order : List String, order.Perm s.transitions.keys →
      (s.walk order now).1 = (s.tick now).1 ∧ (s.walk order now).2.Perm (s.tick now).2) ∧
    ∀ (u : Surface) (id other : String) (x y : Float32), id ≠ other →
      (u.fade id x).fade other y = (u.fade other y).fade id x := by
  refine ⟨?_, fun u id other x y hne => u.fade_comm hne x y⟩
  intro order horder
  unfold walk tick
  cases hstrategy : s.strategy with
  | instant => exact ⟨rfl, List.Perm.refl _⟩
  | crossFade duration =>
    have hnodup : order.Nodup := horder.nodup_iff.mpr s.transitions.keys_nodup
    -- fades commute, so their order may be changed to that of the table
    have hsurface : order.foldl (glow s.transitions duration now) s.surface =
        faded s.transitions.entries duration now s.surface := by
      rw [← foldl_glow_keys]
      exact horder.foldl_eq' (fun id _ other _ u => glow_comm u id other) s.surface
    have htickets := horder.filterMap (due s.transitions duration now)
    rw [filterMap_due_keys] at htickets
    dsimp only
    rw [foldl_visit hnodup, ticked_of_perm horder, hsurface, List.nil_append, ← hstrategy]
    exact ⟨rfl, htickets⟩

/-- A page that holds an inner fragment, itself with a container of the page's id inside, and a
second container of the inner id behind it; both fragments are fading. -/
def nested : Screen :=
  let box (id : String) : Box := ⟨none, some id, [], [], pendingOpacity, true, 0⟩
  { empty (.crossFade 10) with
    transitions := (Table.empty.insert "main" ⟨1, .transitioning, pendingOpacity, 0⟩).insert "side"
      ⟨2, .transitioning, pendingOpacity, 5⟩
    surface := ⟨some ⟨box "main", [.container (box "side") [.container (box "main") []],
      .container (box "side") []]⟩, none⟩ }

/-- The inner fragment may be looked at before the page; and its fade may come first. -/
theorem walk_tick_nested :
    ["side", "main"].Perm nested.transitions.keys ∧
      (nested.walk ["side", "main"] 20).1 = (nested.tick 20).1 ∧
      (nested.walk ["side", "main"] 20).2 = [⟨2, "side"⟩, ⟨1, "main"⟩] ∧
      (nested.tick 20).2 = [⟨1, "main"⟩, ⟨2, "side"⟩] ∧
      (nested.surface.fade "side" 0).fade "main" 1 =
        (nested.surface.fade "main" 1).fade "side" 0 := by
  have horder : ["side", "main"].Perm nested.transitions.keys := List.Perm.swap "main" "side" []
  obtain ⟨hwalk, hfades⟩ := walk_tick nested 20
  refine ⟨horder, (hwalk _ horder).1, ?_, ?_, ?_⟩
  · decide +kernel
  · decide +kernel
  · exact hfades nested.surface "side" "main" 0 1 (by decide)

end Screen

end RemoteUi
