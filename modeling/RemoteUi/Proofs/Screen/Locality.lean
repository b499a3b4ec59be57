/-
# RemoteUi.Proofs.Screen.Locality — a swap changes its fragment and nothing else.

A swap leaves the surface around its fragment as it is, leaves alone every widget shown there whose
identity the new tree does not have, and leaves no container hidden.  `SwappedIn` says this of one
swap, and `swap_local` for every screen that can be reached and every tree.

A swap is also atomic, although it goes through one structure after the other and looks for its
fragment twice.  To say this, the swap is written once more as it goes, with the screen in whatever
state it is when something fails (`swapInPlace`).  The second look-up finds what the first one
found, since hiding a fragment does not make it go away (`Surface.shown_setVisible`); so a swap that
fails has not begun (`swapInPlace_eq`).

* In place, the transition of a fragment is written several times in a swap.  Only what is written
  last counts (`modify_insert`, `insert_modify`).
* Around the fragment, the focus is the one thing by which a swap could reach a widget.  It concerns
  two identities: who had it, and who gets it (`Surface.get?_focus`).  In a swap they are the same,
  and are one of the new tree (`get?_carryFocus`).
* A fragment is in its place if the surface would be the same with anything else in the place of the
  old tree and of the new one (`SwappedIn.place`).  This says where the new tree is without saying
  how places are counted.
-/
import RemoteUi.Proofs.Screen.Around
import RemoteUi.Proofs.Screen.Continuity
import RemoteUi.Proofs.Screen.Visibility

namespace RemoteUi

open Rendered (handle? ofLeaves_handle?)

/-! ## A swap in place -/

namespace Table

variable {α : Type}

/-- Tables with the same view are the same. -/
theorem ext_get? {t u : Table α} (h : ∀ k, t.get? k = u.get? k) : t = u := by
  have hnodup : ∀ v : Table α, v.entries.Nodup := fun v =>
    v.sorted.imp fun hlt heq => String.ne_of_lt hlt (congrArg Prod.fst heq)
  have hperm : t.entries.Perm u.entries := by
    rw [List.perm_ext_iff_of_nodup (hnodup t) (hnodup u)]
    rintro ⟨k, v⟩
    rw [← get?_eq_some_iff, ← get?_eq_some_iff, h]
  refine ext_entries (hperm.eq_of_pairwise (fun a b _ _ hab hba => ?_) t.sorted u.sorted)
  exact absurd (String.lt_trans hab hba) (String.lt_irrefl a.1)

/-- An entry that is put in and changed is put in as it was changed to. -/
theorem modify_insert (t : Table α) (k : String) (v : α) (f : α → α) :
    (t.insert k v).modify k f = t.insert k (f v) := by
  refine ext_get? fun k' => ?_
  by_cases hk : k' = k <;> simp [hk]

/-- A change of an entry that is replaced is lost. -/
theorem insert_modify (t : Table α) (k : String) (v : α) (f : α → α) :
    (t.modify k f).insert k v = t.insert k v := by
  refine ext_get? fun k' => ?_
  by_cases hk : k' = k <;> simp [hk]

end Table

/-- Puts a container in the place of a fragment's root, or at the root of an empty surface.  The
fragment is looked for, and may not be found. -/
def Surface.replace? (s : Surface) (id : String) (incoming : Panel) : Except SwapError Surface :=
  match s.root with
  | none => .ok { s with root := some incoming }
  | some root =>
    match root.edit? (Box.isFragment id) fun _ => incoming with
    | some root => .ok { s with root := some root }
    | none => .error (.unknownFragment id)

namespace Surface

variable {s : Surface} {id : String}

/-- A fragment that is shown is found. -/
theorem replace?_eq (hshown : s.root = none ∨ ∃ old, s.fragment? id = some old)
    (incoming : Panel) : s.replace? id incoming = .ok (s.replace id incoming) := by
  rcases hshown with hroot | ⟨old, hold⟩
  · simp only [replace?, replace, hroot]
  · obtain ⟨root, hroot, hfind⟩ := Option.bind_eq_some_iff.mp hold
    obtain ⟨root', hr'⟩ := Rendered.edit?_of_find? hfind fun _ => incoming
    have hpanel : root.edit? (Box.isFragment id) (fun _ => incoming) = some root' := by
      rw [Panel.edit?, hr']
      rfl
    rw [replace_eq_edit hold, edit_eq hroot hr']
    simp only [replace?, hroot, hpanel]

/-- A fragment that is hidden is still shown where it was. -/
theorem shown_setVisible (hshown : s.root = none ∨ ∃ old, s.fragment? id = some old)
    (visible : Bool) : (s.setVisible id visible).root = none ∨
      ∃ old, (s.setVisible id visible).fragment? id = some old := by
  rcases hshown with hroot | ⟨old, hold⟩
  · exact Or.inl (by simp [setVisible, edit, hroot])
  · have hbox := fragment?_box hold
    exact Or.inr ⟨_, (edit_again hold
      (f := fun p => { p with box := { p.box with visible := visible } }) hbox).1⟩

end Surface

namespace Screen

variable {s s' t : Screen} {f : Fragment} {now : Nat} {report : SwapReport}

/-- The screen of a swap under way, before anything is put in the place of the fragment: the swap
before it is settled, its own transition is entered, the new tree is rendered, and the old one is
hidden. -/
def begun (s : Screen) (f : Fragment) (now : Nat) : Screen :=
  { s with
    nextSwapId := s.nextSwapId + 1
    transitions := (s.transitions.modify f.id fun t => t.advance .settled).insert f.id
      ⟨s.nextSwapId, .building, 1, now⟩
    pool := (s.built f).build.pool
    groups := (s.built f).build.groups
    surface := s.surface.setVisible f.id false }

/-- The transition of the latest swap of a fragment goes on to a phase. -/
def advance (s : Screen) (id : String) (phase : SwapPhase) : Screen :=
  { s with transitions := s.transitions.modify id fun t => t.advance phase }

/-- A swap as it goes from structure to structure, each changed where it is.  The screen that comes
with a failure is what has become of it by then. -/
def swapInPlace (s : Screen) (f : Fragment) (now : Nat) : Screen × Except SwapError SwapReport :=
  let outgoing := s.surface.fragment? f.id
  if s.surface.root.isSome ∧ outgoing.isNone then (s, .error (.unknownFragment f.id))
  else
    let swapId := s.nextSwapId
    let built := s.built f
    let shown := incoming built outgoing
    let s := s.begun f now
    match s.surface.replace? f.id shown with
    | .error e => (s, .error e)
    | .ok surface =>
      let s := { s with surface := surface }.advance f.id .inserted
      let (s, retired, focusRestored) := match outgoing with
        | none => (s, 0, false)
        | some old =>
          let (s, retired) := s.forget old built.build
          let (s, focusRestored) := s.carryFocus old built.build
          (s, retired, focusRestored)
      let groups := s.groups.pruned
      let pruned := s.groups.size - groups.size
      let s := { s with groups := groups }
      let s := match s.strategy with
        | .instant => { s with surface := s.surface.fade f.id 1 }.advance f.id .settled
        | .crossFade _ =>
          { s with transitions := s.transitions.modify f.id fun t =>
              { t with start := shown.box.opacity, started := now } }.advance f.id .transitioning
      (s, .ok {
        ticket := ⟨swapId, f.id⟩
        reused := built.build.reused
        constructed := built.build.constructed
        retired := retired
        groupsPruned := pruned
        focusRestored := focusRestored
        diagnostics := built.build.diagnostics })

/-- Who has the focus has nothing to do with transitions. -/
theorem carryFocus_transitions (strategy : FadeStrategy) (nextSwapId : Nat) (pool : WidgetPool)
    (groups : Groups) (surface : Surface) (old : Panel) (b : Build) :
    ∃ focused pool' restored, ∀ transitions,
      carryFocus ⟨strategy, nextSwapId, transitions, pool, groups, surface⟩ old b =
        (⟨strategy, nextSwapId, transitions, pool', groups, { surface with focused := focused }⟩,
          restored) := by
  unfold carryFocus
  dsimp only
  split
  · exact ⟨surface.focused, pool, false, fun _ => rfl⟩
  · rename_i id hid
    split
    · obtain ⟨focused, pool', -, hfocus⟩ := surface.focus_eq pool id
      exact ⟨focused, pool', true, fun _ => by rw [hfocus]⟩
    · exact ⟨none, pool, false, fun _ => rfl⟩

/-- A swap in place does what a swap does, and where a swap fails it has done nothing. -/
theorem swapInPlace_eq (s : Screen) (f : Fragment) (now : Nat) :
    s.swapInPlace f now = match s.swap f now with
      | .ok (s', report) => (s', .ok report)
      | .error e => (s, .error e) := by
  unfold swapInPlace swap
  dsimp only
  by_cases hrefused : s.surface.root.isSome ∧ (s.surface.fragment? f.id).isNone
  · rw [if_pos hrefused, if_pos hrefused]
  · have haccepts : s.Accepts f.id := Classical.not_not.mp fun h => hrefused (refuses_iff.mpr h)
    have hfound := (s.begun f now).surface.replace?_eq (Surface.shown_setVisible haccepts false)
      (incoming (s.built f) (s.surface.fragment? f.id))
    rw [if_neg hrefused, if_neg hrefused, hfound]
    unfold begun advance built
    -- its own transition is the only one that a swap passes through several phases
    rw [Table.insert_modify]
    cases s.surface.fragment? f.id with
    | none => cases s.strategy <;> simp only [Table.modify_insert] <;> rfl
    | some old =>
      simp only [forget]
      obtain ⟨focused, pool', restored, hcarry⟩ := carryFocus_transitions s.strategy
        (s.nextSwapId + 1) ((f.build s.pool s.groups).build.pool.retire
          ((old.widgetIds (f.build s.pool s.groups).build.pool).filter fun id =>
            !(f.build s.pool s.groups).build.widgetIds.contains id))
        ((f.build s.pool s.groups).build.groups.detach old.groupKeys
          (f.build s.pool s.groups).build.groupKeys)
        ((s.surface.setVisible f.id false).replace f.id
          (incoming (f.build s.pool s.groups) (some old))) old (f.build s.pool s.groups).build
      simp only [hcarry]
      cases s.strategy <;> simp only [Table.modify_insert] <;> rfl

end Screen

/-! ## Widgets around a fragment -/

namespace Surface

variable {s : Surface} {pool : WidgetPool} {key : String} {h : Handle}

/-- A flag is set for the widget of one identity. -/
theorem get?_flag (hkey : pool.key h ≠ key) (focused : Bool) :
    (s.flag pool key focused).get? h = pool.get? h := by
  unfold flag
  split
  · rename_i h' hfind
    rw [WidgetPool.get?_setFocused, if_neg]
    rintro rfl
    exact hkey (findWidget_eq_some hfind).2
  · rfl

/-- The focus concerns the widgets of two identities only: who had it, and who gets it. -/
theorem get?_focus (hbefore : s.focused ≠ some (pool.key h)) (hkey : pool.key h ≠ key) :
    (s.focus pool key).2.get? h = pool.get? h := by
  have hblur : (s.blur pool).2.get? h = pool.get? h := by
    unfold blur
    split
    · rename_i previous hfocused
      exact get?_flag (fun heq => hbefore (hfocused.trans (congrArg some heq.symm))) false
    · rfl
  obtain ⟨pool', hpool', heq⟩ := s.blur_eq pool
  rw [heq] at hblur
  unfold focus
  rw [heq]
  dsimp only
  split
  · rename_i h' hfind
    rw [WidgetPool.get?_setFocused, if_neg]
    · exact hblur
    · rintro rfl
      exact hkey ((hpool'.key_eq h').symm.trans (findWidget_eq_some hfind).2)
  · exact hblur

end Surface

namespace Screen

variable {s s' : Screen} {f : Fragment} {now : Nat} {report : SwapReport}

/-- To carry the focus over leaves alone what the new tree does not have. -/
theorem get?_carryFocus {outgoing : Panel} {b : Build} {h : Handle}
    (hkey : s.pool.key h ∉ b.widgetIds) :
    (s.carryFocus outgoing b).1.pool.get? h = s.pool.get? h := by
  unfold carryFocus
  split
  · rfl
  · rename_i id hid
    obtain ⟨hfocused, -⟩ := Option.filter_eq_some_iff.mp hid
    split
    · rename_i hmem
      -- the widget that has the focus is one of the new tree
      have hne : s.pool.key h ≠ id := fun heq => hkey (heq ▸ List.contains_iff_mem.mp hmem)
      refine Surface.get?_focus (fun heq => hne ?_) hne
      exact (Option.some.inj (hfocused.symm.trans heq)).symm
    · rfl

/-- A widget shown around a fragment is left alone by a swap whose tree does not have its
identity. -/
theorem Sound.get?_swap_apart (hs : s.Sound) (h : s.swap f now = .ok (s', report)) {handle : Handle}
    (hh : handle ∈ Rendered.leaves handle? (s.surface.apartFrom f.id).toList)
    (hkey : s.pool.key handle ∉ f.widgetKeys) : s'.pool.get? handle = s.pool.get? handle := by
  rw [Surface.leaves_apartFrom ofLeaves_handle?] at hh
  have hlt := hs.outside hh
  have hbuilt : (s.built f).build.pool.get? handle = s.pool.get? handle := by
    rw [built, f.build_build]
    exact (renderClosed_placesMade.render f.id f.root (Build.start s.pool s.groups) hs.pool).apart
      handle hlt hkey
  have hunmet : (s.built f).build.pool.key handle ∉ (s.built f).build.widgetIds := by
    rw [(hs.widgetsMade f).key_eq handle hlt, hs.mem_widgetIds_built]
    exact hkey
  obtain ⟨report', heq⟩ := swap_eq (swap_accepts h) now
  obtain ⟨rfl, -⟩ := Prod.mk.inj (Except.ok.inj (h.symm.trans heq))
  rw [pool_concluded, ← hbuilt]
  -- with no outgoing tree nothing is forgotten, and the focus stays where it is
  cases s.surface.fragment? f.id with
  | none => rfl
  | some old => exact get?_carryFocus hunmet

/-! ## Locality -/

/-- A swap of a fragment has taken place, in the fragment's place. -/
structure SwappedIn (s : Screen) (f : Fragment) (s' : Screen) : Prop where
  /-- What is shown around the fragment is as it was. -/
  apart : s'.surface.apartFrom f.id = s.surface.apartFrom f.id
  /-- The new tree is where the old one was: with anything in its place, the surface would be the
  same as with that in the place of the old one. -/
  place : ∀ panel, (s'.surface.replace f.id panel).root = (s.surface.replace f.id panel).root
  /-- A widget shown around the fragment keeps its whole state, unless the new tree has its
  identity. -/
  kept : ∀ h ∈ Rendered.leaves handle? (s.surface.apartFrom f.id).toList,
    s.pool.key h ∉ f.widgetKeys → s'.pool.get? h = s.pool.get? h
  /-- The new tree carries the id of the fragment. -/
  shown : ∃ p, s'.surface.fragment? f.id = some p ∧ p.box.fragmentId = some f.id ∧
    p.children = (incoming (s.built f) (s.surface.fragment? f.id)).children
  /-- The fragment can be swapped again. -/
  again : ∀ next : Fragment, next.id = f.id → ∀ later, ∃ s'' report,
    s'.swap next later = .ok (s'', report)
  /-- No container is left hidden. -/
  visible : s'.surface.AllVisible

/-- What is shown around the fragment is as it was. -/
theorem apartFrom_nextSurface (haccepts : s.Accepts f.id) (focused : Option String) :
    (s.nextSurface f focused).apartFrom f.id = s.surface.apartFrom f.id := by
  have hbox := s.isFragment_incoming f (s.surface.fragment? f.id)
  have hreplace := Surface.apartFrom_replace hbox haccepts
  unfold nextSurface
  cases s.strategy with
  | instant =>
    refine Eq.trans ?_ hreplace
    exact Surface.apartFrom_edit (Surface.fragment?_replace hbox haccepts) hbox
  | crossFade duration => exact hreplace

/-- Anything in the place of the new tree is in the place of the old one. -/
theorem replace_nextSurface (haccepts : s.Accepts f.id) (focused : Option String) (panel : Panel) :
    ((s.nextSurface f focused).replace f.id panel).root = (s.surface.replace f.id panel).root := by
  have hbox := s.isFragment_incoming f (s.surface.fragment? f.id)
  have hshown := Surface.fragment?_replace hbox haccepts
  have hagain := congrArg Surface.root (Surface.replace_replace hbox haccepts panel)
  refine Eq.trans ?_ hagain
  unfold nextSurface
  generalize s.surface.replace f.id (incoming (s.built f) (s.surface.fragment? f.id)) = inserted
    at hshown
  -- who has the focus makes no difference to what is shown
  have hfocused := Surface.root_replace_eq (s := inserted)
    (t := { inserted with focused := focused }) rfl f.id panel
  cases s.strategy with
  | instant =>
    have hfaded := Surface.replace_edit (s := { inserted with focused := focused })
      (f := fun p => { p with box := { p.box with opacity := 1 } }) hshown hbox panel
    exact (congrArg Surface.root hfaded).trans hfocused
  | crossFade duration => exact hfocused

/-- A swap that succeeds has taken place in the place of its fragment. -/
theorem swappedIn (hs : s.Sound) (hvisible : s.surface.AllVisible)
    (h : s.swap f now = .ok (s', report)) : s.SwappedIn f s' := by
  have haccepts := swap_accepts h
  obtain ⟨focused, hsurface⟩ := surface_swap h
  obtain ⟨opacity, hshown⟩ := fragment?_swap h
  exact {
    apart := by
      rw [hsurface]
      exact apartFrom_nextSurface haccepts focused
    place := by
      rw [hsurface]
      exact replace_nextSurface haccepts focused
    kept := fun handle hh hkey => hs.get?_swap_apart h hh hkey
    shown := ⟨_, hshown, eq_of_beq (Surface.fragment?_box hshown), rfl⟩
    again := fun next hid later => by
      obtain ⟨report, hswap⟩ := swap_eq (s := s') (f := next) (hid ▸ Or.inr ⟨_, hshown⟩) later
      exact ⟨_, report, hswap⟩
    visible := allVisible_swap hvisible h }

/-- A swap fails exactly when something is shown and the fragment is not, and then nothing has been
touched, though it is carried out in place.  Otherwise it changes its fragment and nothing else:
the surface around the fragment is the same, and so is every widget shown there whose identity the
new tree does not have; the fragment shows the new tree, and no container is left hidden. -/
theorem swap_local (hs : s.Reached fun _ _ => True) (f : Fragment) (now : Nat) :
    ((∃ e, s.swap f now = .error e) ↔
      s.surface.root.isSome ∧ s.surface.fragment? f.id = none) ∧
    (∀ e, s.swap f now = .error e → e = .unknownFragment f.id ∧
      s.swapInPlace f now = (s, .error e)) ∧
    ∀ s' report, s.swap f now = .ok (s', report) →
      s.swapInPlace f now = (s', .ok report) ∧ s.SwappedIn f s' := by
  refine ⟨?_, fun e he => ⟨?_, ?_⟩, fun s' report h => ⟨?_, ?_⟩⟩
  · rw [← Option.isNone_iff_eq_none, refuses_iff]
    refine ⟨fun ⟨e, he⟩ haccepts => ?_, fun hrefused => ⟨.unknownFragment f.id, ?_⟩⟩
    · obtain ⟨report, hswap⟩ := swap_eq haccepts now
      cases hswap.symm.trans he
    · exact if_pos (refuses_iff.mpr hrefused)
  · unfold swap at he
    dsimp only at he
    split at he
    · cases he
      rfl
    · cases he
  · -- what has failed in place is the screen as it was
    rw [swapInPlace_eq, he]
  · rw [swapInPlace_eq, h]
  · exact swappedIn hs.sound_screen hs.allVisible h

/-- A field, and an editor beside it in a fragment of its own. -/
def pageFirst : Fragment :=
  ⟨"main", .container (.ofId none) (some "main")
    [.widget (.ofId (some "name")) (.textField none "hint"),
      .container (.ofId none) (some "side") [.widget (.ofId (some "code")) (.codeEditor "" false)]]⟩

/-- Another editor, for one of the fragments. -/
def editorNext (id : String) : Fragment :=
  ⟨id, .container (.ofId none) (some id) [.widget (.ofId (some "notes")) (.codeEditor "" true)]⟩

/-- The screen that shows the field and the editor. -/
def page : Screen := (empty .instant).attempt pageFirst 0

/-- The inner fragment is swapped in its place; one that is not shown is refused, and leaves the
screen as it is. -/
theorem swap_local_page :
    (page.Reached fun _ _ => True) ∧
      (∃ s' report, page.swap (editorNext "side") 1 = .ok (s', report) ∧
        page.SwappedIn (editorNext "side") s') ∧
      ∃ e, page.swap (editorNext "elsewhere") 1 = .error e ∧
        page.swapInPlace (editorNext "elsewhere") 1 = (page, .error e) := by
  have hpage : page.Reached fun _ _ => True := .swap 0 (.start .instant) fun _ => trivial
  obtain ⟨-, -, hshown⟩ := swap_local hpage (editorNext "side") 1
  obtain ⟨hfails, hrefused, -⟩ := swap_local hpage (editorNext "elsewhere") 1
  have haccepts : page.Accepts (editorNext "side").id := Or.inr ⟨_, rfl⟩
  obtain ⟨report, hswap⟩ := swap_attempt haccepts
  obtain ⟨e, he⟩ := hfails.mpr ⟨rfl, rfl⟩
  exact ⟨hpage, ⟨_, report, hswap, (hshown _ report hswap).2⟩, e, he, (hrefused e he).2⟩

end Screen

end RemoteUi
