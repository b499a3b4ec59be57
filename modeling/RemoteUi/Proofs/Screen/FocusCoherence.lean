/-
# RemoteUi.Proofs.Screen.FocusCoherence — the surface and the widgets agree on the focus.

Where every widget has an identity of its own, the widget that the surface takes to have the focus
has it (`FocusHeld`), and no other has (`FocusSole`).  Together this is `FocusCoherent`, and it
holds along every history (`Reached.focusCoherent`).

The second half is the harder one.  A flag that a widget keeps while it is off the surface would
break it, and so would one that a build brings back; but building sets no flag
(`renderClosed_flagged`), and what a build hands out again was on the surface before.  So every flag
that is set after a build was set on the surface before it, where only the widget with the focus has
one (`FocusSole.focused_of_built`).

What a swap does to the focus follows from who is shown (`focused_swap`): it stays with an identity
that the fragment did not show, or that its next tree has, and is gone otherwise.  There the order
of the steps of a swap matters, as the focus is carried over when the new tree is already in place
and the index has forgotten what left.

A widget without identity cannot be found again, and could keep a flag that nobody takes away.
Therefore trees are to have identities for all their widgets (`Fragment.Named`), which can be
decided.
-/
import RemoteUi.Proofs.Screen.Focus

namespace RemoteUi

open Rendered (leaves handle? ofLeaves_handle?)

/-! ## Trees whose widgets have identities -/

/-- The node has an identity if it is a widget. -/
def Node.Named : Node → Prop
  | .widget head _ => head.identity ≠ none
  | _ => True

/-- Every widget of the tree has an identity. -/
def Fragment.Named (f : Fragment) : Prop :=
  ∀ n ∈ f.root.nodes, n.Named

instance : DecidablePred Node.Named := fun n =>
  match n with
  | .widget head _ => inferInstanceAs (Decidable (head.identity ≠ none))
  | .markup _ _ _ | .group _ _ | .container _ _ _ => inferInstanceAs (Decidable True)

instance (f : Fragment) : Decidable f.Named :=
  inferInstanceAs (Decidable (∀ n ∈ f.root.nodes, n.Named))

namespace Fragment

variable {f : Fragment} {key : String}

/-- What is shown under a key is a widget of that identity, as every widget has one. -/
theorem Named.mem_widgetKeys (hf : f.Named) (hkey : key ∈ Node.shownKeys [f.root]) :
    key ∈ f.widgetKeys := by
  obtain ⟨n, hn, hshown⟩ := List.mem_filterMap.mp hkey
  have hnamed : n.Named := hf n (by simpa [Node.nodesOf] using hn)
  refine List.mem_filterMap.mpr ⟨n, hn, ?_⟩
  cases n with
  | widget head spec =>
    obtain ⟨id, hid⟩ := Option.ne_none_iff_exists'.mp hnamed
    have hkey : head.identity.getD "" = key := Option.some.inj hshown
    show head.identity = some key
    rw [← hkey, hid, Option.getD_some]
  | markup | group | container => cases hshown

end Fragment

/-! ## Building sets no flag -/

/-- The widget with a handle has the identity, and its focus flag is set. -/
def WidgetPool.Flagged (p : WidgetPool) (h : Nat) (key : String) : Prop :=
  ∃ w, p.get? h = some w ∧ w.touched.focused = true ∧ w.key = key

/-- The key is that of the widget. -/
theorem WidgetPool.Flagged.key_eq {p : WidgetPool} {h : Nat} {key : String}
    (hflag : p.Flagged h key) : p.key h = key := by
  obtain ⟨w, hw, -, rfl⟩ := hflag
  exact p.key_of_get? hw

/-- Flags and identities are all there is to it. -/
theorem WidgetPool.Flagged.of_map_eq {p q : WidgetPool} {h : Nat} {key : String}
    (hflag : q.Flagged h key)
    (hfocused : (q.get? h).map (fun w => w.touched.focused) =
      (p.get? h).map fun w => w.touched.focused)
    (hkey : q.key h = p.key h) : p.Flagged h key := by
  have hid := hflag.key_eq
  obtain ⟨w, hw, hset, -⟩ := hflag
  rw [hw, Option.map_some, hset] at hfocused
  obtain ⟨w', hw', hset'⟩ := Option.map_eq_some_iff.mp hfocused.symm
  exact ⟨w', hw', hset', by rw [← p.key_of_get? hw', ← hkey, hid]⟩

namespace Build

variable {b : Build} {fragmentId : String} {head : NodeHead} {spec : WidgetSpec} {r : Handle × Build}

/-- A widget that is new does not have the focus, and one that goes on has it if it had it. -/
theorem Meets.flagged (hr : b.Meets fragmentId head spec r) {h : Nat} {key : String}
    (hflag : r.2.pool.Flagged h key) : b.pool.Flagged h key := by
  obtain ⟨w, hw, hset, hkey⟩ := hflag
  cases hr with
  | nameless | repeated =>
    simp only [loose, pool_count, WidgetPool.get?_add] at hw
    split at hw
    · obtain rfl := Option.some.inj hw
      exact absurd hset nofun
    · exact ⟨w, hw, hset, hkey⟩
  | fresh =>
    simp only [Build.fresh, pool_count, WidgetPool.get?_register] at hw
    split at hw
    · obtain rfl := Option.some.inj hw
      exact absurd hset nofun
    · exact ⟨w, hw, hset, hkey⟩
  | @continued key' h' old new hid hmet hlookup hold hnew =>
    rw [pool_count, WidgetPool.get?_set hold] at hw
    split at hw
    · rename_i heq
      obtain rfl := Option.some.inj hw
      obtain ⟨state, -, rfl⟩ := Option.map_eq_some_iff.mp hnew
      exact ⟨old, heq ▸ hold, hset, hkey⟩
    · exact ⟨w, hw, hset, hkey⟩

/-- No tree sets a flag. -/
theorem renderClosed_flagged : RenderClosed fun _ _ b _ b' =>
    ∀ h key, b'.pool.Flagged h key → b.pool.Flagged h key where
  nil := fun _ _ _ _ hflag => hflag
  append := fun hns hms h key hflag => hns h key (hms h key hflag)
  container := fun _ hns => hns
  markup := fun _ _ _ _ _ _ _ hflag => hflag
  widget := fun fragmentId head spec b _ _ hflag =>
    (b.widget_meets fragmentId head spec).flagged hflag
  group := fun fragmentId head spec b h key hflag => by
    generalize hr : b.group fragmentId head spec = r at hflag
    cases hr ▸ b.group_meets fragmentId head spec with
    | nameless | repeated => exact hflag
    | attached a ha hid hkey =>
      rw [pool_count] at hflag
      exact hflag

end Build

namespace Screen

variable {s s' t : Screen} {f : Fragment} {now : Nat} {report : SwapReport}

/-- A flag that is set after a build was set before. -/
theorem flagged_built {h : Handle} {key : String}
    (hflag : (s.built f).build.pool.Flagged h key) : s.pool.Flagged h key := by
  rw [built, f.build_build] at hflag
  exact Build.renderClosed_flagged.render f.id f.root (Build.start s.pool s.groups) h key hflag

/-! ## What a swap does to the focus -/

/-- The focus is carried over unless it is lost with a widget that leaves. -/
theorem focused_carryFocus (s : Screen) (outgoing : Panel) (b : Build) :
    (s.carryFocus outgoing b).1.surface.focused = s.surface.focused.filter fun id =>
      !(outgoing.widgetIds s.pool).contains id ||
        (b.widgetIds.contains id && (s.surface.findWidget s.pool id).isSome) := by
  unfold carryFocus
  cases hfocused : s.surface.focused with
  | none => exact hfocused
  | some id =>
    rw [Option.filter_some, Option.filter_some]
    -- did it leave with the outgoing container, does the new tree have it, and is it found
    by_cases hmem : id ∈ outgoing.widgetIds s.pool
    · by_cases hnew : id ∈ b.widgetIds
      · cases hfind : s.surface.findWidget s.pool id with
        | none =>
          obtain ⟨pool, -, hfocus⟩ := Surface.focus_not_found hfind
          simp [hmem, hnew, hfocus]
        | some h =>
          obtain ⟨pool, -, hfocus⟩ := Surface.focus_found hfind
          simp [hmem, hnew, hfocus]
      · simp [hmem, hnew]
    · simp [hmem, hfocused]

/-- What is shown is either inside a fragment or outside it. -/
theorem Coherent.mem_keysOutside_iff (hs : s.Coherent) {id key : String} {old : Panel}
    (hold : s.surface.fragment? id = some old) (hkey : key ∈ s.shownIds) :
    key ∈ s.keysOutside id ↔ key ∉ old.widgetIds s.pool := by
  constructor
  · intro hout
    obtain ⟨h, hh, rfl⟩ := List.mem_map.mp hout
    exact hs.not_mem_outgoing hold hh
  · intro hnot
    refine mem_keysOutside_of_shown hkey fun old' hold' => ?_
    rw [← Option.some.inj (hold.symm.trans hold')]
    exact hnot

/-- The rest of a swap shows and hides nothing. -/
theorem handles_swap (h : s.swap f now = .ok (s', report)) :
    s'.surface.handles = (s.inserted f now).surface.handles := by
  obtain ⟨report', heq⟩ := swap_eq (swap_accepts h) now
  obtain ⟨rfl, -⟩ := Prod.mk.inj (Except.ok.inj (h.symm.trans heq))
  rw [handles_concluded]
  cases s.surface.fragment? f.id with
  | none => rfl
  | some old =>
    obtain ⟨focused, pool, -, hdeparted⟩ := departed_eq (s.inserted f now) old (s.built f).build
    rw [hdeparted]
    rfl

/-- A widget of the next tree is found on the surface once the tree is inserted. -/
theorem Sound.isSome_findWidget_inserted (hs : s.Sound) (hf : f.WellFormed)
    (h : s.swap f now = .ok (s', report)) {key : String} (hkey : key ∈ f.widgetKeys) :
    ((s.inserted f now).surface.findWidget (s.built f).build.pool key).isSome := by
  have hmade := hs.widgetsMade f
  obtain ⟨handle, hh, hlive⟩ := hmade.lookup_new key hkey List.not_mem_nil
  obtain ⟨w, hw, hid⟩ := hmade.sound key handle hlive
  apply Surface.isSome_findWidget_iff.mpr
  refine ⟨handle, ?_, w, hw, hid⟩
  rw [← handles_swap h, mem_handles_swap_iff hf h]
  exact Or.inr hh

/-- The focus stays with an identity that is shown outside the fragment or that its next tree has,
and is gone otherwise. -/
theorem Coherent.focused_swap (hs : s.Coherent) (hf : f.WellFormed)
    (hshown : ∀ id, s.surface.focused = some id → id ∈ s.shownIds)
    (h : s.swap f now = .ok (s', report)) :
    s'.surface.focused = s.surface.focused.filter fun id =>
      decide (id ∈ s.keysOutside f.id ∨ id ∈ f.widgetKeys) := by
  cases hfocused : s.surface.focused with
  | none =>
    -- nothing gives the focus to a widget when no widget has it
    cases refocusing_swap h with
    | apart hsame => exact hsame.trans hfocused
    | dropped hnone => exact hnone
    | again hbefore => cases hfocused.symm.trans hbefore
  | some id =>
    have hid := hshown id hfocused
    -- an empty surface shows nothing that could have the focus
    rcases swap_accepts h with hroot | ⟨old, hold⟩
    · obtain ⟨⟨handle, hh, -⟩, -⟩ := mem_shownIds.mp hid
      rw [← Surface.leaves_handle?, Surface.leaves_root_none hroot] at hh
      cases hh
    · have hfind : id ∈ f.widgetKeys →
          ((s.inserted f now).surface.findWidget (s.built f).build.pool id).isSome :=
        hs.sound.isSome_findWidget_inserted hf h
      have hout := hs.mem_keysOutside_iff hold hid
      obtain ⟨report', heq⟩ := swap_eq (swap_accepts h) now
      obtain ⟨rfl, -⟩ := Prod.mk.inj (Except.ok.inj (h.symm.trans heq))
      rw [focused_concluded, hold]
      have hids : old.widgetIds ((s.inserted f now).forget old (s.built f).build).1.pool =
          old.widgetIds s.pool := hs.sound.widgetIds_built hold
      show (Screen.carryFocus _ old (s.built f).build).1.surface.focused = _
      rw [focused_carryFocus, hids]
      show (s.inserted f now).surface.focused.filter _ = _
      rw [focused_inserted, hfocused, Option.filter_some, Option.filter_some]
      by_cases hmem : id ∈ old.widgetIds s.pool <;> by_cases hnew : id ∈ f.widgetKeys
      · have hfound : (Surface.findWidget ((s.inserted f now).forget old (s.built f).build).1.surface
            ((s.inserted f now).forget old (s.built f).build).1.pool id).isSome := hfind hnew
        simp [hmem, hnew, hfound, hs.sound.mem_widgetIds_built]
      · simp [hmem, hnew, hout, hs.sound.mem_widgetIds_built]
      · simp [hmem, hnew]
      · simp [hmem, hout]

/-! ## Nobody else has the focus -/

/-- Every widget that is shown has an identity, and its flag is set only if the surface takes it to
have the focus. -/
structure FocusSole (s : Screen) : Prop where
  named : ∀ h ∈ s.surface.handles, s.pool.key h ≠ ""
  focused_ne : s.surface.focused ≠ some ""
  flagged : ∀ h ∈ s.surface.handles, ∀ key, s.pool.Flagged h key → s.surface.focused = some key

/-- Once the focus is taken away, nobody has it. -/
theorem FocusSole.not_flagged_blur (hs : s.FocusSole) (hcoherent : s.Coherent) {h : Handle}
    (hh : h ∈ s.surface.handles) (key : String) : ¬ s.blur.pool.Flagged h key := by
  intro hflag
  cases hfocused : s.surface.focused with
  | none =>
    rw [blur_eq_self hfocused] at hflag
    cases hfocused.symm.trans (hs.flagged h hh key hflag)
  | some previous =>
    have hpool : s.blur.pool = s.surface.flag s.pool previous false := by
      unfold Screen.blur Surface.blur
      rw [hfocused]
    have hbefore : s.pool.Flagged h key → previous = key := fun hflag =>
      Option.some.inj (hfocused.symm.trans (hs.flagged h hh key hflag))
    obtain ⟨w, hw, hset, hkey⟩ := hflag
    rw [hpool, Surface.flag] at hw
    split at hw
    · rename_i h' hfind
      rw [WidgetPool.get?_setFocused] at hw
      split at hw
      · obtain ⟨w', -, rfl⟩ := Option.map_eq_some_iff.mp hw
        cases hset
      · -- a flag elsewhere would belong to a second widget of the identity
        rename_i hne
        obtain rfl := hbefore ⟨w, hw, hset, hkey⟩
        obtain ⟨hh', hkey'⟩ := Surface.findWidget_eq_some hfind
        have hid : s.pool.key h' = s.pool.key h := by rw [hkey', s.pool.key_of_get? hw, hkey]
        exact hne (hcoherent.eq_of_key_eq hh' hh hid (hs.named h' hh'))
    · rename_i hfind
      obtain rfl := hbefore ⟨w, hw, hset, hkey⟩
      have hfound := Surface.isSome_findWidget_iff.mpr ⟨h, hh, w, hw, hkey⟩
      rw [hfind] at hfound
      cases hfound

/-- Taking the focus away leaves no flag behind. -/
theorem FocusSole.blur (hs : s.FocusSole) (hcoherent : s.Coherent) : s.blur.FocusSole := by
  have hsteady := (Stirs.blur (s := s)).steady
  refine ⟨fun h hh => ?_, ?_, fun h hh key hflag => ?_⟩
  · rw [hsteady.key_eq]
    exact hs.named h (hsteady.handles_eq ▸ hh)
  · rw [s.focused_blur]
    exact nofun
  · exact absurd hflag (hs.not_flagged_blur hcoherent (hsteady.handles_eq ▸ hh) key)

/-- Giving the focus to a widget sets its flag only. -/
theorem FocusSole.focus (hs : s.FocusSole) (hcoherent : s.Coherent) (key : String) :
    (s.focus key).FocusSole := by
  cases hfind : s.surface.findWidget s.pool key with
  | none =>
    rw [focus_eq_blur hfind]
    exact hs.blur hcoherent
  | some h =>
    have hsteady := (Stirs.focus (s := s) key).steady
    obtain ⟨hh, hkey⟩ := Surface.findWidget_eq_some hfind
    have hfocused : (s.focus key).surface.focused = some key := focused_focus_iff.mpr ⟨h, hfind⟩
    refine ⟨fun h' hh' => ?_, ?_, fun h' hh' key' hflag => ?_⟩
    · rw [hsteady.key_eq]
      exact hs.named h' (hsteady.handles_eq ▸ hh')
    · rw [hfocused]
      intro hempty
      exact hs.named h hh (hkey.trans (Option.some.inj hempty))
    · rw [hsteady.handles_eq] at hh'
      have hid := hflag.key_eq
      rw [hsteady.key_eq] at hid
      by_cases heq : h = h'
      · rw [hfocused, ← hid, ← heq, hkey]
      · -- all other flags are as they were when the focus was taken away
        obtain ⟨w, hw, hset, hkey'⟩ := hflag
        rw [focus_eq_of_found hfind] at hw
        dsimp only at hw
        rw [WidgetPool.get?_setFocused, if_neg heq] at hw
        exact absurd ⟨w, hw, hset, hkey'⟩ (hs.not_flagged_blur hcoherent hh' key')

/-- What happens between swaps leaves no second flag. -/
theorem FocusSole.stirs (hs : s.FocusSole) (hcoherent : s.Coherent) (h : s.Stirs t) :
    t.FocusSole := by
  rcases h.focusing with ⟨key, rfl⟩ | rfl | ⟨hfocused, hget⟩
  · exact hs.focus hcoherent key
  · exact hs.blur hcoherent
  · have hsteady := h.steady
    refine ⟨fun h hh => ?_, hfocused ▸ hs.focused_ne, fun h hh key hflag => ?_⟩
    · rw [hsteady.key_eq]
      exact hs.named h (hsteady.handles_eq ▸ hh)
    · rw [hfocused]
      exact hs.flagged h (hsteady.handles_eq ▸ hh) key (hflag.of_map_eq (hget h) (hsteady.key_eq h))

/-- Who has the focus is shown. -/
theorem FocusHeld.mem_shownIds (hs : s.FocusHeld) (hcoherent : s.Coherent)
    (hne : s.surface.focused ≠ some "") {id : String} (hid : s.surface.focused = some id) :
    id ∈ s.shownIds := by
  have hempty : id ≠ "" := by
    rintro rfl
    exact hne hid
  obtain ⟨h, w, hlive, -, -⟩ := hs id hid hempty
  exact Screen.mem_shownIds.mpr
    ⟨⟨h, hcoherent.shown id h hlive, hcoherent.sound.pool.key_eq hlive⟩, hempty⟩

/-- What a swap shows has an identity if the new tree gives one to each of its widgets. -/
theorem FocusSole.named_swap (hs : s.FocusSole) (hsound : s.Sound) (hf : f.WellFormed)
    (hnamed : f.Named) (h : s.swap f now = .ok (s', report)) {h' : Handle}
    (hh' : h' ∈ s'.surface.handles) : s'.pool.key h' ≠ "" := by
  rcases mem_handles_swap h hh' with hout | hnew
  · rw [hsound.key_swap_outside h hout]
    exact hs.named h' ((s.surface.leaves_cleared_sublist ofLeaves_handle? f.id).subset hout)
  · rw [key_swap h]
    apply hf.ne_empty_of_mem
    apply hnamed.mem_widgetKeys
    rw [← (hsound.widgetsMade f).keys]
    exact List.mem_map_of_mem hnew

/-- A flag that is set once the next tree is built was set on the surface before, and its widget
keeps the focus. -/
theorem FocusSole.focused_of_built (hs : s.FocusSole) (hheld : s.FocusHeld)
    (hcoherent : s.Coherent) (hf : f.WellFormed) (h : s.swap f now = .ok (s', report))
    {h' : Handle} (hh' : h' ∈ s'.surface.handles) {key : String}
    (hflag : (s.built f).build.pool.Flagged h' key) : s'.surface.focused = some key := by
  have hmade := hcoherent.sound.widgetsMade f
  have hbefore := flagged_built hflag
  have hid := hbefore.key_eq
  rw [hcoherent.focused_swap hf (fun id => hheld.mem_shownIds hcoherent hs.focused_ne) h]
  rcases mem_handles_swap h hh' with hout | hnew
  · have hshown := (s.surface.leaves_cleared_sublist ofLeaves_handle? f.id).subset hout
    have hmem : key ∈ s.keysOutside f.id := hid ▸ List.mem_map_of_mem hout
    rw [hs.flagged h' hshown key hbefore, Option.filter_some, if_pos (by simp [hmem])]
  · -- what a build hands out again was live, and so on the surface
    obtain ⟨w, hw, -⟩ := hbefore
    have hlt : h' < s.pool.widgets.size := WidgetPool.lt_size_of_get? hw
    have hlive : ∃ id, s.pool.lookup id = some h' := by
      by_contra hnone
      exact (hmade.made h' hnew).1 ⟨hlt, fun id hlive => absurd ⟨id, hlive⟩ hnone⟩
    obtain ⟨id, hlive⟩ := hlive
    have hshown := hcoherent.shown id h' hlive
    have hkey : (s.built f).build.pool.key h' = key := (hmade.key_eq h' hlt).trans hid
    have hmem : key ∈ f.widgetKeys :=
      hkey ▸ hmade.mem_widgetKeys hnew (hkey ▸ hid ▸ hs.named h' hshown)
    rw [hs.flagged h' hshown key (flagged_built hflag), Option.filter_some, if_pos (by simp [hmem])]

/-- A swap leaves no second flag. -/
theorem FocusSole.swap (hs : s.FocusSole) (hheld : s.FocusHeld) (hcoherent : s.Coherent)
    (hf : s.Admits f) (hnamed : f.Named) (h : s.swap f now = .ok (s', report)) :
    s'.FocusSole := by
  have hbuilt : ∀ h' ∈ s'.surface.handles, ∀ key, (s.built f).build.pool.Flagged h' key →
      s'.surface.focused = some key :=
    fun _ hh' _ => hs.focused_of_built hheld hcoherent hf.wellFormed h hh'
  refine ⟨fun h' => hs.named_swap hcoherent.sound hf.wellFormed hnamed h, ?_,
    fun h' hh' key hflag => ?_⟩
  · rw [hcoherent.focused_swap hf.wellFormed
      (fun id => hheld.mem_shownIds hcoherent hs.focused_ne) h]
    intro hempty
    exact hs.focused_ne (Option.filter_eq_some_iff.mp hempty).1
  · obtain ⟨w, hw, hset, hkey⟩ := hflag
    -- the only flag that a swap sets by itself is that of the widget which gets the focus back
    cases refocusing_swap h with
    | apart hsame hget | dropped hnone hget =>
      rw [hget] at hw
      exact hbuilt h' hh' key ⟨w, hw, hset, hkey⟩
    | @again id handle hbefore hafter hne hshown hid hget =>
      rw [hget, WidgetPool.get?_setFocused] at hw
      split at hw
      · rename_i heq
        obtain ⟨w', hw', rfl⟩ := Option.map_eq_some_iff.mp hw
        rw [hafter, ← hid, heq, WidgetPool.key_of_get? hw', ← hkey]
      · exact hbuilt h' hh' key ⟨w, hw, hset, hkey⟩

/-- Along every history of trees whose widgets have identities of their own, nobody else has the
focus. -/
theorem Reached.focusSole (hs : s.Reached fun s f => s.Admits f ∧ f.Named) : s.FocusSole := by
  induction hs with
  | start strategy => exact ⟨nofun, nofun, nofun⟩
  | @swap s f now hs hf ih =>
    have hadmitted := hs.mono fun _ _ hf => hf.1
    rcases s.attempt_eq f now with heq | ⟨report, hswap⟩
    · rw [heq]
      exact ih
    · obtain ⟨hadmits, hnamed⟩ := hf (swap_accepts hswap)
      exact ih.swap hadmitted.focusHeld hadmitted.coherent hadmits hnamed hswap
  | stir hs ht ih => exact ih.stirs (hs.mono fun _ _ hf => hf.1).coherent ht

/-! ## Who has the focus -/

/-- The widget is shown. -/
def Shows (s : Screen) (h : Handle) (w : Widget) : Prop :=
  h ∈ s.surface.handles ∧ s.pool.get? h = some w

/-- The surface and the widgets agree on who has the focus. -/
structure FocusCoherent (s : Screen) : Prop where
  /-- The widget that the surface takes to have the focus is shown and has it, and no other widget
  that is shown has. -/
  held : ∀ id, s.surface.focused = some id → ∃ h w, s.Shows h w ∧ w.key = id ∧
    w.touched.focused = true ∧ ∀ h' w', s.Shows h' w' → h' ≠ h → w'.touched.focused = false
  /-- Where the surface takes nobody to have the focus, nobody has it. -/
  nobody : s.surface.focused = none → ∀ h w, s.Shows h w → w.touched.focused = false

/-- Along every history the surface and the widgets agree. -/
theorem Reached.focusCoherent (hs : s.Reached fun s f => s.Admits f ∧ f.Named) :
    s.FocusCoherent := by
  have hadmitted := hs.mono fun _ _ hf => hf.1
  have hcoherent := hadmitted.coherent
  have hsole := hs.focusSole
  have hflag : ∀ h w, s.Shows h w → w.touched.focused = true → s.surface.focused = some w.key :=
    fun h w hw hset => hsole.flagged h hw.1 w.key ⟨w, hw.2, hset, rfl⟩
  constructor
  · intro id hid
    have hne : id ≠ "" := by
      rintro rfl
      exact hsole.focused_ne hid
    obtain ⟨h, w, hlive, hw, hset⟩ := hadmitted.focusHeld id hid hne
    have hkey : s.pool.key h = id := hcoherent.sound.pool.key_eq hlive
    have hshown := hcoherent.shown id h hlive
    refine ⟨h, w, ⟨hshown, hw⟩, ?_, hset, fun h' w' hw' hother => ?_⟩
    · rw [← WidgetPool.key_of_get? hw, hkey]
    · rw [← Bool.not_eq_true]
      intro hset'
      have hkey' : id = w'.key := Option.some.inj (hid.symm.trans (hflag h' w' hw' hset'))
      have hid' : s.pool.key h' = s.pool.key h := by
        rw [WidgetPool.key_of_get? hw'.2, hkey, hkey']
      exact hother (hcoherent.eq_of_key_eq hw'.1 hshown hid' (hsole.named h' hw'.1))
  · intro hnone h w hw
    rw [← Bool.not_eq_true]
    intro hset
    cases hnone.symm.trans (hflag h w hw hset)

end Screen

end RemoteUi
