/-
# RemoteUi.Proofs.Screen.Outshining — when a frame dims what is shown.

A fragment fades in by its id: a frame looks for the first container with that id, whichever swap
has brought it there.  A swap of another fragment can put a container of full opacity in the place
of one that still fades in, or uncover one; such a swap *outshines* the fade (`Outshines`), and the
next frame takes the container back to where the fade has come to.  As long as no swap does that, no
frame makes any container darker; and after one that does, a frame does
(`brightens_throughout_iff`).

* One surface is brighter than another (`Surface.Brightens`) if it shows the same containers in the
  same order, none of them darker.  This speaks of all containers, and not only of those that a fade
  is known of.
* The invariant of a run is `Brightening`: everything is lit, and no fragment that fades in is
  brighter than its fade has come to at that time.  It is kept by frames, by the dimming of a
  fragment that waits for an answer, and by every swap that outshines nothing; and it grows with
  time (`Brightening.mono`), as a fade does.
* From the invariant it follows that a frame only ever raises opacities (`Brightening.brightens`),
  one fragment after the other.
* Conversely the frame at the time of the swap darkens what was outshone (`Outshines.darkens`).

Opacities are compared as numbers of single precision.  That a fade grows there is shown elsewhere,
for durations and times that fit the clock of the program (`InRange`), and that is the reason for
the bounds here.  The last section has a page that is renewed while a fragment in it fades in.
-/
import RemoteUi.Proofs.Screen.Brightening
import RemoteUi.Proofs.Screen.Opacity
import RemoteUi.Proofs.Screen.Settling
import RemoteUi.Proofs.Screen.Visibility

namespace RemoteUi

open Rendered (box? leaves leaves_append everyBox_node EveryBox)

/-! ## Brighter surfaces -/

/-- The same container, and no darker. -/
structure Box.Brightens (b b' : Box) : Prop where
  same : b' = { b with opacity := b'.opacity }
  le : b.opacity ≤ b'.opacity

namespace Rendered

mutual
/-- The first container that satisfies `p` is the first of all in document order. -/
theorem find?_leaves (p : Box → Bool) :
    ∀ r : Rendered, (r.find? p).map Panel.box = (leaves box? [r]).find? p
  | .container box children => by
    rw [leaves_singleton_container]
    show _ = List.find? p (box :: leaves box? children)
    rw [find?, List.find?_cons]
    cases p box with
    | true => rfl
    | false => exact findIn?_leaves p children
  | .markup _ _ _ => rfl
  | .widget _ => rfl
  | .group _ _ => rfl

theorem findIn?_leaves (p : Box → Bool) :
    ∀ rs : List Rendered, (findIn? p rs).map Panel.box = (leaves box? rs).find? p
  | [] => rfl
  | r :: rest => by
    have hfirst := find?_leaves p r
    rw [leaves_cons, List.find?_append, ← hfirst, ← findIn?_leaves p rest, findIn?]
    cases r.find? p with
    | some panel => rfl
    | none => rfl
end

end Rendered

/-- A surface of which all opacities are numbers is no darker than itself. -/
theorem brightens_self {bs : List Box} (h : ∀ b ∈ bs, Lit b.opacity) :
    List.Forall₂ Box.Brightens bs bs :=
  List.forall₂_same.mpr fun b hb => ⟨rfl, (h b hb).le_refl⟩

namespace Surface

variable {s t u : Surface} {id : String} {opacity : Float32}

/-- The presentations of the containers shown, in document order. -/
def boxes (s : Surface) : List Box :=
  (s.root.map Panel.boxes).getD []

/-- The same containers are shown, and none is darker. -/
def Brightens (s t : Surface) : Prop :=
  List.Forall₂ Box.Brightens s.boxes t.boxes

/-- The root comes first, and then what it holds. -/
theorem boxes_eq {r : Panel} (hroot : s.root = some r) : s.boxes = Rendered.leaves box? [r.node] := by
  rw [boxes, hroot, Panel.node, Rendered.leaves_singleton_container]
  rfl

theorem every_iff_boxes {P : Box → Prop} : s.Every P ↔ ∀ b ∈ s.boxes, P b := by
  unfold Every boxes
  cases s.root with
  | none => simp
  | some r => simp

/-- The opacity of a fragment is that of the first container that is a root of it. -/
theorem opacity?_eq (s : Surface) (id : String) :
    s.opacity? id = (s.boxes.find? (Box.isFragment id)).map Box.opacity := by
  unfold opacity? fragment?
  cases hroot : s.root with
  | none =>
    rw [boxes, hroot]
    rfl
  | some r =>
    rw [boxes_eq hroot, ← Rendered.find?_leaves, Option.map_map]
    rfl

theorem Every.of_opacity? {P : Float32 → Prop} (hs : s.Every fun b => P b.opacity)
    (h : s.opacity? id = some opacity) : P opacity := by
  rw [opacity?_eq] at h
  obtain ⟨b, hb, rfl⟩ := Option.map_eq_some_iff.mp h
  exact every_iff_boxes.mp hs b (List.mem_of_find?_eq_some hb)

/-- On a brighter surface a fragment is no darker. -/
theorem Brightens.opacity? (h : s.Brightens t) (hopacity : s.opacity? id = some opacity) :
    ∃ opacity', t.opacity? id = some opacity' ∧ opacity ≤ opacity' := by
  rw [opacity?_eq] at hopacity
  obtain ⟨b, hb, rfl⟩ := Option.map_eq_some_iff.mp hopacity
  unfold Brightens at h
  rw [opacity?_eq]
  generalize s.boxes = bs at h hb
  generalize t.boxes = bs' at h
  -- what comes before the root of the fragment is no root of it on either surface
  induction h with
  | nil => cases hb
  | @cons b₁ b₁' bs bs' hb₁ hbs ih =>
    have hid : b₁'.isFragment id = b₁.isFragment id := by
      rw [hb₁.same]
      rfl
    rw [List.find?_cons] at hb ⊢
    rw [hid]
    cases hfirst : b₁.isFragment id with
    | true =>
      rw [hfirst] at hb
      obtain rfl := Option.some.inj hb
      exact ⟨b₁'.opacity, rfl, hb₁.le⟩
    | false =>
      rw [hfirst] at hb
      exact ih hb

/-- Opacities are ordered as long as they are numbers between nothing and full. -/
theorem Brightens.trans (h : s.Brightens t) (h' : t.Brightens u)
    (hs : s.Every fun b => Lit b.opacity) (ht : t.Every fun b => Lit b.opacity)
    (hu : u.Every fun b => Lit b.opacity) : s.Brightens u := by
  rw [every_iff_boxes] at hs ht hu
  unfold Brightens at h h' ⊢
  generalize s.boxes = bs at hs h
  generalize t.boxes = bs' at ht h h'
  generalize u.boxes = bs'' at hu h'
  induction h generalizing bs'' with
  | nil =>
    cases h'
    exact .nil
  | @cons b b' bs bs' hb hbs ih =>
    cases h' with
    | @cons _ b'' _ bs'' hb' hbs' =>
      obtain ⟨hlit, hs⟩ := List.forall_mem_cons.mp hs
      obtain ⟨hlit', ht⟩ := List.forall_mem_cons.mp ht
      obtain ⟨hlit'', hu⟩ := List.forall_mem_cons.mp hu
      refine .cons ⟨?_, hlit.le_trans hlit' hlit'' hb.le hb'.le⟩ (ih hs ht bs'' hu hbs')
      rw [hb'.same, hb.same]

/-- A fragment that is set to an opacity no less than its own makes the surface brighter. -/
theorem brightens_fade (hs : s.Every fun b => Lit b.opacity)
    (hle : ∀ old, s.opacity? id = some old → old ≤ opacity) :
    s.Brightens (s.fade id opacity) := by
  rw [every_iff_boxes] at hs
  cases hold : s.fragment? id with
  | none =>
    rw [fade, edit_eq_self hold]
    exact brightens_self hs
  | some old =>
    obtain ⟨root, hroot, hfind⟩ := Option.bind_eq_some_iff.mp hold
    -- one container is set, and those before and after it are as they were
    obtain ⟨pre, post, hpre, hedit⟩ := Rendered.leaves_edit? Rendered.ofNodes_box? hfind
    obtain ⟨r', hr', hleaves⟩ :=
      hedit fun p => { p with box := { p.box with opacity := opacity } }
    obtain ⟨root', rfl⟩ := Rendered.edit?_node hr'
    have hbrighter : old.box.opacity ≤ opacity := hle old.box.opacity (by rw [opacity?, hold]; rfl)
    have hparts := hs
    unfold Brightens
    rw [fade, edit_eq hroot hr', boxes_eq hroot, boxes_eq (r := root') rfl, hpre, hleaves]
    rw [boxes_eq hroot, hpre, List.forall_mem_append, List.forall_mem_append] at hparts
    obtain ⟨⟨hbefore, hinside⟩, hafter⟩ := hparts
    rw [Panel.node, Rendered.leaves_singleton_container] at hinside
    rw [Panel.node, Panel.node, Rendered.leaves_singleton_container,
      Rendered.leaves_singleton_container]
    obtain ⟨-, hchildren⟩ := List.forall_mem_cons.mp hinside
    refine List.rel_append (List.rel_append (brightens_self hbefore) ?_) (brightens_self hafter)
    exact .cons ⟨rfl, hbrighter⟩ (brightens_self hchildren)

end Surface

namespace Screen

/-! ## Frames -/

variable {s s' : Screen} {f : Fragment} {id : String} {duration now now' : Nat}

/-- Fragments, each no brighter than what it is set to, make the surface brighter one after the
other. -/
theorem brightens_faded {entries : List (String × Transition)} {surface : Surface}
    (hids : entries.Pairwise fun e e' => e.1 ≠ e'.1)
    (hsurface : surface.Every fun b => Lit b.opacity)
    (h : ∀ e ∈ entries, e.2.phase = .transitioning →
      Lit (opacityAt e.2.start (e.2.progress duration now)) ∧
        ∀ old, surface.opacity? e.1 = some old →
          old ≤ opacityAt e.2.start (e.2.progress duration now)) :
    surface.Brightens (faded entries duration now surface) := by
  induction entries generalizing surface with
  | nil => exact brightens_self (Surface.every_iff_boxes.mp hsurface)
  | cons e rest ih =>
    obtain ⟨hfirst, hids⟩ := List.pairwise_cons.mp hids
    obtain ⟨he, hrest⟩ := List.forall_mem_cons.mp h
    have hstep : faded (e :: rest) duration now surface = faded rest duration now
        (if e.2.phase = .transitioning then
          surface.fade e.1 (opacityAt e.2.start (e.2.progress duration now)) else surface) := rfl
    rw [hstep]
    by_cases hphase : e.2.phase = .transitioning
    · obtain ⟨hlit, hle⟩ := he hphase
      rw [if_pos hphase]
      generalize opacityAt e.2.start (e.2.progress duration now) = opacity at hlit hle
      have hfaded : (surface.fade e.1 opacity).Every fun b => Lit b.opacity :=
        hsurface.fade e.1 fun _ _ => hlit
      -- the other fragments are as bright as before
      have hothers := ih hids hfaded fun e' he' hphase' => by
        obtain ⟨hlit', hle'⟩ := hrest e' he' hphase'
        refine ⟨hlit', fun old hold => hle' old ?_⟩
        rwa [Surface.opacity?_fade_of_ne (hfirst e' he')] at hold
      refine (Surface.brightens_fade hsurface hle).trans hothers hsurface hfaded ?_
      exact faded_induction (Q := fun surface => surface.Every fun b => Lit b.opacity) hfaded
        fun e' he' hphase' _ hs => hs.fade e'.1 fun _ _ => (hrest e' he' hphase').1
    · rw [if_neg hphase]
      exact ih hids hsurface hrest

/-! ## What the screen keeps while its fragments fade in -/

/-- Everything is lit, and no fragment that fades in is brighter than its fade has come to. -/
structure Brightening (s : Screen) (duration now : Nat) : Prop where
  strategy : s.strategy = .crossFade duration
  lit : s.surface.Every fun b => Lit b.opacity
  start_lit : ∀ id t, s.transitions.get? id = some t → t.phase = .transitioning → Lit t.start
  le : ∀ id t opacity, s.transitions.get? id = some t → t.phase = .transitioning →
    s.surface.opacity? id = some opacity → opacity ≤ opacityAt t.start (t.progress duration now)

/-- A time since a swap is no longer than the time itself. -/
theorem InRange.sub (h : InRange now) (started : Nat) : InRange (now - started) :=
  lt_of_le_of_lt (Nat.sub_le _ _) h

section

variable (hpos : 0 < duration) (hduration : InRange duration)

include hpos hduration

/-- As time goes on a fade only grows. -/
theorem Brightening.mono (hs : s.Brightening duration now) (hle : now ≤ now')
    (hnow' : InRange now') : s.Brightening duration now' where
  strategy := hs.strategy
  lit := hs.lit
  start_lit := hs.start_lit
  le := by
    intro id t opacity ht hphase hopacity
    have hstart := hs.start_lit id t ht hphase
    have hnow : InRange now := lt_of_le_of_lt hle hnow'
    exact (hs.lit.of_opacity? hopacity).le_trans
      (hstart.opacityAt hpos hduration (InRange.sub hnow t.started))
      (hstart.opacityAt hpos hduration (InRange.sub hnow' t.started))
      (hs.le id t opacity ht hphase hopacity)
      (hstart.opacityAt_le_opacityAt hpos hduration (InRange.sub hnow' t.started)
        (Nat.sub_le_sub_right hle _))

/-- A frame makes nothing darker. -/
theorem Brightening.brightens (hs : s.Brightening duration now) (hnow : InRange now) :
    s.surface.Brightens (s.tick now).1.surface := by
  unfold tick
  rw [hs.strategy]
  refine brightens_faded ?_ hs.lit fun e he hphase => ?_
  · exact s.transitions.sorted.imp fun hlt => String.ne_of_lt hlt
  · have ht := Table.get?_eq_some_iff.mpr he
    refine ⟨(hs.start_lit e.1 e.2 ht hphase).opacityAt hpos hduration (InRange.sub hnow _), ?_⟩
    exact fun old hold => hs.le e.1 e.2 old ht hphase hold

/-- After a frame every fragment that fades in is where its fade is. -/
theorem Brightening.tick (hs : s.Brightening duration now) (hnow : InRange now) :
    (s.tick now).1.Brightening duration now := by
  have hlit : ∀ id t, s.transitions.get? id = some t → t.phase = .transitioning →
      Lit (opacityAt t.start (t.progress duration now)) := fun id t ht hphase =>
    (hs.start_lit id t ht hphase).opacityAt hpos hduration (InRange.sub hnow _)
  have htick : (s.tick now).1 = { s with
      transitions := s.transitions.mapVal fun _ t => t.tick duration now
      surface := faded s.transitions.entries duration now s.surface } := by
    rw [Screen.tick, hs.strategy]
  -- a swap that is still on its way was so before
  have hbefore : ∀ id t, (s.tick now).1.transitions.get? id = some t → t.phase = .transitioning →
      s.transitions.get? id = some t := by
    intro id t ht hphase
    rw [htick] at ht
    obtain ⟨t', ht', rfl⟩ := Option.map_eq_some_iff.mp ((Table.get?_mapVal _ _ _).symm.trans ht)
    rcases tick_eq_or_settled t' duration now with hsame | hsettled
    · rw [hsame]
      exact ht'
    · rw [hsettled] at hphase
      cases hphase
  constructor
  · rw [htick]
    exact hs.strategy
  · rw [htick]
    refine faded_induction (Q := fun surface => surface.Every fun b => Lit b.opacity) hs.lit ?_
    intro e he hphase surface hsurface
    exact hsurface.fade e.1 fun _ _ => hlit e.1 e.2 (Table.get?_eq_some_iff.mpr he) hphase
  · exact fun id t ht hphase => hs.start_lit id t (hbefore id t ht hphase) hphase
  · intro id t opacity ht hphase hopacity
    have ht := hbefore id t ht hphase
    rw [opacity?_tick_of_fading hs.strategy ht hphase] at hopacity
    obtain ⟨_, -, rfl⟩ := Option.map_eq_some_iff.mp hopacity
    exact (hlit id t ht hphase).le_refl

/-- A fragment may be dimmed while it fades in. -/
theorem Brightening.dim (hs : s.Brightening duration now) (hnow : InRange now) (id : String) :
    Brightening { s with surface := s.surface.fade id pendingOpacity } duration now where
  strategy := hs.strategy
  lit := hs.lit.fade id fun _ _ => lit_pendingOpacity
  start_lit := hs.start_lit
  le := by
    intro other t opacity ht hphase hopacity
    have hopacity : (s.surface.fade id pendingOpacity).opacity? other = some opacity := hopacity
    by_cases hother : id = other
    · -- half opacity is where a fade starts at the earliest
      subst hother
      rw [Surface.opacity?_fade] at hopacity
      obtain ⟨_, -, rfl⟩ := Option.map_eq_some_iff.mp hopacity
      have hstart := hs.start_lit id t ht hphase
      exact (hstart.opacityAt hpos hduration (InRange.sub hnow _)).pendingOpacity_le
    · rw [Surface.opacity?_fade_of_ne hother] at hopacity
      exact hs.le other t opacity ht hphase hopacity

end

/-! ## Swaps -/

/-- A swap shows a fragment other than its own brighter than the fade that is under way for it has
come to. -/
def Outshines (s : Screen) (f : Fragment) (now : Nat) : Prop :=
  ∃ id duration t opacity, id ≠ f.id ∧ s.strategy = .crossFade duration ∧
    s.transitions.get? id = some t ∧ t.phase = .transitioning ∧
    (s.attempt f now).surface.opacity? id = some opacity ∧
    ¬ opacity ≤ opacityAt t.start (t.progress duration now)

theorem transition_crossFade (duration swapId : Nat) (start : Float32) (now : Nat) :
    transition (.crossFade duration) swapId start now = ⟨swapId, .transitioning, start, now⟩ :=
  rfl

/-- The opacity of a tree that comes in is that of the outgoing one, or full. -/
theorem lit_incoming (hs : s.surface.Every fun b => Lit b.opacity) (f : Fragment) :
    Lit (incoming (s.built f) (s.surface.fragment? f.id)).box.opacity := by
  cases hold : s.surface.fragment? f.id with
  | none => exact lit_one
  | some old =>
    have hopacity : s.surface.opacity? f.id = some old.box.opacity := by
      rw [Surface.opacity?, hold]
      rfl
    exact hs.of_opacity? hopacity

/-- What a swap inserts has an opacity of its own, or that of what it replaces. -/
theorem lit_swap {report : SwapReport} (hs : s.surface.Every fun b => Lit b.opacity)
    (hstrategy : s.strategy = .crossFade duration) (h : s.swap f now = .ok (s', report)) :
    s'.surface.Every fun b => Lit b.opacity := by
  obtain ⟨focused, hsurface⟩ := surface_swap h
  have hincoming := everyBox_incoming (P := fun b => Lit b.opacity) (fun _ _ => lit_one)
    (fun _ _ hb => hb) (fun b offsets hb => by rwa [Box.opacity_restoreScroll]) s f
    (s.surface.fragment? f.id) fun _ _ => lit_incoming hs f
  rw [hsurface, nextSurface, hstrategy]
  exact (hs.replace f.id hincoming).of_root_eq rfl

section

variable (hpos : 0 < duration) (hduration : InRange duration)

include hpos hduration

/-- A swap that outshines no fade of another fragment keeps the invariant. -/
theorem Brightening.swap (hs : s.Brightening duration now) (hnow : InRange now)
    (houtshines : ¬ s.Outshines f now) : (s.attempt f now).Brightening duration now := by
  rcases s.attempt_eq f now with heq | ⟨report, h⟩
  · rw [heq]
    exact hs
  have hstrategy : (s.attempt f now).strategy = .crossFade duration := by
    obtain ⟨focused, pool, -, heq⟩ := swap_ok h
    rw [heq]
    exact hs.strategy
  have htransitions : ∀ id, (s.attempt f now).transitions.get? id =
      (s.nextTransitions f now).get? id := by
    obtain ⟨focused, pool, -, heq⟩ := swap_ok h
    rw [heq]
    exact fun _ => rfl
  have hincoming := lit_incoming hs.lit f
  refine ⟨hstrategy, lit_swap hs.lit hs.strategy h, ?_, ?_⟩
  · intro id t ht hphase
    rw [htransitions, get?_nextTransitions, hs.strategy, transition_crossFade] at ht
    split at ht
    · obtain rfl := Option.some.inj ht
      exact hincoming
    · exact hs.start_lit id t ht hphase
  · intro id t opacity ht hphase hopacity
    rw [htransitions, get?_nextTransitions, hs.strategy, transition_crossFade] at ht
    by_cases hid : id = f.id
    · -- the fragment itself starts with the opacity that it is shown at
      rw [if_pos hid] at ht
      obtain rfl := Option.some.inj ht
      have hshown : (s.attempt f now).surface.opacity? f.id =
          some (incoming (s.built f) (s.surface.fragment? f.id)).box.opacity := by
        obtain ⟨focused, hsurface⟩ := surface_swap h
        have hreplaced := Surface.fragment?_replace
          (s.isFragment_incoming f (s.surface.fragment? f.id)) (swap_accepts h)
        rw [hsurface, nextSurface, hs.strategy, Surface.opacity?]
        exact congrArg (Option.map fun p => p.box.opacity) hreplaced
      rw [hid, hshown] at hopacity
      obtain rfl := Option.some.inj hopacity
      exact hincoming.le_opacityAt hpos hduration (InRange.sub hnow _)
    · rw [if_neg hid] at ht
      by_contra hle
      exact houtshines ⟨id, duration, t, opacity, hid, hs.strategy, ht, hphase, hopacity, hle⟩

end

/-! ## Runs -/

/-- What is done to a screen whose fragments fade in. -/
inductive Move where
  | swap (f : Fragment) (now : Nat)
  /-- A request goes out that concerns a fragment. -/
  | dim (id : String)
  | tick (now : Nat)

/-- The time of a move, if it has one. -/
def Move.time? : Move → Option Nat
  | .swap _ now => some now
  | .dim _ => none
  | .tick now => some now

/-- The screen after a move; a refused swap changes nothing. -/
def move (s : Screen) : Move → Screen
  | .swap f now => s.attempt f now
  | .dim id => { s with surface := s.surface.fade id pendingOpacity }
  | .tick now => (s.tick now).1

/-- The screen after some moves, from the start on. -/
def moved (duration : Nat) (ms : List Move) : Screen :=
  ms.foldl move (.empty (.crossFade duration))

/-- The times of some moves. -/
def times (ms : List Move) : List Nat :=
  ms.filterMap Move.time?

/-- The times of some moves can be told, and none is before an earlier one. -/
structure Timely (ms : List Move) : Prop where
  sorted : (times ms).Pairwise (· ≤ ·)
  inRange : ∀ now ∈ times ms, InRange now

/-- Nothing fades in on an empty screen. -/
theorem brightening_empty (duration now : Nat) :
    (empty (.crossFade duration)).Brightening duration now :=
  ⟨rfl, nofun, nofun, nofun⟩

variable {ms pre : List Move} {m : Move}

theorem moved_concat (duration : Nat) (pre : List Move) (m : Move) :
    moved duration (pre ++ [m]) = (moved duration pre).move m := by
  rw [moved, List.foldl_append]
  rfl

/-- The time of a last move comes last. -/
theorem times_concat (pre : List Move) (hm : m.time? = some now) :
    times (pre ++ [m]) = times pre ++ [now] := by
  rw [times, List.filterMap_append, List.filterMap_cons_some hm]
  rfl

theorem mem_times_concat (pre : List Move) (hm : m.time? = some now) : now ∈ times (pre ++ [m]) := by
  rw [times_concat pre hm]
  exact List.mem_append_right _ (List.mem_singleton_self now)

/-- A move comes at a time that can be told, and no move before it comes later. -/
theorem Timely.of_concat (hms : Timely ms) (hpre : pre ++ [m] <+: ms) (hm : m.time? = some now) :
    (∀ t ∈ times pre, t ≤ now) ∧ InRange now := by
  have htimes : times pre ++ [now] <+: times ms := times_concat pre hm ▸ hpre.filterMap Move.time?
  have hsorted := hms.sorted.sublist htimes.sublist
  rw [List.pairwise_append] at hsorted
  exact ⟨fun t ht => hsorted.2.2 t ht now (List.mem_singleton_self now),
    hms.inRange now (htimes.subset (List.mem_append_right _ (List.mem_singleton_self now)))⟩

section

variable (hpos : 0 < duration) (hduration : InRange duration)

include hpos hduration

/-- As long as no swap outshines a fade, no fragment is brighter than its fade has come to. -/
theorem brightening_moved (hms : Timely ms)
    (h : ∀ pre f now, pre ++ [.swap f now] <+: ms → ¬ (moved duration pre).Outshines f now)
    (pre : List Move) (hpre : pre <+: ms) (hnow : ∀ t ∈ times pre, t ≤ now)
    (hrange : InRange now) : (moved duration pre).Brightening duration now := by
  -- from the end, as what comes first is what the later moves find
  induction pre using List.reverseRecOn generalizing now with
  | nil => exact brightening_empty duration now
  | append_singleton pre m ih =>
    have ih := fun at' => @ih at' ((List.prefix_append _ _).trans hpre)
    rw [moved_concat]
    cases m with
    | swap f at' =>
      obtain ⟨hbefore, hrange'⟩ := hms.of_concat hpre rfl
      have hle := hnow at' (mem_times_concat pre rfl)
      exact ((ih at' hbefore hrange').swap hpos hduration hrange' (h pre f at' hpre)).mono hpos
        hduration hle hrange
    | dim id =>
      have htimes : times (pre ++ [.dim id]) = times pre := by
        rw [times, List.filterMap_append]
        exact List.append_nil _
      rw [htimes] at hnow
      exact (ih now hnow hrange).dim hpos hduration hrange id
    | tick at' =>
      obtain ⟨hbefore, hrange'⟩ := hms.of_concat hpre rfl
      have hle := hnow at' (mem_times_concat pre rfl)
      exact ((ih at' hbefore hrange').tick hpos hduration hrange').mono hpos hduration hle hrange

end

/-- A frame at the time of a swap that outshines a fade takes what it shows back to the fade. -/
theorem Outshines.darkens (h : s.Outshines f now) :
    ¬ (s.attempt f now).surface.Brightens ((s.attempt f now).tick now).1.surface := by
  obtain ⟨id, duration, t, opacity, hid, hstrategy, ht, hphase, hopacity, hle⟩ := h
  -- the fade is of another fragment, so that the swap leaves it under way
  have hkept : (s.attempt f now).strategy = .crossFade duration ∧
      (s.attempt f now).transitions.get? id = some t := by
    rcases s.attempt_eq f now with heq | ⟨report, hswap⟩
    · rw [heq]
      exact ⟨hstrategy, ht⟩
    · obtain ⟨focused, pool, -, heq⟩ := swap_ok hswap
      rw [heq]
      refine ⟨hstrategy, (get?_nextTransitions s f now id).trans ?_⟩
      rw [if_neg hid]
      exact ht
  intro hbrightens
  obtain ⟨opacity', hopacity', hbrighter⟩ := hbrightens.opacity? hopacity
  rw [opacity?_tick_of_fading hkept.1 hkept.2 hphase, hopacity] at hopacity'
  obtain rfl := Option.some.inj hopacity'
  exact hle hbrighter

/-- Frames make nothing darker along a run exactly when no swap of the run outshines a fade. -/
theorem brightens_throughout_iff (hpos : 0 < duration) (hduration : InRange duration)
    (hms : Timely ms) :
    (∀ pre now, pre <+: ms → (∀ t ∈ times pre, t ≤ now) → InRange now →
      (moved duration pre).surface.Brightens ((moved duration pre).tick now).1.surface) ↔
      ∀ pre f now, pre ++ [.swap f now] <+: ms → ¬ (moved duration pre).Outshines f now := by
  constructor
  · intro h pre f now hpre houtshines
    obtain ⟨hbefore, hrange⟩ := hms.of_concat hpre rfl
    have hbrightens := h (pre ++ [.swap f now]) now hpre (fun t ht => by
      rw [times_concat pre rfl, List.mem_append, List.mem_singleton] at ht
      rcases ht with ht | rfl
      · exact hbefore t ht
      · exact le_rfl) hrange
    rw [moved_concat] at hbrightens
    exact houtshines.darkens hbrightens
  · intro h pre now hpre hnow hrange
    exact (brightening_moved hpos hduration hms h pre hpre hnow hrange).brightens hpos hduration
      hrange

/-! ## A page that is shown anew -/

/-- A fragment inside a page is dimmed, and is on its way to full opacity when the page around it is
shown anew. -/
def renewal : List Move :=
  let node := fun id children => (.container (.ofId none) (some id) children : Node)
  let page : Fragment := ⟨"main", node "main" [node "side" []]⟩
  [.swap page 0, .tick (100 * nanosPerMilli), .dim "side",
    .swap ⟨"side", node "side" []⟩ (100 * nanosPerMilli), .swap page (110 * nanosPerMilli)]

theorem timely_renewal : Timely renewal where
  sorted := by decide
  inRange := by
    intro now hnow
    have hrange : ∀ now ∈ times renewal, now ≤ 110 * nanosPerMilli := by decide
    exact lt_of_le_of_lt (hrange now hnow) (by decide +kernel)

/-- The page is in full view, the fragment in it as well; the next frame takes the fragment back to
where the fade of the container that is gone would be by then. -/
theorem renewed_fragment_dimmed :
    Timely renewal ∧
      (moved (100 * nanosPerMilli) renewal).surface.opacity? "side" = some 1 ∧
      ((moved (100 * nanosPerMilli) renewal).tick (120 * nanosPerMilli)).1.surface.opacity? "side" =
        some (opacityAt pendingOpacity (progress (20 * nanosPerMilli) (100 * nanosPerMilli))) ∧
      ¬ (moved (100 * nanosPerMilli) renewal).surface.Brightens
        ((moved (100 * nanosPerMilli) renewal).tick (120 * nanosPerMilli)).1.surface := by
  have hfull : (moved (100 * nanosPerMilli) renewal).surface.opacity? "side" = some 1 := by
    decide +kernel
  have hdimmed : ((moved (100 * nanosPerMilli) renewal).tick
      (120 * nanosPerMilli)).1.surface.opacity? "side" =
        some (opacityAt pendingOpacity (progress (20 * nanosPerMilli) (100 * nanosPerMilli))) := by
    decide +kernel
  have hdarker : ¬ 1 ≤ opacityAt pendingOpacity
      (progress (20 * nanosPerMilli) (100 * nanosPerMilli)) := by
    decide +kernel
  -- the fade has come to less than full opacity after a fifth of its time
  refine ⟨timely_renewal, hfull, hdimmed, fun hbrightens => ?_⟩
  obtain ⟨opacity, hopacity, hle⟩ := hbrightens.opacity? hfull
  rw [hdimmed] at hopacity
  obtain rfl := Option.some.inj hopacity
  exact hdarker hle

/-- The equivalence at that run: its last swap outshines the fade. -/
theorem brightens_throughout_iff_renewal :
    0 < 100 * nanosPerMilli ∧ InRange (100 * nanosPerMilli) ∧ Timely renewal ∧
      ((∀ pre now, pre <+: renewal → (∀ t ∈ times pre, t ≤ now) → InRange now →
        (moved (100 * nanosPerMilli) pre).surface.Brightens
          ((moved (100 * nanosPerMilli) pre).tick now).1.surface) ↔
        ∀ pre f now, pre ++ [.swap f now] <+: renewal →
          ¬ (moved (100 * nanosPerMilli) pre).Outshines f now) :=
  have hpos : 0 < 100 * nanosPerMilli := by decide
  have hrange : InRange (100 * nanosPerMilli) := by
    show 100 * nanosPerMilli < Nat.pow 2 64 * nanosPerSecond
    decide +kernel
  ⟨hpos, hrange, timely_renewal, brightens_throughout_iff hpos hrange timely_renewal⟩

end Screen

end RemoteUi
