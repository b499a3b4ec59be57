/-
# RemoteUi.Proofs.Screen.Opacity — the opacity of a fragment.

A fragment that is fading in is drawn at an opacity of its own at every frame, whatever it was set
to in between.  This module says when a frame leaves the opacity of a fragment alone: if the
fragment is not fading in, and only then.

That it is not left alone otherwise is a matter of single precision.  Durations may be anything, and
for some of them a fade cannot be said to grow, or even to be a number.  What can be said is that no
fade stays at half opacity, which is the opacity of a fragment that waits for an answer: a fade
begins at the opacity that it starts with, and one that starts with half opacity ends at another
(`Transition.exists_ne_half`).  For this it suffices to know that zero times anything is zero or no
number (`Blank`), and that a number divided by itself is one or no number (`float_div_self`);
nothing has to be rounded.

On the surface, one fragment is found and edited independently of the others
(`Surface.opacity?_fade_of_ne`).  Each transition is of one fragment, so that a frame goes through
the table and sets every fragment once at most (`opacity?_tick_of_fading`, `opacity?_tick`).  A
fragment that is dimmed and not fading in (`Dimmed`) stays so over any number of frames.
-/
import Mathlib
import RemoteUi.Proofs.Screen.Edit
import RemoteUi.Proofs.Single.Arithmetic
import RemoteUi.Screen.Swap

namespace RemoteUi

open Float.Model (UnpackedFloat)

/-! ## Single precision -/

/-- No number, or zero of either sign. -/
def Blank (x : Float32) : Prop :=
  x.toModel.unpack = .notANumber ∨ ∃ sign, x.toModel.unpack = .zero sign

variable {x y : Float32}

/-- What is blank before it is packed is blank. -/
theorem blank_pack {u : UnpackedFloat} (h : u = .notANumber ∨ ∃ sign, u = .zero sign) :
    Blank ⟨.pack u⟩ := by
  rcases h with rfl | ⟨sign, rfl⟩
  · exact Or.inl UnpackedFloat.unpack_packedNaN
  · exact Or.inr ⟨sign, UnpackedFloat.unpack_packedZero⟩

theorem blank_zero : Blank 0 := Or.inr ⟨.positive, rfl⟩

/-- Nothing divided by anything is nothing, or no number. -/
theorem Blank.div (hx : Blank x) (y : Float32) : Blank (x / y) := by
  show Blank ⟨.pack (UnpackedFloat.div .binary32 x.toModel.unpack y.toModel.unpack)⟩
  refine blank_pack ?_
  rcases hx with hx | ⟨sign, hx⟩
  · rw [hx]
    exact Or.inl rfl
  · rw [hx]
    cases y.toModel.unpack <;> simp [UnpackedFloat.div]

/-- Anything times nothing is nothing, or no number. -/
theorem Blank.mul (hy : Blank y) (x : Float32) : Blank (x * y) := by
  show Blank ⟨.pack (UnpackedFloat.mul .binary32 x.toModel.unpack y.toModel.unpack)⟩
  refine blank_pack ?_
  rcases hy with hy | ⟨sign, hy⟩
  · rw [hy]
    cases x.toModel.unpack <;> simp [UnpackedFloat.mul]
  · rw [hy]
    cases x.toModel.unpack <;> simp [UnpackedFloat.mul]

/-- A number of single precision is what it is packed from. -/
theorem pack_unpack (x : Float32) : ⟨.pack x.toModel.unpack⟩ = x := by
  obtain ⟨⟨b, hb⟩⟩ := x
  have hpack := UnpackedFloat.pack_unpack_of_valid hb
  apply Float32.toBits_inj.mp
  exact UInt32.toBitVec_inj.mp hpack

/-- To add nothing changes nothing, unless the result is nothing itself. -/
theorem Blank.add (hy : Blank y) (x : Float32) : x + y = x ∨ Blank (x + y) := by
  have hsum : x + y = ⟨.pack (UnpackedFloat.add .binary32 x.toModel.unpack y.toModel.unpack)⟩ := rfl
  have hx := pack_unpack x
  rw [hsum]
  rcases hy with hy | ⟨sign, hy⟩
  · refine Or.inr (blank_pack (Or.inl ?_))
    rw [hy]
    cases x.toModel.unpack <;> rfl
  · rw [hy]
    cases hunpacked : x.toModel.unpack with
    | notANumber => exact Or.inr (blank_pack (Or.inl rfl))
    | zero sign' =>
      refine Or.inr (blank_pack (Or.inr ?_))
      cases sign <;> cases sign' <;> exact ⟨_, rfl⟩
    | infinity sign' | finite sign' =>
      left
      rw [hunpacked] at hx
      exact hx

/-- What is blank is not above one, and is not made so. -/
theorem Blank.clampUnit (hx : Blank x) : Blank (clampUnit x) := by
  have hone : ¬ 1 < x := by
    have hunpack : (1 : Float32).toModel.unpack =
        .finite .positive (2 ^ 23) (-23) (by decide) := rfl
    rw [Single.float_lt_iff, hunpack]
    rcases hx with hx | ⟨sign, hx⟩ <;> rw [hx] <;> exact Bool.false_ne_true
  unfold RemoteUi.clampUnit
  rw [if_neg hone]
  split
  · exact blank_zero
  · exact hx

/-- Half opacity is a number other than zero. -/
theorem not_blank_half : ¬ Blank 0.5 := by
  have hhalf : (0.5 : Float32).toModel.unpack = .finite .positive (2 ^ 23) (-24) (by decide) := by
    rfl
  rw [Blank, hhalf]
  simp

/-- A number divided by itself is one, unless it is none. -/
theorem float_div_self (x : Float32) : x / x = 1 ∨ x / x = .nan := by
  have hquotient : x / x =
      ⟨.pack (UnpackedFloat.div .binary32 x.toModel.unpack x.toModel.unpack)⟩ := rfl
  rw [hquotient]
  cases x.toModel.unpack with
  | notANumber | zero sign | infinity sign => exact Or.inr rfl
  | finite sign m e hm =>
    left
    -- the quotient of a mantissa with itself has no rest
    have hcore : UnpackedFloat.divCore .binary32 m e m e = (2 ^ 24, -24, .exact) := by
      unfold UnpackedFloat.divCore
      rw [Int.sub_self, Int.sub_self]
      show ((m <<< 24) / m, -24, UnpackedFloat.accuracyOfFraction ((m <<< 24) % m) m) = _
      rw [Nat.shiftLeft_eq, Nat.mul_div_cancel_left _ hm, Nat.mul_mod_right]
      rfl
    have hsign : sign / sign = .positive := by cases sign <;> rfl
    show Float32.ofModel (.pack (UnpackedFloat.roundWithAccuracy .binary32 (sign / sign)
      (UnpackedFloat.divCore .binary32 m e m e).1 (UnpackedFloat.divCore .binary32 m e m e).2.1
      (UnpackedFloat.divCore .binary32 m e m e).2.2)) = 1
    rw [hcore, hsign]
    rfl

/-- A fade starts at the opacity that it starts with, unless that cannot be told. -/
theorem opacityAt_start (start : Float32) (duration : Nat) :
    opacityAt start (progress 0 duration) = start ∨
      Blank (opacityAt start (progress 0 duration)) := by
  have hseconds : Blank (seconds 0) := Or.inr ⟨.positive, rfl⟩
  have hprogress : Blank (progress 0 duration) := (hseconds.div (seconds duration)).clampUnit
  exact (hprogress.mul (1 - start)).add start

/-- A fade from half opacity does not end there. -/
theorem opacityAt_half_ne (duration : Nat) :
    opacityAt pendingOpacity (progress duration duration) ≠ pendingOpacity := by
  unfold progress
  rcases float_div_self (seconds duration) with hone | hnan
  · rw [hone]
    decide +kernel
  · rw [hnan]
    decide +kernel

namespace Transition

/-- There is a time at which a fade is not at half opacity. -/
theorem exists_ne_half (t : Transition) (duration : Nat) :
    ∃ now, opacityAt t.start (t.progress duration now) ≠ pendingOpacity := by
  by_cases hstart : t.start = pendingOpacity
  · -- a fade from half opacity is looked at when it ends
    refine ⟨t.started + duration, ?_⟩
    rw [Transition.progress, Nat.add_sub_cancel_left, hstart]
    exact opacityAt_half_ne duration
  · -- and any other when it starts
    refine ⟨t.started, fun heq => ?_⟩
    rw [Transition.progress, Nat.sub_self] at heq
    rcases opacityAt_start t.start duration with hsame | hblank
    · exact hstart (hsame.symm.trans heq)
    · exact not_blank_half (heq ▸ hblank : Blank pendingOpacity)

end Transition

/-! ## The opacity of a fragment -/

namespace Rendered

variable {p q : Box → Bool} {f : Panel → Panel}

mutual
/-- An edit of one container leaves the presentation of another, which is found as before. -/
theorem find?_edit? (hf : ∀ panel, p panel.box = true → q panel.box = false ∧
      q (f panel).box = false ∧ (f panel).children = panel.children) :
    ∀ {r r' : Rendered}, r.edit? p f = some r' →
      (r'.find? q).map Panel.box = (r.find? q).map Panel.box
  | .container box children, r', h => by
    simp only [edit?] at h
    split at h
    · rename_i hp
      obtain rfl := Option.some.inj h
      obtain ⟨hbefore, hafter, hchildren⟩ := hf ⟨box, children⟩ hp
      have hbefore : q box = false := hbefore
      simp [Panel.node, find?, hbefore, hafter, hchildren]
    · obtain ⟨children', hedit, rfl⟩ := Option.map_eq_some_iff.mp h
      have hin := findIn?_editIn? hf hedit
      cases hq : q box <;> simp [find?, hq, hin]
  | .markup _ _ _, _, h => by cases h
  | .widget _, _, h => by cases h
  | .group _ _, _, h => by cases h

theorem findIn?_editIn? (hf : ∀ panel, p panel.box = true → q panel.box = false ∧
      q (f panel).box = false ∧ (f panel).children = panel.children) :
    ∀ {rs rs' : List Rendered}, editIn? p f rs = some rs' →
      (findIn? q rs').map Panel.box = (findIn? q rs).map Panel.box
  | [], _, h => by cases h
  | r :: rest, rs', h => by
    simp only [editIn?] at h
    split at h
    · rename_i r' hr
      obtain rfl := Option.some.inj h
      have hfirst := find?_edit? hf hr
      simp only [findIn?]
      cases hfound : r.find? q with
      | none =>
        rw [hfound, Option.map_none] at hfirst
        rw [Option.map_eq_none_iff.mp hfirst]
      | some panel =>
        rw [hfound, Option.map_some] at hfirst
        obtain ⟨panel', hfound', hbox⟩ := Option.map_eq_some_iff.mp hfirst
        simp [hfound', hbox]
    · obtain ⟨rest', hrest, rfl⟩ := Option.map_eq_some_iff.mp h
      have hlater := findIn?_editIn? hf hrest
      simp only [findIn?]
      cases r.find? q <;> simp [hlater]
end

end Rendered

namespace Surface

variable {s : Surface} {id other : String} {opacity : Float32}

/-- The opacity of a fragment, if it is shown. -/
def opacity? (s : Surface) (id : String) : Option Float32 :=
  (s.fragment? id).map fun p => p.box.opacity

/-- A fragment is faded where it is shown. -/
theorem opacity?_fade (s : Surface) (id : String) (opacity : Float32) :
    (s.fade id opacity).opacity? id = (s.opacity? id).map fun _ => opacity := by
  rw [opacity?, fragment?_fade, opacity?, Option.map_map, Option.map_map]
  rfl

/-- A fragment is not faded with another one. -/
theorem opacity?_fade_of_ne (hne : other ≠ id) (s : Surface) (opacity : Float32) :
    (s.fade other opacity).opacity? id = s.opacity? id := by
  -- the opacity is part of how a container is drawn, and an edit of another one leaves that
  have hview : ∀ t : Surface, t.opacity? id =
      ((t.root.bind fun r => r.find? (Box.isFragment id)).map Panel.box).map Box.opacity := by
    intro t
    rw [opacity?, fragment?, Option.map_map]
    rfl
  rw [hview, hview]
  refine congrArg (Option.map Box.opacity) ?_
  unfold fade edit
  split
  · rename_i root' hedit
    obtain ⟨root, hroot, hedit⟩ := Option.bind_eq_some_iff.mp hedit
    obtain ⟨r, hr, hpanel⟩ := Option.bind_eq_some_iff.mp hedit
    obtain rfl := Rendered.eq_node_of_panel? hpanel
    rw [hroot, Option.bind_some, Option.bind_some]
    refine Rendered.find?_edit? (fun panel hpanel => ?_) hr
    have hother : panel.box.isFragment id = false := by
      rw [Box.isFragment, beq_iff_eq.mp hpanel]
      exact beq_false_of_ne fun heq => hne (Option.some.inj heq)
    exact ⟨hother, hother, rfl⟩
  · rfl

end Surface

/-! ## Time -/

namespace Screen

variable {s : Screen} {id : String} {duration now : Nat}

/-- The fragment is on its way to full opacity: its latest swap is not over. -/
def Fading (s : Screen) (id : String) : Prop :=
  ∃ duration t, s.strategy = .crossFade duration ∧ s.transitions.get? id = some t ∧
    t.phase = .transitioning

/-- Transitions that are of other fragments, or over, leave the fragment alone. -/
theorem opacity?_faded_of_settled {entries : List (String × Transition)} (surface : Surface)
    (h : ∀ e ∈ entries, e.1 = id → e.2.phase ≠ .transitioning) :
    (faded entries duration now surface).opacity? id = surface.opacity? id := by
  induction entries generalizing surface with
  | nil => rfl
  | cons e rest ih =>
    obtain ⟨he, hrest⟩ := List.forall_mem_cons.mp h
    rw [faded, List.foldl_cons]
    refine (ih _ hrest).trans ?_
    split
    · rename_i hphase
      exact surface.opacity?_fade_of_ne (fun heq => he heq hphase) _
    · rfl

/-- A fragment that is fading in is drawn at the opacity for the time. -/
theorem opacity?_tick_of_fading {t : Transition} (hstrategy : s.strategy = .crossFade duration)
    (ht : s.transitions.get? id = some t) (hphase : t.phase = .transitioning) (now : Nat) :
    (s.tick now).1.surface.opacity? id =
      (s.surface.opacity? id).map fun _ => opacityAt t.start (t.progress duration now) := by
  obtain ⟨before, after, hentries⟩ := List.append_of_mem (Table.get?_eq_some_iff.mp ht)
  -- there is one entry for the fragment, and those before and after are of others
  have hsorted := s.transitions.sorted
  rw [hentries, List.pairwise_append, List.pairwise_cons] at hsorted
  obtain ⟨-, ⟨hafter, -⟩, hbefore⟩ := hsorted
  have hsettled : ∀ e ∈ after, e.1 = id → e.2.phase ≠ .transitioning := fun e he heq =>
    absurd heq.symm (String.ne_of_lt (hafter e he))
  have hsettled' : ∀ e ∈ before, e.1 = id → e.2.phase ≠ .transitioning := fun e he heq =>
    absurd heq (String.ne_of_lt (hbefore e he (id, t) List.mem_cons_self))
  unfold tick
  rw [hstrategy]
  dsimp only
  rw [hentries, faded, List.foldl_append, List.foldl_cons, if_pos hphase]
  refine (opacity?_faded_of_settled _ hsettled).trans ?_
  rw [Surface.opacity?_fade]
  exact congrArg _ (opacity?_faded_of_settled s.surface hsettled')

/-- Any other fragment stays as it is. -/
theorem opacity?_tick (h : ¬ s.Fading id) (now : Nat) :
    (s.tick now).1.surface.opacity? id = s.surface.opacity? id := by
  unfold tick
  split
  · rfl
  · rename_i duration hstrategy
    refine opacity?_faded_of_settled _ fun e he hid hphase => ?_
    exact h ⟨duration, e.2, hstrategy, Table.get?_eq_some_iff.mpr (hid ▸ he), hphase⟩

/-- Time does not have a swap begin. -/
theorem not_fading_tick (h : ¬ s.Fading id) (now : Nat) : ¬ (s.tick now).1.Fading id := by
  unfold tick
  split
  · exact h
  · rename_i duration hstrategy
    rintro ⟨-, t, -, ht, hphase⟩
    rw [Table.get?_mapVal] at ht
    obtain ⟨before, hbefore, rfl⟩ := Option.map_eq_some_iff.mp ht
    refine h ⟨duration, before, hstrategy, hbefore, ?_⟩
    unfold Transition.tick at hphase
    split at hphase
    · cases hphase
    · exact hphase

/-- The fragment is dimmed, and is not on its way to full opacity. -/
structure Dimmed (s : Screen) (id : String) : Prop where
  opacity_eq : s.surface.opacity? id = some pendingOpacity
  not_fading : ¬ s.Fading id

/-- Another fragment may be dimmed as well. -/
theorem Dimmed.dim (h : s.Dimmed id) (other : String) :
    Dimmed { s with surface := s.surface.fade other pendingOpacity } id := by
  refine ⟨?_, h.not_fading⟩
  show (s.surface.fade other pendingOpacity).opacity? id = some pendingOpacity
  by_cases hother : other = id
  · subst hother
    rw [Surface.opacity?_fade]
    exact congrArg (Option.map _) h.opacity_eq
  · rw [Surface.opacity?_fade_of_ne hother]
    exact h.opacity_eq

/-- Time leaves a fragment dimmed whose latest swap is over. -/
theorem Dimmed.tick (h : s.Dimmed id) (now : Nat) : (s.tick now).1.Dimmed id where
  opacity_eq := (opacity?_tick h.not_fading now).trans h.opacity_eq
  not_fading := not_fading_tick h.not_fading now

/-- Time does not have a fragment come or go: what is set afterwards is set where it was shown. -/
theorem map_opacity?_tick (s : Screen) (id : String) (now : Nat) (opacity : Float32) :
    ((s.tick now).1.surface.opacity? id).map (fun _ => opacity) =
      (s.surface.opacity? id).map fun _ => opacity := by
  by_cases h : s.Fading id
  · obtain ⟨duration, t, hstrategy, ht, hphase⟩ := h
    rw [opacity?_tick_of_fading hstrategy ht hphase, Option.map_map]
    rfl
  · rw [opacity?_tick h]

end Screen

end RemoteUi
