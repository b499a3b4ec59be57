/-
# RemoteUi.Proofs.Screen.Fading — what time does to a screen.

As time passes fragments fade in, and their swaps settle.  To tell it from everything else that can
happen to a screen, a screen is brought to rest: every fragment is at full opacity, every swap has
settled and no group waits to be reported (`Screen.atRest`).  Time, and the taking of group changes,
do not show in a screen at rest (`Screen.atRest_tick`, `Screen.atRest_settled`).

* Only the root of a fragment is faded, so a surface with every fragment at full opacity is the same
  before and after a fade (`unfaded_fade`).  An edit of a tree that changes opacities alone does not
  show there either, by induction over trees and lists of trees.
* Of a transition only the phase changes with time.  What is kept of a finished one is which swap it
  was and from where it started (`Transition.finished_tick`).

Two screens that are the same at rest differ in nothing that a tree, a widget or the index of live
widgets has to do with.
-/
import RemoteUi.Screen.Swap

namespace RemoteUi

/-! ## Fragments at full opacity -/

/-- The presentation at full opacity, if it is that of the root of a fragment. -/
def Box.unfaded (b : Box) : Box :=
  if b.fragmentId.isSome then { b with opacity := 1 } else b

mutual
/-- The tree with every fragment at full opacity. -/
def Rendered.unfaded : Rendered → Rendered
  | .container box children => .container box.unfaded (Rendered.unfadedIn children)
  | r => r

/-- `unfaded` in a list of trees. -/
def Rendered.unfadedIn : List Rendered → List Rendered
  | [] => []
  | r :: rest => r.unfaded :: Rendered.unfadedIn rest
end

/-- The container with every fragment at full opacity, itself included. -/
def Panel.unfaded (p : Panel) : Panel :=
  ⟨p.box.unfaded, Rendered.unfadedIn p.children⟩

/-- The surface with every fragment at full opacity. -/
def Surface.unfaded (s : Surface) : Surface :=
  { s with root := s.root.map Panel.unfaded }

/-- Only the root of a fragment is faded. -/
theorem Box.unfaded_opacity {b : Box} {id : String} (h : b.isFragment id = true)
    (opacity : Float32) : Box.unfaded { b with opacity := opacity } = b.unfaded := by
  have hroot : b.fragmentId.isSome = true := by
    rw [beq_iff_eq.mp h]
    rfl
  simp [unfaded, hroot]

namespace Rendered

variable {p : Box → Bool} {f : Panel → Panel}

mutual
/-- An edit that changes a container in its opacity only does not show. -/
theorem unfaded_edit? (hf : ∀ panel, p panel.box = true → (f panel).unfaded = panel.unfaded) :
    ∀ {r r' : Rendered}, r.edit? p f = some r' → r'.unfaded = r.unfaded
  | .container box children, r', h => by
    simp only [edit?] at h
    split at h
    · rename_i hp
      obtain rfl := Option.some.inj h
      exact congrArg Panel.node (hf ⟨box, children⟩ hp)
    · obtain ⟨children', hchildren, rfl⟩ := Option.map_eq_some_iff.mp h
      simp [unfaded, unfadedIn_editIn? hf hchildren]
  | .markup _ _ _, _, h => by cases h
  | .widget _, _, h => by cases h
  | .group _ _, _, h => by cases h

theorem unfadedIn_editIn? (hf : ∀ panel, p panel.box = true → (f panel).unfaded = panel.unfaded) :
    ∀ {rs rs' : List Rendered}, editIn? p f rs = some rs' → unfadedIn rs' = unfadedIn rs
  | [], _, h => by cases h
  | r :: rest, rs', h => by
    simp only [editIn?] at h
    split at h
    · rename_i r' hr
      obtain rfl := Option.some.inj h
      simp [unfadedIn, unfaded_edit? hf hr]
    · obtain ⟨rest', hrest, rfl⟩ := Option.map_eq_some_iff.mp h
      simp [unfadedIn, unfadedIn_editIn? hf hrest]
end

end Rendered

/-- The same for a container and all in it. -/
theorem Panel.unfaded_edit? {p : Box → Bool} {f : Panel → Panel} {panel panel' : Panel}
    (hf : ∀ panel, p panel.box = true → (f panel).unfaded = panel.unfaded)
    (h : panel.edit? p f = some panel') : panel'.unfaded = panel.unfaded := by
  obtain ⟨r, hr, hpanel⟩ := Option.bind_eq_some_iff.mp h
  cases r with
  | container box children =>
    obtain rfl := Option.some.inj hpanel
    have hnode := Rendered.unfaded_edit? hf hr
    obtain ⟨hbox, hchildren⟩ := Rendered.container.inj hnode
    show Panel.mk box.unfaded (Rendered.unfadedIn children) = panel.unfaded
    rw [hbox, hchildren]
    rfl
  | markup | widget | group => cases hpanel

namespace Surface

variable (s : Surface)

/-- A fragment that is faded is the same at full opacity. -/
theorem unfaded_fade (id : String) (opacity : Float32) :
    (s.fade id opacity).unfaded = s.unfaded := by
  unfold fade edit
  split
  · rename_i root hroot
    obtain ⟨old, hold, hedit⟩ := Option.bind_eq_some_iff.mp hroot
    have hunfaded : root.unfaded = old.unfaded := by
      refine Panel.unfaded_edit? (fun panel hpanel => ?_) hedit
      exact congrArg (Panel.mk · _) (Box.unfaded_opacity hpanel opacity)
    simp [unfaded, hold, hunfaded]
  · rfl

/-- However many fragments are faded in turn, it does not show. -/
theorem unfaded_faded (transitions : List (String × Transition)) (duration now : Nat) :
    (Screen.faded transitions duration now s).unfaded = s.unfaded :=
  Screen.faded_eq unfaded_fade transitions duration now s

end Surface

/-! ## A screen at rest -/

/-- A transition that is over, however far it has come. -/
def Transition.finished (t : Transition) : Transition :=
  { t with phase := .settled }

/-- A transition that goes on comes to the same when it is over. -/
theorem Transition.finished_tick (t : Transition) (duration now : Nat) :
    (t.tick duration now).finished = t.finished := by
  unfold tick
  split <;> rfl

/-- Changes that were taken cannot be taken again. -/
theorem Groups.settled_settled (gs : Groups) : gs.settled.settled = gs.settled := by
  apply Table.ext_entries
  simp [settled, Table.mapVal]

namespace Screen

/-- The screen with every fragment at full opacity, every swap settled and no group waiting. -/
def atRest (s : Screen) : Screen :=
  { s with
    transitions := s.transitions.mapVal fun _ t => t.finished
    groups := s.groups.settled
    surface := s.surface.unfaded }

variable (s : Screen)

/-- Time does not show in a screen at rest. -/
theorem atRest_tick (now : Nat) : (s.tick now).1.atRest = s.atRest := by
  unfold tick
  split
  · rfl
  · rename_i duration hstrategy
    have htransitions : ((s.transitions.mapVal fun _ t => t.tick duration now).mapVal
        fun _ t => t.finished) = s.transitions.mapVal fun _ t => t.finished := by
      apply Table.ext_entries
      simp [Table.mapVal, Transition.finished_tick]
    simp [atRest, htransitions, Surface.unfaded_faded]

/-- Neither does it show that changes were taken. -/
theorem atRest_settled : atRest { s with groups := s.groups.settled } = s.atRest := by
  simp [atRest, Groups.settled_settled]

end Screen

end RemoteUi
