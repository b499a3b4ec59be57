/-
# RemoteUi.Screen.Fade — how a fragment comes into view.

Times are in nanoseconds.  A fade goes from the opacity it starts with to full opacity, in
proportion to the time that has passed, and stays there.  It is computed in single precision; a
fade of no duration has no progress to speak of at its very start.
-/

namespace RemoteUi

/-- How a new fragment takes the place of an old one. -/
inductive FadeStrategy where
  | crossFade (duration : Nat)
  /-- At once, for hosts that draw nothing. -/
  | instant
  deriving DecidableEq

/-- The strategy for a configured duration. -/
def FadeStrategy.ofDuration (duration : Nat) : FadeStrategy :=
  if duration = 0 then .instant else .crossFade duration

/-- The nanoseconds of a millisecond. -/
def nanosPerMilli : Nat := 1000000

/-- The nanoseconds of a second. -/
def nanosPerSecond : Nat := 1000000000

/-- A time in seconds: the whole seconds and the rest are rounded apart. -/
def seconds (nanos : Nat) : Float32 :=
  (nanos / nanosPerSecond).toUInt64.toFloat32 +
    (nanos % nanosPerSecond).toUInt64.toFloat32 / nanosPerSecond.toUInt64.toFloat32

/-- A number no less than zero and no more than one. -/
def clampUnit (x : Float32) : Float32 :=
  if x < 0 then 0 else if 1 < x then 1 else x

/-- The part of a duration that has passed. -/
def progress (elapsed duration : Nat) : Float32 :=
  clampUnit (seconds elapsed / seconds duration)

/-- The opacity at a point of the way to full opacity. -/
def opacityAt (start progress : Float32) : Float32 :=
  start + (1 - start) * progress

/-- How far a swap has come. -/
inductive SwapPhase where
  | building
  | inserted
  | transitioning
  | settled
  deriving DecidableEq

/-- Phases are passed through in this order. -/
def SwapPhase.rank : SwapPhase → Nat
  | .building => 0
  | .inserted => 1
  | .transitioning => 2
  | .settled => 3

/-- The latest swap of a fragment. -/
structure Transition where
  swapId : Nat
  phase : SwapPhase
  start : Float32
  started : Nat

/-- The transition in a phase, unless it is further. -/
def Transition.advance (t : Transition) (phase : SwapPhase) : Transition :=
  if t.phase.rank < phase.rank then { t with phase := phase } else t

/-- The progress of a transition at a time. -/
def Transition.progress (t : Transition) (duration now : Nat) : Float32 :=
  RemoteUi.progress (now - t.started) duration

/-- The transition after it has been looked at: settled once its time has passed. -/
def Transition.tick (t : Transition) (duration now : Nat) : Transition :=
  if t.phase = .transitioning ∧ 1 ≤ t.progress duration now then { t with phase := .settled }
  else t

end RemoteUi
