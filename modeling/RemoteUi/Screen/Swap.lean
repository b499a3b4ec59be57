/-
# RemoteUi.Screen.Swap — replacing a fragment.

A swap renders the new tree off screen, puts it in the place of the old one in a single step, and
fades it in from the old one's opacity.  What left the surface is forgotten; scroll offsets and the
focus carry over to what has the same identity.  A newer swap of a fragment ends the older one's
transition, and its ticket completes nothing any more.
-/
import RemoteUi.Screen.Build
import RemoteUi.Screen.Fade
import RemoteUi.Screen.Surface

namespace RemoteUi

/-- Everything that a tree can change: the surface, the live widgets and groups, and the
transitions that are under way. -/
structure Screen where
  strategy : FadeStrategy
  nextSwapId : Nat
  /-- The latest swap of each fragment. -/
  transitions : Table Transition
  pool : WidgetPool
  groups : Groups
  surface : Surface

/-- The fragment is not shown. -/
inductive SwapError where
  | unknownFragment (id : String)
  deriving DecidableEq

/-- The wording of a refused swap. -/
def SwapError.message : SwapError → String
  | .unknownFragment id => "no rendered fragment with id '" ++ id ++ "'"

/-- Which swap, of which fragment. -/
structure SwapTicket where
  swapId : Nat
  fragmentId : String
  deriving DecidableEq

/-- What a swap did. -/
structure SwapReport where
  ticket : SwapTicket
  reused : Nat
  constructed : Nat
  retired : Nat
  groupsPruned : Nat
  focusRestored : Bool
  diagnostics : List Diagnostic

/-- The identities of the widgets that a container shows. -/
def Panel.widgetIds (p : Panel) (pool : WidgetPool) : List String :=
  (p.handles.map pool.key).filter (· ≠ "")

namespace Screen

/-- The screen before anything was shown. -/
def empty (strategy : FadeStrategy) : Screen :=
  ⟨strategy, 1, .empty, .empty, .empty, .empty⟩

/-- The phase of the latest swap of a fragment. -/
def phase (s : Screen) (fragmentId : String) : Option SwapPhase :=
  (s.transitions.get? fragmentId).map Transition.phase

/-! ## The steps of a swap -/

/-- Forgets the widgets and groups that left with the outgoing container: how many widgets. -/
def forget (s : Screen) (outgoing : Panel) (b : Build) : Screen × Nat :=
  let gone := (outgoing.widgetIds s.pool).filter fun id => !b.widgetIds.contains id
  let pool := s.pool.retire gone
  let groups := s.groups.detach outgoing.groupKeys b.groupKeys
  ({ s with pool := pool, groups := groups }, s.pool.liveCount - pool.liveCount)

/-- Carries the focus over from the outgoing container: whether it could be. -/
def carryFocus (s : Screen) (outgoing : Panel) (b : Build) : Screen × Bool :=
  match s.surface.focused.filter fun id => (outgoing.widgetIds s.pool).contains id with
  | none => (s, false)
  | some id =>
    if b.widgetIds.contains id then
      let (surface, pool) := s.surface.focus s.pool id
      ({ s with surface := surface, pool := pool }, true)
    else ({ s with surface := { s.surface with focused := none } }, false)

/-- The transition of a swap that has inserted its fragment. -/
def transition (strategy : FadeStrategy) (swapId : Nat) (start : Float32) (now : Nat) :
    Transition :=
  let t : Transition := (Transition.mk swapId .building 1 now).advance .inserted
  match strategy with
  | .instant => t.advance .settled
  | .crossFade _ => { t with start := start, started := now }.advance .transitioning

/-- The container as it is first shown: at the outgoing one's opacity and scroll offsets. -/
def incoming (b : BuiltFragment) (outgoing : Option Panel) : Panel :=
  match outgoing with
  | none => { b.root with box := { b.root.box with opacity := 1 } }
  | some old =>
    let p := b.root.restoreScroll old.scrollOffsets
    { p with box := { p.box with opacity := old.box.opacity } }

/-- Shows a fragment in the place of what it shows now; on an empty surface it becomes the root.
A fragment that is not shown is refused before anything is built. -/
def swap (s : Screen) (f : Fragment) (now : Nat) : Except SwapError (Screen × SwapReport) :=
  let outgoing := s.surface.fragment? f.id
  if s.surface.root.isSome ∧ outgoing.isNone then .error (.unknownFragment f.id)
  else
    let swapId := s.nextSwapId
    let built := f.build s.pool s.groups
    let shown := incoming built outgoing
    let t := transition s.strategy swapId shown.box.opacity now
    let surface := (s.surface.setVisible f.id false).replace f.id shown
    let s : Screen :=
      { s with
        nextSwapId := swapId + 1
        transitions := s.transitions.insert f.id t
        pool := built.build.pool
        groups := built.build.groups
        surface := surface }
    let (s, retired, focusRestored) := match outgoing with
      | none => (s, 0, false)
      | some old =>
        let (s, retired) := s.forget old built.build
        let (s, focusRestored) := s.carryFocus old built.build
        (s, retired, focusRestored)
    let groups := s.groups.pruned
    let pruned := s.groups.size - groups.size
    let s := { s with groups := groups }
    let s := match s.strategy with
      | .instant => { s with surface := s.surface.fade f.id 1 }
      | .crossFade _ => s
    .ok (s, {
      ticket := ⟨swapId, f.id⟩
      reused := built.build.reused
      constructed := built.build.constructed
      retired := retired
      groupsPruned := pruned
      focusRestored := focusRestored
      diagnostics := built.build.diagnostics })

/-! ## Transitions -/

/-- The surface with every fragment that is fading at its opacity for the time. -/
def faded (transitions : List (String × Transition)) (duration now : Nat) (s : Surface) : Surface :=
  transitions.foldl (fun s e =>
    if e.2.phase = .transitioning then
      s.fade e.1 (opacityAt e.2.start (e.2.progress duration now))
    else s) s

/-- While fragments fade, all that an opacity makes no difference to stays the same. -/
theorem faded_eq {α : Type} {g : Surface → α}
    (hg : ∀ (s : Surface) (id : String) (opacity : Float32), g (s.fade id opacity) = g s)
    (transitions : List (String × Transition)) (duration now : Nat) (s : Surface) :
    g (faded transitions duration now s) = g s := by
  unfold faded
  induction transitions generalizing s with
  | nil => rfl
  | cons e rest ih =>
    rw [List.foldl_cons, ih]
    split
    · exact hg s e.1 _
    · rfl

/-- Brings every transition to a time: the screen, and the swaps that settled. -/
def tick (s : Screen) (now : Nat) : Screen × List SwapTicket :=
  match s.strategy with
  | .instant => (s, [])
  | .crossFade duration =>
    let after := s.transitions.mapVal fun _ t => t.tick duration now
    let settled := s.transitions.entries.filter fun e =>
      decide (e.2.phase = .transitioning) && decide ((e.2.tick duration now).phase = .settled)
    ({ s with
        transitions := after
        surface := faded s.transitions.entries duration now s.surface },
      settled.map fun e => ⟨e.2.swapId, e.1⟩)

/-- The ticket is that of a transition under way. -/
def isCurrent (s : Screen) (ticket : SwapTicket) : Bool :=
  (s.transitions.get? ticket.fragmentId).any fun t =>
    decide (t.swapId = ticket.swapId) && decide (t.phase = .transitioning)

/-- Ends a transition at once.  The answer is false, and nothing happens, when it is over or when a
newer swap has taken its place. -/
def complete (s : Screen) (ticket : SwapTicket) : Screen × Bool :=
  if s.isCurrent ticket then
    ({ s with
        surface := s.surface.fade ticket.fragmentId 1
        transitions := s.transitions.modify ticket.fragmentId fun t => t.advance .settled },
      true)
  else (s, false)

/-! ## Input on the screen -/

/-- Moves the focus to a widget that is shown. -/
def focus (s : Screen) (key : String) : Screen :=
  let (surface, pool) := s.surface.focus s.pool key
  { s with surface := surface, pool := pool }

/-- Takes the focus away. -/
def blur (s : Screen) : Screen :=
  let (surface, pool) := s.surface.blur s.pool
  { s with surface := surface, pool := pool }

end Screen

end RemoteUi
