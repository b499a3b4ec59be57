/-
# RemoteUi.Proofs.Session.Radio — radio buttons on the screen.

Trees and the user change groups in few ways: a tree has groups attached, detached and pruned, the
user toggles and selects members, and a frame takes changes.  `Regroups` lists what one step may do,
and `regroups_step` says that nothing else happens.  All but one of these leave a group of radio
buttons with one value checked at most.

* What the server brings is exclusive whatever was there before (`renderClosed_every`,
  `exclusive_swap`).  The lemma about trees is told for any property of single groups that every
  attachment has.
* A selection unchecks all other members.
* A toggle that names a group of radio buttons is accepted like any other, and where another value
  is checked it checks a second one (`Doubles`).  It does so always, so that the invariant is lost
  at that step and no later step need be looked at (`Doubles.spoils`).

So radio buttons exclude each other all along a run exactly if there is no such toggle in it
(`exclusive_iff_undoubled`).  In one direction this is by induction over the run from its end
(`Undoubled.exclusive`), in the other the toggle itself is the witness.
-/
import Mathlib.Data.List.Induction
import RemoteUi.Proofs.Group.Exclusive
import RemoteUi.Proofs.Screen.History
import RemoteUi.Proofs.Session.Delivery

namespace RemoteUi

/-! ## Rendering and swaps -/

variable {p : Group → Prop}

/-- What holds of every group that is attached, rendering keeps. -/
theorem renderClosed_every (hattached : ∀ (a : Groups.Attachment) previous, p (a.group previous)) :
    RenderClosed fun _ _ b _ b' => b.groups.Every p → b'.groups.Every p where
  nil := fun _ _ h => h
  append := fun hns hms h => hms (hns h)
  container := fun _ hns => hns
  markup := fun _ _ _ _ _ h => h
  widget := fun fragmentId head spec b h => by
    rwa [(b.widget_meets fragmentId head spec).groups_eq.1]
  group := fun fragmentId head spec b h => by
    generalize hr : b.group fragmentId head spec = r
    cases hr ▸ b.group_meets fragmentId head spec with
    | nameless | repeated => exact h
    | @attached key a =>
      rw [Build.groups_count]
      exact h.insert (hattached a _) key

namespace Screen

variable {s s' : Screen} {f : Fragment} {now : Nat} {report : SwapReport}

/-- What holds of every group that is attached, and of one that has lost its members, a swap
keeps. -/
theorem every_swap (hattached : ∀ (a : Groups.Attachment) previous, p (a.group previous))
    (hdetached : ∀ g, p g → p g.detached) (hs : s.groups.Every p)
    (h : s.swap f now = .ok (s', report)) : s'.groups.Every p := by
  have hbuilt : (s.built f).build.groups.Every p := by
    rw [built, f.build_build]
    exact (renderClosed_every hattached).render f.id f.root (Build.start s.pool s.groups) hs
  rw [groups_swap h, nextGroups]
  split
  · exact hbuilt.pruned
  · exact (hbuilt.detach hdetached _ _).pruned

/-- A swap leaves radio buttons with one value checked. -/
theorem exclusive_swap (hs : s.groups.Exclusive) (h : s.swap f now = .ok (s', report)) :
    s'.groups.Exclusive :=
  every_swap (fun a previous hkind => Group.exclusive_attached a hkind previous)
    (fun g _ hkind => g.exclusive_detached hkind) hs h

end Screen

namespace Session

variable {s t : Session} {x : Stimulus}

/-! ## Steps -/

/-- What a step does with the groups. -/
inductive Regroups (s : Session) (x : Stimulus) : Groups → Prop
  | kept : Regroups s x s.screen.groups
  /-- Changes are taken. -/
  | settled : Regroups s x s.screen.groups.settled
  | toggled {id value : String} {groups : Groups} (hx : x = .action ⟨id, .toggle value⟩)
      (hopen : s.state = .opened) (h : s.screen.groups.toggle? id value = some groups) :
      Regroups s x groups
  | chosen {id value : String} {groups : Groups} (hx : x = .action ⟨id, .choose value⟩)
      (hopen : s.state = .opened) (h : s.screen.groups.select? id value = some groups) :
      Regroups s x groups
  | swapped {f : Fragment} {now : Nat} {screen : Screen} {report : SwapReport}
      (h : s.screen.swap f now = .ok (screen, report)) : Regroups s x screen.groups

/-- Of what the user does, toggles and selections are for groups. -/
theorem regroups_interact (hs : s.messages = []) (a : Action) :
    s.Regroups (.action a) (s.interact a.id a.input).session.screen.groups := by
  obtain ⟨id, input⟩ := a
  by_cases hopen : s.state = .opened
  · have hacting := acting_interact hopen id input
    show s.Regroups _ (s.interact id input).session.screen.groups
    generalize s.interact id input = i at hacting
    cases hacting with
    | refused | focused | blurred | idle => exact .kept
    | toggled h => exact .toggled rfl hopen h
    | chosen h => exact .chosen rfl hopen h
    | delivered hinput h =>
      rw [(gathers_deliver hs h).groups_eq]
      exact .kept
  · rw [interact_of_not_open hopen]
    exact .kept

/-- A step does no more with the groups than this. -/
theorem regroups_step (hs : s.messages = []) (x : Stimulus) :
    s.Regroups x (s.step x).screen.groups := by
  cases hshown : s.shown x with
  | some r =>
    obtain ⟨f, now, report, -, hswap⟩ := swapped_step hshown
    exact .swapped hswap
  | none =>
    cases s.way_step x with
    | opening | drain => exact .kept
    | action => exact regroups_interact hs _
    | disregarded hx devMode heq => exact heq ▸ .kept
    | reloaded hopen heq | lost hopen heq => exact heq ▸ .kept
    | greeted hopen hid heq =>
      rw [heq, (sendEvents_keeps _ []).2.2]
      exact .kept
    | frame now =>
      show s.Regroups _ (s.animationFrame now).1.screen.groups
      rw [groups_animationFrame]
      exact .settled
    | @answered response now hopen =>
      have hhandled := handling_step (heard_rerun hopen response now)
      rw [hshown] at hhandled
      rw [hhandled.screen_eq]
      exact .kept

/-- The user toggles a radio button, and one with another value is checked. -/
def Doubles (s : Session) (x : Stimulus) : Prop :=
  ∃ id value g v, x = .action ⟨id, .toggle value⟩ ∧ s.state = .opened ∧
    s.screen.groups.get? id = some g ∧ g.kind = .radio ∧ value ∈ g.members.map Member.value ∧
    v ∈ g.checkedValues ∧ v ≠ value

/-- A step that is no such toggle keeps radio buttons exclusive. -/
theorem exclusive_step (hs : s.messages = []) (h : s.screen.groups.Exclusive)
    (hx : ¬ s.Doubles x) : (s.step x).screen.groups.Exclusive := by
  have hregroups := regroups_step hs x
  generalize (s.step x).screen.groups = groups at hregroups
  cases hregroups with
  | kept => exact h
  | settled => exact h.settled
  | chosen _ _ hselect => exact h.select? hselect
  | swapped hswap => exact Screen.exclusive_swap h hswap
  | @toggled id value _ heq hopen htoggle =>
    refine (h.toggle?_iff htoggle).mpr fun g hg hkind v hv => ?_
    obtain ⟨g', g'', hg', hedit, -⟩ := Groups.edit?_eq_some htoggle
    obtain rfl := Option.some.inj (hg.symm.trans hg')
    have hmember := Group.toggle?_isSome_iff.mp (Option.isSome_of_eq_some hedit)
    -- if the toggled value were not the only one, the toggle would be one of these
    by_contra hne
    exact hx ⟨id, value, g, v, heq, hopen, hg, hkind, hmember, hv, hne⟩

/-- A toggle of a radio button is accepted, and checks it next to the one that is checked. -/
theorem Doubles.spoils (hx : s.Doubles x) (h : s.screen.groups.Exclusive) :
    ¬ (s.step x).screen.groups.Exclusive := by
  obtain ⟨id, value, g, v, rfl, hopen, hg, hkind, hmember, hv, hne⟩ := hx
  obtain ⟨g', hedit⟩ := Option.isSome_iff_exists.mp (Group.toggle?_isSome_iff.mpr hmember)
  have htoggle : s.screen.groups.toggle? id value = some (s.screen.groups.insert id g') := by
    rw [Groups.toggle?, Groups.edit?, hg, Option.bind_some, hedit, Option.map_some]
  have hstep : s.step (.action ⟨id, .toggle value⟩) =
      s.withGroups (s.screen.groups.insert id g') := by
    rw [step, interact_eq hopen]
    dsimp only
    rw [htoggle]
  rw [hstep]
  exact fun hafter => hne ((h.toggle?_iff htoggle).mp hafter g hg hkind v hv)

/-! ## Runs -/

/-- No toggle of the run checks a second radio button. -/
def Undoubled (s : Session) (run : List Stimulus) : Prop :=
  ∀ earlier x, earlier ++ [x] <+: run → ¬ (s.after earlier).Doubles x

/-- Without such a toggle, radio buttons exclude each other up to any step of the run. -/
theorem Undoubled.exclusive {run earlier : List Stimulus} (h : s.Undoubled run)
    (hs : s.Reachable) (hexclusive : s.screen.groups.Exclusive) (hrun : earlier <+: run) :
    (s.after earlier).screen.groups.Exclusive := by
  induction earlier using List.reverseRecOn with
  | nil => exact hexclusive
  | append_singleton earlier x ih =>
    rw [after_concat]
    exact exclusive_step (hs.after earlier).messages_eq
      (ih ((List.prefix_append _ _).trans hrun)) (h earlier x hrun)

/-- Radio buttons exclude each other all along exactly those runs in which no toggle checks one next
to another. -/
theorem exclusive_iff_undoubled (config : Config) (host : Host) (run : List Stimulus) :
    (∀ earlier, earlier <+: run →
      ((start config host).after earlier).screen.groups.Exclusive) ↔
      (start config host).Undoubled run := by
  constructor
  · intro hall earlier x hrun hdoubles
    have hbefore := hall earlier ((List.prefix_append _ _).trans hrun)
    have hafter := hall (earlier ++ [x]) hrun
    rw [after_concat] at hafter
    exact hdoubles.spoils hbefore hafter
  · exact fun h earlier hrun => h.exclusive (.start config host) nofun hrun

/-! ## A toggle among radio buttons -/

/-- Radio buttons are shown with one of them checked, and the user toggles the other one. -/
def radioToggled : List Stimulus :=
  let sizes := .page [.obj [("type", .str "radio"), ("id", .str "size"),
    ("options", .arr [.str "s", .str "m"]), ("value", .str "s")]]
  [.message (.hello "session" none) 0, .message (.rerun ⟨none, some sizes, none, none⟩) 0,
    .action ⟨"size", .toggle "m"⟩]

/-- Both are checked then, and only the first one is reported. -/
theorem toggled_radio_checks_both :
    let toggled := (start .default .minimal).after radioToggled
    toggled.Reachable ∧ toggled.screen.groups.checkedValues "size" = ["s", "m"] ∧
      toggled.screen.groups.changes.map (fun c => c.value.text?) = [some "s"] ∧
      ¬ toggled.screen.groups.Exclusive := by
  intro toggled
  refine ⟨(Reachable.start .default .minimal).after radioToggled, by decide +kernel,
    by decide +kernel, fun h => ?_⟩
  have hgroup : (toggled.screen.groups.get? "size").map (fun g => (g.kind, g.checkedValues)) =
      some (.radio, ["s", "m"]) := by decide +kernel
  obtain ⟨g, hg, heq⟩ := Option.map_eq_some_iff.mp hgroup
  obtain ⟨hkind, hchecked⟩ := Prod.mk.inj heq
  have hsame : "s" = "m" :=
    (h "size" g hg hkind).same "s" (by simp [hchecked]) "m" (by simp [hchecked])
  exact absurd hsame (by decide)

end Session

end RemoteUi
