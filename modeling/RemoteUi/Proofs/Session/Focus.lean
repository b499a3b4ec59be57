/-
# RemoteUi.Proofs.Session.Focus — who has the focus along a run.

A run may show any trees, take them from the cache, edit, move the focus to what is shown or is not,
and come back to a widget that was off the surface for a while.  As long as every widget has an
identity, and none is shown twice, the surface and the widgets agree on who has the focus after each
step, and a tree that is shown leaves the focus where it was or takes it away (`focus_coherent`).

* The condition is put on the run (`Identified`): on the trees that are shown in it, and on the ids
  that are shown after each step.  That no id is shown twice after a step makes the widgets of its
  tree have ids of their own, which is what swaps are asked for.
* So every screen of the run is reached by swaps of trees that are admitted (`Identified.reached`),
  and the agreement is an invariant of such screens.
* Where a tree is shown, the focus after it is told by an equation, by whether its id is shown
  outside the fragment or is in the new tree.

The kind of a widget has no part in this: an editor under the id of a field that had the focus takes
it over.
-/
import Mathlib.Data.List.Infix
import RemoteUi.Proofs.Screen.FocusCoherence
import RemoteUi.Proofs.Session.Refusal

namespace RemoteUi

namespace Session

variable {s : Session} {x : Stimulus} {run earlier : List Stimulus}

/-- The trees of a run give every widget an identity, and no identity is ever shown twice. -/
structure Identified (s : Session) (run : List Stimulus) : Prop where
  named : ∀ r ∈ s.shownBy run, ∀ f, r.Shows f → f.Named
  distinct : ∀ earlier, earlier <+: run → (s.after earlier).screen.shownIds.Nodup

/-- What holds of a run holds of its beginning. -/
theorem Identified.of_prefix (h : s.Identified run) (hrun : earlier <+: run) :
    s.Identified earlier := by
  refine ⟨fun r hr => ?_, fun before hbefore => h.distinct before (hbefore.trans hrun)⟩
  obtain ⟨rest, rfl⟩ := hrun
  apply h.named r
  rw [shownBy_append]
  exact List.mem_append_left _ hr

/-- One step of such a run. -/
theorem reached_step_identified (hs : s.screen.Reached fun s f => s.Admits f ∧ f.Named)
    (hnamed : ∀ r f, s.shown x = some r → r.Shows f → f.Named)
    (hnodup : (s.step x).screen.shownIds.Nodup) :
    (s.step x).screen.Reached fun s f => s.Admits f ∧ f.Named := by
  have hcoherent := (hs.mono fun _ _ hf => hf.1).coherent
  refine reached_step hs fun r f hshown hf _ => ⟨?_, hnamed r f hshown hf⟩
  obtain ⟨f', now, report, hf', hswap⟩ := swapped_step hshown
  obtain rfl := hf.unique hf'
  exact hcoherent.sound.admits_of_nodup hf.wellFormed hswap hnodup

/-- The screens of such a run are reached by trees with ids of their own. -/
theorem Identified.reached (h : s.Identified run)
    (hs : s.screen.Reached fun s f => s.Admits f ∧ f.Named) :
    (s.after run).screen.Reached fun s f => s.Admits f ∧ f.Named := by
  induction run using List.reverseRecOn with
  | nil => exact hs
  | append_singleton run x ih =>
    have hbefore := ih (h.of_prefix (List.prefix_append _ _))
    have hnodup := h.distinct _ (List.prefix_refl _)
    rw [after_concat] at hnodup ⊢
    refine reached_step_identified hbefore (fun r f hshown hf => h.named r ?_ f hf) hnodup
    rw [shownBy_append, List.mem_append]
    right
    show r ∈ ((s.after run).shown x).toList ++ []
    simp [hshown]

/-- After each step of such a run, the widget that the surface takes to have the focus is shown and
has it, and no other has.  Where a tree is shown, the focus stays with an identity that is shown
outside its fragment or that the tree has, on a widget of whatever kind, and is gone otherwise. -/
theorem focus_coherent (config : Config) (host : Host) (run : List Stimulus)
    (h : (start config host).Identified run) :
    (∀ earlier, earlier <+: run → ((start config host).after earlier).screen.FocusCoherent) ∧
      ∀ earlier x r f, earlier ++ [x] <+: run →
        ((start config host).after earlier).shown x = some r → r.Shows f →
        ((start config host).after (earlier ++ [x])).screen.surface.focused =
          ((start config host).after earlier).screen.surface.focused.filter fun id =>
            decide (id ∈ ((start config host).after earlier).screen.keysOutside f.id ∨
              id ∈ f.widgetKeys) := by
  have hreached : ∀ earlier, earlier <+: run →
      ((start config host).after earlier).screen.Reached fun s f => s.Admits f ∧ f.Named :=
    fun earlier hearlier => (h.of_prefix hearlier).reached (.start config.fade)
  refine ⟨fun earlier hearlier => (hreached earlier hearlier).focusCoherent, ?_⟩
  intro earlier x r f hrun hshown hf
  have hbefore := hreached earlier ((List.prefix_append _ _).trans hrun)
  have hadmitted := hbefore.mono fun _ _ hf => hf.1
  obtain ⟨f', now, report, hf', hswap⟩ := swapped_step hshown
  obtain rfl := hf.unique hf'
  rw [after_concat]
  refine hadmitted.coherent.focused_swap hf.wellFormed (fun id hid => ?_) hswap
  exact hadmitted.focusHeld.mem_shownIds hadmitted.coherent hbefore.focusSole.focused_ne hid

/-- An editor comes in the place of the field that has the focus, under the same identity. -/
def editorInPlace : Stimulus :=
  let editor := .page [.obj [("type", .str "code"), ("id", .str "name"), ("code", .str "x")],
    .obj [("type", .str "button"), ("id", .str "go"), ("label", .str "Go")]]
  .message (.rerun ⟨none, some editor, none, none⟩) 1

/-- The editor gets the focus that the field had. -/
theorem focus_coherent_editorInPlace :
    (start .default .minimal).Identified (fieldFocused ++ [editorInPlace]) ∧
      (filling.step editorInPlace).screen.FocusCoherent ∧
      (filling.step editorInPlace).screen.surface.focused = some "name" ∧
      ∃ r f, filling.shown editorInPlace = some r ∧ r.Shows f ∧
        (filling.step editorInPlace).screen.surface.focused =
          filling.screen.surface.focused.filter fun id =>
            decide (id ∈ filling.screen.keysOutside f.id ∨ id ∈ f.widgetKeys) := by
  have hnamed : ∀ r ∈ (start .default .minimal).shownBy (fieldFocused ++ [editorInPlace]),
      ∀ f ∈ r.fragment?, f.Named := by
    decide +kernel
  have hdistinct : ∀ earlier ∈ (fieldFocused ++ [editorInPlace]).inits,
      ((start .default .minimal).after earlier).screen.shownIds.Nodup := by
    decide +kernel
  have h : (start .default .minimal).Identified (fieldFocused ++ [editorInPlace]) :=
    ⟨fun r hr f hf => hnamed r hr f (Response.shows_iff.mp hf),
      fun earlier hearlier => hdistinct earlier ((List.mem_inits _ _).mpr hearlier)⟩
  have hsome : (filling.shown editorInPlace).isSome = true := by decide +kernel
  obtain ⟨r, hshown⟩ := Option.isSome_iff_exists.mp hsome
  obtain ⟨f, -, -, hf, -⟩ := swapped_step hshown
  have hfilling : (start .default .minimal).after fieldFocused = filling := rfl
  obtain ⟨hcoherent, hkept⟩ := focus_coherent .default .minimal _ h
  have hafter := hcoherent _ (List.prefix_refl _)
  have hfocused := hkept fieldFocused editorInPlace r f (List.prefix_refl _)
  rw [after_concat, hfilling] at hafter hfocused
  have hfocused := hfocused hshown hf
  exact ⟨h, hafter, by decide +kernel, r, f, hshown, hf, hfocused⟩

end Session

end RemoteUi
