/-
# RemoteUi.Proofs.Session.Cache — what the recovery cache is worth.

An answer that is shown is cached after there was a tree to show.  An answer to an earlier request
is judged by its id alone: it is cached without a tree as well, and displaces an answer that has one
(`treeless_answer_displaces`).  Nothing else spoils the cache.

* `Caching` lists what may be in the cache after a step: what was in it, an answer with a tree, an
  answer without one to an earlier request, or nothing after a rejection (`caching_step`).
* A step that *clutters* the cache leaves in it what cannot be shown again, so the invariant is lost
  at that very step (`Clutters.spoils`).  Any other step keeps it (`replayable_step`), and keeps
  something in the cache unless it is a rejection (`stocked_step`).
* `Recoverable` says what the cache is there for, along a run: what is in it can be shown again, it
  is not given up for anything but another tree, and a rejected request has a tree to show.

On the runs on which no such answer gets in, and on no others, the cache is good for that
(`recoverable_iff_uncluttered`).  Whether the screen takes the tree is another question, and is kept
apart as a condition.
-/
import Mathlib.Data.List.Induction
import RemoteUi.Proofs.Session.Stale

namespace RemoteUi

/-- The answer carries the tree of a fragment, so that it can be shown again. -/
def Response.Replayable (response : Response) : Prop :=
  ∃ f, response.Shows f

/-- Whether an answer carries a tree can be decided. -/
theorem Response.replayable_iff {response : Response} :
    response.Replayable ↔ response.fragment?.isSome = true := by
  simp [Replayable, Response.shows_iff, Option.isSome_iff_exists]

instance (response : Response) : Decidable response.Replayable :=
  decidable_of_iff _ Response.replayable_iff.symm

namespace Recovery

/-- What is cached, if anything is, can be shown again. -/
def Replayable (r : Recovery) : Prop :=
  ∀ response ∈ r.lastValid, response.Replayable

/-- Something is cached that can be shown again. -/
def Stocked (r : Recovery) : Prop :=
  ∃ response ∈ r.lastValid, response.Replayable

instance (r : Recovery) : Decidable r.Replayable :=
  inferInstanceAs (Decidable (∀ response ∈ r.lastValid, response.Replayable))

instance (r : Recovery) : Decidable r.Stocked :=
  inferInstanceAs (Decidable (∃ response, response ∈ r.lastValid ∧ response.Replayable))

end Recovery

namespace Session

variable {s t : Session} {x : Stimulus} {response : Response} {now : Nat}

/-! ## Steps -/

/-- An answer to an earlier request is cached that cannot be shown. -/
def Clutters (s : Session) (x : Stimulus) : Prop :=
  ∃ response now id, s.heard x = some (response, now) ∧
    s.requests.classify response = .superseded id ∧
    s.recovery.isNews response = true ∧ ¬ response.Replayable

/-- What is cached after a step. -/
inductive Caching (s : Session) (x : Stimulus) : Option Response → Prop
  | kept : Caching s x s.recovery.lastValid
  | filled {response : Response} (h : response.Replayable) : Caching s x (some response)
  | cluttered {response : Response} (h : s.Clutters x) : Caching s x (some response)
  /-- A request is rejected, which empties the cache. -/
  | taken (hx : x.IsInvalidState) : Caching s x none

/-- What was shown carried a tree. -/
theorem Rendering.replayable (h : s.Rendering response now (t, true)) : response.Replayable := by
  cases h with
  | shown calls id widgets groups hcalls hf hswap => exact ⟨_, hf⟩

/-- A tree that the screen takes is shown. -/
theorem Rendering.eq_true {out : Session × Bool} (h : s.Rendering response now out) {f : Fragment}
    (hf : response.Shows f) (haccepts : s.screen.Accepts f.id) : out.2 = true := by
  cases h with
  | skipped calls hcalls hnone => exact absurd haccepts (hnone f hf)
  | shown => rfl

/-- What is cached after a step is one of these. -/
theorem caching_step (s : Session) (x : Stimulus) : s.Caching x (s.step x).recovery.lastValid := by
  cases hheard : s.heard x with
  | none =>
    rw [(quiet_step hheard).recovery]
    exact .kept
  | some heard =>
    obtain ⟨response, now⟩ := heard
    have hhandled := handling_step hheard
    obtain rfl := eq_of_heard hheard
    generalize s.step _ = t at hhandled ⊢
    generalize s.shown _ = shown at hhandled
    cases hhandled with
    | shown hkind hrender => exact .filled hrender.replayable
    | missed hkind hrender =>
      rw [hrender.recovery_eq]
      exact .kept
    | failed hkind => exact .kept
    | replayed hkind hcached hrender | lapsed hkind hcached hrender =>
      rw [push, hrender.recovery_eq]
      exact .taken (Requests.classify_eq_invalidState.mp hkind)
    | acknowledged hkind hcached => exact .kept
    | @superseded id hkind =>
      show s.Caching _ (s.recovery.recordSuperseded response).1.lastValid
      unfold Recovery.recordSuperseded
      split
      · -- no older than what was seen: it is cached whether or not there is a tree in it
        rename_i hnews
        by_cases hreplayable : response.Replayable
        · exact .filled hreplayable
        · exact .cluttered ⟨response, now, id, hheard, hkind, hnews, hreplayable⟩
      · exact .kept

/-- What clutters the cache cannot be shown again. -/
theorem Clutters.spoils (h : s.Clutters x) : ¬ (s.step x).recovery.Replayable := by
  obtain ⟨response, now, id, hheard, hkind, hnews, hnot⟩ := h
  have hstep : (s.step x).recovery = (s.recovery.recordSuperseded response).1 := by
    rw [step_heard hheard, handleResponse]
    dsimp only
    rw [hkind]
  rw [hstep, Recovery.recordSuperseded, if_pos hnews]
  intro hall
  exact hnot (hall response rfl)

/-- A step that does not clutter the cache leaves in it what can be shown. -/
theorem replayable_step (hs : s.recovery.Replayable) (hx : ¬ s.Clutters x) :
    (s.step x).recovery.Replayable := by
  have hcaching := s.caching_step x
  intro cached hcached
  rw [Option.mem_def.mp hcached] at hcaching
  generalize hnow : some cached = held at hcaching
  cases hcaching with
  | kept => exact hs cached hnow.symm
  | filled h => exact Option.some.inj hnow ▸ h
  | cluttered h => exact absurd h hx
  | taken => cases hnow

/-- A step that is no rejection either leaves something in it. -/
theorem stocked_step (hs : s.recovery.Stocked) (hx : ¬ s.Clutters x)
    (hvalid : ¬ x.IsInvalidState) : (s.step x).recovery.Stocked := by
  have hcaching := s.caching_step x
  generalize hheld : (s.step x).recovery.lastValid = held at hcaching
  cases hcaching with
  | kept =>
    obtain ⟨cached, hcached, hreplayable⟩ := hs
    exact ⟨cached, hheld.trans hcached, hreplayable⟩
  | filled h => exact ⟨_, hheld, h⟩
  | cluttered h => exact absurd h hx
  | taken h => exact absurd h hvalid

/-- A rejected request has the cached tree shown, unless the screen does not take it. -/
theorem shown_of_stocked (hs : s.recovery.Stocked) (hheard : s.heard x = some (response, now))
    (hkind : s.requests.classify response = .invalidState) :
    ∃ cached f, s.recovery.lastValid = some cached ∧ cached.Shows f ∧
      (s.screen.Accepts f.id → s.shown x = some cached) := by
  obtain ⟨cached, hcached, f, hf⟩ := hs
  refine ⟨cached, f, hcached, hf, fun haccepts => ?_⟩
  have hhandled := handling_step hheard
  generalize s.step x = t at hhandled
  generalize s.shown x = shown at hhandled ⊢
  cases hhandled with
  | replayed _ hcached' _ => exact hcached'.symm.trans hcached
  | lapsed _ hcached' hrender =>
    obtain rfl := Option.some.inj (hcached'.symm.trans hcached)
    exact nomatch hrender.eq_true hf haccepts
  | acknowledged _ hnone => exact nomatch hnone.symm.trans hcached
  | shown hother | missed hother | superseded hother | failed hother =>
    cases hother.symm.trans hkind

/-! ## Runs -/

/-- No answer is cached along the run that cannot be shown. -/
def Uncluttered (s : Session) (run : List Stimulus) : Prop :=
  ∀ earlier x, earlier ++ [x] <+: run → ¬ (s.after earlier).Clutters x

/-- The cache is good for what it is there for, all along the run. -/
structure Recoverable (s : Session) (run : List Stimulus) : Prop where
  /-- What is cached can be shown again. -/
  replayable : ∀ earlier, earlier <+: run → (s.after earlier).recovery.Replayable
  /-- A cached tree gives way to nothing but a tree, until a request is rejected. -/
  stands : ∀ earlier between, earlier ++ between <+: run → (∀ x ∈ between, ¬ x.IsInvalidState) →
    (s.after earlier).recovery.Stocked → (s.after (earlier ++ between)).recovery.Stocked
  /-- When a request is rejected with a tree cached since some time, there is a tree to show. -/
  answered : ∀ earlier between x response now, earlier ++ between ++ [x] <+: run →
    (∀ y ∈ between, ¬ y.IsInvalidState) → (s.after earlier).recovery.Stocked →
    (s.after (earlier ++ between)).heard x = some (response, now) →
    (s.after (earlier ++ between)).requests.classify response = .invalidState →
    ∃ cached f, (s.after (earlier ++ between)).recovery.lastValid = some cached ∧
      cached.Shows f ∧ ((s.after (earlier ++ between)).screen.Accepts f.id →
        (s.after (earlier ++ between)).shown x = some cached)

namespace Uncluttered

variable {run earlier between : List Stimulus}

theorem replayable (h : s.Uncluttered run) (hs : s.recovery.Replayable) (hrun : earlier <+: run) :
    (s.after earlier).recovery.Replayable := by
  induction earlier using List.reverseRecOn with
  | nil => exact hs
  | append_singleton earlier x ih =>
    rw [after_concat]
    exact replayable_step (ih ((List.prefix_append _ _).trans hrun)) (h earlier x hrun)

theorem stands (h : s.Uncluttered run) (hrun : earlier ++ between <+: run)
    (hvalid : ∀ x ∈ between, ¬ x.IsInvalidState) (hs : (s.after earlier).recovery.Stocked) :
    (s.after (earlier ++ between)).recovery.Stocked := by
  induction between using List.reverseRecOn with
  | nil => rwa [List.append_nil]
  | append_singleton between x ih =>
    rw [← List.append_assoc] at hrun ⊢
    rw [List.forall_mem_append] at hvalid
    have hbefore := ih ((List.prefix_append _ _).trans hrun) hvalid.1
    rw [after_concat]
    exact stocked_step hbefore (h _ x hrun) (hvalid.2 x (List.mem_singleton_self x))

theorem recoverable (h : s.Uncluttered run) (hs : s.recovery.Replayable) : s.Recoverable run where
  replayable _ hrun := h.replayable hs hrun
  stands _ _ hrun hvalid hstocked := h.stands hrun hvalid hstocked
  answered _ _ _ _ _ hrun hvalid hstocked hheard hkind :=
    shown_of_stocked (h.stands ((List.prefix_append _ _).trans hrun) hvalid hstocked) hheard hkind

end Uncluttered

/-- A cache that is good all along was never cluttered. -/
theorem Recoverable.uncluttered {run : List Stimulus} (h : s.Recoverable run) :
    s.Uncluttered run := by
  intro earlier x hrun hclutters
  have hreplayable := h.replayable (earlier ++ [x]) hrun
  rw [after_concat] at hreplayable
  exact hclutters.spoils hreplayable

/-- The cache is good for what it is there for on exactly those runs on which no answer is cached
that cannot be shown. -/
theorem recoverable_iff_uncluttered (config : Config) (host : Host) (run : List Stimulus) :
    (start config host).Recoverable run ↔ (start config host).Uncluttered run :=
  ⟨Recoverable.uncluttered, fun h => h.recoverable nofun⟩

/-! ## Two requests, the first of which is answered without a tree -/

/-- The answer to the first request, which carries nothing. -/
def treelessAnswer : Stimulus := .message (.rerun ⟨some 1, none, none, none⟩) 1

/-- The second request is rejected. -/
def rejection : Stimulus := .message (.rerun ⟨some 2, none, some ⟨"InvalidState", none⟩, none⟩) 2

/-- The tree of the push would be shown again when the second request is rejected.  The answer
without a tree takes its place, and nothing is shown. -/
theorem treeless_answer_displaces :
    asking.recovery.Stocked ∧ (asking.shown rejection).isSome = true ∧
      ¬ (asking.step treelessAnswer).recovery.Replayable ∧
      (asking.step treelessAnswer).shown rejection = none ∧
      ¬ (start .default .minimal).Recoverable (twoRequests ++ [treelessAnswer]) := by
  have hspoilt : ¬ (asking.step treelessAnswer).recovery.Replayable := by decide +kernel
  refine ⟨by decide +kernel, by decide +kernel, hspoilt, ?_, fun h => hspoilt ?_⟩
  · rw [← Option.isNone_iff_eq_none]
    decide +kernel
  · have hreplayable := h.replayable _ (List.prefix_refl _)
    rwa [after_concat] at hreplayable

end Session

end RemoteUi
