/-
# RemoteUi.Proofs.Session.Stale — answers that no longer matter.

An answer is stale when it is to another request than the latest.  Stale answers and answers that
carry an error concern the memory of a session at most: its cache, and the flag that every answer
carries.  So without them a run comes to the same in all but memory, as long as no answer has the
memory shown (`SameButMemory.after_kept`); and of answers that are outstanding together only the one
to the highest id matters, whichever way they arrive.

* A run is compared with the same run without the answers that are not heeded when they arrive
  (`kept`).  The two sessions differ in memory only, and they go on to do so: a step that both take
  keeps them apart in memory only (`SameButMemory.step`), and an answer that is left out concerned
  the memory of the one (`sameButMemory_step`).
* Outstanding answers are given as a list (`Awaits`), and arrive in the order of any permutation of
  it, at any times.  Which of them is heeded does not change as they arrive, as no id is given out
  in the meantime (`kept_arrivals`).  Since ids are different, at most one is heeded, and it has the
  highest.
* What the screen shows then is the content of its tree (`content_step_arrival`).

An answer that rejects a request is excluded, since it has the cached answer shown; for such answers
there is another module.
-/
import RemoteUi.Proofs.Screen.Content
import RemoteUi.Proofs.Session.Reachable

namespace RemoteUi

/-- An answer that rejects a request for diverged state arrives. -/
def Stimulus.IsInvalidState : Stimulus → Prop
  | .message envelope _ => envelope.kind = .invalidState
  | _ => False

namespace Session

variable {s t : Session} {x : Stimulus} {response : Response} {now : Nat}

/-- Everything but an answer that carries an error or is to another request than the latest. -/
def heeds (s : Session) : Stimulus → Bool
  | .message (.rerun response) _ => response.error.isNone && response.requestId.all s.requests.accepts
  | _ => true

/-- The run without the answers that are not heeded when they arrive. -/
def kept (s : Session) : List Stimulus → List Stimulus
  | [] => []
  | x :: rest => if s.heeds x then x :: (s.step x).kept rest else (s.step x).kept rest

/-! ## Steps of sessions that differ in memory -/

/-- Sending does not depend on the memory. -/
theorem SameButMemory.sendEvents (h : s.SameButMemory t) (events : List Event) :
    (s.sendEvents events).1.SameButMemory (t.sendEvents events).1 := by
  obtain ⟨r, d, rfl⟩ := h
  exact ⟨r, d, congrArg Prod.fst (s.sendEvents_withMemory r d events)⟩

/-- An answer that rejects nothing does the same with any memory. -/
theorem sameButMemory_handleResponse (r : Recovery) (d : Bool) (now : Nat)
    (h : s.requests.classify response ≠ .invalidState) :
    (s.handleResponse response now).SameButMemory
      ((s.withMemory r d).handleResponse response now) := by
  unfold handleResponse
  have hrequests : (s.withMemory r d).requests = s.requests := rfl
  rw [hrequests, render_withMemory]
  cases hkind : s.requests.classify response with
  | apply =>
    dsimp only
    split <;> exact ⟨_, _, rfl⟩
  | superseded id => exact ⟨_, _, rfl⟩
  | invalidState => exact absurd hkind h
  | failed e => exact ⟨_, _, rfl⟩

theorem SameButMemory.handle (h : s.SameButMemory t) (envelope : ServerEnvelope) (now : Nat)
    (henvelope : ¬ envelope.kind = .invalidState) :
    (s.handle envelope now).1.SameButMemory (t.handle envelope now).1 := by
  obtain ⟨r, d, rfl⟩ := h
  unfold Session.handle
  dsimp only [withMemory]
  split
  · exact ⟨_, _, rfl⟩
  · cases envelope with
    | hello id devMode =>
      dsimp only
      split
      · exact ⟨_, _, rfl⟩
      · dsimp only
        exact .sendEvents ⟨r, _, rfl⟩ []
    | rerun response =>
      have hkind := mt (Requests.classify_eq_invalidState (r := s.requests)).mp henvelope
      exact sameButMemory_handleResponse (s := { s with devMode := response.devMode.getD false })
        r (response.devMode.getD false) now hkind
    | refresh devMode => exact ⟨_, _, rfl⟩

/-- A step keeps sessions apart in memory only, unless it has the memory shown. -/
theorem SameButMemory.step (h : s.SameButMemory t) (hx : ¬ x.IsInvalidState) :
    (s.step x).SameButMemory (t.step x) := by
  cases x with
  | message envelope now => exact h.handle envelope now hx
  | opening | drain =>
    obtain ⟨r, d, rfl⟩ := h
    exact ⟨r, d, rfl⟩
  | action a =>
    obtain ⟨r, d, rfl⟩ := h
    exact ⟨r, d, congrArg Interaction.session (s.interact_withMemory r d a.id a.input)⟩
  | frame now =>
    obtain ⟨r, d, rfl⟩ := h
    exact ⟨r, d, congrArg Prod.fst (s.animationFrame_withMemory r d now)⟩
  | lost reason =>
    obtain ⟨r, d, rfl⟩ := h
    exact ⟨r, d, s.transportClosed_withMemory r d reason⟩

/-- The same is taken by the server. -/
theorem SameButMemory.sent_eq (h : s.SameButMemory t) (x : Stimulus) : s.sent x = t.sent x := by
  obtain ⟨r, d, rfl⟩ := h
  cases x <;> rfl

/-! ## Answers that are not heeded -/

/-- An answer takes nothing from the queue. -/
theorem sent_of_heeds_eq_false (h : s.heeds x = false) : s.sent x = [] := by
  cases x with
  | drain => cases h
  | opening | message | action | frame | lost => rfl

/-- What is not heeded is not shown. -/
theorem classify_ne_apply (h : s.heeds (.message (.rerun response) now) = false) :
    s.requests.classify response ≠ .apply := by
  unfold Requests.classify
  rw [heeds] at h
  cases herror : response.error with
  | some e =>
    dsimp only
    split <;> nofun
  | none =>
    cases hid : response.requestId with
    | none => simp [herror, hid] at h
    | some id =>
      have hstale : s.requests.accepts id = false := by simpa [herror, hid] using h
      simp [hstale]

/-- An answer that is not heeded concerns the memory at most. -/
theorem sameButMemory_step (h : s.heeds x = false) (hx : ¬ x.IsInvalidState) :
    s.SameButMemory (s.step x) := by
  cases s.way_step x with
  | opening | drain | action | frame | greeted | reloaded | lost => cases h
  | disregarded hdisregards devMode heq =>
    rw [heq]
    exact ⟨_, _, rfl⟩
  | @answered response now hopen =>
    have hstale := classify_ne_apply h
    have hhandled := handling_step (heard_rerun hopen response now)
    generalize s.step _ = t at hhandled ⊢
    generalize s.shown _ = shown at hhandled
    cases hhandled with
    | shown hkind | missed hkind => exact absurd hkind hstale
    | replayed hkind | lapsed hkind | acknowledged hkind =>
      exact absurd (Requests.classify_eq_invalidState.mp hkind) hx
    | superseded | failed => exact ⟨_, _, rfl⟩

/-- Sessions that differ in memory only still do so after a run, when the other one is spared the
answers that are not heeded. -/
theorem SameButMemory.after_kept (h : s.SameButMemory t) {run : List Stimulus}
    (hrun : ∀ x ∈ run, ¬ x.IsInvalidState) :
    (s.after run).SameButMemory (t.after (s.kept run)) ∧ s.sentBy run = t.sentBy (s.kept run) := by
  induction run generalizing s t with
  | nil => exact ⟨h, rfl⟩
  | cons x rest ih =>
    obtain ⟨hx, hrest⟩ := List.forall_mem_cons.mp hrun
    cases hheeds : s.heeds x with
    | true =>
      obtain ⟨hafter, hsent⟩ := ih (h.step hx) hrest
      rw [kept, if_pos hheeds, sentBy, sentBy, h.sent_eq x, hsent]
      exact ⟨hafter, rfl⟩
    -- the other session is spared the answer, and stays where it is
    | false =>
      have hstep : (s.step x).SameButMemory t := (sameButMemory_step hheeds hx).symm.trans h
      obtain ⟨hafter, hsent⟩ := ih hstep hrest
      rw [kept, hheeds, sentBy, sent_of_heeds_eq_false hheeds, hsent]
      exact ⟨hafter, rfl⟩

end Session

/-! ## Answers that are outstanding together -/

/-- A successful answer to a request, and the tree that it shows. -/
structure Answer where
  response : Response
  id : Nat
  tree : Fragment
  successful : response.error = none
  requestId_eq : response.requestId = some id
  shows : response.Shows tree

/-- The answer arrives. -/
def Answer.arrival (a : Answer) (now : Nat) : Stimulus :=
  .message (.rerun a.response) now

/-- Answers arrive one after the other. -/
def Answer.arrivals (as : List (Answer × Nat)) : List Stimulus :=
  as.map fun a => a.1.arrival a.2

namespace Session

variable {s : Session}

/-- These are answers to requests that were sent, each with a tree for the same fragment, and the
fragment can be swapped in. -/
structure Awaits (s : Session) (fragmentId : String) (answers : List Answer) : Prop where
  reachable : s.Reachable
  connected : s.state ≠ .closed
  issued : ∀ a ∈ answers, s.requests.Issued a.id
  distinct : (answers.map Answer.id).Nodup
  tree_id : ∀ a ∈ answers, a.tree.id = fragmentId
  accepts : s.screen.Accepts fragmentId

theorem not_isInvalidState_arrival (a : Answer) (now : Nat) : ¬ (a.arrival now).IsInvalidState := by
  show ¬ ServerEnvelope.kind _ = .invalidState
  rw [ServerEnvelope.kind, a.successful]
  nofun

theorem not_isInvalidState_arrivals (as : List (Answer × Nat)) :
    ∀ x ∈ Answer.arrivals as, ¬ x.IsInvalidState := by
  intro x hx
  obtain ⟨a, -, rfl⟩ := List.mem_map.mp hx
  exact not_isInvalidState_arrival a.1 a.2

/-- A successful answer is heeded if it is to the latest request. -/
theorem heeds_arrival (s : Session) (a : Answer) (now : Nat) :
    s.heeds (a.arrival now) = s.requests.accepts a.id := by
  show (a.response.error.isNone && a.response.requestId.all s.requests.accepts) = _
  rw [a.successful, a.requestId_eq]
  rfl

/-- Of answers that arrive one after the other, those to the latest request are heeded. -/
theorem kept_arrivals (s : Session) (as : List (Answer × Nat)) :
    s.kept (Answer.arrivals as) =
      Answer.arrivals (as.filter fun a => s.requests.accepts a.1.id) := by
  induction as generalizing s with
  | nil => rfl
  | cons a rest ih =>
    have hrest := ih (s.step (a.1.arrival a.2))
    rw [Answer.arrival, requests_step_rerun] at hrest
    rw [Answer.arrivals, List.map_cons, kept, heeds_arrival, List.filter_cons]
    split
    · exact congrArg (a.1.arrival a.2 :: ·) hrest
    · exact hrest

/-- The answer to the latest request shows its tree, if the screen takes it. -/
theorem content_step_arrival {a : Answer} (now : Nat) (hs : s.screen.pool.Sound)
    (hconnected : s.state ≠ .closed) (hlatest : s.requests.accepts a.id)
    (haccepts : s.screen.Accepts a.tree.id) :
    (s.step (a.arrival now)).screen.content a.tree.id = some a.tree.content.pruned := by
  -- it is to the latest request, and so it is shown
  have hkind : s.requests.classify a.response = .apply := by
    simp [Requests.classify, a.successful, a.requestId_eq, hlatest]
  have hshown : ∀ out, Rendering { s with devMode := a.response.devMode.getD false } a.response now
      out → out.2 = true ∧ out.1.screen.content a.tree.id = some a.tree.content.pruned := by
    intro out hrender
    cases hrender with
    | skipped calls hcalls hnone => exact absurd haccepts (hnone a.tree a.shows)
    | shown calls id widgets groups hcalls hf hswap =>
      obtain rfl := hf.unique a.shows
      exact ⟨rfl, Screen.content_swap hs hf.wellFormed hswap⟩
  have hhandled := handling_step (heard_rerun hconnected a.response now)
  show (s.step (.message (.rerun a.response) now)).screen.content _ = _
  generalize s.step _ = t at hhandled ⊢
  generalize s.shown _ = shown at hhandled
  cases hhandled with
  | shown _ hrender => exact (hshown _ hrender).2
  | missed _ hrender => cases (hshown _ hrender).1
  | superseded hother | replayed hother | lapsed hother | acknowledged hother | failed hother =>
    cases hother.symm.trans hkind

/-- Where keys are different, one element has the key of an element. -/
theorem filter_key_eq {α : Type} {key : α → Nat} {as : List α} {a : α} (ha : a ∈ as)
    (hdistinct : (as.map key).Nodup) : as.filter (fun b => key b == key a) = [a] := by
  induction as with
  | nil => cases ha
  | cons b rest ih =>
    rw [List.map_cons, List.nodup_cons] at hdistinct
    rw [List.filter_cons]
    rcases List.mem_cons.mp ha with rfl | ha
    · have hrest : rest.filter (fun b => key b == key a) = [] := by
        refine List.filter_eq_nil_iff.mpr fun b hb heq => hdistinct.1 ?_
        exact beq_iff_eq.mp heq ▸ List.mem_map_of_mem hb
      rw [hrest, if_pos (beq_self_eq_true _)]
    · have hne : ¬ (key b == key a) = true := fun heq =>
        hdistinct.1 (beq_iff_eq.mp heq ▸ List.mem_map_of_mem ha)
      rw [if_neg hne, ih ha hdistinct.2]

namespace Awaits

variable {fragmentId : String} {answers : List Answer} {top : Answer} {as : List (Answer × Nat)}

/-- The latest request, if it is among those outstanding, has the highest id. -/
theorem id_eq_highest (h : s.Awaits fragmentId answers) (htop : top ∈ answers)
    (hhighest : ∀ a ∈ answers, a.id ≤ top.id) {a : Answer} (ha : a ∈ answers)
    (haccepts : s.requests.accepts a.id) : a.id = top.id := by
  have hlatest := h.reachable.counting.lt_of_latest (Requests.accepts_iff.mp haccepts)
  have hissued := (h.issued top htop).2
  have hle := hhighest a ha
  omega

/-- Of outstanding answers, those to the latest request are the one to the highest id, or there
are none. -/
theorem filter_arrivals (h : s.Awaits fragmentId answers) (htop : top ∈ answers)
    (hhighest : ∀ a ∈ answers, a.id ≤ top.id) (hperm : (as.map Prod.fst).Perm answers) {now : Nat}
    (hnow : (top, now) ∈ as) : as.filter (fun a => s.requests.accepts a.1.id) =
      if s.requests.accepts top.id then [(top, now)] else [] := by
  have hmem : ∀ a ∈ as, a.1 ∈ answers := fun a ha =>
    hperm.subset (List.mem_map_of_mem ha)
  split
  · rename_i hlatest
    have hids : (as.map fun a => a.1.id).Nodup := by
      have hids := (hperm.map Answer.id).nodup_iff.mpr h.distinct
      rwa [List.map_map] at hids
    rw [← filter_key_eq hnow hids]
    refine List.filter_congr fun a ha => Bool.eq_iff_iff.mpr ⟨fun haccepts => ?_, fun heq => ?_⟩
    · exact beq_iff_eq.mpr (h.id_eq_highest htop hhighest (hmem a ha) haccepts)
    · rwa [beq_iff_eq.mp heq]
  · rename_i hlatest
    refine List.filter_eq_nil_iff.mpr fun a ha haccepts => hlatest ?_
    rwa [← h.id_eq_highest htop hhighest (hmem a ha) haccepts]

end Awaits

/-- Stale answers and answers with an error leave no trace but in memory, as long as no answer has
the memory shown.  So of answers that are outstanding together, whichever way they arrive, only the
one to the highest id decides what the screen becomes; if it is to the latest request, its tree is
what the fragment shows. -/
theorem stale_answers_leave_no_trace (s : Session) :
    (∀ run : List Stimulus, (∀ x ∈ run, ¬ x.IsInvalidState) →
      (s.after run).SameButMemory (s.after (s.kept run)) ∧ s.sentBy run = s.sentBy (s.kept run)) ∧
    ∀ (fragmentId : String) (answers : List Answer), s.Awaits fragmentId answers →
      ∀ top ∈ answers, (∀ a ∈ answers, a.id ≤ top.id) →
      ∀ as : List (Answer × Nat), (as.map Prod.fst).Perm answers →
      ∃ now, (top, now) ∈ as ∧
        (s.after (Answer.arrivals as)).screen = (s.step (top.arrival now)).screen ∧
        ((∃ a ∈ answers, s.requests.accepts a.id) →
          (s.after (Answer.arrivals as)).screen.content fragmentId =
            some top.tree.content.pruned) := by
  refine ⟨fun run hrun => (SameButMemory.refl s).after_kept hrun, ?_⟩
  intro fragmentId answers h top htop hhighest as hperm
  obtain ⟨⟨a, now⟩, hnow, htop'⟩ := List.mem_map.mp (hperm.symm.subset htop)
  obtain rfl : a = top := htop'
  obtain ⟨hafter, -⟩ := (SameButMemory.refl s).after_kept (not_isInvalidState_arrivals as)
  rw [kept_arrivals, h.filter_arrivals htop hhighest hperm hnow] at hafter
  have hscreen : (s.after (Answer.arrivals as)).screen = (s.step (a.arrival now)).screen := by
    split at hafter
    -- what is kept is the answer to the highest id, or nothing if not even that one is heeded
    · obtain ⟨_, _, heq⟩ := hafter
      exact (congrArg screen heq).symm
    · rename_i hstale
      have hheeds : s.heeds (a.arrival now) = false :=
        (s.heeds_arrival a now).trans (Bool.eq_false_iff.mpr hstale)
      obtain ⟨_, _, heq⟩ := hafter.trans
        (sameButMemory_step hheeds (not_isInvalidState_arrival a now))
      exact (congrArg screen heq).symm
  refine ⟨now, hnow, hscreen, fun ⟨b, hb, haccepts⟩ => ?_⟩
  rw [h.id_eq_highest htop hhighest hb haccepts] at haccepts
  have hid := h.tree_id a htop
  rw [hscreen, ← hid]
  exact content_step_arrival now h.reachable.sound h.connected haccepts (hid ▸ h.accepts)

end Session

/-! ## Two requests that are answered in the wrong order -/

/-- The answer to a request with a line of text. -/
def Answer.line (id : Nat) (text : String) : Answer where
  response := ⟨some id, some (.page [.obj [("type", .str "text"), ("text", .str text)]]), none, none⟩
  id := id
  tree := ⟨"main", .container (.ofId none) (some "main") [.markup (.ofId none) "p" (.text text)]⟩
  successful := rfl
  requestId_eq := rfl
  shows := ⟨_, _, rfl, rfl⟩

namespace Session

/-- Two requests were sent, and the page can be swapped in. -/
theorem awaits_asking : asking.Awaits "main" [.line 1 "early", .line 2 "late"] where
  reachable := (Reachable.start _ _).after _
  connected := by decide +kernel
  issued := by
    rw [requests_asking]
    simp [Requests.Issued, Answer.line]
  distinct := by decide
  tree_id := by simp [Answer.line]
  accepts := Or.inr (Option.isSome_iff_exists.mp (by decide +kernel))

/-- The answer to the second request comes first, and the other one does not show any more. -/
theorem stale_answers_leave_no_trace_asking :
    let run := Answer.arrivals [(.line 2 "late", 1), (.line 1 "early", 2)]
    (asking.after run).SameButMemory (asking.after [(Answer.line 2 "late").arrival 1]) ∧
      asking.sentBy run = [] ∧
      (asking.after run).screen.content "main" =
        some (Answer.line 2 "late").tree.content.pruned := by
  intro run
  obtain ⟨htrace, houtstanding⟩ := stale_answers_leave_no_trace asking
  have hkept : asking.kept run = [(Answer.line 2 "late").arrival 1] := by
    rw [kept_arrivals, requests_asking]
    rfl
  obtain ⟨hafter, hsent⟩ := htrace run (not_isInvalidState_arrivals _)
  obtain ⟨now, -, -, hcontent⟩ := houtstanding "main" _ awaits_asking (.line 2 "late")
    (by simp) (by simp [Answer.line]) [(.line 2 "late", 1), (.line 1 "early", 2)] (.swap ..)
  rw [hkept] at hafter hsent
  refine ⟨hafter, hsent, hcontent ⟨.line 2 "late", by simp, ?_⟩⟩
  rw [requests_asking]
  rfl

end Session

end RemoteUi
