/-
# RemoteUi.Proofs.Screen.Settling — a swap settles at most once.

A swap can end in three ways: at once, by a frame that finds its time passed, and by the host that
says so.  It is handed a number and a ticket, and whoever ends it reports the ticket.  Here it is
shown that a ticket is reported at most once, in every run of calls from an empty screen
(`settles_once`).

* What one call does to the latest swap of each fragment is told once (`Proceeds`): there was none
  and is none; or it is the same swap, which may have settled; or it is a new one with the number
  that was next.  There are four kinds of calls, one of them for whatever happens to widgets, groups
  and the surface in the meantime, which swaps have nothing to do with.
* Numbers grow (`Numbered`, `increasing_issuedBy`), so that a number is that of one swap.
* Only the latest swap of a fragment can end at all, and only while it is under way
  (`isCurrent_of_mem_reported`).  Once it has ended, or a newer swap has taken its place, its ticket
  is `Spent`, and nothing makes it good again (`Spent.call`).
* Along a run the latest swap of a fragment only moves on (`Onward`): to a later phase, or to a
  later swap.

The results are put together in `SettlesOnce`, with the word of the host about an older swap as one
of its clauses: it changes nothing at all.
-/
import Mathlib.Data.List.Induction
import Mathlib.Data.List.Nodup
import RemoteUi.Proofs.Screen.Swap

namespace RemoteUi

namespace Screen

/-! ## Calls -/

/-- A call that has to do with swaps. -/
inductive Call where
  | swap (f : Fragment) (now : Nat)
  | tick (now : Nat)
  | complete (ticket : SwapTicket)
  /-- What is live and shown changes between the calls, in whatever way. -/
  | meanwhile (pool : WidgetPool) (groups : Groups) (surface : Surface)

/-- The screen after a call; a refused swap changes nothing. -/
def call (s : Screen) : Call → Screen
  | .swap f now => s.attempt f now
  | .tick now => (s.tick now).1
  | .complete ticket => (s.complete ticket).1
  | .meanwhile pool groups surface => { s with pool := pool, groups := groups, surface := surface }

/-- The ticket that a call hands out: only a swap that succeeds does. -/
def issued (s : Screen) : Call → List SwapTicket
  | .swap f now =>
    match s.swap f now with
    | .ok (_, report) => [report.ticket]
    | .error _ => []
  | _ => []

/-- The tickets that a call reports as settled. -/
def reported (s : Screen) : Call → List SwapTicket
  | .tick now => (s.tick now).2
  | .complete ticket => if (s.complete ticket).2 then [ticket] else []
  | _ => []

/-- The screen after some calls. -/
def calls (s : Screen) (cs : List Call) : Screen :=
  cs.foldl call s

/-- The tickets that some calls hand out, in their order. -/
def issuedBy (s : Screen) : List Call → List SwapTicket
  | [] => []
  | c :: cs => s.issued c ++ (s.call c).issuedBy cs

/-- The tickets that some calls report as settled, in their order. -/
def reportedBy (s : Screen) : List Call → List SwapTicket
  | [] => []
  | c :: cs => s.reported c ++ (s.call c).reportedBy cs

variable {s s' : Screen} {f : Fragment} {now : Nat} {report : SwapReport} {ticket : SwapTicket}
  {c : Call} {cs : List Call} {id : String}

/-- Some calls and then some more. -/
theorem calls_append (s : Screen) (cs ds : List Call) : s.calls (cs ++ ds) = (s.calls cs).calls ds :=
  List.foldl_append

theorem issuedBy_append (s : Screen) (cs ds : List Call) :
    s.issuedBy (cs ++ ds) = s.issuedBy cs ++ (s.calls cs).issuedBy ds := by
  induction cs generalizing s with
  | nil => rfl
  | cons c cs ih =>
    rw [List.cons_append, issuedBy, issuedBy, ih, List.append_assoc]
    rfl

theorem reportedBy_append (s : Screen) (cs ds : List Call) :
    s.reportedBy (cs ++ ds) = s.reportedBy cs ++ (s.calls cs).reportedBy ds := by
  induction cs generalizing s with
  | nil => rfl
  | cons c cs ih =>
    rw [List.cons_append, reportedBy, reportedBy, ih, List.append_assoc]
    rfl

/-! ## One call -/

/-- A ticket is good for the latest swap of its fragment while that is under way. -/
theorem isCurrent_iff : s.isCurrent ticket = true ↔
    ∃ t, s.transitions.get? ticket.fragmentId = some t ∧ t.swapId = ticket.swapId ∧
      t.phase = .transitioning := by
  simp [isCurrent, Option.any_eq_true]

/-- The ticket bears the number that was next. -/
theorem ticket_swap (h : s.swap f now = .ok (s', report)) :
    report.ticket = ⟨s.nextSwapId, f.id⟩ := by
  unfold swap at h
  dsimp only at h
  split at h
  · cases h
  · obtain ⟨-, rfl⟩ := Prod.mk.inj (Except.ok.inj h)
    rfl

/-- A swap that is told to settle settles, or has done so before. -/
theorem advance_settled (t : Transition) :
    t.advance .settled = t ∨ t.advance .settled = { t with phase := .settled } := by
  unfold Transition.advance
  split
  · exact Or.inr rfl
  · exact Or.inl rfl

/-- A frame has a swap settle, or leaves it as it is. -/
theorem tick_eq_or_settled (t : Transition) (duration now : Nat) :
    t.tick duration now = t ∨ t.tick duration now = { t with phase := .settled } := by
  unfold Transition.tick
  split
  · exact Or.inr rfl
  · exact Or.inl rfl

theorem swapId_advance (t : Transition) (phase : SwapPhase) :
    (t.advance phase).swapId = t.swapId := by
  unfold Transition.advance
  split <;> rfl

theorem swapId_transition (strategy : FadeStrategy) (swapId : Nat) (start : Float32) (now : Nat) :
    (transition strategy swapId start now).swapId = swapId := by
  unfold transition
  cases strategy with
  | instant => exact (swapId_advance _ _).trans (swapId_advance _ _)
  | crossFade duration =>
    refine (swapId_advance _ _).trans ?_
    exact swapId_advance ⟨swapId, .building, 1, now⟩ .inserted

/-- A swap begins a transition for its own fragment only. -/
theorem get?_nextTransitions (s : Screen) (f : Fragment) (now : Nat) (id : String) :
    (s.nextTransitions f now).get? id =
      if id = f.id then some (transition s.strategy s.nextSwapId
        (incoming (s.built f) (s.surface.fragment? f.id)).box.opacity now)
      else s.transitions.get? id :=
  Table.get?_insert _ _ _ _

theorem call_swap (h : s.swap f now = .ok (s', report)) : s.call (.swap f now) = s' := by
  rw [call, attempt, h]

theorem issued_swap (h : s.swap f now = .ok (s', report)) :
    s.issued (.swap f now) = [⟨s.nextSwapId, f.id⟩] := by
  rw [issued, h]
  exact congrArg (fun ticket => [ticket]) (ticket_swap h)

/-- The latest swap of a fragment after a call: the same one, which may have settled, or a new one
with the number that was next. -/
inductive Proceeds (s : Screen) (c : Call) (id : String) : Prop
  | none (hbefore : s.transitions.get? id = none) (hafter : (s.call c).transitions.get? id = none)
      (hnext : s.nextSwapId ≤ (s.call c).nextSwapId)
  | further {t t' : Transition} (hbefore : s.transitions.get? id = some t)
      (hafter : (s.call c).transitions.get? id = some t')
      (hsame : t' = t ∨ t' = { t with phase := .settled })
      (hnext : s.nextSwapId ≤ (s.call c).nextSwapId)
  | newer {t' : Transition} (hissued : s.issued c = [⟨s.nextSwapId, id⟩])
      (hafter : (s.call c).transitions.get? id = some t') (hid : t'.swapId = s.nextSwapId)
      (hnext : (s.call c).nextSwapId = s.nextSwapId + 1)

/-- The latest swap of a fragment may have settled, and none was begun. -/
theorem Proceeds.of_map {g : Transition → Transition}
    (htransitions : (s.call c).transitions.get? id = (s.transitions.get? id).map g)
    (hg : ∀ t, g t = t ∨ g t = { t with phase := .settled })
    (hnext : s.nextSwapId ≤ (s.call c).nextSwapId) : s.Proceeds c id := by
  cases ht : s.transitions.get? id with
  | none => exact .none ht (by rw [htransitions, ht, Option.map_none]) hnext
  | some t => exact .further ht (by rw [htransitions, ht, Option.map_some]) (hg t) hnext

/-- The latest swap is as it was. -/
theorem Proceeds.of_eq (htransitions : (s.call c).transitions.get? id = s.transitions.get? id)
    (hnext : s.nextSwapId ≤ (s.call c).nextSwapId) : s.Proceeds c id :=
  .of_map (g := fun t => t) (by rw [htransitions, Option.map_id']) (fun _ => Or.inl rfl) hnext

/-- A swap is the latest one of its fragment; a refused one changes nothing. -/
theorem proceeds_swap (s : Screen) (f : Fragment) (now : Nat) (id : String) :
    s.Proceeds (.swap f now) id := by
  rcases s.attempt_eq f now with heq | ⟨report, h⟩
  · exact .of_eq (congrArg (·.transitions.get? id) heq)
      (Nat.le_of_eq (congrArg nextSwapId heq).symm)
  obtain ⟨focused, pool', -, heq⟩ := swap_ok h
  have hnext : (s.call (.swap f now)).nextSwapId = s.nextSwapId + 1 := congrArg nextSwapId heq
  have hafter : (s.call (.swap f now)).transitions.get? id = (s.nextTransitions f now).get? id :=
    congrArg (·.transitions.get? id) heq
  rw [get?_nextTransitions] at hafter
  by_cases hid : id = f.id
  · rw [if_pos hid] at hafter
    exact .newer (hid ▸ issued_swap h) hafter (swapId_transition _ _ _ _) hnext
  · rw [if_neg hid] at hafter
    exact .of_eq hafter (by omega)

/-- A frame begins no swap. -/
theorem proceeds_tick (s : Screen) (now : Nat) (id : String) : s.Proceeds (.tick now) id := by
  cases hstrategy : s.strategy with
  | instant =>
    have hcall : s.call (.tick now) = s := by rw [call, tick, hstrategy]
    exact .of_eq (by rw [hcall]) (Nat.le_of_eq (by rw [hcall]))
  | crossFade duration =>
    have hcall : s.call (.tick now) = { s with
        transitions := s.transitions.mapVal fun _ t => t.tick duration now
        surface := faded s.transitions.entries duration now s.surface } := by
      rw [call, tick, hstrategy]
    have hafter := Table.get?_mapVal s.transitions (fun _ t => t.tick duration now) id
    exact .of_map (by rw [hcall]; exact hafter) (fun t => tick_eq_or_settled t duration now)
      (Nat.le_of_eq (by rw [hcall]))

/-- The host can only end a swap. -/
theorem proceeds_complete (s : Screen) (ticket : SwapTicket) (id : String) :
    s.Proceeds (.complete ticket) id := by
  by_cases hcurrent : s.isCurrent ticket = true
  · have hcall : s.call (.complete ticket) = (s.complete ticket).1 := rfl
    rw [complete, if_pos hcurrent] at hcall
    have hafter := Table.get?_modify s.transitions ticket.fragmentId id fun t => t.advance .settled
    by_cases hid : id = ticket.fragmentId
    · rw [if_pos hid] at hafter
      exact .of_map (by rw [hcall]; exact hafter) advance_settled (Nat.le_of_eq (by rw [hcall]))
    · rw [if_neg hid] at hafter
      exact .of_eq (by rw [hcall]; exact hafter) (Nat.le_of_eq (by rw [hcall]))
  · have hcall : s.call (.complete ticket) = s := by rw [call, complete, if_neg hcurrent]
    exact .of_eq (by rw [hcall]) (Nat.le_of_eq (by rw [hcall]))

/-- What a call does to the latest swap of a fragment. -/
theorem proceeds_call (s : Screen) (c : Call) (id : String) : s.Proceeds c id := by
  cases c with
  | swap f now => exact s.proceeds_swap f now id
  | tick now => exact s.proceeds_tick now id
  | complete ticket => exact s.proceeds_complete ticket id
  | meanwhile pool groups surface => exact .of_eq rfl (Nat.le_refl _)

theorem Proceeds.nextSwapId_le (h : s.Proceeds c id) : s.nextSwapId ≤ (s.call c).nextSwapId := by
  cases h with
  | none _ _ hnext => exact hnext
  | further _ _ _ hnext => exact hnext
  | newer _ _ _ hnext => omega

/-! ## Numbers -/

/-- The number that is next is that of no swap so far. -/
def Numbered (s : Screen) : Prop :=
  ∀ id t, s.transitions.get? id = some t → t.swapId < s.nextSwapId

theorem numbered_empty (strategy : FadeStrategy) : (empty strategy).Numbered := nofun

/-- A new swap has the number that was next, and then the next one is higher. -/
theorem Numbered.call (hs : s.Numbered) (c : Call) : (s.call c).Numbered := by
  intro id t' hafter
  cases s.proceeds_call c id with
  | none _ hnone _ => cases hnone.symm.trans hafter
  | further hbefore hfurther hsame hnext =>
    obtain rfl := Option.some.inj (hfurther.symm.trans hafter)
    have hbound := Nat.lt_of_lt_of_le (hs id _ hbefore) hnext
    rcases hsame with rfl | rfl
    · exact hbound
    · exact hbound
  | newer _ hnewer hid hnext =>
    obtain rfl := Option.some.inj (hnewer.symm.trans hafter)
    omega

theorem Numbered.calls (hs : s.Numbered) (cs : List Call) : (s.calls cs).Numbered := by
  induction cs generalizing s with
  | nil => exact hs
  | cons c cs ih => exact ih (hs.call c)

/-- A ticket that is handed out bears the number that was next, and is that of the latest swap of
its fragment. -/
theorem issued_eq (h : ticket ∈ s.issued c) :
    s.issued c = [ticket] ∧ ticket.swapId = s.nextSwapId ∧
      (s.call c).nextSwapId = s.nextSwapId + 1 ∧
      ∃ t, (s.call c).transitions.get? ticket.fragmentId = some t ∧ t.swapId = ticket.swapId := by
  cases c with
  | tick | complete | meanwhile => cases h
  | swap f now =>
    simp only [issued] at h
    split at h
    · rename_i s' report hswap
      obtain rfl : ticket = ⟨s.nextSwapId, f.id⟩ :=
        (List.mem_singleton.mp h).trans (ticket_swap hswap)
      obtain ⟨focused, pool', -, rfl⟩ := swap_ok hswap
      rw [call_swap hswap]
      have hafter := s.get?_nextTransitions f now f.id
      rw [if_pos rfl] at hafter
      exact ⟨issued_swap hswap, rfl, rfl, _, hafter, swapId_transition _ _ _ _⟩
    · cases h

/-- Numbers grow from ticket to ticket, from the one that is next. -/
theorem increasing_issuedBy (s : Screen) (cs : List Call) :
    (s.issuedBy cs).Pairwise (fun a b => a.swapId < b.swapId) ∧
      ∀ ticket ∈ s.issuedBy cs, s.nextSwapId ≤ ticket.swapId := by
  induction cs generalizing s with
  | nil => exact ⟨.nil, nofun⟩
  | cons c cs ih =>
    obtain ⟨hlater, hbound⟩ := ih (s.call c)
    have hnext := (s.proceeds_call c "").nextSwapId_le
    have hfirst : (s.issued c).Pairwise fun a b => a.swapId < b.swapId := by
      cases hissued : s.issued c with
      | nil => exact .nil
      | cons ticket rest =>
        have hone := (issued_eq (hissued ▸ List.mem_cons_self : ticket ∈ s.issued c)).1
        rw [← hissued, hone]
        exact List.pairwise_singleton _ _
    refine ⟨List.pairwise_append.mpr ⟨hfirst, hlater, fun a ha b hb => ?_⟩, fun ticket hticket => ?_⟩
    · obtain ⟨-, hid, hsucc, -⟩ := issued_eq ha
      have hlow := hbound b hb
      omega
    · rcases List.mem_append.mp hticket with hticket | hticket
      · exact Nat.le_of_eq (issued_eq hticket).2.1.symm
      · exact Nat.le_trans hnext (hbound ticket hticket)

/-! ## Tickets that are reported -/

/-- A frame reports the transitions under way whose time has passed. -/
theorem mem_tick_iff : ticket ∈ (s.tick now).2 ↔ ∃ duration t, s.strategy = .crossFade duration ∧
    s.transitions.get? ticket.fragmentId = some t ∧ t.swapId = ticket.swapId ∧
      t.phase = .transitioning ∧ (t.tick duration now).phase = .settled := by
  unfold tick
  split
  · rename_i hinstant
    simp [hinstant]
  · rename_i duration hstrategy
    simp only [List.mem_map, List.mem_filter, Bool.and_eq_true, decide_eq_true_iff]
    constructor
    · rintro ⟨⟨id, t⟩, ⟨hmem, hphase, hsettled⟩, rfl⟩
      exact ⟨duration, t, hstrategy, Table.get?_eq_some_iff.mpr hmem, rfl, hphase, hsettled⟩
    · rintro ⟨duration', t, hstrategy', ht, hid, hphase, hsettled⟩
      obtain rfl := FadeStrategy.crossFade.inj (hstrategy.symm.trans hstrategy')
      exact ⟨(ticket.fragmentId, t), ⟨Table.get?_eq_some_iff.mp ht, hphase, hsettled⟩,
        congrArg (SwapTicket.mk · ticket.fragmentId) hid⟩

/-- A frame reports each fragment once at most, as the table has one entry for each. -/
theorem nodup_tick (s : Screen) (now : Nat) : (s.tick now).2.Nodup := by
  unfold tick
  split
  · exact .nil
  · -- there is one entry for each fragment
    refine List.Nodup.of_map SwapTicket.fragmentId ?_
    rw [List.map_map]
    exact (List.filter_sublist.map Prod.fst).nodup s.transitions.keys_nodup

/-- The host's word counts only for a transition under way, and ends it. -/
theorem complete_eq_true (h : (s.complete ticket).2 = true) : s.isCurrent ticket = true := by
  unfold complete at h
  split at h
  · assumption
  · cases h

theorem mem_reported_complete {ticket' : SwapTicket} (h : ticket ∈ s.reported (.complete ticket')) :
    ticket = ticket' ∧ s.isCurrent ticket' = true := by
  simp only [reported] at h
  split at h
  · rename_i hcompleted
    exact ⟨List.mem_singleton.mp h, complete_eq_true hcompleted⟩
  · cases h

theorem nodup_reported (s : Screen) (c : Call) : (s.reported c).Nodup := by
  cases c with
  | swap | meanwhile => exact .nil
  | tick now => exact s.nodup_tick now
  | complete ticket =>
    simp only [reported]
    split
    · exact List.nodup_singleton _
    · exact .nil

/-- Only the latest swap of a fragment is ever reported, and only while it is under way. -/
theorem isCurrent_of_mem_tick (h : ticket ∈ (s.tick now).2) : s.isCurrent ticket = true := by
  obtain ⟨duration, t, -, ht, hid, hphase, -⟩ := mem_tick_iff.mp h
  exact isCurrent_iff.mpr ⟨t, ht, hid, hphase⟩

theorem isCurrent_of_mem_reported (h : ticket ∈ s.reported c) : s.isCurrent ticket = true := by
  cases c with
  | swap | meanwhile => cases h
  | tick now => exact isCurrent_of_mem_tick h
  | complete ticket' =>
    obtain ⟨rfl, hcurrent⟩ := mem_reported_complete h
    exact hcurrent

/-- What is reported has settled. -/
theorem settled_of_mem_reported (h : ticket ∈ s.reported c) : ∃ t,
    (s.call c).transitions.get? ticket.fragmentId = some t ∧ t.phase = .settled := by
  cases c with
  | swap | meanwhile => cases h
  | tick now =>
    obtain ⟨duration, t, hstrategy, ht, -, -, hsettled⟩ := mem_tick_iff.mp h
    refine ⟨t.tick duration now, ?_, hsettled⟩
    rw [call, tick, hstrategy]
    exact (Table.get?_mapVal _ _ _).trans (by rw [ht, Option.map_some])
  | complete ticket' =>
    obtain ⟨rfl, hcurrent⟩ := mem_reported_complete h
    obtain ⟨t, ht, -, hphase⟩ := isCurrent_iff.mp hcurrent
    refine ⟨t.advance .settled, ?_, ?_⟩
    · rw [call, complete, if_pos hcurrent]
      exact (Table.get?_modify _ _ _ _).trans (by rw [if_pos rfl, ht, Option.map_some])
    · rw [Transition.advance, hphase]
      rfl

/-! ## Tickets that are spent -/

/-- The ticket is not that of a transition under way, and never will be: its number is taken. -/
structure Spent (s : Screen) (ticket : SwapTicket) : Prop where
  taken : ticket.swapId < s.nextSwapId
  idle : s.isCurrent ticket = false

/-- A call ends the way of a ticket, or leaves it as it is. -/
theorem Spent.call (h : s.Spent ticket) (c : Call) : (s.call c).Spent ticket := by
  have hproceeds := s.proceeds_call c ticket.fragmentId
  refine ⟨Nat.lt_of_lt_of_le h.taken hproceeds.nextSwapId_le, Bool.eq_false_iff.mpr fun hcurrent => ?_⟩
  obtain ⟨t', hafter, hid', hphase'⟩ := isCurrent_iff.mp hcurrent
  cases hproceeds with
  | none _ hnone _ => cases hnone.symm.trans hafter
  | newer _ hnewer hid _ =>
    -- a new swap has a number that was not taken
    obtain rfl := Option.some.inj (hnewer.symm.trans hafter)
    exact absurd h.taken (by omega)
  | further hbefore hfurther hsame _ =>
    obtain rfl := Option.some.inj (hfurther.symm.trans hafter)
    rcases hsame with rfl | rfl
    · exact Bool.eq_false_iff.mp h.idle (isCurrent_iff.mpr ⟨_, hbefore, hid', hphase'⟩)
    · cases hphase'

theorem Spent.not_mem_tick (h : s.Spent ticket) (now : Nat) : ticket ∉ (s.tick now).2 := fun hmem =>
  Bool.eq_false_iff.mp h.idle (isCurrent_of_mem_tick hmem)

/-- The word of the host about a spent ticket changes nothing. -/
theorem Spent.complete (h : s.Spent ticket) : s.complete ticket = (s, false) := by
  rw [Screen.complete, if_neg (Bool.eq_false_iff.mp h.idle)]

theorem Spent.not_mem_reportedBy (h : s.Spent ticket) (cs : List Call) :
    ticket ∉ s.reportedBy cs := by
  induction cs generalizing s with
  | nil => exact List.not_mem_nil
  | cons c cs ih =>
    refine fun hmem => (List.mem_append.mp hmem).elim (fun hmem => ?_) (ih (h.call c))
    exact Bool.eq_false_iff.mp h.idle (isCurrent_of_mem_reported hmem)

/-- What is reported is spent from then on. -/
theorem Numbered.spent_of_mem_reported (hs : s.Numbered) (h : ticket ∈ s.reported c) :
    (s.call c).Spent ticket := by
  obtain ⟨t, ht, hid, hphase⟩ := isCurrent_iff.mp (isCurrent_of_mem_reported h)
  refine ⟨?_, Bool.eq_false_iff.mpr fun hcurrent => ?_⟩
  · exact Nat.lt_of_lt_of_le (hid ▸ hs _ t ht) (s.proceeds_call c "").nextSwapId_le
  obtain ⟨settled, hsettled, hphase'⟩ := settled_of_mem_reported h
  obtain ⟨t', ht', -, hunderway⟩ := isCurrent_iff.mp hcurrent
  obtain rfl := Option.some.inj (hsettled.symm.trans ht')
  cases hphase'.symm.trans hunderway

/-- A ticket is reported at most once. -/
theorem Numbered.nodup_reportedBy (hs : s.Numbered) (cs : List Call) :
    (s.reportedBy cs).Nodup := by
  induction cs generalizing s with
  | nil => exact .nil
  | cons c cs ih =>
    refine List.nodup_append.mpr ⟨s.nodup_reported c, ih (hs.call c), ?_⟩
    -- once reported, a ticket is spent, and no later call reports it
    rintro ticket hticket _ hlater rfl
    exact (hs.spent_of_mem_reported hticket).not_mem_reportedBy cs hlater

/-! ## Along a run -/

/-- A swap of the same fragment is the same one, no less far, or a later one. -/
def Onward (t t' : Transition) : Prop :=
  t.swapId < t'.swapId ∨ t.swapId = t'.swapId ∧ t.phase.rank ≤ t'.phase.rank

theorem Onward.refl (t : Transition) : Onward t t := Or.inr ⟨rfl, Nat.le_refl _⟩

theorem Onward.trans {t u v : Transition} (h : Onward t u) (h' : Onward u v) : Onward t v := by
  unfold Onward at *
  omega

theorem Onward.settled (t : Transition) : Onward t { t with phase := .settled } := by
  obtain ⟨swapId, phase, start, started⟩ := t
  refine Or.inr ⟨rfl, ?_⟩
  cases phase <;> simp [SwapPhase.rank]

/-- One call moves the latest swap of a fragment on. -/
theorem Numbered.onward_call (hs : s.Numbered) {t : Transition}
    (ht : s.transitions.get? id = some t) (c : Call) :
    ∃ t', (s.call c).transitions.get? id = some t' ∧ Onward t t' := by
  cases s.proceeds_call c id with
  | none hnone _ _ => cases hnone.symm.trans ht
  | newer _ hafter hid _ => exact ⟨_, hafter, Or.inl (hid ▸ hs id t ht)⟩
  | further hbefore hafter hsame _ =>
    obtain rfl := Option.some.inj (hbefore.symm.trans ht)
    refine ⟨_, hafter, ?_⟩
    rcases hsame with rfl | rfl
    · exact .refl _
    · exact .settled _

theorem Numbered.onward (hs : s.Numbered) {t : Transition}
    (ht : s.transitions.get? id = some t) (cs : List Call) :
    ∃ t', (s.calls cs).transitions.get? id = some t' ∧ Onward t t' := by
  induction cs generalizing s t with
  | nil => exact ⟨t, ht, .refl t⟩
  | cons c cs ih =>
    obtain ⟨u, hu, honward⟩ := hs.onward_call ht c
    obtain ⟨t', ht', honward'⟩ := ih (hs.call c) hu
    exact ⟨t', ht', honward.trans honward'⟩

/-- Of the swaps of a fragment the latest is the one with the highest number. -/
theorem Numbered.le_latest (hs : s.Numbered) (h : ticket ∈ s.issuedBy cs) :
    ∃ t, (s.calls cs).transitions.get? ticket.fragmentId = some t ∧ ticket.swapId ≤ t.swapId := by
  induction cs generalizing s with
  | nil => cases h
  | cons c cs ih =>
    rcases List.mem_append.mp h with h | h
    · obtain ⟨-, -, -, t, ht, hid⟩ := issued_eq h
      obtain ⟨t', ht', honward⟩ := (hs.call c).onward ht cs
      refine ⟨t', ht', ?_⟩
      unfold Onward at honward
      omega
    · exact ih (hs.call c) h

/-- A ticket is spent once a newer one has been handed out for its fragment. -/
theorem Numbered.spent_of_newer (hs : s.Numbered) {newer : SwapTicket} (h : newer ∈ s.issuedBy cs)
    (hfragment : newer.fragmentId = ticket.fragmentId) (hlater : ticket.swapId < newer.swapId) :
    (s.calls cs).Spent ticket := by
  obtain ⟨t, ht, hle⟩ := hs.le_latest h
  rw [hfragment] at ht
  have hbound := hs.calls cs _ t ht
  refine ⟨by omega, Bool.eq_false_iff.mpr fun hcurrent => ?_⟩
  obtain ⟨t', ht', hid, -⟩ := isCurrent_iff.mp hcurrent
  obtain rfl := Option.some.inj (ht.symm.trans ht')
  omega

/-- The latest swap of a fragment has a ticket, unless it was there from the start. -/
theorem mem_issuedBy_of_latest (s : Screen) (cs : List Call) {t : Transition}
    (h : (s.calls cs).transitions.get? id = some t) :
    (∃ t₀, s.transitions.get? id = some t₀ ∧ t₀.swapId = t.swapId) ∨
      ⟨t.swapId, id⟩ ∈ s.issuedBy cs := by
  induction cs generalizing s with
  | nil => exact Or.inl ⟨t, h, rfl⟩
  | cons c cs ih =>
    rcases ih (s.call c) h with ⟨t₀, ht₀, hid₀⟩ | hissued
    · cases s.proceeds_call c id with
      | none _ hnone _ => cases hnone.symm.trans ht₀
      | newer hissued hnewer hid _ =>
        obtain rfl := Option.some.inj (hnewer.symm.trans ht₀)
        refine Or.inr (List.mem_append_left _ ?_)
        rw [hissued, ← hid₀, hid]
        exact List.mem_singleton_self _
      | further hbefore hafter hsame _ =>
        obtain rfl := Option.some.inj (hafter.symm.trans ht₀)
        refine Or.inl ⟨_, hbefore, ?_⟩
        rcases hsame with rfl | rfl
        · exact hid₀
        · exact hid₀
    · exact Or.inr (List.mem_append_right _ hissued)

/-- Only what was handed out is reported. -/
theorem mem_issuedBy_of_reported {strategy : FadeStrategy}
    (h : ticket ∈ (empty strategy).reportedBy cs) : ticket ∈ (empty strategy).issuedBy cs := by
  induction cs using List.reverseRecOn with
  | nil => cases h
  | append_singleton cs c ih =>
    rw [reportedBy_append] at h
    rw [issuedBy_append]
    refine List.mem_append_left _ ?_
    rcases List.mem_append.mp h with h | h
    · exact ih h
    · have hlast : ticket ∈ ((empty strategy).calls cs).reported c := by
        simpa [reportedBy] using h
      obtain ⟨t, ht, hid, -⟩ := isCurrent_iff.mp (isCurrent_of_mem_reported hlast)
      rcases mem_issuedBy_of_latest _ cs ht with ⟨_, hnone, _⟩ | hissued
      · cases hnone
      · rwa [hid] at hissued

/-! ## Every run -/

/-- How swaps end in a run from an empty screen. -/
structure SettlesOnce (strategy : FadeStrategy) (cs : List Call) : Prop where
  /-- Numbers grow from swap to swap, so none is used twice. -/
  increasing : ((empty strategy).issuedBy cs).Pairwise fun a b => a.swapId < b.swapId
  /-- A swap never goes back to an earlier phase. -/
  forward : ∀ earlier later, cs = earlier ++ later → ∀ id t t',
    ((empty strategy).calls earlier).transitions.get? id = some t →
    ((empty strategy).calls cs).transitions.get? id = some t' →
    t'.swapId = t.swapId → t.phase.rank ≤ t'.phase.rank
  /-- What is reported as settled is a swap that was made. -/
  genuine : ∀ ticket ∈ (empty strategy).reportedBy cs, ticket ∈ (empty strategy).issuedBy cs
  /-- A swap is reported as settled at most once, by a frame or to the host. -/
  once : ((empty strategy).reportedBy cs).Nodup
  /-- Once there is a newer swap of a fragment, no frame reports the older one, and the host's word
  about it changes nothing. -/
  superseded : ∀ older ∈ (empty strategy).issuedBy cs, ∀ newer ∈ (empty strategy).issuedBy cs,
    newer.fragmentId = older.fragmentId → older.swapId < newer.swapId →
    (∀ now, older ∉ (((empty strategy).calls cs).tick now).2) ∧
      ((empty strategy).calls cs).complete older = ((empty strategy).calls cs, false)

/-- In every run of swaps, frames and completions each swap settles at most once. -/
theorem settles_once (strategy : FadeStrategy) (cs : List Call) : SettlesOnce strategy cs where
  increasing := ((empty strategy).increasing_issuedBy cs).1
  forward := by
    rintro earlier later rfl id t t' ht ht' hid
    rw [calls_append] at ht'
    obtain ⟨u, hu, honward⟩ := ((numbered_empty strategy).calls earlier).onward ht later
    obtain rfl := Option.some.inj (hu.symm.trans ht')
    unfold Onward at honward
    omega
  genuine := fun _ => mem_issuedBy_of_reported
  once := (numbered_empty strategy).nodup_reportedBy cs
  superseded := by
    intro older _ newer hnewer hfragment hlater
    have hspent := (numbered_empty strategy).spent_of_newer hnewer hfragment hlater
    exact ⟨hspent.not_mem_tick, hspent.complete⟩

end Screen

end RemoteUi
