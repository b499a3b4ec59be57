/-
# RemoteUi.Proofs.Session.Reachable — what holds of a session on every run.

The properties of sessions are shown for the sessions that a run leads to (`Reachable`): any
sequence of stimuli from the start, in any order, whatever the server, the user and the host do.

What an attempt to show an answer comes to is told once (`Rendering`): either there is no tree that
could be shown, or the screen is the one after the swap.  What an answer comes to is told once as
well (`Handling`), with the answer that is shown, if any, as part of the relation.  The kinds of an
answer decide which case it is.

* an answer that applies is shown, or missed if it has no tree that could be shown;
* one that is superseded may be cached, and is not shown;
* a rejection takes out what is cached and shows that, if it can; it is acknowledged in any case;
* any other error changes nothing.

The answers that a run shows are `shownBy`, in order.  Whatever a step does without an answer is
quiet (`quiet_step`), so that along a run ids go on being counted and the index of live widgets
stays sound (`Reachable.counting`, `Reachable.sound`), and the host is told of exactly as many swaps
as answers are shown (`swaps_after`).
-/
import RemoteUi.Proofs.Session.Quiet

namespace RemoteUi

/-! ## Showing a tree -/

/-- The answer carries the tree of a fragment. -/
def Response.Shows (response : Response) (f : Fragment) : Prop :=
  ∃ root diagnostics, response.root = some root ∧ Fragment.ofJson root = .ok ⟨f, diagnostics⟩

/-- The fragment whose tree an answer carries. -/
def Response.fragment? (response : Response) : Option Fragment :=
  response.root.bind fun root => (Fragment.ofJson root).toOption.map ParsedFragment.fragment

/-- The tree is carried if reading it comes to the fragment. -/
theorem Response.shows_iff {response : Response} {f : Fragment} :
    response.Shows f ↔ response.fragment? = some f := by
  constructor
  · rintro ⟨root, diagnostics, hroot, hparsed⟩
    simp [fragment?, hroot, hparsed, Except.toOption]
  · intro h
    obtain ⟨root, hroot, h⟩ := Option.bind_eq_some_iff.mp h
    obtain ⟨parsed, hparsed, rfl⟩ := Option.map_eq_some_iff.mp h
    refine ⟨root, parsed.diagnostics, hroot, ?_⟩
    cases hjson : Fragment.ofJson root with
    | error e => simp [hjson, Except.toOption] at hparsed
    | ok parsed' => simpa [hjson, Except.toOption] using hparsed

theorem Response.Shows.wellFormed {response : Response} {f : Fragment} (h : response.Shows f) :
    f.WellFormed := by
  obtain ⟨root, diagnostics, -, hparsed⟩ := h
  exact Fragment.ofJson_wellFormed hparsed

theorem Response.Shows.rooted {response : Response} {f : Fragment} (h : response.Shows f) :
    f.Rooted := by
  obtain ⟨root, diagnostics, -, hparsed⟩ := h
  exact Fragment.ofJson_rooted hparsed

/-- An answer carries one tree at most. -/
theorem Response.Shows.unique {response : Response} {f g : Fragment} (hf : response.Shows f)
    (hg : response.Shows g) : f = g := by
  obtain ⟨root, ds, hroot, hparsed⟩ := hf
  obtain ⟨root', ds', hroot', hparsed'⟩ := hg
  obtain rfl := Option.some.inj (hroot.symm.trans hroot')
  cases hparsed.symm.trans hparsed'
  rfl

namespace Session

variable {s t : Session} {response : Response} {now : Nat}

/-- What comes of showing an answer. -/
inductive Rendering (s : Session) (response : Response) (now : Nat) : Session × Bool → Prop
  /-- There is no tree that could be shown. -/
  | skipped (calls : List HostCall) (hcalls : ∀ c ∈ calls, c.isSwap = false)
      (hnone : ∀ f, response.Shows f → ¬ s.screen.Accepts f.id) :
      Rendering s response now (s.told calls, false)
  | shown {f : Fragment} {screen : Screen} {report : SwapReport} (calls : List HostCall)
      (id : String) (widgets groups : List String) (hcalls : ∀ c ∈ calls, c.isSwap = false)
      (hf : response.Shows f) (hswap : s.screen.swap f now = .ok (screen, report)) :
      Rendering s response now
        (({ s with screen := screen } : Session).told (.swapped id widgets groups :: calls), true)

theorem told_told (s : Session) (calls calls' : List HostCall) :
    (s.told calls).told calls' = s.told (calls' ++ calls) := by
  simp [told]

/-- There are four ways through, and in three of them nothing is shown: no tree, a tree that cannot
be read, and a tree that the surface refuses. -/
theorem rendering_render (s : Session) (response : Response) (now : Nat) :
    s.Rendering response now (s.render response now) := by
  unfold render
  split
  · rename_i hroot
    refine .skipped [] nofun fun f ⟨root, ds, hroot', _⟩ => ?_
    exact nomatch hroot.symm.trans hroot'
  · rename_i root hroot
    split
    · rename_i e herror
      rw [report_eq]
      refine .skipped _ isSwap_report fun f ⟨root', ds, hroot', hparsed⟩ => ?_
      obtain rfl := Option.some.inj (hroot.symm.trans hroot')
      exact nomatch herror.symm.trans hparsed
    · rename_i parsed hparsed
      have hshows : response.Shows parsed.fragment := ⟨root, parsed.diagnostics, hroot, hparsed⟩
      rw [report_eq, preload_eq, told_told]
      -- reports and pictures come first, and make no difference to the swap
      generalize hcalls : (if parsed.fragment.imageSources = [] then []
        else [HostCall.preload parsed.fragment.imageSources]) ++
          (parsed.diagnostics.map HostCall.diagnostic).reverse = calls
      have hquiet : ∀ c ∈ calls, c.isSwap = false := by
        rw [← hcalls, List.forall_mem_append]
        exact ⟨isSwap_preload, isSwap_report⟩
      dsimp only
      split
      · rename_i e hrefused
        rw [report_eq, told_told]
        refine .skipped _ (List.forall_mem_append.mpr ⟨isSwap_report, hquiet⟩) fun f hf hid => ?_
        obtain rfl := hf.unique hshows
        obtain ⟨report, hswap⟩ := Screen.swap_eq hid now
        exact nomatch hrefused.symm.trans hswap
      · rename_i screen report hswap
        rw [report_eq]
        have hswap' : s.screen.swap parsed.fragment now = .ok (screen, report) := hswap
        simp only [told, tell, ← List.append_assoc]
        exact .shown ((report.diagnostics.map HostCall.diagnostic).reverse ++ calls) _ _ _
          (List.forall_mem_append.mpr ⟨isSwap_report, hquiet⟩) hshows hswap'

namespace Rendering

variable {out : Session × Bool}

theorem requests_eq (h : s.Rendering response now out) : out.1.requests = s.requests := by
  cases h <;> rfl

theorem recovery_eq (h : s.Rendering response now out) : out.1.recovery = s.recovery := by
  cases h <;> rfl

/-- Showing a tree keeps live widgets sound, as a build does and what follows a build. -/
theorem sound (h : s.Rendering response now out) (hs : s.screen.pool.Sound) :
    out.1.screen.pool.Sound := by
  cases h with
  | skipped calls hcalls hnone => exact hs
  | shown calls id widgets groups hcalls hf hswap =>
    exact (Screen.alike_swap hswap).sound ((Fragment.build_widgetsMade _ _ _ hs).sound.retire _)

/-- The host is told of a swap when a tree is shown. -/
theorem swaps (h : s.Rendering response now out) :
    (out.1.calls.filter HostCall.isSwap).length =
      (s.calls.filter HostCall.isSwap).length + out.2.toNat := by
  cases h with
  | skipped calls hcalls hnone => exact congrArg List.length (quiet_told hcalls).swaps
  | @shown f screen report calls id widgets groups hcalls hf hswap =>
    exact congrArg (fun cs => (HostCall.swapped id widgets groups :: cs).length)
      (quiet_told hcalls).swaps

end Rendering

/-! ## Steps -/

/-- The answer that a session pays attention to. -/
def heard (s : Session) : Stimulus → Option (Response × Nat)
  | .message (.rerun response) now => if s.state = .closed then none else some (response, now)
  | _ => none

theorem heard_rerun (h : s.state ≠ .closed) (response : Response) (now : Nat) :
    s.heard (.message (.rerun response) now) = some (response, now) :=
  if_neg h

/-- What is heard is an answer, and nothing but an answer. -/
theorem eq_of_heard {x : Stimulus} (h : s.heard x = some (response, now)) :
    x = .message (.rerun response) now := by
  unfold heard at h
  split at h
  · split at h <;> cases h
    rfl
  · cases h

theorem step_heard {x : Stimulus} (h : s.heard x = some (response, now)) :
    s.step x = Session.handleResponse { s with devMode := response.devMode.getD false }
      response now := by
  unfold heard at h
  split at h
  · split at h
    · cases h
    · rename_i hopen
      cases h
      exact step_rerun hopen response now
  · cases h

/-- A step without an answer is quiet. -/
theorem quiet_step {x : Stimulus} (h : s.heard x = none) : s.Quiet (s.step x) := by
  cases s.way_step x with
  | opening | drain => exact ⟨.refl, rfl, id, rfl⟩
  | frame now => exact s.quiet_animationFrame now
  | @action a => exact s.quiet_interact a.id a.input
  | disregarded hx devMode heq =>
    rw [heq]
    exact ⟨.refl, rfl, id, rfl⟩
  | reloaded hopen heq | lost hopen heq =>
    rw [heq]
    exact ⟨.refl, rfl, id, rfl⟩
  | greeted hopen hid heq =>
    rw [heq]
    refine .trans ?_ (quiet_sendEvents _ [])
    exact ⟨.refl, rfl, id, rfl⟩
  | answered hopen => cases (heard_rerun hopen _ _).symm.trans h

/-! ## Answers -/

/-- The answer that is to be shown when an answer comes: that one, or the cached one. -/
def offered (s : Session) (response : Response) : Option Response :=
  match s.requests.classify response with
  | .apply => some response
  | .invalidState => s.recovery.lastValid
  | _ => none

/-- The answer that is shown when an answer comes. -/
def displayed (s : Session) (response : Response) (now : Nat) : Option Response :=
  (s.offered response).filter fun r => (s.render r now).2

/-- What comes of an answer, and the answer that is shown. -/
inductive Handling (s : Session) (response : Response) (now : Nat) :
    Session → Option Response → Prop
  | shown {t : Session} (hkind : s.requests.classify response = .apply)
      (hrender : s.Rendering response now (t, true)) :
      Handling s response now { t with recovery := t.recovery.recordApplied response }
        (some response)
  | missed {t : Session} (hkind : s.requests.classify response = .apply)
      (hrender : s.Rendering response now (t, false)) : Handling s response now t none
  | superseded {id : Nat} (hkind : s.requests.classify response = .superseded id) :
      Handling s response now { s with recovery := (s.recovery.recordSuperseded response).1 } none
  /-- The cached answer is taken out and shown again. -/
  | replayed {cached : Response} {t : Session}
      (hkind : s.requests.classify response = .invalidState)
      (hcached : s.recovery.lastValid = some cached)
      (hrender : Rendering { s with recovery := s.recovery.take.1 } cached now (t, true)) :
      Handling s response now (t.push .acknowledge) (some cached)
  /-- The cached answer is taken out and cannot be shown. -/
  | lapsed {cached : Response} {t : Session}
      (hkind : s.requests.classify response = .invalidState)
      (hcached : s.recovery.lastValid = some cached)
      (hrender : Rendering { s with recovery := s.recovery.take.1 } cached now (t, false)) :
      Handling s response now (t.push .acknowledge) none
  | acknowledged (hkind : s.requests.classify response = .invalidState)
      (hcached : s.recovery.lastValid = none) :
      Handling s response now (s.push .acknowledge) none
  | failed {e : ResponseError} (hkind : s.requests.classify response = .failed e) :
      Handling s response now s none

/-- There is no other way to handle an answer. -/
theorem handling_handleResponse (s : Session) (response : Response) (now : Nat) :
    s.Handling response now (s.handleResponse response now) (s.displayed response now) := by
  unfold handleResponse displayed offered
  cases hkind : s.requests.classify response with
  | apply =>
    have hrender := s.rendering_render response now
    dsimp only
    rw [Option.filter_some]
    generalize s.render response now = out at hrender
    obtain ⟨t, shown⟩ := out
    cases shown with
    | false => exact .missed hkind hrender
    | true => exact .shown hkind hrender
  | superseded id => exact .superseded hkind
  | failed e => exact .failed hkind
  | invalidState =>
    cases hcached : s.recovery.lastValid with
    | none =>
      have htake : s.recovery.take = (s.recovery, none) := by
        rw [Recovery.take, ← hcached]
      rw [htake]
      exact .acknowledged hkind hcached
    | some cached =>
      have htake : s.recovery.take = (s.recovery.take.1, some cached) := Prod.ext rfl hcached
      have hrender := rendering_render { s with recovery := s.recovery.take.1 } cached now
      -- the cached answer is shown by a session whose cache is empty, with the same result
      have hmemory : (s.render cached now).2 =
          (render { s with recovery := s.recovery.take.1 } cached now).2 :=
        (congrArg Prod.snd (s.render_withMemory s.recovery.take.1 s.devMode cached now)).symm
      have hfilter : (some cached).filter (fun r => (s.render r now).2) =
          if (s.render cached now).2 then some cached else none := Option.filter_some
      rw [hmemory] at hfilter
      dsimp only
      rw [htake, hfilter]
      dsimp only
      generalize render { s with recovery := s.recovery.take.1 } cached now = out at hrender ⊢
      obtain ⟨t, shown⟩ := out
      cases shown with
      | false => exact .lapsed hkind hcached hrender
      | true => exact .replayed hkind hcached hrender

namespace Handling

variable {shown : Option Response}

/-- No id is given out for an answer. -/
theorem requests_eq (h : s.Handling response now t shown) : t.requests = s.requests := by
  cases h with
  | shown hkind hrender | missed hkind hrender => exact hrender.requests_eq
  | replayed hkind hcached hrender | lapsed hkind hcached hrender => exact hrender.requests_eq
  | superseded | acknowledged | failed => rfl

theorem sound (h : s.Handling response now t shown) (hs : s.screen.pool.Sound) :
    t.screen.pool.Sound := by
  cases h with
  | shown hkind hrender | missed hkind hrender => exact hrender.sound hs
  | replayed hkind hcached hrender | lapsed hkind hcached hrender => exact hrender.sound hs
  | superseded | acknowledged | failed => exact hs

/-- The host is told of a swap when an answer is shown. -/
theorem swaps (h : s.Handling response now t shown) :
    (t.calls.filter HostCall.isSwap).length =
      (s.calls.filter HostCall.isSwap).length + shown.toList.length := by
  cases h with
  | shown hkind hrender | missed hkind hrender => exact hrender.swaps
  | replayed hkind hcached hrender | lapsed hkind hcached hrender => exact hrender.swaps
  | superseded | acknowledged | failed => rfl

end Handling

/-! ## Runs -/

/-- The answer that a step shows. -/
def shown (s : Session) (x : Stimulus) : Option Response :=
  (s.heard x).bind fun a => s.displayed a.1 a.2

/-- The answers that a run shows, in order. -/
def shownBy (s : Session) : List Stimulus → List Response
  | [] => []
  | x :: rest => (s.shown x).toList ++ (s.step x).shownBy rest

/-- A run after a run. -/
theorem shownBy_append (s : Session) (run rest : List Stimulus) :
    s.shownBy (run ++ rest) = s.shownBy run ++ (s.after run).shownBy rest := by
  induction run generalizing s with
  | nil => rfl
  | cons x run ih =>
    show (s.shown x).toList ++ (s.step x).shownBy (run ++ rest) = _
    rw [ih, ← List.append_assoc]
    rfl

/-- The flag that an answer carries is taken note of first, and makes no difference to what is
shown. -/
theorem handling_step {x : Stimulus} (h : s.heard x = some (response, now)) :
    Handling { s with devMode := response.devMode.getD false } response now (s.step x)
      (s.shown x) := by
  have hshown : s.shown x =
      displayed { s with devMode := response.devMode.getD false } response now := by
    rw [shown, h, Option.bind_some]
    unfold displayed
    refine congrArg (Option.filter · (s.offered response)) (funext fun r => ?_)
    exact (congrArg Prod.snd (s.render_withMemory s.recovery _ r now)).symm
  rw [step_heard h, hshown]
  exact handling_handleResponse _ response now

theorem later_step (s : Session) (x : Stimulus) : s.requests.Later (s.step x).requests := by
  cases hheard : s.heard x with
  | none => exact (quiet_step hheard).requests
  | some heard =>
    rw [(handling_step hheard).requests_eq]
    exact .refl

theorem requests_step_rerun (s : Session) (response : Response) (now : Nat) :
    (s.step (.message (.rerun response) now)).requests = s.requests := by
  by_cases hclosed : s.state = .closed
  · rw [step_message_of_closed hclosed]
  · exact (handling_step (heard_rerun hclosed response now)).requests_eq

theorem sound_step (x : Stimulus) (hs : s.screen.pool.Sound) : (s.step x).screen.pool.Sound := by
  cases hheard : s.heard x with
  | none => exact (quiet_step hheard).sound hs
  | some heard => exact (handling_step hheard).sound hs

/-- The host is told of as many swaps as answers are shown. -/
theorem swaps_after (s : Session) (run : List Stimulus) :
    ((s.after run).calls.filter HostCall.isSwap).length =
      (s.calls.filter HostCall.isSwap).length + (s.shownBy run).length := by
  induction run generalizing s with
  | nil => rfl
  | cons x rest ih =>
    -- one step first
    have hstep : ((s.step x).calls.filter HostCall.isSwap).length =
        (s.calls.filter HostCall.isSwap).length + (s.shown x).toList.length := by
      cases hheard : s.heard x with
      | none =>
        rw [(quiet_step hheard).swaps, shown, hheard]
        rfl
      | some heard => exact (handling_step hheard).swaps
    rw [after_cons, ih, hstep, shownBy, List.length_append, Nat.add_assoc]

/-- A run leads to the session. -/
inductive Reachable : Session → Prop
  | start (config : Config) (host : Host) : Reachable (start config host)
  | step {s : Session} (hs : Reachable s) (x : Stimulus) : Reachable (s.step x)

namespace Reachable

theorem after (hs : s.Reachable) (run : List Stimulus) : (s.after run).Reachable := by
  induction run generalizing s with
  | nil => exact hs
  | cons x rest ih => exact ih (hs.step x)

theorem counting (hs : s.Reachable) : s.requests.Counting := by
  induction hs with
  | start config host => exact Requests.counting_start
  | @step s hs x ih => exact (s.later_step x).counting ih

theorem sound (hs : s.Reachable) : s.screen.pool.Sound := by
  induction hs with
  | start config host => exact WidgetPool.sound_empty
  | step hs x ih => exact sound_step x ih

theorem receive (hs : s.Reachable) (a : Arrival) : (s.receive a).1.Reachable := by
  unfold Session.receive
  split
  · exact hs.step (.message _ a.time)
  · exact hs

theorem act (hs : s.Reachable) (actions : List Action) : (s.act actions).Reachable := by
  induction actions generalizing s with
  | nil => exact hs
  | cons a rest ih => exact ih (hs.step (.action a))

theorem proceed {σ : Type} (hs : s.Reachable) (user : User σ) (u : σ) (now : Nat) :
    (s.proceed user u now).1.Reachable :=
  ((hs.act (user.next u s.calls).1).step (.frame now)).step .drain

theorem follow {σ : Type} (user : User σ) (hs : s.Reachable) (u : σ) (arrivals : List Arrival) :
    (follow user s u arrivals).session.Reachable := by
  induction arrivals generalizing s u with
  | nil => exact hs.step (.lost streamEnded)
  | cons a rest ih =>
    have hreceived := hs.receive a
    rw [Session.follow]
    generalize s.receive a = received at hreceived
    obtain ⟨t, signal⟩ := received
    cases signal with
    | proceed => exact ih (hreceived.proceed user u a.time) _
    | reload => exact hreceived

end Reachable

/-- Whatever the user does and the stream brings, a run leads to the session that it leaves. -/
theorem reachable_run {σ : Type} (config : Config) (host : Host) (user : User σ) (u : σ)
    (arrivals : List Arrival) : (run config host user u arrivals).session.Reachable :=
  (((Reachable.start config host).step .opening).step .drain).follow user u arrivals

end Session

/-! ## A session with two requests -/

/-- The document of a fragment with some children. -/
def Json.page (children : List Json) : Json :=
  .obj [("type", .str "container"), ("is_fragment_container", .bool true),
    ("fragment_id", .str "main"), ("children", .arr children)]

namespace Session

/-- A click makes for a second request before the first one is answered. -/
def twoRequests : List Stimulus :=
  let button := .page [.obj [("type", .str "button"), ("id", .str "b"), ("text", .str "Go")]]
  [.message (.hello "session" none) 0, .message (.rerun ⟨none, some button, none, none⟩) 0,
    .action ⟨"b", .click⟩, .frame 0]

/-- The session with two requests. -/
def asking : Session := (start .default .minimal).after twoRequests

theorem requests_asking : asking.requests = ⟨3, some 2⟩ := by decide +kernel

end Session

end RemoteUi
