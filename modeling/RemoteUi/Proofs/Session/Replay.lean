/-
# RemoteUi.Proofs.Session.Replay — what is shown never goes back in time.

An answer is shown when it arrives, or later from the cache, after the server has rejected a
request.  In both cases it is to a request that was sent no earlier than those whose answers were
shown before (`shown_in_order`), provided that no answer comes before its request was sent
(`Prompted`).

Three numbers carry this: the id of the answer that was shown last, the highest id seen, and the
next id to be given out.  They are always in this order, and the cached answer is none that is older
than what was shown (`Recovery.UpToDate`).

* An answer that is shown on arrival is to the latest request, so that nothing seen is above it.
* An answer that comes late is stored only if it is news, and then it is no older than anything
  seen; it is not shown, and may be shown later.
* A rejection shows what is cached, which is no older than what was shown last, and empties the
  cache.

An answer without an id is shown without a change to these numbers.  So the order is that of the ids
there are.
-/
import RemoteUi.Proofs.Session.Reachable

namespace RemoteUi

namespace Requests

variable {r : Requests} {response : Response} {id : Nat}

/-- What is shown at once is to the latest request. -/
theorem classify_apply (h : r.classify response = .apply) (hid : response.requestId = some id) :
    r.latest = some id := by
  unfold classify at h
  split at h
  · split at h <;> cases h
  · rw [hid] at h
    dsimp only at h
    split at h
    · rename_i haccepts
      exact accepts_iff.mp haccepts
    · cases h

/-- What is superseded has the id that it is superseded under. -/
theorem classify_superseded (h : r.classify response = .superseded id) :
    response.requestId = some id := by
  unfold classify at h
  split at h
  · split at h <;> cases h
  · split at h
    · cases h
    · rename_i id' hid
      split at h
      · cases h
      · cases h
        exact hid

end Requests

/-! ## The cache -/

namespace Recovery

variable {r : Recovery} {response : Response} {last next : Nat}

/-- The id of the answer that was shown last, the highest id seen and the next id are in order, and
the cached answer is none that is older than what was shown. -/
structure UpToDate (r : Recovery) (last next : Nat) : Prop where
  last_le : last ≤ r.newestSeen.getD 0
  seen_lt : ∀ id, r.newestSeen = some id → id < next
  cached_ge : ∀ response id, r.lastValid = some response → response.requestId = some id → last ≤ id
  cached_le : ∀ response id, r.lastValid = some response → response.requestId = some id →
    id ≤ r.newestSeen.getD 0

/-- Nothing was shown and nothing was seen. -/
theorem upToDate_empty : empty.UpToDate 0 next := ⟨Nat.le_refl 0, nofun, nofun, nofun⟩

/-- Whatever was shown last, it was no earlier than something earlier. -/
theorem UpToDate.of_le {last' : Nat} (h : r.UpToDate last next) (hle : last' ≤ last) :
    r.UpToDate last' next :=
  ⟨Nat.le_trans hle h.last_le, h.seen_lt,
    fun response id hcached hid => Nat.le_trans hle (h.cached_ge response id hcached hid),
    h.cached_le⟩

/-- Ids may be given out in the meantime. -/
theorem UpToDate.of_next_le {next' : Nat} (h : r.UpToDate last next) (hle : next ≤ next') :
    r.UpToDate last next' :=
  ⟨h.last_le, fun id hid => Nat.lt_of_lt_of_le (h.seen_lt id hid) hle, h.cached_ge, h.cached_le⟩

/-- An answer that is stored is not older than what was seen, so it may as well be shown. -/
theorem UpToDate.store (h : r.UpToDate last next)
    (hid : ∀ id, response.requestId = some id → r.newestSeen.getD 0 ≤ id ∧ id < next) :
    last ≤ response.requestId.getD last ∧
      (r.store response).UpToDate (response.requestId.getD last) next := by
  cases hresponse : response.requestId with
  | none =>
    have hseen : (r.store response).newestSeen = r.newestSeen := by
      rw [Recovery.store, hresponse]
      rfl
    have hnone : ∀ cached id, (r.store response).lastValid = some cached →
        cached.requestId ≠ some id := by
      intro cached id hcached hcachedId
      obtain rfl := Option.some.inj hcached
      exact nomatch hresponse.symm.trans hcachedId
    refine ⟨Nat.le_refl last, hseen ▸ h.last_le, hseen ▸ h.seen_lt, ?_, ?_⟩
    · exact fun cached id hcached hcachedId => absurd hcachedId (hnone cached id hcached)
    · exact fun cached id hcached hcachedId => absurd hcachedId (hnone cached id hcached)
  | some id =>
    obtain ⟨hge, hlt⟩ := hid id hresponse
    have hlast := h.last_le
    have hseen : (r.store response).newestSeen = some id := by
      rw [Recovery.store, hresponse]
      show bump r.newestSeen (some id) = some id
      cases hnewest : r.newestSeen with
      | none => rfl
      | some seen =>
        rw [hnewest] at hge
        exact congrArg some (Nat.max_eq_right hge)
    have hcached : ∀ cached id', (r.store response).lastValid = some cached →
        cached.requestId = some id' → id' = id := by
      intro cached id' hcached hcachedId
      obtain rfl := Option.some.inj hcached
      exact Option.some.inj (hcachedId.symm.trans hresponse)
    refine ⟨Nat.le_trans hlast hge, ?_, fun id' hid' => ?_, ?_, ?_⟩
    · rw [hseen]
      exact Nat.le_refl id
    · obtain rfl := Option.some.inj (hseen.symm.trans hid')
      exact hlt
    · exact fun cached id' h' hid' => Nat.le_of_eq (hcached cached id' h' hid').symm
    · intro cached id' h' hid'
      rw [hseen]
      exact Nat.le_of_eq (hcached cached id' h' hid')

/-- An answer that comes late leaves the order as it is, whether it is stored or not. -/
theorem UpToDate.recordSuperseded (h : r.UpToDate last next) {id : Nat}
    (hid : response.requestId = some id) (hlt : id < next) :
    (r.recordSuperseded response).1.UpToDate last next := by
  unfold Recovery.recordSuperseded
  split
  · rename_i hnews
    have hge : r.newestSeen.getD 0 ≤ id := by
      unfold isNews at hnews
      rw [hid] at hnews
      cases hnewest : r.newestSeen with
      | none => exact Nat.zero_le id
      | some seen =>
        rw [hnewest] at hnews
        exact Nat.le_of_lt (of_decide_eq_true hnews)
    have hids : ∀ id', response.requestId = some id' → r.newestSeen.getD 0 ≤ id' ∧ id' < next := by
      intro id' hid'
      obtain rfl := Option.some.inj (hid.symm.trans hid')
      exact ⟨hge, hlt⟩
    -- what is cached and not shown leaves the last one shown where it was
    obtain ⟨hle, hstore⟩ := h.store hids
    exact hstore.of_le hle
  · exact h

/-- The cached answer is not older than what was shown, and what is left is up to date with it. -/
theorem UpToDate.take (h : r.UpToDate last next) (hcached : r.lastValid = some response) :
    last ≤ response.requestId.getD last ∧
      r.take.1.UpToDate (response.requestId.getD last) next := by
  cases hid : response.requestId with
  | none => exact ⟨Nat.le_refl last, h.last_le, h.seen_lt, nofun, nofun⟩
  | some id =>
    exact ⟨h.cached_ge response id hcached hid, h.cached_le response id hcached hid, h.seen_lt,
      nofun, nofun⟩

end Recovery

/-! ## Runs -/

/-- The id of the request that a message answers. -/
def Stimulus.requestId? : Stimulus → Option Nat
  | .message (.rerun response) _ => response.requestId
  | _ => none

namespace Session

variable {s : Session} {x : Stimulus} {last : Nat}

/-- No answer comes before its request was sent. -/
def Prompted (s : Session) : List Stimulus → Prop
  | [] => True
  | x :: rest => (∀ id ∈ x.requestId?, s.requests.Issued id) ∧ (s.step x).Prompted rest

instance (r : Requests) (id : Nat) : Decidable (r.Issued id) :=
  inferInstanceAs (Decidable (1 ≤ id ∧ id < r.next))

instance decidablePrompted : (s : Session) → (run : List Stimulus) → Decidable (s.Prompted run)
  | _, [] => inferInstanceAs (Decidable True)
  | s, x :: rest =>
    have := decidablePrompted (s.step x) rest
    inferInstanceAs (Decidable ((∀ id ∈ x.requestId?, s.requests.Issued id) ∧ _))

/-- What is remembered is up to date with what was shown last and with what was sent. -/
def InOrder (s : Session) (last : Nat) : Prop :=
  s.requests.Counting ∧ s.recovery.UpToDate last s.requests.next

/-- At the start the next id is 1, and none has been seen. -/
theorem inOrder_start (config : Config) (host : Host) : (start config host).InOrder 0 :=
  ⟨Requests.counting_start, Recovery.upToDate_empty⟩

/-- An answer that is shown is to no earlier request than the one that was shown last. -/
theorem InOrder.handling {response : Response} {now : Nat} {t : Session} {shown : Option Response}
    (h : s.InOrder last) (hid : ∀ id, response.requestId = some id → s.requests.Issued id)
    (hhandled : s.Handling response now t shown) :
    last ≤ (shown.bind Response.requestId).getD last ∧
      t.InOrder ((shown.bind Response.requestId).getD last) := by
  obtain ⟨hcounting, hcache⟩ := h
  refine and_left_comm.mp ⟨hhandled.requests_eq ▸ hcounting, ?_⟩
  rw [hhandled.requests_eq]
  cases hhandled with
  | shown hkind hrender =>
    dsimp only
    rw [hrender.recovery_eq]
    refine hcache.store fun id hrequest => ?_
    -- the latest id is the highest that was given out, so nothing that was seen is above it
    have hlatest := hcounting.lt_of_latest (Requests.classify_apply hkind hrequest)
    refine ⟨?_, by omega⟩
    cases hseen : s.recovery.newestSeen with
    | none => exact Nat.zero_le id
    | some seen =>
      have hlt := hcache.seen_lt seen hseen
      show seen ≤ id
      omega
  | missed hkind hrender =>
    rw [hrender.recovery_eq]
    exact ⟨Nat.le_refl last, hcache⟩
  | superseded hkind =>
    have hrequest := Requests.classify_superseded hkind
    exact ⟨Nat.le_refl last, hcache.recordSuperseded hrequest (hid _ hrequest).2⟩
  | replayed hkind hcached hrender =>
    show _ ∧ Recovery.UpToDate (Session.recovery _) _ _
    rw [push, hrender.recovery_eq]
    exact hcache.take hcached
  | lapsed hkind hcached hrender =>
    rw [push, hrender.recovery_eq]
    obtain ⟨hle, htake⟩ := hcache.take hcached
    exact ⟨Nat.le_refl last, htake.of_le hle⟩
  | acknowledged | failed => exact ⟨Nat.le_refl last, hcache⟩

/-- A step shows nothing that is older than what was shown last. -/
theorem InOrder.step (h : s.InOrder last)
    (hx : ∀ id ∈ x.requestId?, s.requests.Issued id) :
    last ≤ ((s.shown x).bind Response.requestId).getD last ∧
      (s.step x).InOrder (((s.shown x).bind Response.requestId).getD last) := by
  cases hheard : s.heard x with
  | none =>
    have hquiet := quiet_step hheard
    rw [shown, hheard]
    refine ⟨Nat.le_refl last, hquiet.requests.counting h.1, ?_⟩
    rw [hquiet.recovery]
    exact h.2.of_next_le hquiet.requests.next_le
  | some heard =>
    obtain ⟨response, now⟩ := heard
    obtain rfl := eq_of_heard hheard
    exact InOrder.handling (s := { s with devMode := response.devMode.getD false }) h hx
      (handling_step hheard)

/-- Nor does a run, and what it shows is in order. -/
theorem InOrder.shownBy (h : s.InOrder last) {run : List Stimulus} (hrun : s.Prompted run) :
    (∀ id ∈ (s.shownBy run).filterMap Response.requestId, last ≤ id) ∧
      ((s.shownBy run).filterMap Response.requestId).Pairwise (· ≤ ·) := by
  induction run generalizing s last with
  | nil => exact ⟨nofun, .nil⟩
  | cons x rest ih =>
    obtain ⟨hx, hrest⟩ := hrun
    obtain ⟨hle, hstep⟩ := h.step hx
    obtain ⟨hlast, hpairwise⟩ := ih hstep hrest
    rw [Session.shownBy, List.filterMap_append]
    have hids : (s.shown x).toList.filterMap Response.requestId =
        ((s.shown x).bind Response.requestId).toList := by
      cases s.shown x with
      | none => rfl
      | some r => cases hid : r.requestId <;> simp [hid]
    rw [hids]
    -- an answer without an id leaves the list and the number as they were
    cases hshown : (s.shown x).bind Response.requestId with
    | none =>
      rw [hshown] at hlast
      exact ⟨hlast, hpairwise⟩
    | some id =>
      rw [hshown, Option.getD_some] at hle hlast
      rw [Option.toList_some, List.singleton_append, List.forall_mem_cons, List.pairwise_cons]
      exact ⟨⟨hle, fun id' hid' => Nat.le_trans hle (hlast id' hid')⟩, hlast, hpairwise⟩

/-- What a run shows is in the order of the requests, answers from the cache included, as long as no
answer comes before its request was sent. -/
theorem shown_in_order (config : Config) (host : Host) (run : List Stimulus)
    (hrun : (start config host).Prompted run) :
    (((start config host).shownBy run).filterMap Response.requestId).Pairwise (· ≤ ·) :=
  ((inOrder_start config host).shownBy hrun).2

/-- The answer to the first of two requests is cached, shown when the second one is rejected, and
then replaced by an answer to the second one. -/
def rejected : List Stimulus :=
  let answer := fun id => .message (.rerun ⟨some id, some (.page []), none, none⟩) 1
  twoRequests ++ [answer 1,
    .message (.rerun ⟨some 2, none, some ⟨"InvalidState", none⟩, none⟩) 1, answer 2, answer 1]

/-- The answer to the first request is shown after that of the rejection, and a late one is not
shown after the second. -/
theorem shown_in_order_rejected :
    (start .default .minimal).Prompted rejected ∧
      ((start .default .minimal).shownBy rejected).filterMap Response.requestId = [1, 2] ∧
      (((start .default .minimal).shownBy rejected).filterMap Response.requestId).Pairwise
        (· ≤ ·) := by
  have hprompted : (start .default .minimal).Prompted rejected := by decide +kernel
  exact ⟨hprompted, by decide +kernel, shown_in_order _ _ _ hprompted⟩

end Session

end RemoteUi
