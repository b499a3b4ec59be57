/-
# RemoteUi.Proofs.Session.Numbering — ids are handed out in order.

A step hands out the next id, to the server or to the host, or no id at all (`draws_step`).  So
whatever is handed out along a run is numbered upwards, and the id of a request that goes out is the
latest from then on; all requests that go out are written, for one that does not fit a frame is
dropped before it takes an id (`numbered_run`).

* What a stimulus has put in the queue, and what it has had the host told, are read off the session
  before and after it (`queued`, `newCalls`).  An id shows in a request that is queued and in the
  address of a download.
* A request is due after a greeting, and at a frame with something to report (`asks`).  Whether it
  goes out is a matter of its size alone.
* Everything else leaves the counter alone or takes an id for a download.  That download may fail
  for its address, and then the id is handed out to nobody (`Drawn.spoilt`).
* The two kinds of ids never come together in one step, so that a step hands out one id at most.

The size of a request is that of the frame it is sent in.  What waits for the server is `Writable`:
every request in it fits, and so the writer, which leaves out what does not fit, writes all of them
(`Writable.written`).
-/
import RemoteUi.Proofs.Session.Delivery
import RemoteUi.Proofs.Session.Spending

namespace RemoteUi

/-- The next id is the one after the latest, and the first if there is none. -/
theorem Requests.Counting.next_eq {r : Requests} (hr : r.Counting) :
    r.next = r.latest.elim 1 (· + 1) := by
  have hlatest := hr.latest_eq
  have hpos := hr.pos
  split at hlatest
  · rename_i hone
    rw [hlatest, hone]
    rfl
  · rw [hlatest]
    show r.next = r.next - 1 + 1
    omega

namespace Session

variable {s t u : Session} {x : Stimulus}

/-! ## Ids that are handed out -/

/-- The messages that a stimulus adds to what waits for the server. -/
def queued (s : Session) (x : Stimulus) : List ClientEnvelope :=
  (s.step x).outbound.drop s.outbound.length

/-- What a stimulus has the host told, the latest first. -/
def newCalls (s : Session) (x : Stimulus) : List HostCall :=
  (s.step x).calls.take ((s.step x).calls.length - s.calls.length)

/-- All messages that a run adds to what waits for the server, in order. -/
def queuedBy (s : Session) : List Stimulus → List ClientEnvelope
  | [] => []
  | x :: rest => s.queued x ++ (s.step x).queuedBy rest

/-- The ids that a stimulus has handed out, to the server or to the host. -/
def handsOut (s : Session) (x : Stimulus) : List Nat :=
  (s.queued x).filterMap ClientEnvelope.requestId? ++
    (s.newCalls x).reverse.filterMap HostCall.requestId?

/-- The ids that a run hands out, in order. -/
def handedOutBy (s : Session) : List Stimulus → List Nat
  | [] => []
  | x :: rest => s.handsOut x ++ (s.step x).handedOutBy rest

/-! ## Requests that are due -/

/-- The session on which a stimulus is to send a request, and the events that it is to carry: none
for the first request, which follows a greeting, and all that is due at a frame. -/
def asks (s : Session) : Stimulus → Option (Session × List Event)
  | .message (.hello id devMode) _ =>
    if s.state ≠ .closed ∧ s.sessionId = none then
      some ({ s with devMode := devMode.getD false, sessionId := some id, state := .opened }, [])
    else none
  | .frame now =>
    if s.state = .opened ∧ s.gathering.flush s.screen.groups.changes ≠ [] then
      some ({ s.ticked now with gathering := [] }, s.gathering.flush s.screen.groups.changes)
    else none
  | _ => none

/-- The first greeting asks for a page. -/
theorem asks_hello (hopen : s.state ≠ .closed) (hid : s.sessionId = none) (id : String)
    (devMode : Option Bool) (now : Nat) :
    s.asks (.message (.hello id devMode) now) = some ({ s with
      devMode := devMode.getD false, sessionId := some id, state := .opened }, []) :=
  if_pos ⟨hopen, hid⟩

/-- Until a request is sent, nothing has happened to the counter, the queue or the host. -/
theorem asks_eq {events : List Event} (h : s.asks x = some (u, events)) :
    u.requests = s.requests ∧ u.outbound = s.outbound ∧ u.calls = s.calls := by
  unfold asks at h
  split at h
  · split at h
    · obtain ⟨rfl, -⟩ := Prod.mk.inj (Option.some.inj h)
      exact ⟨rfl, rfl, rfl⟩
    · cases h
  · split at h
    · obtain ⟨rfl, -⟩ := Prod.mk.inj (Option.some.inj h)
      exact ⟨rfl, rfl, rfl⟩
    · cases h
  · cases h

/-- A step at which a request is due is the sending of it. -/
theorem step_asks {events : List Event} (h : s.asks x = some (u, events)) :
    s.step x = (u.sendEvents events).1 := by
  unfold asks at h
  split at h
  · rename_i id devMode now
    split at h
    · rename_i hfirst
      obtain ⟨rfl, rfl⟩ := Prod.mk.inj (Option.some.inj h)
      exact step_hello hfirst.1 hfirst.2 id devMode now
    · cases h
  · rename_i now
    split at h
    · rename_i hdue
      obtain ⟨rfl, rfl⟩ := Prod.mk.inj (Option.some.inj h)
      unfold step
      dsimp only
      rw [animationFrame_of_open hdue.1, if_neg (mt List.isEmpty_iff.mp hdue.2)]
    · cases h
  · cases h

/-! ## Steps -/

/-- What a step takes from the counter, and for what. -/
inductive Drawn (s : Session) (x : Stimulus) : Prop
  | nothing (hrequests : (s.step x).requests = s.requests)
      (hqueued : ∀ e ∈ s.queued x, e.requestId? = none)
      (htold : ∀ c ∈ s.newCalls x, c.isDownload = false)
  /-- A request is due, and goes out under the next id. -/
  | request {u : Session} {events : List Event} (hasks : s.asks x = some (u, events))
      (hrequests : (s.step x).requests = s.requests.issue.1)
      (hqueued : s.queued x = [u.requests.prepare u.config.location events])
      (hfits : (u.requests.prepare u.config.location events).size ≤ Wire.toServerCap)
      (hid : (u.requests.prepare u.config.location events).requestId? = some s.requests.issue.2)
      (htold : s.newCalls x = [])
  /-- A download is started under the next id. -/
  | download {url : Url} {fileName : String}
      (hrequests : (s.step x).requests = s.requests.issue.1) (hqueued : s.queued x = [])
      (htold : s.newCalls x = [.download url fileName])
      (hid : url.requestId? = some s.requests.issue.2)
  /-- A download takes an id, and cannot be started. -/
  | spoilt (hrequests : (s.step x).requests = s.requests.issue.1) (hqueued : s.queued x = [])
      (htold : s.newCalls x = [])

/-- What a step does with the counter, with what waits for the server and with the host. -/
structure Draws (s : Session) (x : Stimulus) : Prop where
  drawn : s.Drawn x
  waiting : (s.step x).outbound <+: s.outbound ++ s.queued x
  told : (s.step x).calls = s.newCalls x ++ s.calls

/-- What is put in the queue comes last in it. -/
theorem queued_eq {es : List ClientEnvelope} (h : (s.step x).outbound = s.outbound ++ es) :
    s.queued x = es := by
  rw [queued, h, List.drop_left]

theorem queued_eq_nil (h : (s.step x).outbound = s.outbound) : s.queued x = [] := by
  rw [queued, h, List.drop_length]

/-- What the host is told comes first in the log. -/
theorem newCalls_eq {cs : List HostCall} (h : (s.step x).calls = cs ++ s.calls) :
    s.newCalls x = cs := by
  rw [newCalls, h, List.length_append, Nat.add_sub_cancel, List.take_left]

theorem Drawn.draws {es : List ClientEnvelope} {cs : List HostCall} (h : s.Drawn x)
    (hqueue : (s.step x).outbound = s.outbound ++ es) (hcalls : (s.step x).calls = cs ++ s.calls) :
    s.Draws x := by
  have hsame : s.outbound ++ s.queued x = (s.step x).outbound := by rw [queued_eq hqueue, hqueue]
  exact ⟨h, hsame ▸ List.prefix_refl _, newCalls_eq hcalls ▸ hcalls⟩

/-- A step that takes an id for a download at most draws it. -/
theorem Spends.draws (h : s.Spends (s.step x)) : s.Draws x := by
  cases h with
  | aside h =>
    obtain ⟨es, hes, hnone⟩ := h.queue
    obtain ⟨cs, hcs, hother⟩ := h.told
    have hdrawn : s.Drawn x :=
      .nothing h.requests_eq (queued_eq hes ▸ hnone) (newCalls_eq hcs ▸ hother)
    exact hdrawn.draws hes hcs
  | @download url fileName hrequests hqueue htold hid =>
    rw [← List.append_nil s.outbound] at hqueue
    have htold : (s.step x).calls = [.download url fileName] ++ s.calls := htold
    have hdrawn : s.Drawn x := .download hrequests (queued_eq hqueue) (newCalls_eq htold) hid
    exact hdrawn.draws hqueue htold
  | spoilt hrequests hqueue htold =>
    rw [← List.append_nil s.outbound] at hqueue
    rw [← List.nil_append s.calls] at htold
    have hdrawn : s.Drawn x := .spoilt hrequests (queued_eq hqueue) (newCalls_eq htold)
    exact hdrawn.draws hqueue htold

/-- What waits for the server is taken, or given up. -/
theorem draws_of_emptied (hempty : (s.step x).outbound = [])
    (h : s.Aside { s.step x with outbound := s.outbound }) : s.Draws x := by
  obtain ⟨cs, hcs, hother⟩ := h.told
  have hqueued : s.queued x = [] := by rw [queued, hempty, List.drop_nil]
  refine ⟨.nothing h.requests_eq (hqueued ▸ nofun) (newCalls_eq hcs ▸ hother), ?_,
    newCalls_eq hcs ▸ hcs⟩
  rw [hempty]
  exact List.nil_prefix

/-- A request that is due goes out, if a frame has room for it. -/
theorem draws_of_asks {events : List Event} (hasks : s.asks x = some (u, events)) :
    s.Draws x := by
  obtain ⟨hrequests, hqueue, htold⟩ := asks_eq hasks
  have hstep := step_asks hasks
  -- too large for a frame: the request is reported, and takes no id
  by_cases hlarge : Wire.toServerCap < (u.requests.prepare u.config.location events).size
  · rw [sendEvents_large hlarge] at hstep
    have hqueue' : (s.step x).outbound = s.outbound ++ [] := by
      rw [hstep, List.append_nil]
      exact hqueue
    have hcalls : (s.step x).calls = [.diagnostic (.requestTooLarge
        (u.requests.prepare u.config.location events).size Wire.toServerCap)] ++ s.calls := by
      rw [hstep, ← htold]
      rfl
    have hdrawn : s.Drawn x := by
      refine .nothing (hstep ▸ hrequests) (queued_eq hqueue' ▸ nofun) ?_
      rw [newCalls_eq hcalls]
      simp [HostCall.isDownload]
    exact hdrawn.draws hqueue' hcalls
  · obtain ⟨hrequests', hqueue', htold'⟩ := sendEvents_fitting hlarge
    rw [← hstep] at hrequests' hqueue' htold'
    rw [hrequests] at hrequests'
    rw [hqueue] at hqueue'
    have hcalls : (s.step x).calls = [] ++ s.calls := htold'.trans htold
    have hdrawn : s.Drawn x := .request hasks hrequests' (queued_eq hqueue')
      (Nat.le_of_not_lt hlarge) (congrArg some (congrArg Requests.next hrequests))
      (newCalls_eq hcalls)
    exact hdrawn.draws hqueue' hcalls

/-- An open session with nothing to ask at a frame has nothing that is due. -/
theorem flush_of_not_asks {now : Nat} (hopen : s.state = .opened)
    (h : s.asks (.frame now) = none) : s.gathering.flush s.screen.groups.changes = [] := by
  by_contra hevents
  cases (if_pos ⟨hopen, hevents⟩).symm.trans h

/-- A frame with nothing to report takes no id. -/
theorem aside_animationFrame {now : Nat} (h : s.asks (.frame now) = none) :
    s.Aside (s.animationFrame now).1 := by
  by_cases hopen : s.state = .opened
  · rw [animationFrame_of_open hopen, flush_of_not_asks hopen h]
    exact .of_eq rfl rfl rfl
  · rw [animationFrame_of_not_open hopen]
    exact .of_eq rfl rfl rfl

/-- Where no request is due, a step takes an id for a download at most. -/
theorem draws_of_not_asks (hs : s.messages = []) (hasks : s.asks x = none) : s.Draws x := by
  cases s.way_step x with
  | opening => exact Spends.draws (.aside (s.aside_push rfl))
  | drain => exact draws_of_emptied rfl (.of_eq rfl rfl rfl)
  | frame now => exact Spends.draws (.aside (aside_animationFrame hasks))
  | @action a hopen => exact Spends.draws ((acting_interact hopen a.id a.input).spends hs)
  | disregarded hx devMode heq =>
    refine Spends.draws (.aside ?_)
    rw [heq]
    exact .of_eq rfl rfl rfl
  | greeted hopen hid => cases (asks_hello hopen hid _ _ _).symm.trans hasks
  | @answered response now hopen heq =>
    refine Spends.draws (.aside ?_)
    rw [heq]
    have hnoted : s.Aside { s with devMode := response.devMode.getD false } := .of_eq rfl rfl rfl
    exact hnoted.trans (aside_handleResponse _ response now)
  | @reloaded devMode now hopen heq =>
    refine draws_of_emptied (heq ▸ rfl) ?_
    rw [heq]
    have hended : s.Aside { s with devMode := devMode.getD false, state := .closed } :=
      .of_eq rfl rfl rfl
    exact hended.trans (aside_tell _ (c := .reload) rfl)
  | lost hopen heq =>
    refine Spends.draws (.aside ?_)
    rw [heq]
    have hended : s.Aside { s with state := .closed } := .of_eq rfl rfl rfl
    exact hended.trans (aside_tell _ rfl)

/-- Every step draws the next id, or none. -/
theorem draws_step (hs : s.messages = []) (x : Stimulus) : s.Draws x := by
  cases hasks : s.asks x with
  | some due => exact draws_of_asks hasks
  | none => exact draws_of_not_asks hs hasks

namespace Drawn

/-- A step hands out the next id, or none at all; an id that is taken for a download that cannot be
started is handed out to nobody. -/
theorem handsOut_eq (h : s.Drawn x) : s.handsOut x = [] ∨
    s.handsOut x = [s.requests.issue.2] ∧ (s.step x).requests = s.requests.issue.1 := by
  cases h with
  | nothing hrequests hqueued htold =>
    refine Or.inl (List.append_eq_nil_iff.mpr ⟨List.filterMap_eq_nil_iff.mpr hqueued, ?_⟩)
    exact List.filterMap_eq_nil_iff.mpr fun c hc =>
      HostCall.requestId?_eq_none (htold c (List.mem_reverse.mp hc))
  | request hasks hrequests hqueued hfits hid htold =>
    refine Or.inr ⟨?_, hrequests⟩
    rw [handsOut, hqueued, htold, List.filterMap_cons_some hid]
    rfl
  | download hrequests hqueued htold hid =>
    refine Or.inr ⟨?_, hrequests⟩
    rw [handsOut, hqueued, htold]
    exact List.filterMap_cons_some hid
  | spoilt hrequests hqueued htold =>
    refine Or.inl ?_
    rw [handsOut, hqueued, htold]
    rfl

end Drawn

/-! ## Runs -/

/-- What a step hands out was next, and is the latest from then on. -/
theorem mem_handsOut (hs : s.Reachable) {id : Nat} (hid : id ∈ s.handsOut x) :
    s.requests.next = id ∧ (s.step x).requests.next = id + 1 ∧
      (s.step x).requests.latest = some id := by
  rcases (draws_step hs.messages_eq x).drawn.handsOut_eq with hnone | ⟨hone, hrequests⟩
  · rw [hnone] at hid
    cases hid
  · rw [hone] at hid
    obtain rfl := List.mem_singleton.mp hid
    rw [hrequests]
    exact ⟨rfl, rfl, rfl⟩

/-- What a run hands out was not handed out before. -/
theorem next_le_handedOutBy (hs : s.Reachable) {run : List Stimulus} {id : Nat}
    (hid : id ∈ s.handedOutBy run) : s.requests.next ≤ id := by
  induction run generalizing s with
  | nil => cases hid
  | cons x rest ih =>
    rcases List.mem_append.mp hid with hid | hid
    · exact Nat.le_of_eq (mem_handsOut hs hid).1
    · exact Nat.le_trans (s.later_step x).next_le (ih (hs.step x) hid)

/-- What a run hands out is numbered upwards. -/
theorem pairwise_handedOutBy (hs : s.Reachable) (run : List Stimulus) :
    (s.handedOutBy run).Pairwise (· < ·) := by
  induction run generalizing s with
  | nil => exact .nil
  | cons x rest ih =>
    refine List.pairwise_append.mpr ⟨?_, ih (hs.step x), ?_⟩
    · rcases (draws_step hs.messages_eq x).drawn.handsOut_eq with hnone | ⟨hone, -⟩
      · rw [hnone]
        exact .nil
      · rw [hone]
        exact List.pairwise_singleton _ _
    · intro id hid later hlater
      have hnext := (mem_handsOut hs hid).2.1
      have hle := next_le_handedOutBy (hs.step x) hlater
      omega

/-! ## What reaches the writer -/

/-- A request among the messages has room in a frame. -/
def Writable (es : List ClientEnvelope) : Prop :=
  ∀ e ∈ es, e.requestId? ≠ none → e.size ≤ Wire.toServerCap

/-- A request that is put in the queue fits a frame. -/
theorem Drawn.writable (h : s.Drawn x) : Writable (s.queued x) := by
  intro e he hid
  cases h with
  | nothing hrequests hqueued htold => exact absurd (hqueued e he) hid
  | request hasks hrequests hqueued hfits hid' htold =>
    rw [hqueued] at he
    exact List.mem_singleton.mp he ▸ hfits
  | download hrequests hqueued htold hid' | spoilt hrequests hqueued htold =>
    rw [hqueued] at he
    cases he

theorem Reachable.writable (hs : s.Reachable) : Writable s.outbound := by
  induction hs with
  | start config host => exact nofun
  | @step s hs x ih =>
    have hdraws := draws_step hs.messages_eq x
    intro e he hid
    rcases List.mem_append.mp (hdraws.waiting.subset he) with he | he
    · exact ih e he hid
    · exact hdraws.drawn.writable e he hid

/-- All that is taken from the queue was put there by some step. -/
theorem writable_sentBy (hs : s.Reachable) (run : List Stimulus) : Writable (s.sentBy run) := by
  induction run generalizing s with
  | nil => exact nofun
  | cons x rest ih =>
    intro e he hid
    rcases List.mem_append.mp he with he | he
    · cases x with
      | drain => exact hs.writable e he hid
      | opening | message | action | frame | lost => cases he
    · exact ih (hs.step x) e he hid

/-- The writer writes some of the messages, and every request is among them. -/
theorem Writable.written {es : List ClientEnvelope} (h : Writable es) (sink : Wire.Sink) :
    ∃ kept : List ClientEnvelope, kept.Sublist es ∧
      kept.filterMap ClientEnvelope.requestId? = es.filterMap ClientEnvelope.requestId? ∧
      Wire.writeEnvelopes sink es =
        Wire.writeFrames sink Wire.toServerCap [] (kept.map ClientEnvelope.payload) := by
  refine ⟨es.filter fun e => e.size ≤ Wire.toServerCap, List.filter_sublist, ?_, rfl⟩
  rw [List.filterMap_filter]
  refine List.filterMap_congr fun e he => ?_
  by_cases hfits : e.size ≤ Wire.toServerCap
  · rw [if_pos (decide_eq_true hfits)]
  · have hid : e.requestId? = none := by
      by_contra hid
      exact hfits (h e he hid)
    rw [hid, ite_self]

/-! ## Numbers -/

/-- What holds of the ids that a stimulus has handed out, and of a request that is due. -/
structure Numbers (s : Session) (x : Stimulus) : Prop where
  /-- One id is handed out at most. -/
  once : (s.handsOut x).length ≤ 1
  /-- A request goes out as it was prepared; its id is the latest from then on, and a frame has room
  for it. -/
  requests : ∀ e ∈ s.queued x, ∀ id, e.requestId? = some id →
    (∃ u events, s.asks x = some (u, events) ∧
      e = u.requests.prepare u.config.location events) ∧
    (s.step x).requests.latest = some id ∧ e.payload.length ≤ Wire.toServerCap
  /-- The address of a download carries an id, which is the latest from then on. -/
  downloads : ∀ c ∈ s.newCalls x, c.isDownload = true →
    ∃ id, c.requestId? = some id ∧ (s.step x).requests.latest = some id
  /-- A request that is too large is reported.  Otherwise the session is the one on which it was
  due, with the same opacities, and no id is taken and nothing put in the queue. -/
  refused : ∀ u events, s.asks x = some (u, events) →
    Wire.toServerCap < (u.requests.prepare u.config.location events).payload.length →
    s.step x = u.tell (.diagnostic (.requestTooLarge
      (u.requests.prepare u.config.location events).payload.length Wire.toServerCap)) ∧
    (s.step x).requests = s.requests ∧ (s.step x).outbound = s.outbound

theorem Reachable.numbers (hs : s.Reachable) (x : Stimulus) : s.Numbers x where
  once := by
    rcases (draws_step hs.messages_eq x).drawn.handsOut_eq with hnone | ⟨hone, -⟩
    · rw [hnone]
      exact Nat.zero_le 1
    · rw [hone]
      exact Nat.le_refl 1
  requests := by
    intro e he id hid
    cases (draws_step hs.messages_eq x).drawn with
    | nothing hrequests hqueued htold => cases (hqueued e he).symm.trans hid
    | request hasks hrequests hqueued hfits hid' htold =>
      rw [hqueued] at he
      obtain rfl := List.mem_singleton.mp he
      obtain rfl := Option.some.inj (hid'.symm.trans hid)
      exact ⟨⟨_, _, hasks, rfl⟩, congrArg Requests.latest hrequests, hfits⟩
    | download hrequests hqueued htold hid' | spoilt hrequests hqueued htold =>
      rw [hqueued] at he
      cases he
  downloads := by
    intro c hc hdownload
    cases (draws_step hs.messages_eq x).drawn with
    | nothing hrequests hqueued htold => cases (htold c hc).symm.trans hdownload
    | download hrequests hqueued htold hid =>
      rw [htold] at hc
      obtain rfl := List.mem_singleton.mp hc
      exact ⟨_, hid, congrArg Requests.latest hrequests⟩
    | request hasks hrequests hqueued hfits hid htold | spoilt hrequests hqueued htold =>
      rw [htold] at hc
      cases hc
  refused := by
    intro u events hasks hlarge
    obtain ⟨hrequests, hqueue, -⟩ := asks_eq hasks
    have hstep := (step_asks hasks).trans (sendEvents_large hlarge)
    refine ⟨hstep, ?_, ?_⟩
    · rw [hstep]
      exact hrequests
    · rw [hstep]
      exact hqueue

/-- On every run, the ids of requests and downloads are numbered upwards from one, each is the latest
when it is handed out, and the next id is always the one after the latest.  Requests that are sent
are all written; one that would not be takes no id and changes nothing. -/
theorem numbered_run (config : Config) (host : Host) (run : List Stimulus) :
    ((start config host).handedOutBy run).Pairwise (· < ·) ∧
      (∀ id ∈ (start config host).handedOutBy run, 1 ≤ id) ∧
      ((start config host).after run).requests.next =
        ((start config host).after run).requests.latest.elim 1 (· + 1) ∧
      (∀ x, ((start config host).after run).Numbers x) ∧
      ∀ sink, ∃ kept : List ClientEnvelope, kept.Sublist ((start config host).sentBy run) ∧
        kept.filterMap ClientEnvelope.requestId? =
          ((start config host).sentBy run).filterMap ClientEnvelope.requestId? ∧
        Wire.writeEnvelopes sink ((start config host).sentBy run) =
          Wire.writeFrames sink Wire.toServerCap [] (kept.map ClientEnvelope.payload) := by
  have hstart : (start config host).Reachable := .start config host
  have hafter := hstart.after run
  refine ⟨pairwise_handedOutBy hstart run, fun id hid => ?_, hafter.counting.next_eq,
    hafter.numbers, (writable_sentBy hstart run).written⟩
  exact next_le_handedOutBy hstart hid

example :
    let button := .page [.obj [("type", .str "button"), ("id", .str "export"),
      ("download_name", .str "data.csv")]]
    (start .default .minimal).handedOutBy
      [.message (.hello "session" none) 0, .message (.rerun ⟨none, some button, none, none⟩) 0,
        .action ⟨"export", .click⟩] = [1, 2] := by
  decide +kernel

end Session

end RemoteUi
