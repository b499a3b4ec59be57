/-
# RemoteUi.Proofs.Session.Spending — what takes an id.

Requests and downloads draw their ids from one counter, at different times: a download takes its id
at once, and a request when it is sent.  What shows a tree, gathers an event or uploads a file has
nothing to do with the counter (`Aside`).

* `Aside` speaks of the counter, of what waits for the server and of what the host was told, and of
  each only that it grows by something without an id.  It composes (`Aside.trans`), so that the
  functions of a session can be gone through one by one.
* Of what the user does, a click takes an id at most, and for a download (`Spends`).  Such an
  operation starts a download under the id, or takes the id and fails; it never puts a request in
  the queue.
* A request that is too large for a frame is reported and takes no id (`sendEvents_large`); one that
  fits takes the next (`sendEvents_fitting`).

That the address of a download carries the id it was started under is shown where addresses are.
-/
import RemoteUi.Proofs.Session.Reachable
import RemoteUi.Proofs.Upload.Address

namespace RemoteUi

/-! ## Who carries an id -/

/-- The id of a request. -/
def ClientEnvelope.requestId? : ClientEnvelope → Option Nat
  | .rerun _ id _ => some id
  | _ => none

/-- The host is asked for a download. -/
def HostCall.isDownload : HostCall → Bool
  | .download _ _ => true
  | _ => false

/-- The id that a download is asked for under. -/
def HostCall.requestId? : HostCall → Option Nat
  | .download url _ => url.requestId?
  | _ => none

/-- Only a download carries an id to the host. -/
theorem HostCall.requestId?_eq_none {c : HostCall} (h : c.isDownload = false) :
    c.requestId? = none := by
  cases c with
  | download => cases h
  | swapped | reload | connectionLost | diagnostic | preload | upload => rfl

namespace Session

variable {s t u : Session}

/-! ## What takes no id -/

/-- No id is taken, no request is sent and no download is started. -/
structure Aside (s t : Session) : Prop where
  requests_eq : t.requests = s.requests
  queue : ∃ es, t.outbound = s.outbound ++ es ∧ ∀ e ∈ es, e.requestId? = none
  told : ∃ cs, t.calls = cs ++ s.calls ∧ ∀ c ∈ cs, c.isDownload = false

/-- Where nothing of it changes, no id is taken. -/
theorem Aside.of_eq (hrequests : t.requests = s.requests) (hqueue : t.outbound = s.outbound)
    (hcalls : t.calls = s.calls) : s.Aside t :=
  ⟨hrequests, ⟨[], by rw [hqueue, List.append_nil], nofun⟩, ⟨[], hcalls, nofun⟩⟩

theorem Aside.refl (s : Session) : s.Aside s := .of_eq rfl rfl rfl

theorem Aside.trans (hst : s.Aside t) (htu : t.Aside u) : s.Aside u := by
  obtain ⟨es, hes, hnone⟩ := hst.queue
  obtain ⟨es', hes', hnone'⟩ := htu.queue
  obtain ⟨cs, hcs, hother⟩ := hst.told
  obtain ⟨cs', hcs', hother'⟩ := htu.told
  refine ⟨htu.requests_eq.trans hst.requests_eq, ⟨es ++ es', ?_, ?_⟩, ⟨cs' ++ cs, ?_, ?_⟩⟩
  · rw [hes', hes, List.append_assoc]
  · exact List.forall_mem_append.mpr ⟨hnone, hnone'⟩
  · rw [hcs', hcs, List.append_assoc]
  · exact List.forall_mem_append.mpr ⟨hother', hother⟩

/-- A message without an id may be put in the queue. -/
theorem aside_push (s : Session) {e : ClientEnvelope} (he : e.requestId? = none) :
    s.Aside (s.push e) :=
  ⟨rfl, ⟨[e], rfl, by simpa using he⟩, ⟨[], rfl, nofun⟩⟩

/-- The host may be told of something else. -/
theorem aside_tell (s : Session) {c : HostCall} (hc : c.isDownload = false) : s.Aside (s.tell c) :=
  ⟨rfl, ⟨[], (List.append_nil _).symm, nofun⟩, ⟨[c], rfl, by simpa using hc⟩⟩

theorem aside_report (s : Session) (ds : List Diagnostic) : s.Aside (s.report ds) := by
  rw [report_eq]
  exact ⟨rfl, ⟨[], (List.append_nil _).symm, nofun⟩, ⟨_, rfl, by simp [HostCall.isDownload]⟩⟩

theorem aside_preload (s : Session) (sources : List String) : s.Aside (s.preload sources).1 := by
  unfold preload
  split
  · exact .refl s
  · exact s.aside_tell rfl

/-- Showing a tree takes no id, whether it can be shown or not. -/
theorem aside_render (s : Session) (response : Response) (now : Nat) :
    s.Aside (s.render response now).1 := by
  unfold render
  split
  · exact .refl s
  · split
    · exact s.aside_report _
    · rename_i parsed hparsed
      have hloaded := (s.aside_report parsed.diagnostics).trans
        (aside_preload _ parsed.fragment.imageSources)
      dsimp only
      split
      · exact hloaded.trans (aside_report _ _)
      · rename_i screen report hswap
        have hswapped := hloaded.trans (t := (Session.preload _ _).1)
          (u := { ((s.report parsed.diagnostics).preload parsed.fragment.imageSources).1 with
            screen := screen }) (.of_eq rfl rfl rfl)
        exact (hswapped.trans (aside_report _ _)).trans (aside_tell _ rfl)

/-- Nor does an answer, which is acknowledged at most. -/
theorem aside_handleResponse (s : Session) (response : Response) (now : Nat) :
    s.Aside (s.handleResponse response now) := by
  unfold handleResponse
  split
  · dsimp only
    split
    · exact (s.aside_render response now).trans (.of_eq rfl rfl rfl)
    · exact s.aside_render response now
  · exact .of_eq rfl rfl rfl
  · dsimp only
    split
    · rename_i cached hcached
      have htaken : s.Aside { s with recovery := s.recovery.take.1 } := .of_eq rfl rfl rfl
      exact (htaken.trans (aside_render _ cached now)).trans (aside_push _ rfl)
    · have htaken : s.Aside { s with recovery := s.recovery.take.1 } := .of_eq rfl rfl rfl
      exact htaken.trans (aside_push _ rfl)
  · exact .refl s

/-! ## What takes an id -/

/-- What an operation does with the counter that sends no request. -/
inductive Spends (s : Session) (t : Session) : Prop
  | aside (h : s.Aside t)
  /-- A download takes an id, and its address carries it. -/
  | download {url : Url} {fileName : String} (hrequests : t.requests = s.requests.issue.1)
      (hqueue : t.outbound = s.outbound) (htold : t.calls = .download url fileName :: s.calls)
      (hid : url.requestId? = some s.requests.issue.2)
  /-- A download takes an id, and cannot be started. -/
  | spoilt (hrequests : t.requests = s.requests.issue.1) (hqueue : t.outbound = s.outbound)
      (htold : t.calls = s.calls)

/-- It is all about the counter, what waits for the server and what the host was told. -/
theorem Spends.of_eq (h : u.Spends t) (hrequests : u.requests = s.requests)
    (hqueue : u.outbound = s.outbound) (htold : u.calls = s.calls) : s.Spends t := by
  cases h with
  | aside h => exact .aside ((Aside.of_eq hrequests hqueue htold).trans h)
  | download hrequests' hqueue' htold' hid =>
    rw [hrequests] at hrequests' hid
    rw [htold] at htold'
    exact .download hrequests' (hqueue'.trans hqueue) htold' hid
  | spoilt hrequests' hqueue' htold' =>
    rw [hrequests] at hrequests'
    exact .spoilt hrequests' (hqueue'.trans hqueue) (htold'.trans htold)

/-- A download takes an id as soon as there is a session, and may fail after that. -/
theorem spends_startDownload (s : Session) (widgetId fragmentId fileName : String) :
    s.Spends (s.startDownload widgetId fragmentId fileName) := by
  unfold startDownload
  split
  · exact .aside (.refl s)
  · dsimp only
    split
    · exact .spoilt rfl rfl rfl
    · split
      · exact .spoilt rfl rfl rfl
      · rename_i url hurl
        exact .download rfl rfl rfl (Upload.requestId?_of_downloadUrl hurl)

/-- An upload takes no id. -/
theorem aside_upload (s : Session) (key widgetId fragmentId : String) (multiple : Bool)
    (files : List SelectedFile) : s.Aside (s.upload key widgetId fragmentId multiple files).1 := by
  -- the host is asked for uploads and for nothing else
  have hone : ∀ (calls : List HostCall) (file : SelectedFile),
      (∃ cs, calls = cs ++ s.calls ∧ ∀ c ∈ cs, c.isDownload = false) →
      ∃ cs, (s.uploadOne calls file).2 = cs ++ s.calls ∧ ∀ c ∈ cs, c.isDownload = false := by
    rintro calls file ⟨cs, rfl, hother⟩
    unfold uploadOne
    split
    · exact ⟨cs, rfl, hother⟩
    · split
      · exact ⟨cs, rfl, hother⟩
      · exact ⟨.upload _ file :: cs, rfl, List.forall_mem_cons.mpr ⟨rfl, hother⟩⟩
  exact ⟨rfl, ⟨[], (List.append_nil _).symm, nofun⟩,
    Upload.batch_keeps hone multiple files ⟨[], rfl, nofun⟩⟩

theorem spends_perform (s : Session) (m : Message) : s.Spends (s.perform m) := by
  cases m with
  | downloadRequested widgetId fragmentId fileName =>
    exact s.spends_startDownload widgetId fragmentId fileName
  | filesSelected key widgetId fragmentId multiple files =>
    exact .aside ((s.aside_upload key widgetId fragmentId multiple files).trans
      (.of_eq rfl rfl rfl))
  | clicked | valueChanged | cellEdited => exact .aside (.of_eq rfl rfl rfl)

/-- An input is delivered to one widget, which has one thing to say at most. -/
theorem spends_deliver {id : String} {input : Input} (hs : s.messages = [])
    (h : s.deliver id input = .ok t) : s.Spends t := by
  obtain ⟨handle, w, w', message, -, -, -, rfl⟩ := deliver_ok h
  rw [hs, List.nil_append]
  cases message with
  | none => exact .aside (.of_eq rfl rfl rfl)
  | some m =>
    exact (spends_perform { s with
      screen := { s.screen with pool := s.screen.pool.set handle w' }
      messages := [] } m).of_eq rfl rfl rfl

/-- An input takes an id for a download at most. -/
theorem Acting.spends {id : String} {input : Input} {i : Interaction} (h : s.Acting id input i)
    (hs : s.messages = []) : s.Spends i.session := by
  cases h with
  | refused | toggled | chosen | focused | blurred | idle => exact .aside (.of_eq rfl rfl rfl)
  | delivered hinput hdelivered => exact spends_deliver hs hdelivered

/-! ## What a request takes -/

/-- A request that is too large is reported, and that is all. -/
theorem sendEvents_large {events : List Event}
    (hlarge : Wire.toServerCap < (s.requests.prepare s.config.location events).size) :
    (s.sendEvents events).1 = s.tell (.diagnostic (.requestTooLarge
      (s.requests.prepare s.config.location events).size Wire.toServerCap)) := by
  unfold sendEvents
  dsimp only
  rw [if_pos hlarge]
  rfl

/-- A request that fits takes the next id and is put in the queue. -/
theorem sendEvents_fitting {events : List Event}
    (hfits : ¬ Wire.toServerCap < (s.requests.prepare s.config.location events).size) :
    (s.sendEvents events).1.requests = s.requests.issue.1 ∧
      (s.sendEvents events).1.outbound =
        s.outbound ++ [s.requests.prepare s.config.location events] ∧
      (s.sendEvents events).1.calls = s.calls := by
  unfold sendEvents
  dsimp only
  rw [if_neg hfits]
  cases events <;> exact ⟨rfl, rfl, rfl⟩

end Session

end RemoteUi
