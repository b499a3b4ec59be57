/-
# RemoteUi.Proofs.Session.Quiet — what a session does that shows no tree.

Most of what a session does shows no tree, and then it does only a little: it gives out an id or
two, changes a widget, tells the host something.  `Quiet` puts together what all of this has in
common.

* Ids are given out one after the other, and the latest is awaited (`Requests.Counting`).  That more
  may have been given out since is `Requests.Later`, with one constructor for each id, so that what
  an id keeps is shown by induction.
* The cached answer stays as it was.
* No widget gets another identity, so that live widgets stay sound.
* The host is told of no swap.

Sending, downloads, uploads, inputs and frames are all quiet, each shown from what it calls
(`quiet_sendEvents` to `quiet_animationFrame`).  Quiet steps compose (`Quiet.trans`).  So a property
of a session that depends on nothing but these four has to be shown for answers only, and quiet
steps leave it alone.
-/
import RemoteUi.Proofs.Screen.Swap
import RemoteUi.Proofs.Session.Step

namespace RemoteUi

/-! ## Ids -/

namespace Requests

variable {r r' r'' : Requests} {id : Nat}

/-- The id has been given out. -/
def Issued (r : Requests) (id : Nat) : Prop :=
  1 ≤ id ∧ id < r.next

/-- The request for the latest id that has been given out is awaited. -/
structure Counting (r : Requests) : Prop where
  pos : 1 ≤ r.next
  latest_eq : r.latest = if r.next = 1 then none else some (r.next - 1)

/-- More ids may have been given out since. -/
inductive Later (r : Requests) : Requests → Prop
  | refl : Later r r
  | issue {r' : Requests} : Later r r' → Later r r'.issue.1

/-- An id is accepted if it is the latest. -/
theorem accepts_iff : r.accepts id ↔ r.latest = some id := beq_iff_eq

/-- An answer is a rejection for diverged state or not, whatever was asked. -/
theorem classify_eq_invalidState {response : Response} :
    r.classify response = .invalidState ↔
      (ServerEnvelope.rerun response).kind = .invalidState := by
  unfold classify ServerEnvelope.kind
  cases herror : response.error with
  | none =>
    dsimp only
    split
    · simp [herror]
    · split <;> simp [herror]
  | some e => cases hinvalid : e.isInvalidState <;> simp [herror, hinvalid]

/-- Nothing has been given out yet, and the first id will be 1. -/
theorem counting_start : start.Counting := ⟨Nat.le_refl 1, rfl⟩

/-- The id that is given out becomes the latest. -/
theorem Counting.issue (hr : r.Counting) : r.issue.1.Counting := by
  refine ⟨Nat.le_succ_of_le hr.pos, ?_⟩
  have hpos := hr.pos
  show some r.next = if r.next + 1 = 1 then none else some (r.next + 1 - 1)
  rw [if_neg (by omega), Nat.add_sub_cancel]

theorem Counting.lt_of_latest (hr : r.Counting) (hid : r.latest = some id) : id + 1 = r.next := by
  have hpos := hr.pos
  have hlatest := hr.latest_eq
  rw [hid] at hlatest
  split at hlatest
  · cases hlatest
  · have hid : id = r.next - 1 := Option.some.inj hlatest
    omega

theorem Later.trans (h : Later r r') (h' : Later r' r'') : Later r r'' := by
  induction h' with
  | refl => exact h
  | issue _ ih => exact ih.issue

theorem Later.counting (h : Later r r') (hr : r.Counting) : r'.Counting := by
  induction h with
  | refl => exact hr
  | issue _ ih => exact ih.issue

theorem Later.next_le (h : Later r r') : r.next ≤ r'.next := by
  induction h with
  | refl => exact Nat.le_refl _
  | issue _ ih => exact Nat.le_succ_of_le ih

end Requests

/-- The host is told of a swap. -/
def HostCall.isSwap : HostCall → Bool
  | .swapped .. => true
  | _ => false

/-! ## Uploads -/

namespace Upload

variable {σ : Type} {upload : σ → SelectedFile → Except UploadError UploadReceipt × σ}

/-- What the upload of a file keeps, the upload of a selection keeps. -/
theorem batch_keeps {p : σ → Prop} (hp : ∀ s file, p s → p (upload s file).2) (multiple : Bool)
    (files : List SelectedFile) {s : σ} (hs : p s) : p (batch upload multiple files s).2 := by
  induction files generalizing s with
  | nil => exact hs
  | cons file files ih =>
    unfold batch
    split
    · exact ih hs
    · have hfile := hp s file hs
      split
      · rename_i e t hupload
        rw [hupload] at hfile
        exact hfile
      · rename_i receipt t hupload
        rw [hupload] at hfile
        cases multiple with
        | true => exact ih hfile
        | false => exact hfile

end Upload

namespace Widget

variable {w w' : Widget} {message : Option Message}

/-- An edited cell is part of what a grid shows. -/
theorem key_editCell {g : Grid} {row : Nat} {column : String} {value : Json}
    (h : w.editCell g row column value = .ok (w', message)) : w'.key = w.key := by
  unfold editCell at h
  split at h
  · cases h
  · split at h
    · cases h
    · split at h <;> cases h <;> rfl

/-- An input does not change who a widget is. -/
theorem key_interpret {input : Input} (h : w.interpret input = .ok (w', message)) :
    w'.key = w.key := by
  unfold interpret at h
  split at h
  case h_4 => split at h <;> cases h <;> rfl
  case h_9 => exact key_editCell h
  all_goals cases h <;> rfl

end Widget

namespace Session

/-! ## What shows nothing -/

/-- What all have in common that show nothing: ids are only ever given out, the cached answer stays,
no widget gets another identity, and the host is told of no swap. -/
structure Quiet (s t : Session) : Prop where
  requests : s.requests.Later t.requests
  recovery : t.recovery = s.recovery
  sound : s.screen.pool.Sound → t.screen.pool.Sound
  swaps : t.calls.filter HostCall.isSwap = s.calls.filter HostCall.isSwap

/-- The session once the host was told some calls, given with the latest first. -/
def told (s : Session) (calls : List HostCall) : Session :=
  { s with calls := calls ++ s.calls }

variable {s t u : Session}

theorem Quiet.refl (s : Session) : s.Quiet s := ⟨.refl, rfl, id, rfl⟩

theorem Quiet.trans (hst : s.Quiet t) (htu : t.Quiet u) : s.Quiet u :=
  ⟨hst.requests.trans htu.requests, htu.recovery.trans hst.recovery,
    fun hs => htu.sound (hst.sound hs), htu.swaps.trans hst.swaps⟩

/-- Calls of other kinds are no swaps. -/
theorem quiet_told {calls : List HostCall} (hcalls : ∀ c ∈ calls, c.isSwap = false) :
    s.Quiet (s.told calls) := by
  refine ⟨.refl, rfl, id, ?_⟩
  have hnone : calls.filter HostCall.isSwap = [] :=
    List.filter_eq_nil_iff.mpr fun c hc => by simp [hcalls c hc]
  show (calls ++ s.calls).filter HostCall.isSwap = s.calls.filter HostCall.isSwap
  rw [List.filter_append, hnone, List.nil_append]

/-- The host is told of diagnostics one by one. -/
theorem report_eq (s : Session) (ds : List Diagnostic) :
    s.report ds = s.told (ds.map HostCall.diagnostic).reverse := by
  induction ds generalizing s with
  | nil => rfl
  | cons d rest ih =>
    show (s.tell (.diagnostic d)).report rest = _
    rw [ih, List.map_cons, List.reverse_cons]
    simp [told, tell]

theorem isSwap_report {ds : List Diagnostic} :
    ∀ c ∈ (ds.map HostCall.diagnostic).reverse, c.isSwap = false := by
  simp [HostCall.isSwap]

theorem preload_eq (s : Session) (sources : List String) :
    (s.preload sources).1 = s.told (if sources = [] then [] else [.preload sources]) := by
  unfold preload
  split <;> rfl

theorem isSwap_preload {sources : List String} :
    ∀ c ∈ (if sources = [] then [] else [HostCall.preload sources]), c.isSwap = false := by
  split <;> simp [HostCall.isSwap]

/-- An id is given out even if the request is too large to be sent. -/
theorem quiet_sendEvents (s : Session) (events : List Event) :
    s.Quiet (s.sendEvents events).1 := by
  unfold sendEvents
  dsimp only
  split
  · dsimp only
    rw [report_eq]
    exact quiet_told isSwap_report
  · cases events <;> exact ⟨.issue .refl, rfl, id, rfl⟩

/-- Here too the id comes first, and the address may fail after it. -/
theorem quiet_startDownload (s : Session) (widgetId fragmentId fileName : String) :
    s.Quiet (s.startDownload widgetId fragmentId fileName) := by
  unfold startDownload
  split
  · exact .refl s
  · dsimp only
    split
    · exact ⟨.issue .refl, rfl, id, rfl⟩
    · split <;> exact ⟨.issue .refl, rfl, id, rfl⟩

theorem key_showUploaded (files : List UploadedFile) (w : Widget) :
    (showUploaded files w).key = w.key := by
  unfold showUploaded
  split <;> rfl

/-- An upload changes what the uploader shows, if it is still there when the files are. -/
theorem quiet_upload (s : Session) (key widgetId fragmentId : String) (multiple : Bool)
    (files : List SelectedFile) :
    s.Quiet (s.upload key widgetId fragmentId multiple files).1 := by
  -- the host is asked for an upload, if it is asked for anything
  have hone : ∀ (calls : List HostCall) (file : SelectedFile),
      calls.filter HostCall.isSwap = s.calls.filter HostCall.isSwap →
      (s.uploadOne calls file).2.filter HostCall.isSwap = s.calls.filter HostCall.isSwap := by
    intro calls file hcalls
    unfold uploadOne
    split
    · exact hcalls
    · split <;> exact hcalls
  refine ⟨.refl, rfl, fun hs => ?_, Upload.batch_keeps hone multiple files rfl⟩
  unfold upload
  dsimp only
  split
  · split
    · exact hs
    · exact hs.modify (key_showUploaded _) _
  · exact hs

theorem quiet_perform (s : Session) (message : Message) : s.Quiet (s.perform message) := by
  cases message with
  | downloadRequested widgetId fragmentId fileName =>
    exact s.quiet_startDownload widgetId fragmentId fileName
  | filesSelected key widgetId fragmentId multiple files =>
    have hupload := s.quiet_upload key widgetId fragmentId multiple files
    exact ⟨hupload.requests, hupload.recovery, hupload.sound, hupload.swaps⟩
  | clicked | valueChanged | cellEdited => exact ⟨.refl, rfl, id, rfl⟩

/-- Messages are carried out one after the other. -/
theorem quiet_dispatch (s : Session) : s.Quiet s.dispatch :=
  s.dispatch_keeps (fun t m ht => ht.trans (t.quiet_perform m)) ⟨.refl, rfl, id, rfl⟩

theorem quiet_deliver {id : String} {input : Input} (h : s.deliver id input = .ok t) :
    s.Quiet t := by
  obtain ⟨handle, w, w', message, -, hw, hinterpret, rfl⟩ := deliver_ok h
  -- only the widget that the input is for changes, and it keeps its identity
  have hset : s.Quiet { s with
      screen := { s.screen with pool := s.screen.pool.set handle w' }
      messages := s.messages ++ message.toList } :=
    ⟨.refl, rfl, fun hs => hs.set hw (Widget.key_interpret hinterpret), rfl⟩
  exact hset.trans (quiet_dispatch _)

theorem Acting.quiet {id : String} {input : Input} {i : Interaction} (h : s.Acting id input i) :
    s.Quiet i.session := by
  -- the focus is one flag of a widget; focusing and blurring set two flags at most
  cases h with
  | refused | idle => exact .refl s
  | toggled | chosen => exact ⟨.refl, rfl, fun hs => hs, rfl⟩
  | focused outcome =>
    obtain ⟨focused, pool', hpool', hfocus⟩ := s.screen.surface.focus_eq s.screen.pool id
    refine ⟨.refl, rfl, fun hs => ?_, rfl⟩
    show (s.screen.focus id).pool.Sound
    rw [Screen.focus, hfocus]
    exact hpool'.sound hs
  | blurred =>
    obtain ⟨pool', hpool', hblur⟩ := s.screen.surface.blur_eq s.screen.pool
    refine ⟨.refl, rfl, fun hs => ?_, rfl⟩
    show s.screen.blur.pool.Sound
    rw [Screen.blur, hblur]
    exact hpool'.sound hs
  | delivered hinput hdelivered => exact quiet_deliver hdelivered

theorem quiet_interact (s : Session) (id : String) (input : Input) :
    s.Quiet (s.interact id input).session := by
  by_cases hopen : s.state = .opened
  · exact (acting_interact hopen id input).quiet
  · rw [interact_of_not_open hopen]
    exact .refl s

theorem quiet_animationFrame (s : Session) (now : Nat) : s.Quiet (s.animationFrame now).1 := by
  -- transitions move and groups settle, and the widgets are left alone
  have htick : (s.screen.tick now).1.pool = s.screen.pool := by
    unfold Screen.tick
    split <;> rfl
  have hframe : ∀ gathering, s.Quiet { s with
      screen := { (s.screen.tick now).1 with groups := (s.screen.tick now).1.groups.settled }
      gathering := gathering } := fun gathering =>
    ⟨.refl, rfl, fun hs => htick ▸ hs, rfl⟩
  unfold animationFrame
  dsimp only
  split
  · exact hframe s.gathering
  · split
    · exact hframe []
    · exact (hframe []).trans (quiet_sendEvents _ _)

end Session

end RemoteUi
