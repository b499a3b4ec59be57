/-
# RemoteUi.Proofs.Session.Uploading — what an uploader shows, and what the server hears of it.

A selection of files is uploaded before anything is said of it.  The event that is gathered then
carries the files that were uploaded, and the uploader shows them; only when there are none does it
go on showing what it showed before (`selection_settles`).  The event and what is shown differ in
that case alone, and the user still sees the earlier files.

* Whatever an uploader shows, its summary is that of the files that it shows (`Uploader.Shows`).
  This is so from the start, and no description, input or upload changes it: it is an invariant of
  single widgets, and is proved where such invariants are (`WidgetState.lasting_summed`).
* What is uploaded of a selection is taken from the upload of the batch (`uploadedOf`), of which
  more is shown elsewhere; here it is only followed to the event and to the widget.
* The message of a selection is performed before anything is gathered, so the event is the last one
  of the gathering (`perform_filesSelected`).

The event is told by its fields: the new value is the list of what was uploaded, and there is no old
value.
-/
import RemoteUi.Proofs.Screen.Lasting
import RemoteUi.Proofs.Session.Delivery

namespace RemoteUi

/-! ## What uploaders show -/

/-- The uploader shows the files, and its summary is theirs. -/
structure Uploader.Shows (u : Uploader) (files : List UploadedFile) : Prop where
  selection_eq : u.selection = files
  summary_eq : u.summary = Upload.summary (files.map UploadedFile.name)

/-- The uploader of a widget, if it is one. -/
def WidgetState.uploader? : WidgetState → Option Uploader
  | .fileUploader u => some u
  | _ => none

/-- Only an uploader has one. -/
theorem WidgetState.eq_of_uploader? {state : WidgetState} {u : Uploader}
    (h : state.uploader? = some u) : state = .fileUploader u := by
  unfold uploader? at h
  split at h
  · cases h
    rfl
  · cases h

/-- An uploader has the summary of what it shows. -/
def WidgetState.Summed (state : WidgetState) : Prop :=
  ∀ u, state.uploader? = some u → u.Shows u.selection

namespace Widget

variable {w w' : Widget} {message : Option Message}

/-- An edit of a grid leaves a grid. -/
theorem uploader?_editCell {g : Grid} {row : Nat} {column : String} {value : Json}
    (hstate : w.state = .dataGrid g) (h : w.editCell g row column value = .ok (w', message)) :
    w'.state.uploader? = w.state.uploader? := by
  unfold editCell at h
  split at h
  · cases h
  · split at h
    · cases h
    · split at h <;> cases h
      · rw [hstate]
        rfl
      · rfl

/-- An input changes nothing of an uploader. -/
theorem uploader?_interpret {input : Input} (h : w.interpret input = .ok (w', message)) :
    w'.state.uploader? = w.state.uploader? := by
  unfold interpret at h
  split at h
  case h_4 => split at h <;> cases h <;> rfl
  case h_9 => exact uploader?_editCell (by assumption) h
  case h_11 => cases h
  all_goals
    cases h
    simp_all [WidgetState.uploader?, withState]

end Widget

theorem WidgetState.lasting_summed : Lasting Summed where
  ofSpec := fun spec u hu => by
    cases spec with
    | fileUploader multiple accept =>
      cases hu
      exact ⟨rfl, rfl⟩
    | button | textField | select | colorField | image | dataGrid | codeEditor => cases hu
  update := fun h hstate u hu => by
    unfold update at h
    split at h <;> cases h <;> cases hu
    -- what is left is an uploader, of which a description leaves the selection alone
    rename_i old multiple accept
    have hold := hstate old rfl
    exact ⟨rfl, hold.summary_eq⟩
  interpret := fun h hw u hu => hw u ((Widget.uploader?_interpret h).symm.trans hu)
  showUploaded := fun files w hw u hu => by
    unfold Session.showUploaded at hu
    split at hu
    · cases hu
      exact ⟨rfl, rfl⟩
    · exact hw u hu

namespace Session

variable {s : Session} {id : String} {h : Handle} {w : Widget} {u : Uploader}

/-- An uploader of a session has the summary of what it shows. -/
theorem Reachable.shows (hs : s.Reachable) (hw : s.screen.pool.get? h = some w)
    (hu : w.state = .fileUploader u) : u.Shows u.selection :=
  hs.reached.every WidgetState.lasting_summed h w hw u (by rw [hu]; rfl)

/-! ## Selections -/

/-- What is uploaded of a selection. -/
def uploadedOf (s : Session) (multiple : Bool) (files : List SelectedFile) : List UploadedFile :=
  (Upload.batch s.uploadOne multiple files s.calls).1.uploaded

/-- The session once a selection for a live uploader has been uploaded. -/
theorem perform_filesSelected {key widgetId fragmentId : String} {multiple : Bool}
    {files : List SelectedFile} (hlive : s.screen.pool.lookup key = some h) :
    s.perform (.filesSelected key widgetId fragmentId multiple files) =
      { s with
        calls := (Upload.batch s.uploadOne multiple files s.calls).2
        screen := { s.screen with
          pool := if s.uploadedOf multiple files = [] then s.screen.pool
            else s.screen.pool.modify h (showUploaded (s.uploadedOf multiple files)) }
        gathering := s.gathering ++ [.event
          { kind := .change, widgetId, fragmentId, oldValue := none, changes := none
            newValue := some (.arr ((s.uploadedOf multiple files).map UploadedFile.toJson)) }] } := by
  unfold perform upload
  dsimp only
  rw [hlive]
  rfl

/-- An uploader shows what it is given, with a new summary. -/
theorem state_showUploaded (hu : w.state = .fileUploader u) (files : List UploadedFile) :
    (showUploaded files w).state = .fileUploader
      { u with selection := files, summary := Upload.summary (files.map UploadedFile.name) } := by
  unfold showUploaded
  rw [hu]
  rfl

/-- A selection of files for a live uploader is taken, and performed at once. -/
theorem interact_selectFiles (hs : s.Reachable) (hopen : s.state = .opened)
    (hlive : s.screen.pool.lookup id = some h) (hw : s.screen.pool.get? h = some w)
    (hu : w.state = .fileUploader u) (files : List SelectedFile) :
    s.interact id (.selectFiles files) =
      ⟨s.perform (.filesSelected id w.widgetId w.fragmentId u.multiple files), .ok ()⟩ := by
  have hkey : w.key = id := (WidgetPool.key_of_get? hw).symm.trans (hs.reached.sound.key_eq hlive)
  have hinterpret : w.interpret (.selectFiles files) =
      .ok (w, some (.filesSelected id w.widgetId w.fragmentId u.multiple files)) := by
    unfold Widget.interpret
    rw [hu, hkey]
  have hdelivered := deliver_of_unchanged hs.messages_eq hlive hw hinterpret
  rw [interact_eq hopen]
  dsimp only
  rw [hdelivered]
  rfl

/-- After a selection of files, the event that is gathered for it carries the files of it that were
uploaded.  The uploader shows them, and its summary is theirs, unless there are none: then it shows
what it showed before.  So the two agree unless nothing was uploaded while something was shown. -/
theorem selection_settles (hs : s.Reachable) (hopen : s.state = .opened)
    (hlive : s.screen.pool.lookup id = some h) (hw : s.screen.pool.get? h = some w)
    (hu : w.state = .fileUploader u) (files : List SelectedFile) :
    let uploaded := s.uploadedOf u.multiple files
    let t := (s.interact id (.selectFiles files)).session
    (s.interact id (.selectFiles files)).outcome = .ok () ∧
      t.gathering = s.gathering ++ [.event
        { kind := .change, widgetId := w.widgetId, fragmentId := w.fragmentId, oldValue := none,
          newValue := some (.arr (uploaded.map UploadedFile.toJson)), changes := none }] ∧
      ∃ w' u', t.screen.pool.lookup id = some h ∧ t.screen.pool.get? h = some w' ∧
        w'.state = .fileUploader u' ∧
        u'.Shows (if uploaded = [] then u.selection else uploaded) ∧
        (u'.Shows uploaded ↔ uploaded ≠ [] ∨ u.selection = []) := by
  intro uploaded t
  have hshows : u.Shows u.selection := hs.shows hw hu
  have hinteract := interact_selectFiles hs hopen hlive hw hu files
  have ht : t = s.perform (.filesSelected id w.widgetId w.fragmentId u.multiple files) :=
    congrArg Interaction.session hinteract
  rw [perform_filesSelected hlive] at ht
  have hpool : t.screen.pool = if uploaded = [] then s.screen.pool
      else s.screen.pool.modify h (showUploaded uploaded) := congrArg (fun t => t.screen.pool) ht
  refine ⟨congrArg Interaction.outcome hinteract, congrArg gathering ht, ?_⟩
  by_cases hnone : uploaded = []
  · -- nothing was uploaded: the uploader is as it was
    rw [if_pos hnone] at hpool
    rw [hpool, if_pos hnone, hnone]
    refine ⟨w, u, hlive, hw, hu, hshows, fun hempty => Or.inr hempty.selection_eq, fun hor => ?_⟩
    have hempty : u.selection = [] := hor.resolve_left fun hne => hne rfl
    exact hempty ▸ hshows
  · -- the uploader shows what was uploaded
    rw [if_neg hnone] at hpool
    rw [hpool, if_neg hnone]
    have hget : (s.screen.pool.modify h (showUploaded uploaded)).get? h =
        some (showUploaded uploaded w) := by
      rw [WidgetPool.get?_modify, if_pos rfl, hw]
      rfl
    have hnew : ({ u with
        selection := uploaded
        summary := Upload.summary (uploaded.map UploadedFile.name) } : Uploader).Shows uploaded :=
      ⟨rfl, rfl⟩
    exact ⟨_, _, hlive, hget, state_showUploaded hu uploaded, hnew,
      iff_of_true hnew (Or.inl hnone)⟩

/-! ## An uploader with two selections -/

/-- A host that takes whatever is uploaded. -/
def takingHost : Host where
  preload := fun _ _ => none
  upload := fun _ _ file => .ok ⟨"id-" ++ file.name, "txt"⟩

/-- A text of one character. -/
def textFile (name : String) (supported : Bool) : SelectedFile :=
  ⟨name, "text/plain", 0, 1, [97], supported⟩

/-- What is shown of a text that was uploaded. -/
def uploadedText (name : String) : UploadedFile :=
  ⟨"id-" ++ name, "txt", name, 0, 1, "text/plain"⟩

/-- The server shows an uploader. -/
def uploaderShown : List Stimulus :=
  let uploader := .page [.obj [("type", .str "file_uploader"), ("id", .str "up"),
    ("multiple", .bool true)]]
  [.message (.hello "session" none) 0, .message (.rerun ⟨none, some uploader, none, none⟩) 0]

/-- A session in which nothing was selected yet. -/
def unselected : Session := (start .default takingHost).after uploaderShown

/-- The session once a file was selected. -/
def selected : Session :=
  unselected.step (.action ⟨"up", .selectFiles [textFile "a.txt" true]⟩)

theorem reachable_unselected : unselected.Reachable := (Reachable.start _ _).after uploaderShown

theorem reachable_selected : selected.Reachable := reachable_unselected.step _

/-- What can be seen of an uploader: its ids, whether it takes several files, and what it shows. -/
def uploaderAt (s : Session) (h : Handle) :
    Option (String × String × Bool × List UploadedFile × Option String) :=
  (s.screen.pool.get? h).bind fun w => w.state.uploader?.map fun u =>
    (w.widgetId, w.fragmentId, u.multiple, u.selection, u.summary)

/-- What is seen at a handle is seen of an uploader. -/
theorem exists_uploader {view : String × String × Bool × List UploadedFile × Option String}
    (hview : s.uploaderAt h = some view) :
    ∃ w u, s.screen.pool.get? h = some w ∧ w.state = .fileUploader u ∧
      (w.widgetId, w.fragmentId, u.multiple, u.selection, u.summary) = view := by
  obtain ⟨w, hw, hview⟩ := Option.bind_eq_some_iff.mp hview
  obtain ⟨u, hu, hview⟩ := Option.map_eq_some_iff.mp hview
  exact ⟨w, u, hw, WidgetState.eq_of_uploader? hu, hview⟩

theorem uploader_unselected : unselected.state = .opened ∧
    unselected.screen.pool.lookup "up" = some 0 ∧
    unselected.uploaderAt 0 = some ("up", "main", true, [], none) := by
  decide +kernel

theorem uploader_selected : selected.state = .opened ∧
    selected.screen.pool.lookup "up" = some 0 ∧
    selected.uploaderAt 0 = some ("up", "main", true, [uploadedText "a.txt"], some "a.txt") := by
  decide +kernel

/-- Of the first selection one file is of a type that is not taken.  The event has the other one in
its new value, and the uploader shows it. -/
theorem selection_settles_unselected :
    ∃ w u, unselected.Reachable ∧ unselected.state = .opened ∧
      unselected.screen.pool.lookup "up" = some 0 ∧ unselected.screen.pool.get? 0 = some w ∧
      w.state = .fileUploader u ∧
      (unselected.interact "up" (.selectFiles [textFile "a.txt" true,
          textFile "b.txt" false])).session.gathering = unselected.gathering ++
        [.event ⟨.change, "up", "main", none, some (.arr [(uploadedText "a.txt").toJson]), none⟩] ∧
      ∃ w' u', (unselected.interact "up" (.selectFiles [textFile "a.txt" true,
          textFile "b.txt" false])).session.screen.pool.get? 0 = some w' ∧
        w'.state = .fileUploader u' ∧ u'.Shows [uploadedText "a.txt"] := by
  obtain ⟨hopen, hlive, hview⟩ := uploader_unselected
  obtain ⟨w, u, hw, hu, heq⟩ := exists_uploader hview
  have hwidgetId : w.widgetId = "up" := congrArg (fun view => view.1) heq
  have hfragmentId : w.fragmentId = "main" := congrArg (fun view => view.2.1) heq
  have hmultiple : u.multiple = true := congrArg (fun view => view.2.2.1) heq
  have huploaded : unselected.uploadedOf u.multiple [textFile "a.txt" true,
      textFile "b.txt" false] = [uploadedText "a.txt"] := by
    rw [hmultiple]
    decide +kernel
  obtain ⟨-, hgathering, w', u', -, hw', hu', hshows, -⟩ :=
    selection_settles reachable_unselected hopen hlive hw hu [textFile "a.txt" true,
      textFile "b.txt" false]
  rw [huploaded, hwidgetId, hfragmentId] at hgathering
  rw [huploaded, if_neg (List.cons_ne_nil _ _)] at hshows
  exact ⟨w, u, reachable_unselected, hopen, hlive, hw, hu, hgathering, w', u', hw', hu', hshows⟩

/-- The second selection has no file of a type that is taken.  The event says that no file is
selected, while the uploader goes on showing the first one. -/
theorem selection_kept :
    selected.Reachable ∧ selected.state = .opened ∧ selected.screen.pool.lookup "up" = some 0 ∧
      (selected.interact "up" (.selectFiles [textFile "b.txt" false])).session.gathering =
        selected.gathering ++ [.event ⟨.change, "up", "main", none, some (.arr []), none⟩] ∧
      (selected.interact "up" (.selectFiles [textFile "b.txt" false])).session.uploaderAt 0 =
        some ("up", "main", true, [uploadedText "a.txt"], some "a.txt") := by
  obtain ⟨hopen, hlive, hview⟩ := uploader_selected
  obtain ⟨w, u, hw, hu, heq⟩ := exists_uploader hview
  obtain ⟨hwidgetId, hrest⟩ := Prod.mk.inj heq
  obtain ⟨hfragmentId, hrest⟩ := Prod.mk.inj hrest
  have huploaded : selected.uploadedOf u.multiple [textFile "b.txt" false] = [] := by
    rw [(Prod.mk.inj hrest).1]
    decide +kernel
  refine ⟨reachable_selected, hopen, hlive, ?_, by decide +kernel⟩
  rw [interact_selectFiles reachable_selected hopen hlive hw hu, perform_filesSelected hlive,
    huploaded, hwidgetId, hfragmentId]
  rfl

end Session

end RemoteUi
