/-
# RemoteUi.Proofs.Session.Download — what a download costs that cannot be started.

A click on a download button takes an id before the address of the download is made.  When there is
no such address, the download is given up and the id is gone: nothing else has changed, but the
request that was awaited is awaited no more, and its answer is superseded whenever it comes
(`failed_download_supersedes`).

* The click has one message, which is performed before anything is gathered
  (`interact_click_download`); with no address it comes to an id that is given out, and to nothing
  else (`startDownload_failed`).
* Ids are given out and never taken back (`later_after`), so that an answer that is superseded once
  is superseded along the whole run after that (`Requests.classify_later`).

There is no address where the client was opened at one that cannot carry a path.
`failed_download_costs` is such a session: the answer to the first request would have been shown
before the click, and is not shown after it.
-/
import RemoteUi.Proofs.Session.Standing

namespace RemoteUi

namespace Widget

/-- The file that a click on the widget asks for: that of a download button. -/
def downloadName (w : Widget) : Option String :=
  match w.state with
  | .button b => b.downloadName
  | _ => none

/-- A click on a download button asks for its file. -/
theorem interpret_click (w : Widget) {fileName : String} (hname : w.downloadName = some fileName) :
    w.interpret .click = .ok (w, some (.downloadRequested w.widgetId w.fragmentId fileName)) := by
  unfold downloadName at hname
  split at hname
  · rename_i b hbutton
    unfold interpret
    rw [hbutton]
    dsimp only
    rw [hname]
  · cases hname

end Widget

namespace Requests

variable {r r' : Requests} {response : Response} {id : Nat}

/-- The answer to the awaited request is applied. -/
theorem classify_latest (hid : response.requestId = some id) (herror : response.error = none)
    (hlatest : r.latest = some id) : r.classify response = .apply := by
  have haccepts : r.accepts id = true := accepts_iff.mpr hlatest
  simp [classify, herror, hid, haccepts]

/-- Once another id has been given out, a successful answer to a request that was awaited before
is superseded for good. -/
theorem classify_later (hr : r.Counting) (hlatest : r.latest = some id)
    (hlater : r.issue.1.Later r') (hid : response.requestId = some id)
    (herror : response.error = none) : r'.classify response = .superseded id := by
  have hnext := hr.lt_of_latest hlatest
  have hle : r.next + 1 ≤ r'.next := hlater.next_le
  have haccepts : r'.accepts id = false := by
    rw [← Bool.not_eq_true, accepts_iff]
    intro hlatest'
    have hnext' := (hlater.counting hr.issue).lt_of_latest hlatest'
    omega
  simp [classify, herror, hid, haccepts]

end Requests

namespace Session

variable {s t : Session} {x : Stimulus}

/-! ## Answers that come too late -/

/-- Ids are given out and never taken back, all along a run. -/
theorem later_after (s : Session) (run : List Stimulus) :
    s.requests.Later (s.after run).requests := by
  induction run generalizing s with
  | nil => exact .refl
  | cons x rest ih => exact (s.later_step x).trans (ih (s.step x))

/-- An answer that is superseded is not shown. -/
theorem shown_of_superseded {response : Response} {id now : Nat}
    (h : s.requests.classify response = .superseded id) :
    s.shown (.message (.rerun response) now) = none := by
  by_cases hclosed : s.state = .closed
  · have hunheard : s.heard (.message (.rerun response) now) = none := if_pos hclosed
    rw [shown, hunheard, Option.bind_none]
  · rw [shown, heard_rerun hclosed, Option.bind_some, displayed, offered, h]
    rfl

/-! ## Downloads that cannot be started -/

/-- The address of a download under the next id. -/
def downloadAddress (s : Session) (widgetId fragmentId : String) : Except UploadError Url :=
  match s.config.location.origin with
  | .error e => .error (.endpoint e.message)
  | .ok origin =>
    Upload.downloadUrl origin s.config.downloadPath (s.sessionId.getD "") s.requests.issue.2
      fragmentId widgetId

/-- A download that has no address costs an id, and does nothing else. -/
theorem startDownload_failed {widgetId fragmentId fileName sessionId : String} {e : UploadError}
    (hid : s.sessionId = some sessionId)
    (hfails : s.downloadAddress widgetId fragmentId = .error e) :
    s.startDownload widgetId fragmentId fileName = { s with requests := s.requests.issue.1 } := by
  unfold downloadAddress at hfails
  rw [hid, Option.getD_some] at hfails
  unfold startDownload
  split
  · rename_i hnone
    cases hid.symm.trans hnone
  · rename_i sessionId' hid'
    obtain rfl := Option.some.inj (hid.symm.trans hid')
    dsimp only
    split
    · rfl
    · rename_i origin horigin
      simp only [horigin] at hfails
      rw [hfails]

/-- A click on a download button is a request for a download, and for nothing else. -/
theorem interact_click_download {id fileName : String} {h : Handle} {w : Widget}
    (hs : s.Reachable) (hopen : s.state = .opened) (hlive : s.screen.pool.lookup id = some h)
    (hw : s.screen.pool.get? h = some w) (hname : w.downloadName = some fileName) :
    s.interact id .click = ⟨s.startDownload w.widgetId w.fragmentId fileName, .ok ()⟩ := by
  have hdelivered := deliver_of_unchanged hs.messages_eq hlive hw (w.interpret_click hname)
  rw [interact_eq hopen]
  dsimp only
  rw [hdelivered]
  rfl

/-- A download that cannot be started costs the answer to the request that was awaited: an id is
gone, and whatever comes later, the answer is superseded. -/
theorem failed_download_supersedes {id fileName : String} {h : Handle} {w : Widget}
    {e : UploadError} (hs : s.Reachable) (hopen : s.state = .opened)
    (hlive : s.screen.pool.lookup id = some h) (hw : s.screen.pool.get? h = some w)
    (hname : w.downloadName = some fileName)
    (hfails : s.downloadAddress w.widgetId w.fragmentId = .error e) :
    s.interact id .click = ⟨{ s with requests := s.requests.issue.1 }, .ok ()⟩ ∧
      ∀ awaited response, s.requests.latest = some awaited →
        response.requestId = some awaited → response.error = none →
        s.requests.classify response = .apply ∧
        ∀ later now, ((s.interact id .click).session.after later).requests.classify response =
            .superseded awaited ∧
          ((s.interact id .click).session.after later).shown (.message (.rerun response) now) =
            none := by
  obtain ⟨sessionId, hid⟩ := hs.greeted hopen
  have hclick : s.interact id .click = ⟨{ s with requests := s.requests.issue.1 }, .ok ()⟩ := by
    rw [interact_click_download hs hopen hlive hw hname, startDownload_failed hid hfails]
  refine ⟨hclick, fun awaited response hlatest hanswer herror => ⟨?_, fun later now => ?_⟩⟩
  · exact Requests.classify_latest hanswer herror hlatest
  · have hlater : s.requests.issue.1.Later
        ((s.interact id .click).session.after later).requests := by
      rw [hclick]
      exact later_after { s with requests := s.requests.issue.1 } later
    have hkind := Requests.classify_later hs.counting hlatest hlater hanswer herror
    exact ⟨hkind, shown_of_superseded hkind⟩

/-! ## A session at an address that carries no path -/

/-- The location of a client that was opened at a mail address. -/
def mailLocation : Location := ⟨"mailto:user@host", "user@host", "", "", ""⟩

/-- The server sends a button for a download, before it answers the first request. -/
def exportOffered : List Stimulus :=
  let button := .page [.obj [("type", .str "button"), ("id", .str "export"),
    ("download_name", .str "data.csv")]]
  [.message (.hello "session" none) 0, .message (.rerun ⟨none, some button, none, none⟩) 0]

/-- The session in which the button is shown, and the first request is still to be answered. -/
def offering : Session := (start { Config.default with location := mailLocation } .minimal).after
  exportOffered

/-- The answer to the first request. -/
def firstAnswer : Response := ⟨some 1, some (.page []), none, none⟩

/-- The button is shown in the session. -/
theorem offers : offering.screen.pool.lookup "export" = some 0 ∧
    (offering.screen.pool.get? 0).map (fun w => (w.widgetId, w.fragmentId, w.downloadName)) =
      some ("export", "main", some "data.csv") := by
  decide +kernel

/-- A mail address carries no path, so there is no address for the download. -/
theorem downloadAddress_offering : ∃ e, offering.downloadAddress "export" "main" = .error e := by
  have hfails : (offering.downloadAddress "export" "main").toOption.isNone = true := by
    decide +kernel
  cases haddress : offering.downloadAddress "export" "main" with
  | error e => exact ⟨e, rfl⟩
  | ok url =>
    rw [haddress] at hfails
    cases hfails

/-- The session is reached from the start. -/
theorem reachable_offering : offering.Reachable := (Reachable.start _ _).after exportOffered

/-- The click costs the second id, and the answer to the first request is superseded. -/
theorem failed_download_supersedes_offering : ∃ w e,
    offering.screen.pool.lookup "export" = some 0 ∧ offering.screen.pool.get? 0 = some w ∧
      w.downloadName = some "data.csv" ∧
      offering.downloadAddress w.widgetId w.fragmentId = .error e ∧
      offering.interact "export" .click =
        ⟨{ offering with requests := offering.requests.issue.1 }, .ok ()⟩ ∧
      ∀ later, ((offering.interact "export" .click).session.after later).requests.classify
        firstAnswer = .superseded 1 := by
  obtain ⟨hlive, hwidget⟩ := offers
  obtain ⟨w, hw, heq⟩ := Option.map_eq_some_iff.mp hwidget
  obtain ⟨hwidgetId, heq⟩ := Prod.mk.inj heq
  obtain ⟨hfragmentId, hname⟩ := Prod.mk.inj heq
  obtain ⟨e, hfails⟩ := downloadAddress_offering
  rw [← hwidgetId, ← hfragmentId] at hfails
  have hopen : offering.state = .opened := by decide +kernel
  have hlatest : offering.requests.latest = some 1 := by decide +kernel
  obtain ⟨hclick, hlost⟩ :=
    failed_download_supersedes reachable_offering hopen hlive hw hname hfails
  obtain ⟨-, hsuperseded⟩ := hlost 1 firstAnswer hlatest rfl rfl
  exact ⟨w, e, hlive, hw, hname, hfails, hclick, fun later => (hsuperseded later 0).1⟩

/-- Before the click the answer would be shown.  The click on the button, for which no address can
be made, gives out an id, and the answer is not shown. -/
theorem failed_download_costs :
    offering.Reachable ∧ offering.state = .opened ∧
      (∃ e, offering.downloadAddress "export" "main" = .error e) ∧
      (offering.shown (.message (.rerun firstAnswer) 1)).isSome = true ∧
      (offering.step (.action ⟨"export", .click⟩)).requests ≠ offering.requests ∧
      (offering.step (.action ⟨"export", .click⟩)).shown (.message (.rerun firstAnswer) 1) =
        none := by
  refine ⟨reachable_offering, by decide +kernel, downloadAddress_offering, by decide +kernel,
    by decide +kernel, ?_⟩
  rw [← Option.isNone_iff_eq_none]
  decide +kernel

end Session

end RemoteUi
