/-
# RemoteUi.Upload.Batch — uploading a selection of files, and where to.

The endpoints of a session hang off the origin of its location: a configured path, the session's
id as one more segment, and a query that says which file or which download.

Files go one at a time and in order.  A file of a type that is not taken is passed over, a widget
for a single file stops after its first upload, and a failure ends the batch; what was uploaded
before it is kept.
-/
import RemoteUi.Upload.File
import RemoteUi.Url.Edit

namespace RemoteUi.Upload

/-! ## Endpoints -/

/-- The address that belongs to a session under a path. -/
def sessionUrl (origin : Url) (path sessionId : String) : Except UploadError Url :=
  let url := (origin.setPath path).withoutTails
  if url.isBase then .ok (url.pushSegment sessionId)
  else .error (.endpoint ("'" ++ origin.text ++ "' cannot carry a path"))

/-- Where a file is sent. -/
def uploadUrl (origin : Url) (path sessionId : String) (file : SelectedFile) :
    Except UploadError Url :=
  (sessionUrl origin path sessionId).map fun url =>
    url.withQuery [("file_name", file.name), ("type", file.mime)]

/-- Where a download is fetched. -/
def downloadUrl (origin : Url) (path sessionId : String) (requestId : Nat)
    (fragmentId widgetId : String) : Except UploadError Url :=
  (sessionUrl origin path sessionId).map fun url =>
    url.withQuery [("request_id", toString requestId), ("fragment_id", fragmentId),
      ("widget_id", widgetId)]

/-! ## Batches -/

/-- What a batch came to. -/
structure Outcome where
  uploaded : List UploadedFile
  /-- The failure that ended the batch early. -/
  failure : Option UploadError
  deriving DecidableEq

/-- The outcome with one more file before the others. -/
def Outcome.cons (f : UploadedFile) (o : Outcome) : Outcome :=
  { o with uploaded := f :: o.uploaded }

/-- Uploads files in turn through `upload`, which may keep a state of its own. -/
def batch {σ : Type} (upload : σ → SelectedFile → Except UploadError UploadReceipt × σ)
    (multiple : Bool) : List SelectedFile → σ → Outcome × σ
  | [], s => (⟨[], none⟩, s)
  | file :: files, s =>
    if !file.supported then batch upload multiple files s
    else
      match upload s file with
      | (.error e, s) => (⟨[], some e⟩, s)
      | (.ok receipt, s) =>
        if multiple then
          let (outcome, s) := batch upload multiple files s
          (outcome.cons (file.uploaded receipt), s)
        else (⟨[file.uploaded receipt], none⟩, s)

/-- How many names a summary shows. -/
def summaryNames : Nat := 3

/-- A selection in words, if there is one: the first names, and how many more there are. -/
def summary (names : List String) : Option String :=
  if names = [] then none
  else
    let shown := String.intercalate ", " (names.take summaryNames)
    let more := names.length - summaryNames
    some (if more = 0 then shown else shown ++ " and " ++ toString more ++ " more")

end RemoteUi.Upload
