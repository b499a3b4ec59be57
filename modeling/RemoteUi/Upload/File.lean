/-
# RemoteUi.Upload.File — files that the user picked, before and after their upload.
-/
import RemoteUi.Json.Record

namespace RemoteUi

/-- A file that the user picked, with its contents read. -/
structure SelectedFile where
  name : String
  mime : String
  lastModified : Nat
  size : Nat
  content : List UInt8
  /-- The picker takes files of this type. -/
  supported : Bool
  deriving DecidableEq

/-- The type under which a file is sent. -/
def SelectedFile.contentType (f : SelectedFile) : String :=
  if f.mime = "" then "application/octet-stream" else f.mime

/-- The server's answer to an upload. -/
structure UploadReceipt where
  fileId : String
  extension : String
  deriving DecidableEq

/-- The shape of a receipt. -/
def UploadReceipt.record : Json.Record UploadReceipt where
  name := "struct UploadReceipt"
  fields := [
    .mandatory "file_id" Json.readText fun a r => { r with fileId := a },
    .mandatory "extension" Json.readText fun a r => { r with extension := a }]
  blank := ⟨"", ""⟩

/-- A file that the server has. -/
structure UploadedFile where
  id : String
  extension : String
  name : String
  lastModified : Nat
  size : Nat
  mime : String
  deriving DecidableEq

/-- The record of an uploaded file. -/
def SelectedFile.uploaded (f : SelectedFile) (r : UploadReceipt) : UploadedFile :=
  ⟨r.fileId, r.extension, f.name, f.lastModified, f.size, f.mime⟩

/-- The JSON form of an uploaded file. -/
def UploadedFile.toJson (f : UploadedFile) : Json :=
  .obj [("id", .str f.id), ("extension", .str f.extension), ("name", .str f.name),
    ("last_modified", .int f.lastModified), ("size", .int f.size), ("type", .str f.mime)]

/-- Why an upload failed. -/
inductive UploadError where
  | unsupported
  | rejected (fileName reason : String)
  | transport (reason : String)
  | endpoint (reason : String)
  deriving DecidableEq

/-- The wording of a failed upload. -/
def UploadError.message : UploadError → String
  | .unsupported => "host does not support file uploads"
  | .rejected fileName reason => "upload of '" ++ fileName ++ "' rejected: " ++ reason
  | .transport reason => "upload transport failed: " ++ reason
  | .endpoint reason => "cannot build upload endpoint: " ++ reason

end RemoteUi
