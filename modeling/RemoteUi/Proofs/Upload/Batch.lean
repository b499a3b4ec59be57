/-
# RemoteUi.Proofs.Upload.Batch — which files of a selection are uploaded, and what comes of it.

An upload is any function with a state of its own, so that a batch can be watched through the upload
itself: `recorded` is an upload that keeps a record of its calls.  Of the files that are eligible
the batch calls it for the first ones, in order, until one fails, and all that it reports can be
read off the calls (`batch_follows`).

* A `Call` is a file together with how it was answered.  The record of an uploaded file takes its id
  and extension from the receipt and all else from the file (`Call.uploaded?`), field by field.
* `Succeeding` says that calls follow each other, each in the state that the one before it left.
* `Follows` says all that is to be said of a batch: which files the calls are for, that a failure is
  the last of them, that nothing but a failure ends the batch early, and what is reported.  There is
  one lemma for each way to pass a file (`Follows.pass`, `fail`, `single`, `cons`), and the
  induction over the files only chooses among them.

To keep a record makes no other difference: the second half of `batch_follows` compares the two
uploads call by call.
-/
import RemoteUi.Upload.Batch

namespace RemoteUi.Upload

/-- A call of an upload, and how it was answered. -/
structure Call where
  file : SelectedFile
  answer : Except UploadError UploadReceipt

namespace Call

/-- The record of the file, if it was uploaded: what the receipt says, and what the file says of
itself. -/
def uploaded? (c : Call) : Option UploadedFile :=
  match c.answer with
  | .ok receipt =>
    some {
      id := receipt.fileId
      extension := receipt.extension
      name := c.file.name
      lastModified := c.file.lastModified
      size := c.file.size
      mime := c.file.mime }
  | .error _ => none

/-- Why the call failed, if it did. -/
def failure? (c : Call) : Option UploadError :=
  match c.answer with
  | .ok _ => none
  | .error e => some e

end Call

variable {σ : Type}

/-- The files that a batch is to upload: those of a type that is taken, and the first of them only
for a single file. -/
def eligible (multiple : Bool) (files : List SelectedFile) : List SelectedFile :=
  let taken := files.filter SelectedFile.supported
  if multiple then taken else taken.take 1

/-- An upload that keeps a record of its calls, the latest last. -/
def recorded (upload : σ → SelectedFile → Except UploadError UploadReceipt × σ) :
    σ × List Call → SelectedFile → Except UploadError UploadReceipt × σ × List Call :=
  fun s file =>
    let (answer, t) := upload s.1 file
    (answer, t, s.2 ++ [⟨file, answer⟩])

/-- Calls one after the other, each answered in the state that the one before it left. -/
inductive Succeeding (upload : σ → SelectedFile → Except UploadError UploadReceipt × σ) :
    σ → List Call → σ → Prop where
  | nil (s : σ) : Succeeding upload s [] s
  | cons {s t u : σ} {file : SelectedFile} {answer : Except UploadError UploadReceipt}
    {calls : List Call} (hcall : upload s file = (answer, t)) (hcalls : Succeeding upload t calls u) :
    Succeeding upload s (⟨file, answer⟩ :: calls) u

/-- What comes of a batch is what its calls come to. -/
structure Follows (upload : σ → SelectedFile → Except UploadError UploadReceipt × σ)
    (multiple : Bool) (files : List SelectedFile) (s : σ) (calls : List Call)
    (result : Outcome × σ) : Prop where
  answered : Succeeding upload s calls result.2
  /-- The calls are for the eligible files in order, as far as they go. -/
  files_prefix : calls.map Call.file <+: eligible multiple files
  /-- Nothing comes after a failure. -/
  succeeded : ∀ c ∈ calls.dropLast, c.failure? = none
  /-- Nothing but a failure ends the batch early. -/
  complete : calls.map Call.file = eligible multiple files ∨
    (calls.getLast?.bind Call.failure?).isSome
  uploaded_eq : result.1.uploaded = calls.filterMap Call.uploaded?
  failure_eq : result.1.failure = calls.getLast?.bind Call.failure?

/-! ## The ways to pass a file -/

section Files

variable {upload : σ → SelectedFile → Except UploadError UploadReceipt × σ} {multiple : Bool}
  {file : SelectedFile} {files : List SelectedFile} {s t : σ} {calls : List Call}
  {result : Outcome × σ} {receipt : UploadReceipt} {e : UploadError}

/-- A file of a type that is not taken is not eligible. -/
theorem eligible_cons_of_not_supported (hfile : file.supported = false) :
    eligible multiple (file :: files) = eligible multiple files := by
  rw [eligible, List.filter_cons_of_neg (by simp [hfile]), eligible]

/-- The first file that is taken is eligible, and of a single one it is all. -/
theorem eligible_cons_of_supported (hfile : file.supported = true) :
    eligible multiple (file :: files) =
      file :: if multiple then eligible multiple files else [] := by
  rw [eligible, List.filter_cons_of_pos hfile, eligible]
  cases multiple <;> rfl

namespace Follows

/-- With no files there are no calls. -/
theorem nil (s : σ) : Follows upload multiple [] s [] (⟨[], none⟩, s) where
  answered := .nil s
  files_prefix := List.nil_prefix
  succeeded := nofun
  complete := Or.inl (by cases multiple <;> rfl)
  uploaded_eq := rfl
  failure_eq := rfl

/-- A file of a type that is not taken makes no difference. -/
theorem pass (hfile : file.supported = false) (h : Follows upload multiple files s calls result) :
    Follows upload multiple (file :: files) s calls result where
  answered := h.answered
  files_prefix := by
    rw [eligible_cons_of_not_supported hfile]
    exact h.files_prefix
  succeeded := h.succeeded
  complete := by
    rw [eligible_cons_of_not_supported hfile]
    exact h.complete
  uploaded_eq := h.uploaded_eq
  failure_eq := h.failure_eq

/-- A failure is all that comes of the files from there on. -/
theorem fail (hfile : file.supported = true) (hcall : upload s file = (.error e, t)) :
    Follows upload multiple (file :: files) s [⟨file, .error e⟩] (⟨[], some e⟩, t) where
  answered := .cons hcall (.nil t)
  files_prefix := by
    rw [eligible_cons_of_supported hfile]
    exact List.prefix_append [file] _
  succeeded := nofun
  complete := Or.inr rfl
  uploaded_eq := rfl
  failure_eq := rfl

/-- A single file is all there is to upload. -/
theorem single (hfile : file.supported = true) (hcall : upload s file = (.ok receipt, t)) :
    Follows upload false (file :: files) s [⟨file, .ok receipt⟩]
      (⟨[file.uploaded receipt], none⟩, t) where
  answered := .cons hcall (.nil t)
  files_prefix := by
    rw [eligible_cons_of_supported hfile]
    exact List.prefix_refl [file]
  succeeded := nofun
  complete := by
    rw [eligible_cons_of_supported hfile]
    exact Or.inl rfl
  uploaded_eq := rfl
  failure_eq := rfl

/-- A file that was uploaded stands before what comes of the others. -/
theorem cons (hfile : file.supported = true) (hcall : upload s file = (.ok receipt, t))
    (h : Follows upload true files t calls result) :
    Follows upload true (file :: files) s (⟨file, .ok receipt⟩ :: calls)
      (result.1.cons (file.uploaded receipt), result.2) where
  answered := .cons hcall h.answered
  files_prefix := by
    rw [eligible_cons_of_supported hfile]
    exact (List.prefix_cons_inj file).mpr h.files_prefix
  succeeded := fun c hc => by
    cases calls with
    | nil => cases hc
    | cons first rest =>
      rcases List.mem_cons.mp hc with rfl | hc
      · rfl
      · exact h.succeeded c hc
  complete := by
    rw [eligible_cons_of_supported hfile]
    cases calls with
    | nil => exact h.complete.imp (congrArg (file :: ·)) nofun
    | cons first rest => exact h.complete.imp (congrArg (file :: ·)) id
  uploaded_eq := congrArg (file.uploaded receipt :: ·) h.uploaded_eq
  failure_eq := by
    cases calls with
    | nil => exact h.failure_eq
    | cons first rest => exact h.failure_eq

end Follows

end Files

/-! ## Batches -/

/-- A batch calls the upload for the eligible files in order, each in the state that the calls before
left, until one fails or there are no more; it reports the files that were uploaded and why the last
call failed, if it did.  To keep a record of the calls makes no other difference. -/
theorem batch_follows (upload : σ → SelectedFile → Except UploadError UploadReceipt × σ)
    (multiple : Bool) (files : List SelectedFile) (s : σ) :
    ∃ calls, Follows upload multiple files s calls (batch upload multiple files s) ∧
      ∀ before, batch (recorded upload) multiple files (s, before) =
        ((batch upload multiple files s).1, (batch upload multiple files s).2, before ++ calls) := by
  induction files generalizing s with
  | nil => exact ⟨[], .nil s, fun before => by rw [List.append_nil]; rfl⟩
  | cons file files ih =>
    unfold batch
    cases hfile : file.supported with
    | false =>
      obtain ⟨calls, hfollows, hrecorded⟩ := ih s
      exact ⟨calls, hfollows.pass hfile, hrecorded⟩
    | true =>
      obtain ⟨answer, t, hcall⟩ : ∃ answer t, upload s file = (answer, t) := ⟨_, _, rfl⟩
      -- the record has one call more, and the state is the same
      have hrecord : ∀ before, recorded upload (s, before) file =
          (answer, t, before ++ [⟨file, answer⟩]) := fun before => by rw [recorded, hcall]
      simp only [Bool.not_true, Bool.false_eq_true, if_false, hcall, hrecord]
      cases answer with
      | error e => exact ⟨_, .fail hfile hcall, fun before => rfl⟩
      | ok receipt =>
        cases multiple with
        | false => exact ⟨_, .single hfile hcall, fun before => rfl⟩
        | true =>
          obtain ⟨calls, hfollows, hrecorded⟩ := ih t
          refine ⟨_, hfollows.cons hfile hcall, fun before => ?_⟩
          simp only [if_true, hrecorded, List.append_assoc, List.singleton_append]

-- of four files the second is not taken, and the third fails, so that the fourth is not tried
example :
    (batch (fun n _ => (if n = 1 then .error (.transport "gone") else .ok ⟨"id", "txt"⟩, n + 1))
      true [⟨"a", "", 0, 0, [], true⟩, ⟨"b", "", 0, 0, [], false⟩, ⟨"c", "", 0, 0, [], true⟩,
        ⟨"d", "", 0, 0, [], true⟩] 0) =
      (⟨[⟨"id", "txt", "a", 0, 0, ""⟩], some (.transport "gone")⟩, 2) := by
  decide

end RemoteUi.Upload
