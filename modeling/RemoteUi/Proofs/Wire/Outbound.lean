/-
# RemoteUi.Proofs.Wire.Outbound — the stream of messages that is written.

A sink may fail at any octet, and may fail to pass on what it took.  Whatever it does, the octets
that it took are the front of the stream of the payloads that fit a frame (`wrote_writeFrames`), so
the other side reads some of these payloads in order and then the end of the input; it reads all of
them unless the sink failed (`writes_fitting`).

* `Wrote` says what has been written of some octets: all of them, or a front of them, and then the
  sink failed at that point.  It is preserved by one write after another (`wrote_andThen`), because
  nothing is written once the sink has failed.
* A frame is two writes and a flush, and a queue is a frame after a frame (`wrote_writeFrames`), by
  induction over the payloads.
* A payload over the cap is left out, and the message that it is of might as well not be there.
  What is read back from a stream that was cut is a front of its payloads, which is known of
  reading.

A sink is any function that says how much of a chunk it takes, by what was written before.
-/
import RemoteUi.Proofs.Wire.Stream
import RemoteUi.Wire.ClientEnvelope

namespace RemoteUi.Wire

variable {cap : Nat} {sink : Sink} {written payload : List UInt8} {payloads : List (List UInt8)}

/-! ## Sinks that may fail -/

/-- The sink fails with these octets written: it has taken only a part of the last chunk, or it
cannot pass on what it took. -/
def Sink.FailsAt (sink : Sink) (written : List UInt8) : Prop :=
  (∃ before chunk, sink.takes before chunk < chunk.length ∧
    written = before ++ chunk.take (sink.takes before chunk)) ∨
  sink.flushes written = false

/-- What is written of some octets after those before them: all, or a front of them if the sink
failed. -/
def Wrote (sink : Sink) (before octets : List UInt8) (r : List UInt8 × Option FrameFault) : Prop :=
  r = (before ++ octets, none) ∨
    ∃ taken, taken <+: octets ∧ r = (before ++ taken, some .refused) ∧
      sink.FailsAt (before ++ taken)

/-- Of nothing, all is written. -/
theorem wrote_nil (sink : Sink) (written : List UInt8) : Wrote sink written [] (written, none) :=
  .inl (by rw [List.append_nil])

/-- One write is taken in full, or in part. -/
theorem wrote_write (sink : Sink) (written chunk : List UInt8) :
    Wrote sink written chunk (sink.write written chunk) := by
  simp only [Sink.write, List.length_take]
  split
  · rename_i hless
    exact .inr ⟨_, List.take_prefix _ chunk, rfl, .inl ⟨written, chunk, by omega, rfl⟩⟩
  · rename_i hmore
    rw [List.take_of_length_le (by omega)]
    exact .inl rfl

/-- One write after another: the second is not begun once the sink has failed. -/
theorem wrote_andThen {before first second : List UInt8} {r : List UInt8 × Option FrameFault}
    (next : List UInt8 → List UInt8 × Option FrameFault) :
    Wrote sink before first r → Wrote sink (before ++ first) second (next (before ++ first)) →
      Wrote sink before (first ++ second)
        (match r with
         | (written, some e) => (written, some e)
         | (written, none) => next written) := by
  rintro (rfl | ⟨taken, hfront, rfl, hfails⟩) hnext
  · show Wrote sink before (first ++ second) (next (before ++ first))
    rcases hnext with hall | ⟨taken, hfront, hr, hfails⟩
    · exact .inl (by rw [hall, List.append_assoc])
    · refine .inr ⟨first ++ taken, (List.prefix_append_right_inj first).mpr hfront, ?_⟩
      rw [← List.append_assoc]
      exact ⟨hr, hfails⟩
  · exact .inr ⟨taken, hfront.trans (List.prefix_append first second), rfl, hfails⟩

/-- A frame is written in its parts, one after the other. -/
theorem wrote_writeFrame (h : Fits cap payload) (sink : Sink) (written : List UInt8) :
    Wrote sink written (frame payload) (writeFrame sink cap written payload) := by
  rw [writeFrame, header_of_fits h]
  exact wrote_andThen (fun written => sink.write written payload) (wrote_write sink written _)
    (wrote_write sink _ payload)

/-- And so are frames. -/
theorem wrote_writeFrames (h : ∀ p ∈ payloads, Fits cap p) (sink : Sink) (written : List UInt8) :
    Wrote sink written (stream payloads) (writeFrames sink cap written payloads) := by
  induction payloads generalizing written with
  | nil => exact wrote_nil sink written
  | cons payload payloads ih =>
    refine wrote_andThen (fun written =>
        if sink.flushes written then writeFrames sink cap written payloads
        else (written, some .refused))
      (wrote_writeFrame (h payload List.mem_cons_self) sink written) ?_
    split
    · exact ih (fun p hp => h p (List.mem_cons_of_mem payload hp)) _
    · -- all of the frame was taken, and was not passed on
      rename_i hflush
      refine .inr ⟨[], List.nil_prefix, ?_⟩
      rw [List.append_nil]
      exact ⟨rfl, .inr (Bool.eq_false_iff.mpr hflush)⟩

/-! ## Messages -/

/-- The payloads that fit a frame, in the order of their messages. -/
def fitting (es : List ClientEnvelope) : List (List UInt8) :=
  (es.map ClientEnvelope.payload).filter fun p => p.length ≤ toServerCap

/-- What is left after those that are too large fits. -/
theorem fits_fitting {es : List ClientEnvelope} : ∀ p ∈ fitting es, Fits toServerCap p := by
  intro p hp
  have hlen : p.length ≤ toServerCap := of_decide_eq_true (List.mem_filter.mp hp).2
  exact ⟨hlen, Nat.lt_of_le_of_lt hlen (by decide)⟩

theorem writeEnvelopes_eq (sink : Sink) (es : List ClientEnvelope) :
    writeEnvelopes sink es = writeFrames sink toServerCap [] (fitting es) := by
  have hsize : ∀ e : ClientEnvelope, e.payload.length = e.size := fun e => rfl
  rw [writeEnvelopes, fitting, List.filter_map]
  simp only [Function.comp_def, hsize]

/-- What is written of a queue of messages is the front of the stream of the payloads that fit, and
is read as some of them in order.  It is the whole stream, and all of them are read, unless the sink
fails with that written.  A message that does not fit might as well not be there. -/
theorem writes_fitting (sink : Sink) (es : List ClientEnvelope) :
    (writeEnvelopes sink es).1 <+: stream (fitting es) ∧
      (∃ k ≤ (fitting es).length,
        readAll toServerCap (writeEnvelopes sink es).1 = ((fitting es).take k, .endOfInput)) ∧
      (writeEnvelopes sink es = (stream (fitting es), none) ∧
          readAll toServerCap (writeEnvelopes sink es).1 = (fitting es, .endOfInput) ∨
        (writeEnvelopes sink es).2 = some .refused ∧ sink.FailsAt (writeEnvelopes sink es).1) ∧
      ∀ before e after, writeEnvelopes sink (before ++ e :: after) =
        writeEnvelopes sink
          (before ++ if e.payload.length ≤ toServerCap then e :: after else after) := by
  have hwrote : Wrote sink [] (stream (fitting es)) (writeEnvelopes sink es) := by
    rw [writeEnvelopes_eq]
    exact wrote_writeFrames fits_fitting sink []
  have hfront : (writeEnvelopes sink es).1 <+: stream (fitting es) := by
    rcases hwrote with hall | ⟨taken, hfront, hr, -⟩
    · rw [hall]
      exact List.prefix_refl _
    · rw [hr]
      exact hfront
  refine ⟨hfront, ?_, ?_, fun before e after => ?_⟩
  · obtain ⟨k, hk, hread, -⟩ := readAll_cut fits_fitting hfront
    exact ⟨k, hk, hread⟩
  · rcases hwrote with hall | ⟨taken, -, hr, hfails⟩
    · refine .inl ⟨hall, ?_⟩
      rw [hall]
      exact readAll_whole fits_fitting
    · refine .inr ⟨congrArg Prod.snd hr, ?_⟩
      rw [hr]
      exact hfails
  · rw [writeEnvelopes_eq, writeEnvelopes_eq]
    split
    · rfl
    · rename_i hlarge
      simp [fitting, hlarge]

end RemoteUi.Wire
