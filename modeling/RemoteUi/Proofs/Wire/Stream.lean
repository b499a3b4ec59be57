/-
# RemoteUi.Proofs.Wire.Stream — frames as a code.

A frame is a payload behind four octets that tell its length.  Reading goes from the front: the
header decides how much belongs to the frame, and what follows is left over.

* *There and back.* A payload is read back from its frame, with all that follows left over
  (`readFrame_frame`).
* *No other way.* Only a frame is read as one.  Every input is a frame and a rest, or is part of one
  frame at most, or announces more than the cap (`reading_readFrame`); these three exclude each
  other, and each has its own outcome.
* *Streams.* So every input is a stream of frames and a rest that begins with none (`exists_rest`),
  and what is read of a stream does not depend on what comes after it (`readAll_stream`).
* *Cuts.* A stream that is cut anywhere still yields the payloads of the frames that are whole, and
  then the end of input (`readAll_cut`).  The frames that are whole are counted by lengths.

`frames_decode` puts both directions together.  Lengths are looked at as numbers below `2 ^ 32`,
which are in one to one correspondence with four octets (`lengthOctets_lengthOf`).
-/
import RemoteUi.Wire.Frame

namespace RemoteUi.Wire

variable {cap n : Nat} {input cut payload rest : List UInt8} {payloads : List (List UInt8)}

/-! ## Lengths -/

/-- Four octets make a number of 32 bits. -/
theorem lengthOf_lt (a b c d : UInt8) : lengthOf a b c d < Nat.pow 2 32 := by
  have ha := a.toNat_lt
  have hb := b.toNat_lt
  have hc := c.toNat_lt
  have hd := d.toNat_lt
  show ((a.toNat * 256 + b.toNat) * 256 + c.toNat) * 256 + d.toNat < 4294967296
  omega

/-- The octets can be told from the number. -/
theorem lengthOctets_lengthOf (a b c d : UInt8) :
    lengthOctets (lengthOf a b c d) = [a, b, c, d] := by
  have ha := a.toNat_lt
  have hb := b.toNat_lt
  have hc := c.toNat_lt
  have hd := d.toNat_lt
  simp only [lengthOctets, lengthOf, List.cons.injEq, ← UInt8.toNat_inj, UInt8.toNat_ofNat',
    Nat.reducePow, Nat.pow_eq]
  refine ⟨?_, ?_, ?_, ?_, trivial⟩ <;> omega

/-- The length of the payload that an input announces, if its header is whole. -/
def announced? : List UInt8 → Option Nat
  | a :: b :: c :: d :: _ => some (lengthOf a b c d)
  | _ => none

theorem announced?_lengthOctets (h : n < Nat.pow 2 32) (rest : List UInt8) :
    announced? (lengthOctets n ++ rest) = some n := by
  replace h : n < 4294967296 := h
  simp only [lengthOctets, List.cons_append, announced?, lengthOf, Option.some.injEq,
    UInt8.toNat_ofNat', Nat.reducePow, Nat.pow_eq]
  omega

/-- An input that announces a length begins with it. -/
theorem exists_of_announced? (h : announced? input = some n) :
    n < Nat.pow 2 32 ∧ ∃ rest, input = lengthOctets n ++ rest := by
  unfold announced? at h
  split at h
  · rename_i a b c d rest
    cases h
    exact ⟨lengthOf_lt a b c d, rest, by rw [lengthOctets_lengthOf]; rfl⟩
  · cases h

/-! ## One frame -/

/-- A frame can hold the payload, and the cap allows it. -/
def Fits (cap : Nat) (payload : List UInt8) : Prop :=
  payload.length ≤ cap ∧ payload.length < Nat.pow 2 32

/-- An input that is part of one frame at most, as far as it tells. -/
def Partial (cap : Nat) (input : List UInt8) : Prop :=
  ∀ n, announced? input = some n → n ≤ cap ∧ input.length < 4 + n

/-- An input whose first frame announces more than the cap. -/
def Oversized (cap : Nat) (input : List UInt8) (n : Nat) : Prop :=
  announced? input = some n ∧ cap < n

/-- The header decides what is read. -/
theorem readFrame_lengthOctets (h : n < Nat.pow 2 32) (rest : List UInt8) :
    readFrame cap (lengthOctets n ++ rest) =
      if cap < n then .error (.tooLarge n cap)
      else if rest.length < n then .error .endOfInput
      else .ok (rest.take n, rest.drop n) := by
  have hn : lengthOf (UInt8.ofNat (n / Nat.pow 2 24)) (UInt8.ofNat (n / Nat.pow 2 16))
      (UInt8.ofNat (n / Nat.pow 2 8)) (UInt8.ofNat n) = n :=
    Option.some.inj (announced?_lengthOctets h rest)
  simp only [lengthOctets, List.cons_append, List.nil_append, readFrame, hn, List.length_take]
  congr 2
  exact propext (by omega)

theorem readFrame_frame (h : Fits cap payload) (rest : List UInt8) :
    readFrame cap (frame payload ++ rest) = .ok (payload, rest) := by
  rw [frame, List.append_assoc, readFrame_lengthOctets h.2, if_neg (Nat.not_lt.mpr h.1),
    if_neg (by simp), List.take_left, List.drop_left]

/-- The three ways of reading a frame. -/
inductive Reading (cap : Nat) (input : List UInt8) : Prop where
  /-- A frame is there. -/
  | whole (payload rest : List UInt8) (fits : Fits cap payload)
      (input_eq : input = frame payload ++ rest)
      (reads : readFrame cap input = .ok (payload, rest))
  /-- The input ends before the frame does. -/
  | short (cutOff : Partial cap input) (reads : readFrame cap input = .error .endOfInput)
  /-- The frame is larger than the cap. -/
  | large (n : Nat) (oversized : Oversized cap input n)
      (reads : readFrame cap input = .error (.tooLarge n cap))

/-- There is no other way, whatever the input. -/
theorem reading_readFrame (cap : Nat) (input : List UInt8) : Reading cap input := by
  cases hn : announced? input with
  | none =>
    refine .short (fun n h => absurd (hn.symm.trans h) nofun) ?_
    unfold readFrame
    split
    · cases hn
    · rfl
  | some n =>
    obtain ⟨hlt, rest, rfl⟩ := exists_of_announced? hn
    have hreads : readFrame cap (lengthOctets n ++ rest) = _ := readFrame_lengthOctets hlt rest
    -- the cap is looked at first, and then whether there is enough
    by_cases hcap : cap < n
    · rw [if_pos hcap] at hreads
      exact .large n ⟨hn, hcap⟩ hreads
    rw [if_neg hcap] at hreads
    by_cases hshort : rest.length < n
    · rw [if_pos hshort] at hreads
      refine .short (fun m hm => ?_) hreads
      obtain rfl := Option.some.inj (hn.symm.trans hm)
      refine ⟨Nat.not_lt.mp hcap, ?_⟩
      simp only [lengthOctets, List.cons_append, List.nil_append, List.length_cons]
      omega
    · rw [if_neg hshort] at hreads
      have hlen : (rest.take n).length = n := by
        rw [List.length_take]
        omega
      refine .whole (rest.take n) (rest.drop n) ⟨?_, ?_⟩ ?_ hreads
      · omega
      · omega
      · rw [frame, hlen, List.append_assoc, List.take_append_drop]

/-- Part of a frame is no frame, and is not too large. -/
theorem Partial.readFrame_eq (h : Partial cap input) : readFrame cap input = .error .endOfInput := by
  cases reading_readFrame cap input with
  | short _ reads => exact reads
  | large n oversized => exact absurd (h n oversized.1).1 (Nat.not_le.mpr oversized.2)
  | whole payload rest fits input_eq =>
    subst input_eq
    have hlen := (h payload.length (by
      rw [frame, List.append_assoc]
      exact announced?_lengthOctets fits.2 _)).2
    simp [frame, lengthOctets] at hlen
    omega

theorem Oversized.readFrame_eq (h : Oversized cap input n) :
    readFrame cap input = .error (.tooLarge n cap) := by
  obtain ⟨hlt, rest, rfl⟩ := exists_of_announced? h.1
  rw [readFrame_lengthOctets hlt, if_pos h.2]

/-- What is left of a frame whose end is cut off is part of one. -/
theorem partial_of_cut (hfits : Fits cap payload) (hcut : cut <+: frame payload)
    (hne : cut ≠ frame payload) : Partial cap cut := by
  intro n hn
  obtain ⟨-, rest, rfl⟩ := exists_of_announced? hn
  obtain ⟨more, hmore⟩ := hcut
  have hn' : announced? (frame payload) = some n := by
    rw [← hmore, List.append_assoc]
    exact announced?_lengthOctets (exists_of_announced? hn).1 _
  obtain rfl := Option.some.inj ((announced?_lengthOctets hfits.2 payload).symm.trans hn')
  refine ⟨hfits.1, ?_⟩
  have hlen := congrArg List.length hmore
  -- something is missing, so the cut is shorter than the frame
  have hpos : more ≠ [] := by
    rintro rfl
    exact hne (by simpa using hmore)
  have := List.length_pos_iff.mpr hpos
  simp only [frame, lengthOctets, List.length_append, List.length_cons, List.length_nil] at hlen ⊢
  omega

/-! ## Streams of frames -/

/-- Payloads as frames, one after another. -/
def stream (payloads : List (List UInt8)) : List UInt8 :=
  payloads.flatMap frame

@[simp]
theorem stream_nil : stream [] = [] := rfl

@[simp]
theorem stream_cons (payload : List UInt8) (payloads : List (List UInt8)) :
    stream (payload :: payloads) = frame payload ++ stream payloads := rfl

theorem readAll_of_error {e : FrameFault} (h : readFrame cap input = .error e) :
    readAll cap input = ([], e) := by
  rw [readAll]
  split
  · rename_i e' he
    cases h.symm.trans he
    rfl
  · rename_i payload rest hok
    cases h.symm.trans hok

theorem readAll_of_ok (h : readFrame cap input = .ok (payload, rest)) :
    readAll cap input = (payload :: (readAll cap rest).1, (readAll cap rest).2) := by
  rw [readAll]
  split
  · rename_i e he
    cases h.symm.trans he
  · rename_i payload' rest' hok
    cases h.symm.trans hok
    rfl

/-- The payloads of a stream come first, and then what is read of the rest. -/
theorem readAll_stream (h : ∀ p ∈ payloads, Fits cap p) (rest : List UInt8) :
    readAll cap (stream payloads ++ rest) =
      (payloads ++ (readAll cap rest).1, (readAll cap rest).2) := by
  induction payloads with
  | nil => rfl
  | cons payload payloads ih =>
    rw [stream_cons, List.append_assoc,
      readAll_of_ok (readFrame_frame (h payload List.mem_cons_self) _),
      ih fun p hp => h p (List.mem_cons_of_mem payload hp)]
    rfl

/-- A stream is read to its end. -/
theorem readAll_whole (h : ∀ p ∈ payloads, Fits cap p) :
    readAll cap (stream payloads) = (payloads, .endOfInput) := by
  have hend : readAll cap [] = ([], .endOfInput) := readAll_of_error rfl
  simpa [hend] using readAll_stream h []

/-- Every input is a stream and a rest, of which the reader says why no frame can be read. -/
theorem exists_rest (cap : Nat) (input : List UInt8) :
    ∃ rest, input = stream (readAll cap input).1 ++ rest ∧
      (∀ p ∈ (readAll cap input).1, Fits cap p) ∧
      (Partial cap rest ∧ (readAll cap input).2 = .endOfInput ∨
        ∃ n, Oversized cap rest n ∧ (readAll cap input).2 = .tooLarge n cap) := by
  -- the first frame is taken off, and what is left is shorter
  cases reading_readFrame cap input with
  | short cutOff reads =>
    rw [readAll_of_error reads]
    exact ⟨input, rfl, nofun, .inl ⟨cutOff, rfl⟩⟩
  | large n oversized reads =>
    rw [readAll_of_error reads]
    exact ⟨input, rfl, nofun, .inr ⟨n, oversized, rfl⟩⟩
  | whole payload rest fits input_eq reads =>
    obtain ⟨tail, hrest, hfits, hend⟩ := exists_rest cap rest
    rw [readAll_of_ok reads]
    refine ⟨tail, ?_, List.forall_mem_cons.mpr ⟨fits, hfits⟩, hend⟩
    rw [input_eq, stream_cons, List.append_assoc, ← hrest]
termination_by input.length
decreasing_by exact length_of_readFrame reads

/-- A stream that is cut yields the payloads whose frames are whole, and then the end of input. -/
theorem readAll_cut (h : ∀ p ∈ payloads, Fits cap p) (hcut : cut <+: stream payloads) :
    ∃ k ≤ payloads.length, readAll cap cut = (payloads.take k, .endOfInput) ∧
      ∀ m ≤ payloads.length, m ≤ k ↔ (stream (payloads.take m)).length ≤ cut.length := by
  induction payloads generalizing cut with
  | nil =>
    obtain rfl := List.prefix_nil.mp hcut
    refine ⟨0, Nat.le_refl 0, readAll_of_error rfl, ?_⟩
    simp
  | cons payload payloads ih =>
    have hfits := h payload List.mem_cons_self
    rw [stream_cons] at hcut
    by_cases hframe : frame payload <+: cut
    · -- the first frame is whole: the cut is further on
      obtain ⟨tail, rfl⟩ := hframe
      obtain ⟨k, hk, hread, hwhole⟩ :=
        ih (fun p hp => h p (List.mem_cons_of_mem payload hp))
          ((List.prefix_append_right_inj (frame payload)).mp hcut)
      refine ⟨k + 1, Nat.succ_le_succ hk, ?_, fun m hm => ?_⟩
      · rw [readAll_of_ok (readFrame_frame hfits tail), hread]
        rfl
      · cases m with
        | zero => simp
        | succ m =>
          rw [List.take_succ_cons, stream_cons, List.length_append, List.length_append,
            Nat.add_le_add_iff_left, Nat.add_le_add_iff_right]
          exact hwhole m (Nat.le_of_succ_le_succ hm)
    · -- the cut is in the first frame
      have hcut' : cut <+: frame payload :=
        (List.prefix_or_prefix_of_prefix hcut (List.prefix_append _ _)).resolve_right hframe
      have hne : cut ≠ frame payload := fun heq => hframe (heq ▸ List.prefix_refl _)
      refine ⟨0, Nat.zero_le _, readAll_of_error (partial_of_cut hfits hcut' hne).readFrame_eq,
        fun m hm => ?_⟩
      cases m with
      | zero => simp
      | succ m =>
        have hlen : cut.length < (frame payload).length :=
          Nat.lt_of_le_of_ne hcut'.length_le fun heq => hne (hcut'.eq_of_length heq)
        simp only [List.take_succ_cons, stream_cons, List.length_append]
        omega

/-! ## Writing to a sink that takes everything -/

/-- The header of a payload that fits is its length. -/
theorem header_of_fits (h : Fits cap payload) :
    header cap payload = .ok (lengthOctets payload.length) := by
  simp only [header]
  rw [if_neg (Nat.not_lt.mpr h.1), if_neg (Nat.not_le.mpr h.2)]

theorem write_unlimited (written chunk : List UInt8) :
    Sink.unlimited.write written chunk = (written ++ chunk, none) := by
  simp [Sink.write, Sink.unlimited]

/-- A sink that takes everything has the stream. -/
theorem writeFrames_unlimited (h : ∀ p ∈ payloads, Fits cap p) (written : List UInt8) :
    writeFrames .unlimited cap written payloads = (written ++ stream payloads, none) := by
  induction payloads generalizing written with
  | nil => simp [writeFrames]
  | cons payload payloads ih =>
    have hfirst : writeFrame .unlimited cap written payload = (written ++ frame payload, none) := by
      simp only [writeFrame, header_of_fits (h payload List.mem_cons_self), write_unlimited, frame,
        List.append_assoc]
    simp only [writeFrames, hfirst]
    rw [ih fun p hp => h p (List.mem_cons_of_mem payload hp), List.append_assoc]
    rfl

/-! ## The code -/

/-- Payloads that frames can hold are read back from what was written for them, and from a part of
it those whose frames are whole, with the end of input after them.  What is read off any input is
written back as the front of it.  A payload over the cap is refused before anything is written, and
a header over the cap before anything else is read. -/
theorem frames_decode (cap : Nat) :
    (∀ payloads : List (List UInt8), (∀ p ∈ payloads, p.length ≤ cap ∧ p.length < Nat.pow 2 32) →
      ∃ octets, writeFrames .unlimited cap [] payloads = (octets, none) ∧
        readAll cap octets = (payloads, .endOfInput) ∧
        ∀ cut, cut <+: octets → ∃ k ≤ payloads.length,
          readAll cap cut = (payloads.take k, .endOfInput) ∧
          ∀ m ≤ payloads.length, m ≤ k ↔
            (writeFrames .unlimited cap [] (payloads.take m)).1.length ≤ cut.length) ∧
    (∀ input, ∃ octets, writeFrames .unlimited cap [] (readAll cap input).1 = (octets, none) ∧
      octets <+: input) ∧
    (∀ sink written payload, cap < payload.length →
      writeFrame sink cap written payload = (written, some (.tooLarge payload.length cap))) ∧
    ∀ input n, announced? input = some n → cap < n →
      readFrame cap input = .error (.tooLarge n cap) := by
  refine ⟨fun payloads hfits => ?_, fun input => ?_, fun sink written payload hlarge => ?_,
    fun input n hn hlarge => Oversized.readFrame_eq ⟨hn, hlarge⟩⟩
  · refine ⟨stream payloads, writeFrames_unlimited hfits [], readAll_whole hfits,
      fun cut hcut => ?_⟩
    obtain ⟨k, hk, hread, hwhole⟩ := readAll_cut hfits hcut
    refine ⟨k, hk, hread, fun m hm => ?_⟩
    rw [writeFrames_unlimited fun p hp => hfits p (List.mem_of_mem_take hp)]
    exact hwhole m hm
  · obtain ⟨rest, hinput, hfits, -⟩ := exists_rest cap input
    exact ⟨_, writeFrames_unlimited hfits [], rest, hinput.symm⟩
  · simp only [writeFrame, header]
    rw [if_pos hlarge]

theorem frames_decode_threeFrames :
    (∀ p ∈ ([[1, 2], [], [3]] : List (List UInt8)), p.length ≤ 2 ∧ p.length < Nat.pow 2 32) ∧
      (∃ octets, writeFrames .unlimited 2 [] [[1, 2], [], [3]] = (octets, none) ∧
        readAll 2 octets = ([[1, 2], [], [3]], .endOfInput) ∧
        ∀ cut, cut <+: octets → ∃ k ≤ 3, readAll 2 cut = ([[1, 2], [], [3]].take k, .endOfInput) ∧
          ∀ m ≤ 3, m ≤ k ↔
            (writeFrames .unlimited 2 [] ([[1, 2], [], [3]].take m)).1.length ≤ cut.length) ∧
      writeFrame (.ofRoom 9) 2 [0] [1, 2, 3] = ([0], some (.tooLarge 3 2)) ∧
      readFrame 2 [0, 0, 0, 3, 1, 2, 3] = .error (.tooLarge 3 2) :=
  have hfits : ∀ p ∈ ([[1, 2], [], [3]] : List (List UInt8)),
      p.length ≤ 2 ∧ p.length < Nat.pow 2 32 := by decide
  ⟨hfits, (frames_decode 2).1 _ hfits, (frames_decode 2).2.2.1 _ _ _ (by decide),
    (frames_decode 2).2.2.2 _ 3 rfl (by decide)⟩

end RemoteUi.Wire
