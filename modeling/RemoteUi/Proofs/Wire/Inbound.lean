/-
# RemoteUi.Proofs.Wire.Inbound — the end of a stream of messages.

The messages of a stream are those of its whole frames, in order.  After them comes nothing, part of
a frame, or a frame over the cap.  Only the last is told from the end of the input: a stream that
ends inside a frame ends like one that ends between two, and what was lost is not reported.

* Every input can be taken apart into the payloads of whole frames and a rest of which no frame can
  be read (`exists_apart`).  The rest is one of three, and they exclude each other.
* What is read is then known from the parts (`Apart.ends`), so `ends_quietly_iff` says for any input
  exactly when its end is reported and with which length.

The octets of a frame that was begun are enough to see that something is missing: a header that is
not complete, or a payload shorter than its header says (`CutShort`).  `truncated_ends_quietly` is
such a stream, of six octets.
-/
import RemoteUi.Proofs.Wire.Stream
import RemoteUi.Wire.ServerEnvelope

namespace RemoteUi.Wire

variable {cap : Nat} {input rest : List UInt8} {payloads : List (List UInt8)}

/-- The messages among payloads. -/
def messages (payloads : List (List UInt8)) : List ServerEnvelope :=
  payloads.filterMap fun p => (ServerEnvelope.decode p).toOption

/-- An input that ends inside a frame, in its header or in its payload. -/
def CutShort (cap : Nat) (input : List UInt8) : Prop :=
  input ≠ [] ∧ Partial cap input

/-- An input taken apart: the payloads of the whole frames at its front, and a rest of which no
frame can be read. -/
structure Apart (cap : Nat) (input : List UInt8) (payloads : List (List UInt8))
    (rest : List UInt8) : Prop where
  input_eq : input = stream payloads ++ rest
  fits : ∀ p ∈ payloads, Fits cap p
  rest_ends : rest = [] ∨ CutShort cap rest ∨ ∃ n, Oversized cap rest n

/-- A front of a frame is nothing at all, or is cut short. -/
theorem partial_iff : Partial cap rest ↔ rest = [] ∨ CutShort cap rest := by
  constructor
  · intro hpart
    by_cases hrest : rest = []
    · exact .inl hrest
    · exact .inr ⟨hrest, hpart⟩
  · rintro (rfl | hcut)
    · exact nofun
    · exact hcut.2

/-- Any input can be taken apart. -/
theorem exists_apart (cap : Nat) (input : List UInt8) :
    ∃ payloads rest, Apart cap input payloads rest := by
  obtain ⟨rest, hinput, hfits, ⟨hpart, -⟩ | ⟨n, hlarge, -⟩⟩ := exists_rest cap input
  · refine ⟨_, rest, hinput, hfits, ?_⟩
    rw [← or_assoc]
    exact .inl (partial_iff.mp hpart)
  · exact ⟨_, rest, hinput, hfits, .inr (.inr ⟨n, hlarge⟩)⟩

/-- Part of a frame is told from a frame over the cap, and from nothing else. -/
theorem Apart.ends (h : Apart cap input payloads rest) :
    Partial cap rest ∧ readAll cap input = (payloads, .endOfInput) ∨
      ∃ n, Oversized cap rest n ∧ readAll cap input = (payloads, .tooLarge n cap) := by
  have hread := readAll_stream h.fits rest
  rw [← h.input_eq] at hread
  rcases or_assoc.mpr h.rest_ends with hpart | ⟨n, hlarge⟩
  · have hpart := partial_iff.mpr hpart
    rw [readAll_of_error hpart.readFrame_eq, List.append_nil] at hread
    exact .inl ⟨hpart, hread⟩
  · rw [readAll_of_error hlarge.readFrame_eq, List.append_nil] at hread
    exact .inr ⟨n, hlarge, hread⟩

/-- A frame over the cap is not the front of a frame. -/
theorem Oversized.not_partial {n : Nat} (h : Oversized cap rest n) : ¬ Partial cap rest :=
  fun hpart => absurd (hpart n h.1).1 (Nat.not_le.mpr h.2)

/-- Every input can be taken apart.  Then the messages that are read are those of the whole frames,
in order.  The end is quiet exactly where the rest is empty or ends inside a frame, and a frame over
the cap is reported with its length. -/
theorem ends_quietly_iff (input : List UInt8) :
    (∃ payloads rest, Apart toClientCap input payloads rest) ∧
      ∀ payloads rest, Apart toClientCap input payloads rest →
        (readEnvelopes input).1 = messages payloads ∧
        ((readEnvelopes input).2 = none ↔ rest = [] ∨ CutShort toClientCap rest) ∧
        ∀ fault, (readEnvelopes input).2 = some fault ↔
          ∃ n, Oversized toClientCap rest n ∧ fault = .tooLarge n toClientCap := by
  refine ⟨exists_apart toClientCap input, fun payloads rest hparts => ?_⟩
  rw [← partial_iff]
  rcases hparts.ends with ⟨hpart, hread⟩ | ⟨n, hlarge, hread⟩
  · have henv : readEnvelopes input = (messages payloads, none) := by
      simp only [readEnvelopes, hread]
      rfl
    rw [henv]
    refine ⟨rfl, iff_of_true rfl hpart, fun fault => ?_⟩
    refine iff_of_false nofun ?_
    rintro ⟨n, hlarge, -⟩
    exact hlarge.not_partial hpart
  · have henv : readEnvelopes input = (messages payloads, some (.tooLarge n toClientCap)) := by
      simp only [readEnvelopes, hread]
      rfl
    rw [henv]
    refine ⟨rfl, iff_of_false nofun hlarge.not_partial, fun fault => ⟨fun h => ?_, ?_⟩⟩
    · exact ⟨n, hlarge, (Option.some.inj h).symm⟩
    · rintro ⟨m, hm, rfl⟩
      obtain rfl := Option.some.inj (hlarge.1.symm.trans hm.1)
      rfl

theorem cutShort_twoOfFive : CutShort toClientCap [0, 0, 0, 5, 97, 98] := by
  refine ⟨nofun, fun n hn => ?_⟩
  obtain rfl : 5 = n := Option.some.inj hn
  decide

theorem ends_quietly_iff_twoOfFive :
    Apart toClientCap [0, 0, 0, 0, 0, 0, 0, 5, 97, 98] [[]] [0, 0, 0, 5, 97, 98] ∧
      (readEnvelopes [0, 0, 0, 0, 0, 0, 0, 5, 97, 98]).2 = none := by
  have hparts : Apart toClientCap [0, 0, 0, 0, 0, 0, 0, 5, 97, 98] [[]] [0, 0, 0, 5, 97, 98] :=
    ⟨rfl, by simp [Fits], .inr (.inl cutShort_twoOfFive)⟩
  exact ⟨hparts, (((ends_quietly_iff _).2 _ _ hparts).2.1).mpr (.inr cutShort_twoOfFive)⟩

/-- A stream that ends inside a payload ends as if nothing had been lost. -/
theorem truncated_ends_quietly :
    CutShort toClientCap [0, 0, 0, 5, 97, 98] ∧
      readEnvelopes [0, 0, 0, 5, 97, 98] = ([], none) := by
  refine ⟨cutShort_twoOfFive, ?_⟩
  simp only [readEnvelopes, readAll_of_error cutShort_twoOfFive.2.readFrame_eq]
  rfl

end RemoteUi.Wire
