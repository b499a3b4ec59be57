/-
# RemoteUi.Proofs.Url.Percent — percent-encoded texts can be read back.

What is encoded are characters and what is decoded are octets, so a text comes back in two steps:
its octets (`decodeOctets_encode`), and from them the text, since they are UTF-8
(`percentDecode?_encode`).  Which characters a part of an address encodes makes no difference, as
long as the percent sign is one of them; otherwise a percent sign of the text would be taken for the
beginning of an octet.

* The octets of a text are those of its characters one after the other (`octets`), and two texts
  with the same octets are the same.
* An encoded octet is a percent sign and two digits, which are read as the octet again
  (`decodeOctets_percentOctet`).
* A sign that is encoded, and that is neither a percent sign nor one of the digits, does not stand
  in an encoded text at all (`not_mem_encode`).  This is what lets such a sign divide a path or a
  form.
-/
import Mathlib.Tactic.IntervalCases
import RemoteUi.Url.Percent

namespace RemoteUi.Url

variable {encoded : Char → Bool} {c : Char} {cs : List Char}

/-! ## Octets -/

/-- The octets of a text in UTF-8. -/
def octets (cs : List Char) : List UInt8 :=
  cs.flatMap String.utf8EncodeChar

/-- A digit is read as its value. -/
theorem hexValue?_upperHex {n : Nat} (h : n < 16) : hexValue? (upperHex n) = some n := by
  interval_cases n <;> rfl

/-- An encoded octet stands for itself. -/
theorem decodeOctets_percentOctet (b : UInt8) (rest : List Char) :
    decodeOctets (percentOctet b ++ rest) = b :: decodeOctets rest := by
  have hb : b.toNat < 256 := b.toNat_lt
  have hvalue : UInt8.ofNat (16 * (b.toNat / 16) + b.toNat % 16) = b := by
    rw [Nat.div_add_mod]
    exact UInt8.ofNat_toNat
  show decodeOctets ('%' :: _ :: _ :: rest) = _
  rw [decodeOctets, hexValue?_upperHex (by omega), hexValue?_upperHex (by omega)]
  dsimp only
  rw [hvalue]

/-- Any other character than a percent sign stands for its own octets. -/
theorem decodeOctets_cons (h : c ≠ '%') (rest : List Char) :
    decodeOctets (c :: rest) = String.utf8EncodeChar c ++ decodeOctets rest := by
  rw [decodeOctets]
  exact fun _ _ _ heq => absurd heq h

/-- An encoded character stands for its octets. -/
theorem decodeOctets_percentChar (c : Char) (rest : List Char) :
    decodeOctets (percentChar c ++ rest) = String.utf8EncodeChar c ++ decodeOctets rest := by
  unfold percentChar
  induction String.utf8EncodeChar c with
  | nil => rfl
  | cons b bs ih =>
    rw [List.flatMap_cons, List.append_assoc, decodeOctets_percentOctet, ih, List.cons_append]

/-- An encoded text stands for its octets. -/
theorem decodeOctets_encode (hpercent : encoded '%' = true) (cs : List Char) :
    decodeOctets (encode encoded cs) = octets cs := by
  induction cs with
  | nil => rfl
  | cons c rest ih =>
    have hrest : encode encoded (c :: rest) =
        (if encoded c then percentChar c else [c]) ++ encode encoded rest := List.flatMap_cons
    have hoctets : octets (c :: rest) = String.utf8EncodeChar c ++ octets rest := List.flatMap_cons
    rw [hrest, hoctets, ← ih]
    split
    · exact decodeOctets_percentChar c _
    · rename_i hplain
      have hc : c ≠ '%' := fun heq => hplain (heq ▸ hpercent)
      exact decodeOctets_cons hc _

/-! ## Texts -/

theorem ofOctets?_octets (s : String) :
    String.fromUTF8? ⟨(octets s.toList).toArray⟩ = some s := by
  have hoctets : (⟨(octets s.toList).toArray⟩ : ByteArray) = s.toByteArray := by
    rw [← String.utf8Encode_toList]
    exact ByteArray.ext List.data_toByteArray.symm
  rw [hoctets, String.fromUTF8?, dif_pos s.isValidUTF8]
  rfl

/-- No two texts have the same octets. -/
theorem octets_injective {cs ds : List Char} (h : octets cs = octets ds) : cs = ds := by
  have hcs := ofOctets?_octets (String.ofList cs)
  have hds := ofOctets?_octets (String.ofList ds)
  rw [String.toList_ofList] at hcs hds
  rw [h] at hcs
  exact String.ofList_injective (Option.some.inj (hcs.symm.trans hds))

/-- The text that a percent-encoded text stands for; `none` if its octets are not UTF-8. -/
def percentDecode? (cs : List Char) : Option String :=
  String.fromUTF8? ⟨(decodeOctets cs).toArray⟩

theorem percentDecode?_eq {s : String} (h : decodeOctets cs = octets s.toList) :
    percentDecode? cs = some s := by
  rw [percentDecode?, h, ofOctets?_octets]

/-- An encoded text can be read back. -/
theorem percentDecode?_encode (hpercent : encoded '%' = true) (s : String) :
    percentDecode? (encode encoded s.toList) = some s :=
  percentDecode?_eq (decodeOctets_encode hpercent s.toList)

/-! ## Characters -/

/-- What stands for itself in a form is printable. -/
theorem toNat_of_isFormSafe (h : isFormSafe c = true) : 0x2A ≤ c.toNat ∧ c.toNat < 0x7F := by
  have hupper : c.isUpper = decide (c.val ≥ 'A'.val ∧ c.val ≤ 'Z'.val) := rfl
  have hlower : c.isLower = (decide (c.val ≥ 'a'.val) && decide (c.val ≤ 'z'.val)) := rfl
  have hdigit : c.isDigit = (decide (c.val ≥ '0'.val) && decide (c.val ≤ '9'.val)) := rfl
  have hsafe : isFormSafe c = ((c.isUpper || c.isLower || c.isDigit) ||
      c == '*' || c == '-' || c == '.' || c == '_') := rfl
  simp only [hsafe, hupper, hlower, hdigit, Bool.or_eq_true, Bool.and_eq_true, decide_eq_true_eq,
    beq_iff_eq, UInt32.le_iff_toNat_le, ge_iff_le, Char.reduceVal, UInt32.reduceToNat] at h
  have hval : c.val.toNat = c.toNat := rfl
  rcases h with (((((h | h) | h) | rfl) | rfl) | rfl) | rfl
  · omega
  · omega
  · omega
  all_goals decide

theorem ne_of_isFormSafe {sign : Char} (hsign : isFormSafe sign = false)
    (hc : isFormSafe c = true) : c ≠ sign := by
  rintro rfl
  rw [hsign] at hc
  cases hc

/-- Digits stand for themselves. -/
theorem isFormSafe_upperHex {n : Nat} (h : n < 16) : isFormSafe (upperHex n) = true := by
  interval_cases n <;> rfl

/-- A percent-encoded character is written in percent signs and digits. -/
theorem mem_percentChar {c d : Char} (hd : d ∈ percentChar c) : d = '%' ∨ isFormSafe d = true := by
  obtain ⟨b, -, hb⟩ := List.mem_flatMap.mp hd
  have hlt : b.toNat < 256 := b.toNat_lt
  simp only [percentOctet, List.mem_cons, List.not_mem_nil, or_false] at hb
  rcases hb with rfl | rfl | rfl
  · exact Or.inl rfl
  · exact Or.inr (isFormSafe_upperHex (by omega))
  · exact Or.inr (isFormSafe_upperHex (by omega))

/-- A sign that is encoded, and is neither a percent sign nor a digit, does not stand in an encoded
text. -/
theorem not_mem_encode {sign : Char} (hsign : encoded sign = true) (hpercent : sign ≠ '%')
    (hsafe : isFormSafe sign = false) (cs : List Char) : sign ∉ encode encoded cs := by
  intro hmem
  obtain ⟨c, -, hc⟩ := List.mem_flatMap.mp hmem
  split at hc
  · rcases mem_percentChar hc with h | h
    · exact hpercent h
    · rw [hsafe] at h
      cases h
  · -- the character stands for itself, and is not the sign that would be encoded
    rename_i hplain
    exact hplain (List.mem_singleton.mp hc ▸ hsign)

/-- A text of characters that are not encoded stays as it is. -/
theorem encode_of_plain (h : ∀ c ∈ cs, encoded c = false) : encode encoded cs = cs := by
  induction cs with
  | nil => rfl
  | cons c rest ih =>
    obtain ⟨hc, hrest⟩ := List.forall_mem_cons.mp h
    have hcons : encode encoded (c :: rest) =
        (if encoded c then percentChar c else [c]) ++ encode encoded rest := List.flatMap_cons
    rw [hcons, hc, if_neg Bool.false_ne_true, ih hrest, List.singleton_append]

end RemoteUi.Url
