/-
# RemoteUi.Proofs.Widget.Unchanged — which edits are dropped as no edits.

An edit of a cell is dropped if it is the present value, or if both read as the same double
(`judge_eq_unchanged_iff`).  The type of the column has no part in it: the comparison that a number
column makes of its own, once it has read the number, never finds anything more
(`looselyEqual_of_number?`).

What counts as no edit is therefore wider than it should be.  `Keeps` says what it should be: the
present value, or in a number column a value that denotes the same number, exactly.  The two differ
in two ways.

* A text that spells the same number as another is a different text, and outside number columns it
  is an edit.
* Different numbers may become the same double.  An integer of the value and the double that it is
  converted to are told apart by `whole?` and `numeric?`; what a value denotes exactly is
  `rational?`.

Whole numbers up to `2 ^ 53` are held by a double as they are, and in a number column nothing is
lost among them, however they are spelled (`unchanged_iff_readsAlike`).  The bound is sharp: one
more is read like the number before it.
-/
import RemoteUi.Json.Printer
import RemoteUi.Proofs.Decimal.Numeral
import RemoteUi.Proofs.Widget.Verdict

namespace RemoteUi

namespace Json

/-- The number that a value denotes exactly.  A double denotes the number it is written as. -/
def rational? : Json → Option ℚ
  | .int i => some i
  | .float x => Decimal.rational? (doubleText x)
  | .str s => Decimal.rational? (Text.trim s)
  | _ => none

/-- The integer that a value is or spells, blanks around it aside. -/
def whole? : Json → Option ℤ
  | .int i => some i
  | .str s => Decimal.int64? (Text.trim s)
  | _ => none

end Json

namespace CellVerdict

variable {column : Column} {old new n : Json} {i j : ℤ}

/-- The two values denote the same number. -/
def SameNumber (old new : Json) : Prop :=
  ∃ q, old.rational? = some q ∧ new.rational? = some q

/-- The edit changes nothing: it is the present value, or in a number column the present number. -/
def Keeps (column : Column) (old new : Json) : Prop :=
  old.same new = true ∨ column.type = .number ∧ SameNumber old new

/-- The two values read as the same double. -/
def ReadsAlike (old new : Json) : Prop :=
  ∃ x y, numeric? old = some x ∧ numeric? new = some y ∧ (x == y) = true

/-! ## What is dropped -/

/-- The loose comparison is this one. -/
theorem looselyEqual_iff :
    looselyEqual old new = true ↔ old.same new = true ∨ ReadsAlike old new := by
  unfold looselyEqual ReadsAlike
  rw [Bool.or_eq_true]
  refine or_congr_right ?_
  cases numeric? old with
  | none => simp
  | some x =>
    cases numeric? new with
    | none => simp
    | some y => simp

/-- What is read as an integer reads as the double that the integer is converted to. -/
theorem numeric?_of_whole? (h : new.whole? = some i) :
    ∃ x, numeric? new = some x ∧ (x == Json.doubleOfInt i) = true := by
  cases new with
  | int k =>
    obtain rfl := Option.some.inj h
    exact ⟨_, rfl, Double.doubleOfInt_beq_self k⟩
  | str s =>
    have htext : Decimal.int64? (Text.trim s) = some i := h
    rw [numeric?]
    exact Decimal.double?_of_int64? htext
  | null | bool | float | arr | obj => cases h

/-- What a number column reads in a text is an integer of it, or the double of it. -/
theorem number?_str {s : String} (h : number? (.str s) = some n) :
    (∃ i, (Json.str s).whole? = some i ∧ n = .int i) ∨
      ∃ x, numeric? (.str s) = some x ∧ n = .float x := by
  have hspelled : spelled? (Text.trim s) = some n := h
  unfold spelled? at hspelled
  split at hspelled
  · rename_i i hi
    exact Or.inl ⟨i, hi, (Option.some.inj hspelled).symm⟩
  · obtain ⟨x, hx, hfinite⟩ := Option.bind_eq_some_iff.mp hspelled
    unfold Json.ofDouble? at hfinite
    split at hfinite
    · exact Or.inr ⟨x, hx, (Option.some.inj hfinite).symm⟩
    · cases hfinite

/-- What is the same as an integer reads as its double. -/
theorem numeric?_of_same_int (h : old.same (.int i) = true) :
    numeric? old = some (Json.doubleOfInt i) := by
  cases old with
  | int k =>
    obtain rfl : k = i := by simpa [Json.same] using h
    rfl
  | null | bool | float | str | arr | obj => cases h

/-- What is the same as a double reads as a double that equals it. -/
theorem numeric?_of_same_float {x : Float} (h : old.same (.float x) = true) :
    ∃ y, numeric? old = some y ∧ (y == x) = true := by
  cases old with
  | float y => exact ⟨y, rfl, h⟩
  | null | bool | int | str | arr | obj => cases h

/-- A number that a column reads is no closer to the present value than what it was read from. -/
theorem looselyEqual_of_number? (hread : number? new = some n)
    (hn : looselyEqual old n = true) : looselyEqual old new = true := by
  cases new with
  | int | float =>
    obtain rfl := Option.some.inj hread
    exact hn
  | str s =>
    -- both comparisons are with the double that the text reads as
    refine looselyEqual_iff.mpr (Or.inr ?_)
    rcases number?_str hread with ⟨i, hi, rfl⟩ | ⟨x, hx, rfl⟩
    · obtain ⟨x, hx, hxi⟩ := numeric?_of_whole? hi
      rcases looselyEqual_iff.mp hn with hsame | ⟨y, z, hy, hz, hyz⟩
      · exact ⟨_, x, numeric?_of_same_int hsame, hx, Double.beq_symm hxi⟩
      · obtain rfl : Json.doubleOfInt i = z := Option.some.inj hz
        exact ⟨y, x, hy, hx, Double.beq_trans hyz (Double.beq_symm hxi)⟩
    · rcases looselyEqual_iff.mp hn with hsame | ⟨y, z, hy, hz, hyz⟩
      · obtain ⟨y, hy, hyx⟩ := numeric?_of_same_float hsame
        exact ⟨y, x, hy, hx, hyx⟩
      · obtain rfl : x = z := Option.some.inj hz
        exact ⟨y, x, hy, hx, hyz⟩
  | null | bool | arr | obj => cases hread

/-- An edit is dropped if it is the present value or reads as the same double, in whatever column. -/
theorem judge_eq_unchanged_iff :
    judge column old new = .unchanged ↔ old.same new = true ∨ ReadsAlike old new := by
  rw [← looselyEqual_iff]
  constructor
  · intro h
    by_contra hloose
    have hloose : looselyEqual old new = false := Bool.eq_false_iff.mpr hloose
    by_cases htype : column.type = .number
    · rw [judge_number htype hloose] at h
      split at h
      · -- a number was read, which was compared once more
        rename_i n hread
        split at h
        · rename_i hn
          rw [looselyEqual_of_number? hread hn] at hloose
          cases hloose
        · cases h
      · exact clear_ne_unchanged _ h
    · by_cases hnull : column.type = .string ∧ new = .null
      · obtain ⟨hstring, rfl⟩ := hnull
        rw [judge_string_null hstring hloose] at h
        exact clear_ne_unchanged _ h
      · rw [judge_taken htype (fun hstring hnew => hnull ⟨hstring, hnew⟩) hloose] at h
        cases h
  · intro h
    unfold judge
    rw [if_pos h]

/-! ## Whole numbers -/

/-- The value is or spells a whole number that a double holds exactly. -/
structure Small (j : Json) (i : ℤ) : Prop where
  whole : j.whole? = some i
  low : -2 ^ 53 ≤ i
  high : i ≤ 2 ^ 53

/-- A whole number is denoted exactly. -/
theorem rational?_of_whole? (h : new.whole? = some i) : new.rational? = some (i : ℚ) := by
  cases new with
  | int k =>
    obtain rfl := Option.some.inj h
    rfl
  | str s =>
    have htext : Decimal.int64? (Text.trim s) = some i := h
    rw [Json.rational?]
    exact Decimal.rational?_of_int64? htext
  | null | bool | float | arr | obj => cases h

/-- Whole numbers denote the same if they are the same. -/
theorem sameNumber_iff (hold : old.whole? = some i) (hnew : new.whole? = some j) :
    SameNumber old new ↔ i = j := by
  unfold SameNumber
  rw [rational?_of_whole? hold, rational?_of_whole? hnew]
  constructor
  · rintro ⟨q, hi, hj⟩
    have hq := (Option.some.inj hi).trans (Option.some.inj hj).symm
    exact_mod_cast hq
  · rintro rfl
    exact ⟨i, rfl, rfl⟩

/-- Small whole numbers read alike only if they are the same. -/
theorem readsAlike_iff (hold : Small old i) (hnew : Small new j) : ReadsAlike old new ↔ i = j := by
  obtain ⟨x, hx, hxi⟩ := numeric?_of_whole? hold.whole
  obtain ⟨y, hy, hyj⟩ := numeric?_of_whole? hnew.whole
  constructor
  · rintro ⟨x', y', hx', hy', hxy⟩
    obtain rfl := Option.some.inj (hx.symm.trans hx')
    obtain rfl := Option.some.inj (hy.symm.trans hy')
    have hij := Double.beq_trans (Double.beq_symm hxi) (Double.beq_trans hxy hyj)
    exact Double.doubleOfInt_inj hold.low hold.high hnew.low hnew.high hij
  · rintro rfl
    exact ⟨x, y, hx, hy, Double.beq_trans hxi (Double.beq_symm hyj)⟩

/-- What is dropped is what reads alike, in whatever column; so nothing is lost exactly if what reads
alike changes nothing.  Among whole numbers up to `2 ^ 53`, however they are spelled, a number column
drops the edits that change nothing, and no others. -/
theorem unchanged_iff_readsAlike (column : Column) (old new : Json) :
    (judge column old new = .unchanged ↔ old.same new = true ∨ ReadsAlike old new) ∧
    ((judge column old new = .unchanged → Keeps column old new) ↔
      (ReadsAlike old new → Keeps column old new)) ∧
    ∀ i j, column.type = .number → Small old i → Small new j →
      (judge column old new = .unchanged ↔ Keeps column old new) := by
  refine ⟨judge_eq_unchanged_iff, ?_, ?_⟩
  · rw [judge_eq_unchanged_iff]
    constructor
    · intro h halike
      exact h (Or.inr halike)
    · rintro h (hsame | halike)
      · exact Or.inl hsame
      · exact h halike
  · intro i j htype hold hnew
    have hnumber : column.type = .number ∧ SameNumber old new ↔ i = j := by
      rw [sameNumber_iff hold.whole hnew.whole]
      exact and_iff_right htype
    rw [judge_eq_unchanged_iff, Keeps, readsAlike_iff hold hnew, hnumber]

/-- A text column drops the edit of `01` to `1`, and a number column that of `2 ^ 53 + 1` to
`2 ^ 53`. -/
theorem drops_what_changes :
    let text : Column := ⟨"n", .string, false, true⟩
    let number : Column := ⟨"n", .number, false, true⟩
    (judge text (.str "01") (.str "1") = .unchanged ∧ ¬ Keeps text (.str "01") (.str "1")) ∧
      judge number (.int 9007199254740993) (.int 9007199254740992) = .unchanged ∧
      ¬ Keeps number (.int 9007199254740993) (.int 9007199254740992) := by
  intro text number
  refine ⟨⟨?_, ?_⟩, ?_, ?_⟩
  · exact if_pos (by decide +kernel)
  · rintro (hsame | ⟨hnumber, -⟩)
    · cases hsame
    · cases hnumber
  · exact if_pos (by decide +kernel)
  · rintro (hsame | ⟨-, hsame⟩)
    · cases hsame
    · rw [sameNumber_iff rfl rfl] at hsame
      cases hsame

end CellVerdict

end RemoteUi
