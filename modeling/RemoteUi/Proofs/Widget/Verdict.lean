/-
# RemoteUi.Proofs.Widget.Verdict — what the verdicts on an edited cell say.

A cell that is edited is judged by its column: the new value is taken, dropped or refused, or is no
change.  The judgement is a cascade of cases, and here it is told by rules.

* An edit that is loosely the present value is dropped before the column is looked at.
* What is left is accepted under three rules (`Accepted`): a number column takes what it reads as a
  number, and is cleared by what it cannot read unless it must be filled; any other column takes
  what it is given.  A blank text needs no rule of its own, as it spells no number
  (`number?_of_isBlank`).
* `judge_eq_accept_iff` says that these are all.  So what a number column takes is a number, or null
  where that is allowed (`Accepted.of_number`).

An accepted value is the present one in a single case: a cell is cleared that is clear already, by
something that is not null (`Reclears`, `same_of_accept_iff`).  The loose comparison does not see
that, as it is made with the value that was given and not with the null that is taken for it.
-/
import RemoteUi.Widget.CellEdit

namespace RemoteUi

namespace Text

@[simp]
theorem trim_empty : trim "" = "" := by
  decide +kernel

end Text

namespace CellVerdict

variable {column : Column} {old new n v : Json} {x : Float}

/-! ## Blanks -/

theorem spelled?_empty : spelled? "" = none := by
  decide +kernel

/-- A blank spells no number. -/
theorem number?_of_isBlank (h : isBlank new = true) : number? new = none := by
  cases new with
  | null => rfl
  | str s =>
    have htrim : Text.trim s = "" := of_decide_eq_true h
    show spelled? (Text.trim s) = none
    rw [htrim]
    exact spelled?_empty
  | bool | int | float | arr | obj => cases h

/-- What a column reads as a number is an integer or a double, and the double is finite unless it
was given as it is. -/
theorem number?_inv (h : number? new = some n) :
    (∃ i, n = .int i) ∨ ∃ x, n = .float x ∧ (new = .float x ∨ x.isFinite = true) := by
  cases new with
  | int i => exact Or.inl ⟨i, (Option.some.inj h).symm⟩
  | float x => exact Or.inr ⟨x, (Option.some.inj h).symm, Or.inl rfl⟩
  | str s =>
    have hs : spelled? (Text.trim s) = some n := h
    unfold spelled? at hs
    split at hs
    · rename_i i _
      exact Or.inl ⟨i, (Option.some.inj hs).symm⟩
    · obtain ⟨x, -, hx⟩ := Option.bind_eq_some_iff.mp hs
      unfold Json.ofDouble? at hx
      split at hx
      · rename_i hfinite
        exact Or.inr ⟨x, (Option.some.inj hx).symm, Or.inr hfinite⟩
      · cases hx
  | null | bool | arr | obj => cases h

/-! ## Rules -/

/-- The rules under which a column takes a value for an edit. -/
inductive Accepted (column : Column) (old new : Json) : Json → Prop where
  /-- A number column that need not be filled is cleared by what it cannot read. -/
  | cleared (type_eq : column.type = .number) (optional : column.required = false)
      (unread : number? new = none) : Accepted column old new .null
  /-- A number column takes the number that it reads, if it is not the present one. -/
  | read {n : Json} (type_eq : column.type = .number) (number_eq : number? new = some n)
      (moved : looselyEqual old n = false) : Accepted column old new n
  /-- Any other column takes what it is given; a text column that must be filled takes no null. -/
  | taken (type_ne : column.type ≠ .number)
      (filled : column.type = .string → column.required = true → new ≠ .null) :
      Accepted column old new new

/-- The two rules of a number column. -/
theorem accepted_number_iff (htype : column.type = .number) : Accepted column old new v ↔
    (number? new = none ∧ column.required = false ∧ v = .null) ∨
      (number? new = some v ∧ looselyEqual old v = false) := by
  constructor
  · rintro (⟨-, hoptional, hunread⟩ | ⟨-, hread, hmoved⟩ | ⟨hne, -⟩)
    · exact Or.inl ⟨hunread, hoptional, rfl⟩
    · exact Or.inr ⟨hread, hmoved⟩
    · exact absurd htype hne
  · rintro (⟨hunread, hoptional, rfl⟩ | ⟨hread, hmoved⟩)
    · exact .cleared htype hoptional hunread
    · exact .read htype hread hmoved

/-- The one rule of any other column. -/
theorem accepted_taken_iff (htype : column.type ≠ .number) : Accepted column old new v ↔
    v = new ∧ (column.type = .string → column.required = true → new ≠ .null) := by
  constructor
  · rintro (⟨hnumber, -, -⟩ | ⟨hnumber, -, -⟩ | ⟨-, hfilled⟩)
    · exact absurd hnumber htype
    · exact absurd hnumber htype
    · exact ⟨rfl, hfilled⟩
  · rintro ⟨rfl, hfilled⟩
    exact .taken htype hfilled

/-! ## Verdicts -/

/-- A cell is cleared unless it must be filled. -/
theorem clear_eq_accept_iff {required : Bool} :
    clear required = .accept v ↔ required = false ∧ v = .null := by
  cases required with
  | false => simp [clear, eq_comm]
  | true => simp [clear]

theorem clear_ne_unchanged (required : Bool) : clear required ≠ .unchanged := by
  cases required <;> intro h <;> cases h

/-- The verdict of a number column: blanks need no rule of their own. -/
theorem judge_number (htype : column.type = .number) (hloose : looselyEqual old new = false) :
    judge column old new = match number? new with
      | some n => if looselyEqual old n then .unchanged else .accept n
      | none => clear column.required := by
  unfold judge
  rw [if_neg (by simp [hloose]), htype]
  show (if isBlank new then _ else _) = _
  split
  · rename_i hblank
    rw [number?_of_isBlank hblank]
  · rfl

/-- Null clears a text column like a number column. -/
theorem judge_string_null (htype : column.type = .string)
    (hloose : looselyEqual old .null = false) :
    judge column old .null = clear column.required := by
  unfold judge
  rw [if_neg (by simp [hloose]), htype]

/-- Any other column takes what it is given. -/
theorem judge_taken (htype : column.type ≠ .number) (hnull : column.type = .string → new ≠ .null)
    (hloose : looselyEqual old new = false) : judge column old new = .accept new := by
  unfold judge
  rw [if_neg (by simp [hloose])]
  cases hcases : column.type with
  | number => exact absurd hcases htype
  | string =>
    cases new with
    | null => exact absurd rfl (hnull hcases)
    | bool | int | float | str | arr | obj => rfl
  | other => rfl

/-- An edit is accepted if it is not loosely the present value and one of the rules has it. -/
theorem judge_eq_accept_iff : judge column old new = .accept v ↔
    looselyEqual old new = false ∧ Accepted column old new v := by
  cases hloose : looselyEqual old new with
  | true => simp [judge, hloose]
  | false =>
    rw [eq_self, true_and]
    -- a number column goes by what it reads, any other by what it is given
    by_cases htype : column.type = .number
    · rw [judge_number htype hloose, accepted_number_iff htype]
      cases hnumber : number? new with
      | none => simp [clear_eq_accept_iff]
      | some n =>
        simp only [reduceCtorEq, false_and, false_or, Option.some.injEq]
        constructor
        · intro h
          split at h
          · cases h
          · rename_i hmoved
            cases h
            exact ⟨rfl, Bool.eq_false_iff.mpr hmoved⟩
        · rintro ⟨rfl, hmoved⟩
          rw [if_neg (by simp [hmoved])]
    · rw [accepted_taken_iff htype]
      by_cases hnull : column.type = .string ∧ new = .null
      · obtain ⟨hstring, rfl⟩ := hnull
        rw [judge_string_null hstring hloose, clear_eq_accept_iff]
        simp [hstring, and_comm]
      · have hfilled : column.type = .string → new ≠ .null := fun h h' => hnull ⟨h, h'⟩
        rw [judge_taken htype hfilled hloose]
        constructor
        · intro h
          cases h
          exact ⟨rfl, fun hstring _ => hfilled hstring⟩
        · rintro ⟨rfl, -⟩
          rfl

/-- What a number column takes is a number, or null if it need not be filled. -/
theorem Accepted.of_number (h : Accepted column old new v) (htype : column.type = .number) :
    (∃ i, v = .int i) ∨ (∃ x, v = .float x ∧ (new = .float x ∨ x.isFinite = true)) ∨
      (v = .null ∧ column.required = false) := by
  rcases h with ⟨-, hoptional, -⟩ | ⟨-, hread, -⟩ | ⟨hne, -⟩
  · exact Or.inr (Or.inr ⟨rfl, hoptional⟩)
  · rcases number?_inv hread with hint | hfloat
    · exact Or.inl hint
    · exact Or.inr (Or.inl hfloat)
  · exact absurd htype hne

/-! ## Edits to no effect -/

/-- The edit clears a cell that is clear: it is no number, and the column need not be filled. -/
structure Reclears (column : Column) (old new : Json) : Prop where
  type_eq : column.type = .number
  optional : column.required = false
  old_eq : old = .null
  new_ne : new ≠ .null
  unread : number? new = none

theorem eq_null_of_same (h : Json.same old .null = true) : old = .null := by
  cases old with
  | null => rfl
  | bool | int | float | str | arr | obj => cases h

/-- What is loosely something else is something else. -/
theorem same_eq_false_of_loosely (h : looselyEqual old new = false) : old.same new = false := by
  unfold looselyEqual at h
  exact (Bool.or_eq_false_iff.mp h).1

/-- What is null already is not loosely equal to anything else. -/
theorem looselyEqual_null (h : new ≠ .null) : looselyEqual .null new = false := by
  cases new with
  | null => exact absurd rfl h
  | bool | int | float | str | arr | obj => rfl

/-- An accepted value is the present one only when a cell is cleared that is clear. -/
theorem same_of_accept_iff (h : judge column old new = .accept v) :
    old.same v = true ↔ Reclears column old new := by
  obtain ⟨hloose, haccepted⟩ := judge_eq_accept_iff.mp h
  constructor
  · intro hsame
    -- a value that was read or taken was compared with the present one already
    cases haccepted with
    | cleared htype hoptional hunread =>
      obtain rfl := eq_null_of_same hsame
      refine ⟨htype, hoptional, rfl, ?_, hunread⟩
      rintro rfl
      cases hloose
    | read _ _ hmoved =>
      rw [same_eq_false_of_loosely hmoved] at hsame
      cases hsame
    | taken =>
      rw [same_eq_false_of_loosely hloose] at hsame
      cases hsame
  · rintro ⟨htype, -, rfl, -, hunread⟩
    rcases (accepted_number_iff htype).mp haccepted with ⟨-, -, rfl⟩ | ⟨hread, -⟩
    · rfl
    · rw [hunread] at hread
      cases hread

/-- Such an edit is accepted. -/
theorem Reclears.accepted (h : Reclears column old new) :
    judge column old new = .accept .null := by
  obtain ⟨htype, hoptional, rfl, hne, hunread⟩ := h
  exact judge_eq_accept_iff.mpr ⟨looselyEqual_null hne, .cleared htype hoptional hunread⟩

end CellVerdict

end RemoteUi
