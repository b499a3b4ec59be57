/-
# RemoteUi.Widget.CellEdit — whether an edited cell is taken.

An edit that spells the present value is no edit.  A number column takes numbers and their
spellings; what it cannot read clears the cell, or is refused if the column must be filled.  Any
other column takes what it is given, except that a text column that must be filled refuses null.
-/
import RemoteUi.Decimal.Numeral
import RemoteUi.Json.Basic
import RemoteUi.Text.Visible
import RemoteUi.Tree.Node

namespace RemoteUi

/-- What becomes of an edited cell. -/
inductive CellVerdict where
  | unchanged
  /-- The cell keeps its value. -/
  | revert
  | accept (value : Json)

namespace CellVerdict

/-- The number that a value is or spells, blanks around it aside. -/
def numeric? : Json → Option Float
  | .str s => Decimal.double? (Text.trim s)
  | j => j.double?

/-- Equal values, or two spellings of one number. -/
def looselyEqual (a b : Json) : Bool :=
  a.same b ||
    match numeric? a, numeric? b with
    | some x, some y => x == y
    | _, _ => false

/-- Null, or a text of blanks. -/
def isBlank : Json → Bool
  | .null => true
  | .str s => Text.trim s = ""
  | _ => false

/-- The number that a trimmed text spells: an integer if it fits, else a finite double. -/
def spelled? (s : String) : Option Json :=
  match Decimal.int64? s with
  | some i => some (.int i)
  | none => (Decimal.double? s).bind Json.ofDouble?

/-- The number that a cell takes for a value. -/
def number? : Json → Option Json
  | .int i => some (.int i)
  | .float x => some (.float x)
  | .str s => spelled? (Text.trim s)
  | _ => none

/-- A value that the column cannot hold. -/
def clear (required : Bool) : CellVerdict :=
  if required then .revert else .accept .null

/-- Judges the change of a cell from `old` to `new`. -/
def judge (column : Column) (old new : Json) : CellVerdict :=
  if looselyEqual old new then .unchanged
  else
    match column.type with
    | .number =>
      if isBlank new then clear column.required
      else
        match number? new with
        | some n => if looselyEqual old n then .unchanged else .accept n
        | none => clear column.required
    | .string =>
      match new with
      | .null => clear column.required
      | _ => .accept new
    | .other => .accept new

end CellVerdict

end RemoteUi
