/-
# RemoteUi.Json.Mismatch — why a document is not of the expected shape.

Each cause has one wording.  A surplus of items is worded by where the items came from: an array
that was at hand as a value, or a sequence that was read ahead while looking for a tag.
-/
import RemoteUi.Json.Printer
import RemoteUi.Text.Visible

namespace RemoteUi.Json

/-- What a message calls a document that was found in the place of another. -/
def describe : Json → String
  | .null => "null"
  | .bool b => "boolean `" ++ (if b then "true" else "false") ++ "`"
  | .int i => "integer `" ++ toString i ++ "`"
  | .float x => "floating point `" ++ doubleText x ++ "`"
  | .str s => "string " ++ Text.quoted s
  | .arr _ => "sequence"
  | .obj _ => "map"

/-- Where the items of an array came from. -/
inductive Origin where
  | value
  | readAhead
  deriving DecidableEq

/-- Why a document is not of the expected shape. -/
inductive Mismatch where
  | missingField (name : String)
  | duplicateField (name : String)
  | invalidType (found : Json) (wanted : String)
  | invalidValue (found : Json) (wanted : String)
  /-- An array ends before a field that has no default, the one at position `found`. -/
  | tooShort (found : Nat) (wanted : String)
  /-- An array of `found` items has more than the `wanted` fields. -/
  | tooLong (found wanted : Nat)
  | unknownVariant (name : String) (known : List String)
  | notSingleKey

/-- A count of elements in words. -/
def elements (n : Nat) : String :=
  toString n ++ (if n = 1 then " element" else " elements")

/-- The wording of a mismatch. -/
def Mismatch.message (origin : Origin) : Mismatch → String
  | .missingField name => "missing field `" ++ name ++ "`"
  | .duplicateField name => "duplicate field `" ++ name ++ "`"
  | .invalidType found wanted => "invalid type: " ++ describe found ++ ", expected " ++ wanted
  | .invalidValue found wanted => "invalid value: " ++ describe found ++ ", expected " ++ wanted
  | .tooShort found wanted => "invalid length " ++ toString found ++ ", expected " ++ wanted
  | .tooLong found wanted =>
    "invalid length " ++ toString found ++ ", expected " ++
      match origin with
      | .value => "fewer elements in array"
      | .readAhead => elements wanted ++ " in sequence"
  | .unknownVariant name known =>
    "unknown variant `" ++ name ++ "`, expected one of " ++
      String.intercalate ", " (known.map fun k => "`" ++ k ++ "`")
  | .notSingleKey => "invalid value: map, expected map with a single key"

end RemoteUi.Json
