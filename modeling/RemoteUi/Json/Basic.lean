/-
# RemoteUi.Json.Basic — JSON values.

Integers that fit 64 bits, signed or unsigned, stay integers; every other number is a finite
double.  An object is the list of its members in the order they were written, and may hold a key
twice as long as it is a document; `merged` makes it a value, in which each key keeps its first
place and takes its last meaning.  `same` is equality of values: the order of an object's members
does not matter, and an integer differs from a double.
-/

namespace RemoteUi

/-- A JSON document. -/
inductive Json where
  | null
  | bool (b : Bool)
  | int (i : Int)
  | float (x : Float)
  | str (s : String)
  | arr (items : List Json)
  | obj (members : List (String × Json))

namespace Json

instance : Inhabited Json := ⟨null⟩

/-- The members of an object, in order. -/
abbrev Members := List (String × Json)

/-! ## Members -/

namespace Members

/-- The value of the first member with the key. -/
def find? (k : String) : Members → Option Json
  | [] => none
  | (k', v) :: rest => if k = k' then some v else find? k rest

/-- Gives a key a value: in its place if the key is there, else at the end. -/
def set (k : String) (v : Json) : Members → Members
  | [] => [(k, v)]
  | (k', v') :: rest => if k = k' then (k', v) :: rest else (k', v') :: set k v rest

theorem find?_set (k k' : String) (v : Json) (ms : Members) :
    find? k' (set k v ms) = if k' = k then some v else find? k' ms := by
  induction ms with
  | nil => simp [set, find?]
  | cons m rest ih =>
    simp only [set]
    split
    · rename_i heq
      by_cases hk : k' = k
      · simp [find?, hk, heq]
      · simp [find?, hk, ← heq]
    · rename_i hne
      by_cases hk : k' = m.1
      · simp [find?, hk, Ne.symm hne]
      · simp [find?, hk, ih]

/-- The members with repeated keys merged: first place, last value. -/
def merge (ms : Members) : Members :=
  ms.foldl (fun acc m => set m.1 m.2 acc) []

end Members

/-! ## Values -/

mutual
/-- The value a document denotes: every object's repeated keys are merged. -/
def merged : Json → Json
  | .arr items => .arr (mergedItems items)
  | .obj members => .obj (mergedMembers members [])
  | j => j

/-- `merged` on the items of an array. -/
def mergedItems : List Json → List Json
  | [] => []
  | j :: rest => j.merged :: mergedItems rest

/-- `merged` on the members of an object, put in turn over those before them. -/
def mergedMembers : Members → Members → Members
  | [], acc => acc
  | (k, j) :: rest, acc => mergedMembers rest (Members.set k j.merged acc)
end

mutual
/-- Equality of values. -/
def same : Json → Json → Bool
  | .null, .null => true
  | .bool a, .bool b => a == b
  | .int a, .int b => a == b
  | .float a, .float b => a == b
  | .str a, .str b => a == b
  | .arr a, .arr b => sameItems a b
  | .obj a, .obj b => a.length == b.length && sameMembers a b
  | _, _ => false

/-- Equality of arrays, item by item. -/
def sameItems : List Json → List Json → Bool
  | [], [] => true
  | a :: as, b :: bs => same a b && sameItems as bs
  | _, _ => false

/-- Each member of the first object has an equal one in the second. -/
def sameMembers : Members → Members → Bool
  | [], _ => true
  | (k, a) :: rest, b =>
    (match Members.find? k b with
     | some v => same a v
     | none => false) && sameMembers rest b
end

/-- The value of a key, if the document is an object that has it. -/
def get? : Json → String → Option Json
  | .obj members, k => Members.find? k members
  | _, _ => none

/-- The text, if the document is one. -/
def text? : Json → Option String
  | .str s => some s
  | _ => none

/-- The truth value, if the document is one. -/
def bool? : Json → Option Bool
  | .bool b => some b
  | _ => none

/-- The items, if the document is an array. -/
def items? : Json → Option (List Json)
  | .arr items => some items
  | _ => none

/-- The nearest double of an integer of at most 64 bits. -/
def doubleOfInt (i : Int) : Float :=
  match i with
  | .ofNat n => n.toUInt64.toFloat
  | .negSucc n => -((n + 1).toUInt64.toFloat)

/-- The number as a double, if the document is a number. -/
def double? : Json → Option Float
  | .int i => some (doubleOfInt i)
  | .float x => some x
  | _ => none

/-- A number that may be written in JSON: infinities and NaN are refused. -/
def ofDouble? (x : Float) : Option Json :=
  if x.isFinite then some (.float x) else none

end Json

end RemoteUi
