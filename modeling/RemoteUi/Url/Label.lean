/-
# RemoteUi.Url.Label — the labels of an international domain name.

A label outside ASCII has two forms: its characters, and Punycode after the mark `xn--`.  Both are
held to the same rules.  The characters are domain characters in composed form, the first is no
mark, and a joiner stands only where it changes how its neighbours join.  `isLabel` decides this
for a label; `directionsAgree` is a rule for a whole name: once a name has text from right to left,
every label keeps to one direction.

Characters that stand for others are not mapped here: but for ASCII letters a name has to be given
in its canonical form.
-/
import RemoteUi.Text.Composition
import RemoteUi.Text.Direction
import RemoteUi.Text.Joining
import RemoteUi.Url.DomainCharacter
import RemoteUi.Url.Punycode

namespace RemoteUi.Url

open Text (Direction)

/-! ## Joiners -/

/-- The non-joiner, which keeps two letters apart. -/
def nonJoiner : Char := '\u200c'

/-- The joiner, which shows a letter as if it were joined. -/
def joiner : Char := '\u200d'

/-- The first character that is not passed over joins on the side asked for. -/
def joins (side : Char → Bool) (cs : List Char) : Bool :=
  match cs.dropWhile Text.isTransparent with
  | [] => false
  | c :: _ => side c

/-- A joiner may stand between what is before it, in reverse, and what is after it.  Both kinds may
stand after a virama, and the non-joiner between two letters that would join. -/
def joinerAllowed (c : Char) (before after : List Char) : Bool :=
  match before with
  | [] => false
  | previous :: _ =>
    Text.combiningClass previous == Text.viramaClass ||
      (c == nonJoiner && joins Text.joinsNext before && joins Text.joinsPrevious after)

/-- Every joiner of a label may stand where it does; `before` is what precedes, in reverse. -/
def joinersAllowed : List Char → List Char → Bool
  | _, [] => true
  | before, c :: rest =>
    ((c != nonJoiner && c != joiner) || joinerAllowed c before rest) &&
      joinersAllowed (c :: before) rest

/-! ## Labels -/

/-- A label outside ASCII has at most this many characters. -/
def maxLabelLength : Nat := 1000

/-- The Punycode of a label has at most this many characters. -/
def maxPunycodeLength : Nat := 2000

/-- The characters make a label. -/
def isLabel (cs : List Char) : Bool :=
  decide (cs.length ≤ maxLabelLength) && cs.all isDomainCharacter && Text.composed cs == cs &&
    !(cs.head?.any Text.isMark) && joinersAllowed [] cs

/-- The characters of a label in Punycode, without its mark. -/
def decodeLabel? (punycode : List Char) : Option (List Char) :=
  if maxPunycodeLength < punycode.length then none
  else (Punycode.decode punycode).filter fun cs => cs.any (0x80 ≤ ·.toNat) && isLabel cs

/-- A label as its characters, from either of its forms. -/
def readLabel? (label : List Char) : Option (List Char) :=
  match label with
  | 'x' :: 'n' :: '-' :: '-' :: rest => decodeLabel? rest
  | _ =>
    if label.all (·.toNat < 0x80) then some label
    else
      let label := Text.composed label
      if isLabel label then some label else none

/-- A label in ASCII. -/
def asciiLabel (cs : List Char) : List Char :=
  if cs.all (·.toNat < 0x80) then cs else ['x', 'n', '-', '-'] ++ Punycode.encode cs

/-! ## Directions -/

/-- The label has text from right to left. -/
def hasRightward (label : List Char) : Bool :=
  label.any fun c => Direction.of c == .right || Direction.of c == .arabicDigit

/-- What a label may hold whose first letter is written from left to right. -/
def leftwardMayHold : Direction → Bool
  | .right => false
  | .arabicDigit => false
  | _ => true

/-- What a label may hold whose first letter is written from right to left. -/
def rightwardMayHold : Direction → Bool
  | .left => false
  | _ => true

/-- The label begins with a letter and keeps to its direction.  It ends with a letter or a digit,
marks apart, and text from right to left has digits of one kind only. -/
def directionAgrees (label : List Char) : Bool :=
  let directions := label.map Direction.of
  let last := (directions.reverse.dropWhile (· == .mark)).head?
  match directions.head? with
  | none => true
  | some .left =>
    directions.all leftwardMayHold && (last == some .left || last == some .europeanDigit)
  | some .right =>
    directions.all rightwardMayHold &&
      (last == some .right || last == some .europeanDigit || last == some .arabicDigit) &&
      !(directions.contains .europeanDigit && directions.contains .arabicDigit)
  | some _ => false

/-- The labels of a name agree in their directions. -/
def directionsAgree (labels : List (List Char)) : Bool :=
  !labels.any hasRightward || labels.all directionAgrees

end RemoteUi.Url
