/-
# RemoteUi.Group.Basic — groups of checkboxes and radio buttons.

A group is one unit with many members, and is known by its key.  The server's value checks members
without a report; what the user checks marks the group as changed until the change is taken.
-/
import RemoteUi.Json.Basic
import RemoteUi.Table

namespace RemoteUi

/-- The kinds of group. -/
inductive GroupKind where
  | checkbox
  | radio
  deriving DecidableEq

/-- What messages call a kind of group. -/
def GroupKind.name : GroupKind → String
  | .checkbox => "Checkbox"
  | .radio => "Radio"

/-- A member of a group. -/
structure Member where
  value : String
  checked : Bool
  deriving DecidableEq

/-- A group. -/
structure Group where
  /-- The id that the server gave the group; empty if it gave none. -/
  widgetId : String
  kind : GroupKind
  fragmentId : String
  /-- Several checkboxes may be checked, and the value is a list. -/
  multiple : Bool
  members : List Member
  /-- The user changed the group since its change was last taken. -/
  pending : Bool
  deriving DecidableEq

/-- A group whose value the user changed. -/
structure GroupChange where
  key : String
  widgetId : String
  fragmentId : String
  value : Json

namespace Group

/-- The values of the checked members, in order. -/
def checkedValues (g : Group) : List String :=
  (g.members.filter Member.checked).map Member.value

/-- The server's value checks a member with this value. -/
def checksFor (kind : GroupKind) (multiple : Bool) (server : Json) (value : String) : Bool :=
  match kind with
  | .checkbox =>
    if multiple then
      match server with
      | .arr items => (items.filterMap Json.text?).contains value
      | _ => false
    else server.bool?.getD false
  | .radio => server.text? == some value

/-- The members for a list of options, checked as the server's value says. -/
def membersFor (kind : GroupKind) (multiple : Bool) (options : List String) (server : Json) :
    List Member :=
  options.map fun o => ⟨o, checksFor kind multiple server o⟩

/-- The value that is reported: the checked values, or the one that is selected. -/
def value (g : Group) : Json :=
  match g.kind with
  | .checkbox => .arr (g.checkedValues.map .str)
  | .radio =>
    match g.checkedValues with
    | v :: _ => .str v
    | [] => .null

/-- Flips the first member with a value; `none` if there is none. -/
def flip (value : String) : List Member → Option (List Member)
  | [] => none
  | m :: rest =>
    if m.value = value then some ({ m with checked := !m.checked } :: rest)
    else (flip value rest).map (m :: ·)

/-- Flips a member. -/
def toggle? (g : Group) (value : String) : Option Group :=
  (flip value g.members).map fun members => { g with members := members, pending := true }

/-- Checks exactly the members with a value; `none` if there is none. -/
def select? (g : Group) (value : String) : Option Group :=
  if g.members.any fun m => m.value = value then
    let members := g.members.map fun m => { m with checked := decide (m.value = value) }
    some { g with members := members, pending := g.pending || decide (members ≠ g.members) }
  else none

/-- The group without members. -/
def detached (g : Group) : Group :=
  { g with members := [], pending := false }

/-- The change of a group. -/
def change (g : Group) (key : String) : GroupChange :=
  ⟨key, g.widgetId, g.fragmentId, g.value⟩

end Group

/-! ## All groups -/

/-- The groups of a client, by key. -/
abbrev Groups := Table Group

namespace Groups

/-- A group node that is attached under a key. -/
structure Attachment where
  widgetId : Option String
  kind : GroupKind
  fragmentId : String
  options : List String
  value : Json
  multiple : Bool

/-- The group under a key that an attachment of a kind continues. -/
def continued? (gs : Groups) (key : String) (kind : GroupKind) : Option Group :=
  (gs.get? key).filter fun g => decide (g.kind = kind) && !g.members.isEmpty

/-- The group that an attachment makes.  A change that was not taken yet stays pending. -/
def Attachment.group (a : Attachment) (previous : Option Group) : Group where
  widgetId := a.widgetId.getD ""
  kind := a.kind
  fragmentId := a.fragmentId
  multiple := a.multiple
  members := Group.membersFor a.kind a.multiple a.options a.value
  pending := previous.any Group.pending

/-- Attaches a group: its members are made anew and checked as the server says.  The answer says
whether it continues a group. -/
def attach (gs : Groups) (key : String) (a : Attachment) : Groups × Bool :=
  let previous := gs.continued? key a.kind
  (gs.insert key (a.group previous), previous.isSome)

/-- Changes a group; `none` if it is not there or refuses. -/
def edit? (gs : Groups) (key : String) (f : Group → Option Group) : Option Groups :=
  ((gs.get? key).bind f).map fun g => gs.insert key g

/-- Flips a checkbox. -/
def toggle? (gs : Groups) (key value : String) : Option Groups :=
  gs.edit? key fun g => g.toggle? value

/-- Selects a radio button. -/
def select? (gs : Groups) (key value : String) : Option Groups :=
  gs.edit? key fun g => g.select? value

/-- How many members a group has. -/
def memberCount (gs : Groups) (key : String) : Nat :=
  ((gs.get? key).map fun g => g.members.length).getD 0

/-- The checked values of a group; none if it is not there. -/
def checkedValues (gs : Groups) (key : String) : List String :=
  ((gs.get? key).map Group.checkedValues).getD []

/-- The first checked value of a group. -/
def selectedValue (gs : Groups) (key : String) : Option String :=
  (gs.checkedValues key).head?

/-- The changes that the user made since they were last taken, by ascending key. -/
def changes (gs : Groups) : List GroupChange :=
  (gs.entries.filter fun e => e.2.pending).map fun e => e.2.change e.1

/-- The groups once their changes are taken. -/
def settled (gs : Groups) : Groups :=
  gs.mapVal fun _ g => { g with pending := false }

/-- Takes the members from the groups with the given keys, except those to keep. -/
def detach (gs : Groups) (keys keep : List String) : Groups :=
  gs.mapVal fun k g => if keys.contains k && !keep.contains k then g.detached else g

/-- The groups that have members. -/
def pruned (gs : Groups) : Groups :=
  gs.filter fun _ g => !g.members.isEmpty

end Groups

end RemoteUi
