/-
# RemoteUi.Event — what the client reports to the server.

An event says what the user did to one widget: a click, a change of its value, or a batch of
edited grid cells.  In its JSON form an absent value is left out, and so is the id of a widget
that the server has not named.  `Event.read` reads that form, and takes an explicit `null` for
absence.
-/
import RemoteUi.Json.Record

namespace RemoteUi

/-- What happened to a widget. -/
inductive EventKind where
  | click
  | change
  | batchedChange
  deriving DecidableEq

/-- The name of an event kind in JSON. -/
def EventKind.name : EventKind → String
  | .click => "click"
  | .change => "change"
  | .batchedChange => "batched-change"

/-- One edited cell of a grid. -/
structure CellChange where
  row : Nat
  column : String
  value : Json

/-- One fact that the user caused. -/
structure Event where
  kind : EventKind
  /-- The id the server gave the widget; empty if it gave none. -/
  widgetId : String
  fragmentId : String
  oldValue : Option Json
  newValue : Option Json
  changes : Option (List CellChange)

namespace Event

/-- A click. -/
def click (widgetId fragmentId : String) : Event :=
  ⟨.click, widgetId, fragmentId, none, none, none⟩

/-- A change of value. -/
def change (widgetId fragmentId : String) (old : Option Json) (new : Json) : Event :=
  ⟨.change, widgetId, fragmentId, old, some new, none⟩

/-- A batch of edited cells. -/
def batchedChange (widgetId fragmentId : String) (changes : List CellChange) : Event :=
  ⟨.batchedChange, widgetId, fragmentId, none, none, some changes⟩

end Event

/-! ## JSON form -/

/-- The JSON form of an edited cell. -/
def CellChange.toJson (c : CellChange) : Json :=
  .obj [("row_index", .int c.row), ("column_name", .str c.column), ("new_value", c.value)]

/-- A member that is left out when there is no value. -/
def Json.Members.optional (k : String) : Option Json → Json.Members
  | some j => [(k, j)]
  | none => []

/-- The JSON form of an event. -/
def Event.toJson (e : Event) : Json :=
  .obj <|
    [("type", .str e.kind.name)] ++
    (if e.widgetId = "" then [] else [("widget_id", .str e.widgetId)]) ++
    [("fragment_id", .str e.fragmentId)] ++
    Json.Members.optional "old_value" e.oldValue ++
    Json.Members.optional "new_value" e.newValue ++
    Json.Members.optional "changes" (e.changes.map fun cs => .arr (cs.map CellChange.toJson))

namespace Json

/-- Reads one of the named variants of an enumeration without contents: its name, or an object
whose only member has that name and the value `null`. -/
def readVariant {α : Type} (variant : String → Except Mismatch α) : Json → Except Mismatch α
  | .str s => variant s
  | .obj [(s, .null)] => variant s
  | .obj [(s, j)] =>
    match variant s with
    | .ok _ => .error (.invalidType j "unit")
    | .error e => .error e
  | .obj _ => .error .notSingleKey
  | j => .error (.invalidType j "string or map")

end Json

/-- The event kind with a name. -/
def EventKind.ofName (s : String) : Except Json.Mismatch EventKind :=
  match [EventKind.click, .change, .batchedChange].find? fun k => k.name = s with
  | some k => .ok k
  | none => .error (.unknownVariant s ["click", "change", "batched-change"])

/-- The shape of an edited cell. -/
def CellChange.record : Json.Record CellChange where
  name := "struct GridChange"
  fields := [
    .mandatory "row_index" Json.readNat fun a c => { c with row := a },
    .mandatory "column_name" Json.readText fun a c => { c with column := a },
    .mandatory "new_value" Json.readAny fun a c => { c with value := a }]
  blank := ⟨0, "", .null⟩

/-- The shape of an event. -/
def Event.record : Json.Record Event where
  name := "struct OutgoingEvent"
  fields := [
    .mandatory "type" (Json.readVariant EventKind.ofName) fun a e => { e with kind := a },
    .optional "widget_id" Json.readText fun a e => { e with widgetId := a },
    .mandatory "fragment_id" Json.readText fun a e => { e with fragmentId := a },
    .optional "old_value" (Json.readOption Json.readAny) fun a e => { e with oldValue := a },
    .optional "new_value" (Json.readOption Json.readAny) fun a e => { e with newValue := a },
    .optional "changes" (Json.readOption (Json.readList CellChange.record.read))
      fun a e => { e with changes := a }]
  blank := ⟨.click, "", "", none, none, none⟩

/-- Reads an event from its JSON form. -/
def Event.read (j : Json) : Except Json.Mismatch Event :=
  Event.record.read j

end RemoteUi
