/-
# RemoteUi.Gathering — events between two frames.

Messages are gathered in the order they occur.  The edits of one grid become one event, at the
place of its first edit; a download and a selection of files have no event of their own.  `drain`
ends the gathering, with the changed groups last, and the next one begins with nothing.
-/
import RemoteUi.Event
import RemoteUi.Group.Basic
import RemoteUi.Input

namespace RemoteUi

/-- One event to be, and the edits of one grid as far as they are gathered. -/
inductive Gathered where
  | event (event : Event)
  | batch (key widgetId fragmentId : String) (changes : List CellChange)

/-- The event of what was gathered. -/
def Gathered.toEvent : Gathered → Event
  | .event e => e
  | .batch _ widgetId fragmentId changes => .batchedChange widgetId fragmentId changes

/-- What was gathered since the last frame, in order. -/
abbrev Gathering := List Gathered

namespace Gathering

/-- Adds an edit to the batch with a key; without one it starts a batch at the end. -/
def addEdit (key widgetId fragmentId : String) (change : CellChange) : Gathering → Gathering
  | [] => [.batch key widgetId fragmentId [change]]
  | .batch k w f changes :: rest =>
    if k = key then .batch k w f (changes ++ [change]) :: rest
    else .batch k w f changes :: addEdit key widgetId fragmentId change rest
  | .event e :: rest => .event e :: addEdit key widgetId fragmentId change rest

/-- Gathers a message. -/
def ingest (g : Gathering) : Message → Gathering
  | .clicked widgetId fragmentId => g ++ [.event (.click widgetId fragmentId)]
  | .valueChanged widgetId fragmentId old new =>
    g ++ [.event (.change widgetId fragmentId old new)]
  | .cellEdited key widgetId fragmentId row column value =>
    addEdit key widgetId fragmentId ⟨row, column, value⟩ g
  | .downloadRequested _ _ _ => g
  | .filesSelected _ _ _ _ _ => g

/-- The events gathered, and one for each changed group. -/
def flush (g : Gathering) (changes : List GroupChange) : List Event :=
  g.map Gathered.toEvent ++
    changes.map fun c => Event.change c.widgetId c.fragmentId none c.value

/-- Takes the events gathered, and one for each changed group; nothing is left. -/
def drain (g : Gathering) (changes : List GroupChange) : Gathering × List Event :=
  ([], g.flush changes)

end Gathering

end RemoteUi
