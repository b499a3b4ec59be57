import RemoteUi.Config
import RemoteUi.Decimal.Numeral
import RemoteUi.Decimal.Shortest
import RemoteUi.Event
import RemoteUi.Gathering
import RemoteUi.Group.Basic
import RemoteUi.Input
import RemoteUi.Json.Basic
import RemoteUi.Json.Mismatch
import RemoteUi.Json.Printer
import RemoteUi.Json.Reader
import RemoteUi.Json.Record
import RemoteUi.Location
import RemoteUi.Main
import RemoteUi.Screen.Build
import RemoteUi.Screen.Fade
import RemoteUi.Screen.Outline
import RemoteUi.Screen.Rendered
import RemoteUi.Screen.Surface
import RemoteUi.Screen.Swap
import RemoteUi.Session.Basic
import RemoteUi.Session.Recovery
import RemoteUi.Session.Requests
import RemoteUi.Session.Run
import RemoteUi.Table
import RemoteUi.Text.Combining
import RemoteUi.Text.Composition
import RemoteUi.Text.Direction
import RemoteUi.Text.Joining
import RemoteUi.Text.Mark
import RemoteUi.Text.Visible
import RemoteUi.Tree.Node
import RemoteUi.Tree.Props
import RemoteUi.Tree.Shape
import RemoteUi.Upload.Batch
import RemoteUi.Upload.File
import RemoteUi.Url.Basic
import RemoteUi.Url.DomainCharacter
import RemoteUi.Url.Edit
import RemoteUi.Url.Host
import RemoteUi.Url.Label
import RemoteUi.Url.Parser
import RemoteUi.Url.Path
import RemoteUi.Url.Percent
import RemoteUi.Url.Punycode
import RemoteUi.Widget.Basic
import RemoteUi.Widget.CellEdit
import RemoteUi.Widget.Interpret
import RemoteUi.Widget.Pool
import RemoteUi.Widget.State
import RemoteUi.Wire.ClientEnvelope
import RemoteUi.Wire.Frame
import RemoteUi.Wire.ServerEnvelope
import RemoteUi.Proofs.Gathering
import RemoteUi.Proofs.Json.Reading
import RemoteUi.Proofs.Tree.Identity
import RemoteUi.Proofs.Tree.Fields
import RemoteUi.Proofs.Upload.Address
import RemoteUi.Proofs.Tree.Shaping
import RemoteUi.Proofs.Wire.Stream
import RemoteUi.Proofs.Wire.Inbound
import RemoteUi.Proofs.Wire.Outbound
import RemoteUi.Proofs.Screen.Build
import RemoteUi.Proofs.Screen.Coherence
import RemoteUi.Proofs.Screen.Liveness
import RemoteUi.Proofs.Screen.Content
import RemoteUi.Proofs.Screen.Changes
import RemoteUi.Proofs.Screen.Placement
import RemoteUi.Proofs.Session.Quiet
import RemoteUi.Proofs.Session.Reachable
import RemoteUi.Proofs.Session.Replay
import RemoteUi.Proofs.Session.Stale
import RemoteUi.Proofs.Session.Cache
import RemoteUi.Proofs.Session.Delivery
import RemoteUi.Proofs.Session.Download
import RemoteUi.Proofs.Session.Numbering
import RemoteUi.Proofs.Session.Spending
import RemoteUi.Proofs.Screen.History
import RemoteUi.Proofs.Screen.Rebuild
import RemoteUi.Proofs.Screen.Focus
import RemoteUi.Proofs.Screen.Continuity
import RemoteUi.Proofs.Screen.Locality
import RemoteUi.Proofs.Session.Refusal
import RemoteUi.Proofs.Screen.FocusCoherence
import RemoteUi.Proofs.Session.Focus
import RemoteUi.Proofs.Session.Routing
import RemoteUi.Proofs.Screen.Fading
import RemoteUi.Proofs.Session.Lifecycle
import RemoteUi.Proofs.Session.Silence
import RemoteUi.Proofs.Group.Echo
import RemoteUi.Proofs.Group.Exclusive
import RemoteUi.Proofs.Group.Reporting
import RemoteUi.Proofs.Screen.Opacity
import RemoteUi.Proofs.Session.Rejection
import RemoteUi.Proofs.Session.Radio
import RemoteUi.Proofs.Session.Dimming
import RemoteUi.Proofs.Screen.Serving
import RemoteUi.Proofs.Screen.Scrolling
import RemoteUi.Proofs.Screen.Settling
import RemoteUi.Proofs.Screen.Pictures
import RemoteUi.Proofs.Session.Preload
import RemoteUi.Proofs.Screen.Enclosure
import RemoteUi.Proofs.Session.Tagging
import RemoteUi.Proofs.Screen.Outshining
import RemoteUi.Proofs.Session.Unasked
import RemoteUi.Proofs.Session.Edits
import RemoteUi.Proofs.Widget.Unchanged
import RemoteUi.Proofs.Upload.Batch
import RemoteUi.Proofs.Upload.Endpoint
import RemoteUi.Proofs.Screen.Registration
import RemoteUi.Proofs.Session.Uploading
import RemoteUi.Proofs.Event
import RemoteUi.Proofs.Session.Development
import RemoteUi.Proofs.Screen.Ticking
import RemoteUi.Proofs.Screen.Bookkeeping
