/-
# RemoteUi.Session.Basic — one connection from its opening to its end.

A session is driven by three kinds of input: messages from the server, what the user does, and
animation frames.  Each is a function from a session to the session after it.  What the session
has to say to the server waits in `outbound`; what it has told the host is in `calls`, the latest
first.

A host is told what happens and is asked for uploads and pictures.  All that a session knows of it
are its answers, which may depend on everything it was told and asked before.
-/
import RemoteUi.Config
import RemoteUi.Gathering
import RemoteUi.Screen.Swap
import RemoteUi.Session.Recovery
import RemoteUi.Session.Requests
import RemoteUi.Tree.Shape
import RemoteUi.Upload.Batch
import RemoteUi.Widget.Interpret

namespace RemoteUi

/-! ## The host -/

/-- What a host is told or asked. -/
inductive HostCall where
  /-- A fragment was swapped in, and shows these widgets and groups. -/
  | swapped (fragmentId : String) (widgets groups : List String)
  | reload
  | connectionLost (reason : String)
  | diagnostic (diagnostic : Diagnostic)
  /-- Fetch these pictures before they are shown. -/
  | preload (sources : List String)
  | upload (url : Url) (file : SelectedFile)
  | download (url : Url) (fileName : String)

/-- A host by its answers.  Each is given the calls before it, the latest first. -/
structure Host where
  /-- Why pictures could not be fetched, if they could not. -/
  preload : List HostCall → List String → Option String
  upload : List HostCall → Url → SelectedFile → Except UploadError UploadReceipt

/-- A host that fetches nothing and takes no uploads. -/
def Host.minimal : Host where
  preload := fun _ _ => none
  upload := fun _ _ _ => .error .unsupported

/-! ## Sessions -/

/-- The life of a connection. -/
inductive ConnectionState where
  | connecting
  | opened
  | closed
  deriving DecidableEq

/-- What the driver of a session has to do after a message. -/
inductive SessionSignal where
  | proceed
  /-- The session is over, and the client is to start again. -/
  | reload
  deriving DecidableEq

/-- A session. -/
structure Session where
  config : Config
  host : Host
  sessionId : Option String
  state : ConnectionState
  devMode : Bool
  requests : Requests
  recovery : Recovery
  screen : Screen
  /-- Messages that were not dispatched yet. -/
  messages : List Message
  gathering : Gathering
  outbound : List ClientEnvelope
  /-- What the host was told, the latest first. -/
  calls : List HostCall

namespace Session

/-- A session before its opening. -/
def start (config : Config) (host : Host) : Session where
  config := config
  host := host
  sessionId := none
  state := .connecting
  devMode := false
  requests := .start
  recovery := .empty
  screen := .empty config.fade
  messages := []
  gathering := []
  outbound := []
  calls := []

/-- Tells the host something. -/
def tell (s : Session) (call : HostCall) : Session :=
  { s with calls := call :: s.calls }

/-- Tells the host of problems, in order. -/
def report (s : Session) (ds : List Diagnostic) : Session :=
  ds.foldl (fun s d => s.tell (.diagnostic d)) s

/-- Puts a message to the server at the end of those waiting. -/
def push (s : Session) (e : ClientEnvelope) : Session :=
  { s with outbound := s.outbound ++ [e] }

/-- Greets the server. -/
def opening (s : Session) : Session :=
  s.push (.hello s.config.location)

/-- Takes the messages that wait for the server, the oldest first. -/
def drain (s : Session) : Session × List ClientEnvelope :=
  ({ s with outbound := [] }, s.outbound)

/-- Dims a fragment that a request concerns. -/
def dim (s : Session) (fragmentId : String) : Session :=
  { s with screen := { s.screen with surface := s.screen.surface.fade fragmentId pendingOpacity } }

/-! ## Requests -/

/-- Sends a request, and dims the fragment of its first event.  A request that does not fit a
frame is reported and dropped, and takes no id. -/
def sendEvents (s : Session) (events : List Event) : Session × Option Nat :=
  let envelope := s.requests.prepare s.config.location events
  if Wire.toServerCap < envelope.size then
    (s.report [.requestTooLarge envelope.size Wire.toServerCap], none)
  else
    let (requests, id) := s.requests.issue
    let s := { s with requests := requests }
    let s := match events with
      | e :: _ => s.dim e.fragmentId
      | [] => s
    (s.push envelope, some id)

/-! ## Messages from the server -/

/-- The fragment that a document would be, for the report that it is none. -/
def claimedFragment (root : Json) : String :=
  ((root.get? "fragment_id").bind Json.text?).getD ""

/-- Has the host fetch pictures, if there are any: why it could not, if it could not. -/
def preload (s : Session) (sources : List String) : Session × Option String :=
  if sources = [] then (s, none)
  else (s.tell (.preload sources), s.host.preload s.calls sources)

/-- Shows the tree of a response: whether there was anything to show.  It is shown as well if its
pictures could not be fetched. -/
def render (s : Session) (response : Response) (now : Nat) : Session × Bool :=
  match response.root with
  | none => (s, false)
  | some root =>
    match Fragment.ofJson root with
    | .error e => (s.report [.renderSkipped (claimedFragment root) e.message], false)
    | .ok parsed =>
      let s := ((s.report parsed.diagnostics).preload parsed.fragment.imageSources).1
      match s.screen.swap parsed.fragment now with
      | .error e => (s.report [.renderSkipped parsed.fragment.id e.message], false)
      | .ok (screen, swapped) =>
        let id := swapped.ticket.fragmentId
        let s := { s with screen := screen }.report swapped.diagnostics
        let shown := s.screen.surface.fragment? id
        let widgets := (shown.map fun p => p.widgetIds s.screen.pool).getD []
        let groups := (shown.map Panel.groupKeys).getD []
        (s.tell (.swapped id widgets groups), true)

/-- Handles the outcome of a run. -/
def handleResponse (s : Session) (response : Response) (now : Nat) : Session :=
  match s.requests.classify response with
  | .apply =>
    let (s, shown) := s.render response now
    if shown then { s with recovery := s.recovery.recordApplied response } else s
  | .superseded _ => { s with recovery := (s.recovery.recordSuperseded response).1 }
  | .invalidState =>
    let (recovery, cached) := s.recovery.take
    let s := { s with recovery := recovery }
    let s := match cached with
      | some response => (s.render response now).1
      | none => s
    s.push .acknowledge
  | .failed _ => s

/-- Handles a message from the server.  A closed session takes note of the development flag and of
nothing else. -/
def handle (s : Session) (envelope : ServerEnvelope) (now : Nat) : Session × SessionSignal :=
  let s := { s with devMode := envelope.devMode.getD false }
  if s.state = .closed then (s, .proceed)
  else
    match envelope with
    | .hello id _ =>
      match s.sessionId with
      | some _ => (s, .proceed)
      | none => (({ s with sessionId := some id, state := .opened }.sendEvents []).1, .proceed)
    | .rerun response => (s.handleResponse response now, .proceed)
    | .refresh _ => ({ s with state := .closed, outbound := [] }.tell .reload, .reload)

/-- The connection is gone. -/
def transportClosed (s : Session) (reason : String) : Session :=
  if s.state = .closed then s else { s with state := .closed }.tell (.connectionLost reason)

/-! ## What the user does -/

/-- Starts a download under a new request id. -/
def startDownload (s : Session) (widgetId fragmentId fileName : String) : Session :=
  match s.sessionId with
  | none => s
  | some sessionId =>
    let (requests, requestId) := s.requests.issue
    let s := { s with requests := requests }
    match s.config.location.origin with
    | .error _ => s
    | .ok origin =>
      match Upload.downloadUrl origin s.config.downloadPath sessionId requestId fragmentId
          widgetId with
      | .error _ => s
      | .ok url => (s.tell (.download url fileName)).dim fragmentId

/-- Uploads one file: the answer, and the calls after it. -/
def uploadOne (s : Session) (calls : List HostCall) (file : SelectedFile) :
    Except UploadError UploadReceipt × List HostCall :=
  match s.config.location.origin with
  | .error e => (.error (.endpoint e.message), calls)
  | .ok origin =>
    match Upload.uploadUrl origin s.config.uploadPath (s.sessionId.getD "") file with
    | .error e => (.error e, calls)
    | .ok url => (s.host.upload calls url file, .upload url file :: calls)

/-- The uploader that shows what was uploaded. -/
def showUploaded (files : List UploadedFile) (w : Widget) : Widget :=
  match w.state with
  | .fileUploader u =>
    w.withState (.fileUploader
      { u with selection := files, summary := Upload.summary (files.map UploadedFile.name) })
  | _ => w

/-- Uploads a selection and shows it, unless nothing was uploaded: the message of the change. -/
def upload (s : Session) (key widgetId fragmentId : String) (multiple : Bool)
    (files : List SelectedFile) : Session × Message :=
  let (outcome, calls) := Upload.batch s.uploadOne multiple files s.calls
  let s := { s with calls := calls }
  let pool := match s.screen.pool.lookup key with
    | some h =>
      if outcome.uploaded = [] then s.screen.pool
      else s.screen.pool.modify h (showUploaded outcome.uploaded)
    | none => s.screen.pool
  ({ s with screen := { s.screen with pool := pool } },
    .valueChanged widgetId fragmentId none (.arr (outcome.uploaded.map UploadedFile.toJson)))

/-- Carries out a message. -/
def perform (s : Session) : Message → Session
  | .downloadRequested widgetId fragmentId fileName => s.startDownload widgetId fragmentId fileName
  | .filesSelected key widgetId fragmentId multiple files =>
    let (s, message) := s.upload key widgetId fragmentId multiple files
    { s with gathering := s.gathering.ingest message }
  | message => { s with gathering := s.gathering.ingest message }

/-- Carries out all messages, in order. -/
def dispatch (s : Session) : Session :=
  s.messages.foldl perform { s with messages := [] }

/-- The session with other groups. -/
def withGroups (s : Session) (groups : Groups) : Session :=
  { s with screen := { s.screen with groups := groups } }

/-- Delivers an input to the widget that is live under an identity. -/
def deliver (s : Session) (id : String) (input : Input) : Except InteractionError Session :=
  match s.screen.pool.lookup id with
  | none => .error (.unknownWidget id)
  | some h =>
    match s.screen.pool.get? h with
    | none => .error (.unknownWidget id)
    | some w =>
      match w.interpret input with
      | .error e => .error e
      | .ok (w, message) =>
        let s := { s with screen := { s.screen with pool := s.screen.pool.set h w } }
        .ok ({ s with messages := s.messages ++ message.toList }.dispatch)

/-- What an interaction leaves, whether it is accepted or not. -/
structure Interaction where
  session : Session
  outcome : Except InteractionError Unit

/-- Routes an input to a widget or a group.  A refused move of the focus still takes the focus
from the widget that has it. -/
def interact (s : Session) (id : String) (input : Input) : Interaction :=
  let unknown := Except.error (InteractionError.unknownWidget id)
  if s.state ≠ .opened then ⟨s, .error .notConnected⟩
  else
    match input with
    | .toggle value =>
      match s.screen.groups.toggle? id value with
      | some groups => ⟨s.withGroups groups, .ok ()⟩
      | none => ⟨s, unknown⟩
    | .choose value =>
      match s.screen.groups.select? id value with
      | some groups => ⟨s.withGroups groups, .ok ()⟩
      | none => ⟨s, unknown⟩
    | .focus =>
      let s := { s with screen := s.screen.focus id }
      ⟨s, if s.screen.surface.focused = some id then .ok () else unknown⟩
    | .blur =>
      if s.screen.surface.focused = some id then ⟨{ s with screen := s.screen.blur }, .ok ()⟩
      else ⟨s, .ok ()⟩
    | _ =>
      match s.deliver id input with
      | .ok s => ⟨s, .ok ()⟩
      | .error e => ⟨s, .error e⟩

/-! ## Frames -/

/-- Brings transitions to a time and sends what was gathered: the id of the request, if there is
one.  Group changes are taken even when they cannot be sent. -/
def animationFrame (s : Session) (now : Nat) : Session × Option Nat :=
  let screen := (s.screen.tick now).1
  let changes := screen.groups.changes
  let s := { s with screen := { screen with groups := screen.groups.settled } }
  if s.state ≠ .opened then (s, none)
  else
    let (gathering, events) := s.gathering.drain changes
    let s := { s with gathering := gathering }
    if events.isEmpty then (s, none) else s.sendEvents events

end Session

end RemoteUi
