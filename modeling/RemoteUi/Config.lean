/-
# RemoteUi.Config — how a client is set up.

A configuration is read from variables.  A number that is missing or cannot be used falls back to
its default; a location that is no address is an error.
-/
import RemoteUi.Decimal.Numeral
import RemoteUi.Location
import RemoteUi.Screen.Fade
import RemoteUi.Text.Visible

namespace RemoteUi

/-- How a client is set up. -/
structure Config where
  location : Location
  outboundQueueCap : Nat
  /-- The time between two frames, in nanoseconds. -/
  frameInterval : Nat
  fade : FadeStrategy
  uploadPath : String
  downloadPath : String
  deriving DecidableEq

/-- The configured location is no address. -/
inductive ConfigError where
  | invalidLocation (value : String) (cause : Url.ParseError)
  deriving DecidableEq

/-- The wording of a refused configuration. -/
def ConfigError.message : ConfigError → String
  | .invalidLocation value cause => "invalid location '" ++ value ++ "': " ++ cause.message

namespace Config

/-- The address of a client that was given none. -/
def defaultLocation : String := "http://localhost/"

/-- The configuration without variables. -/
def default : Config where
  location := ⟨defaultLocation, "/", "localhost", "localhost", ""⟩
  outboundQueueCap := 256
  frameInterval := 16 * nanosPerMilli
  fade := .ofDuration (150 * nanosPerMilli)
  uploadPath := "/uploaded-files"
  downloadPath := "/_download"

/-- The number that a variable's value is, blanks around it aside. -/
def number? (value : Option String) : Option Nat :=
  value.bind fun s => Decimal.nat64? (Text.trim s)

/-- The variables that describe a configuration. -/
def settingNames : List String :=
  ["UI_CLIENT_LOCATION", "UI_CLIENT_OUTBOUND_QUEUE_CAP", "UI_CLIENT_FRAME_INTERVAL_MS",
    "UI_CLIENT_FADE_MS", "UI_CLIENT_UPLOAD_PREFIX", "UI_CLIENT_DOWNLOAD_PREFIX"]

/-- The configuration that variables describe. -/
def ofLookup (lookup : String → Option String) : Except ConfigError Config :=
  let address := (lookup "UI_CLIENT_LOCATION").getD defaultLocation
  match Location.parse address with
  | .error e => .error (.invalidLocation address e)
  | .ok location =>
    let positive := fun name => (number? (lookup name)).filter (0 < ·)
    .ok {
      location := location
      outboundQueueCap :=
        (positive "UI_CLIENT_OUTBOUND_QUEUE_CAP").getD default.outboundQueueCap
      frameInterval :=
        ((positive "UI_CLIENT_FRAME_INTERVAL_MS").map (· * nanosPerMilli)).getD
          default.frameInterval
      fade :=
        ((number? (lookup "UI_CLIENT_FADE_MS")).map
          fun ms => FadeStrategy.ofDuration (ms * nanosPerMilli)).getD default.fade
      uploadPath := (lookup "UI_CLIENT_UPLOAD_PREFIX").getD default.uploadPath
      downloadPath := (lookup "UI_CLIENT_DOWNLOAD_PREFIX").getD default.downloadPath }

end Config

end RemoteUi
