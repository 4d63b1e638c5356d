import LogTriage.Dmesg.Report
import LogTriage.Engine.Usual
import LogTriage.Service.Body
import LogTriage.Text.Utf8

/-! # Service

The routes of the service as a function from requests to responses: liveness, rules over a text, and
kernel log reports with configured defaults. A body is read before its route is entered, so a body that
cannot be read is refused even where no route would have taken it. Nothing stands between a route and what
stops its analysis, which therefore becomes a failure of the service.
-/

namespace LogTriage.Service

set_option autoImplicit false

structure Request where
  method : Text
  url : Text
  contentType : Option Text
  body : Option Text

structure Response where
  status : Nat
  body : Json

def failure (status : Nat) (name : String) (code : Option String) (message : Text) : Response :=
  ⟨status, .recordOf [("statusCode", some (.ofNat status)), ("code", code.map .ofString),
    ("error", some (.ofString name)), ("message", some (.text message))]⟩

def notFound (r : Request) : Response :=
  failure 404 "Not Found" none
    (Text.ofString "Route " ++ r.method ++ Text.ofString ":" ++ r.url ++ Text.ofString " not found")

def invalidBody : Response :=
  failure 400 "Bad Request" (some "FST_ERR_CTP_INVALID_JSON_BODY")
    (Text.ofString "Body is not valid JSON but content-type is set to 'application/json'")

def emptyBody : Response :=
  failure 400 "Bad Request" (some "FST_ERR_CTP_EMPTY_JSON_BODY")
    (Text.ofString "Body cannot be empty when content-type is set to 'application/json'")

def bodyTooLarge : Response :=
  failure 413 "Payload Too Large" (some "FST_ERR_CTP_BODY_TOO_LARGE")
    (Text.ofString "Request body is too large")

def unknownMediaType : Response :=
  failure 415 "Unsupported Media Type" (some "FST_ERR_CTP_INVALID_MEDIA_TYPE")
    (Text.ofString "Unsupported Media Type")

def refused (error : Text) (issues : List Json) : Response :=
  ⟨400, .record [("error", .text error), ("issues", .list issues)]⟩

def stopped (stop : Analysis.Stop) : Response :=
  failure 500 "Internal Server Error" none stop.message

/-! ## Routes -/

inductive Route where
  | health
  | analyze
  | dmesg
  deriving DecidableEq

def path (url : Text) : Text := url.takeWhile fun u => u != 0x3F && u != 0x23

def routes : List (String × String × Route) :=
  [("GET", "/api/v1/health", .health), ("HEAD", "/api/v1/health", .health),
    ("POST", "/api/v1/analyze", .analyze), ("POST", "/api/v1/analyze/dmesg", .dmesg)]

def route? (r : Request) : Option Route :=
  (routes.find? fun entry =>
    Text.ofString entry.1 == r.method && Text.ofString entry.2.1 == path r.url).map (·.2.2)

/-! ## Bodies -/

inductive Media where
  | json
  | plain
  | other
  deriving DecidableEq

/-- The media type named before any parameters, letters of either case. -/
def media (contentType : Text) : Media :=
  let essence := (Text.trim (contentType.takeWhile (· != 0x3B))).map fun u =>
    if 0x41 ≤ u && u ≤ 0x5A then u + 0x20 else u
  if essence == Text.ofString "application/json" then .json
  else if essence == Text.ofString "text/plain" then .plain
  else .other

def bodiless : List String := ["GET", "HEAD", "TRACE"]

/-- Bytes that a body may have. -/
def bodyLimit : Nat := 1048576

/-- The value of the body, absent where none was sent, or the answer to a body that cannot be read.
Routes that do not exist take every other media type, and nothing of it is read. -/
def readBody (r : Request) : Except Response (Option Json) :=
  if bodiless.any fun m => Text.ofString m == r.method then .ok none
  else match r.contentType with
    | none => .ok none
    | some contentType =>
      let t := r.body.getD []
      match media contentType with
      | .plain =>
        if bodyLimit < Text.Utf8.byteCount t then .error bodyTooLarge else .ok (some (.text t))
      | .json =>
        if bodyLimit < Text.Utf8.byteCount t then .error bodyTooLarge
        else if t.isEmpty then .error emptyBody
        else match parseBody? t with
          | some j => .ok (some j)
          | none => .error invalidBody
      | .other => if (route? r).isSome then .error unknownMediaType else .ok none

/-! ## Answers -/

def health : Response := ⟨200, .record [("status", .ofString "ok")]⟩

def analyzeAnswer (source : Text) (events : List Event) : Response :=
  ⟨200, .record [("source", .text source), ("status", .ofString (Status.ofEvents events).name),
    ("count", .ofNat events.length), ("events", .list (events.map (·.toJson)))]⟩

def AnalyzeBody.settings (b : AnalyzeBody) : Analysis.Settings :=
  ⟨b.group, .finite b.keep, .finite b.interval, Timestamp.usualPattern⟩

def analyze (e : Engine) (body : Option Json) : Response :=
  match AnalyzeBody.check [] body with
  | .invalid ms => refused (Text.ofString "Validation failed") (ms.map (·.toJson))
  | .valid b =>
    match RawRule.compose b.rules [] with
    | .error fault => refused fault.refusal.message (fault.issues.map (·.toJson))
    | .ok rules =>
      match Analysis.guarded e b.content b.source rules b.settings with
      | .error stop => stopped stop
      | .ok result => analyzeAnswer b.source result.events

def dmesg (e : Engine) (defaults : Dmesg.Args) (body : Option Json) : Response :=
  match DmesgBody.check [] body with
  | .invalid ms => refused (Text.ofString "Validation failed") (ms.map (·.toJson))
  | .valid b =>
    match defaults.overlay b.args with
    | .invalid ms => refused (Text.ofString "Invalid dmesg analyzer args") (ms.map (·.toJson))
    | .valid args =>
      match Dmesg.guardedReport e Rule.kernelBase args b.content with
      | .error stop => stopped stop
      | .ok outcome => ⟨200, outcome.report.toJson⟩

def respond (defaults : Dmesg.Args) (r : Request) (engine : Engine := .usual) : Response :=
  match readBody r with
  | .error response => response
  | .ok body =>
    match route? r with
    | none => notFound r
    | some .health => health
    | some .analyze => analyze engine body
    | some .dmesg => dmesg engine defaults body

end LogTriage.Service
