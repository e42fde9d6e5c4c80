import AdmissionControl.CommandLine.Arguments
import AdmissionControl.Journal.Rules
import AdmissionControl.Json.Printer
import AdmissionControl.Pipeline
import AdmissionControl.Settings.Load

namespace AdmissionControl

open Text

namespace RateLimit

def StoreError.diagnostic : StoreError → String
  | .timeout limit => "Timeout(" ++ limit.text ++ ")"
  | .unknownScript => "NoScript"
  | .backend text => "Backend(" ++ quoted text ++ ")"

def LimiterError.diagnostic : LimiterError → String
  | .missingStoreUrl => "MissingStoreUrl"
  | .invalidStoreUrl error => "InvalidStoreUrl(" ++ error.diagnostic ++ ")"

end RateLimit

def problemList (problems : List Settings.Problem) : String :=
  "[" ++ ", ".intercalate (problems.map Settings.Problem.diagnostic) ++ "]"

def LoadError.diagnostic : LoadError → String
  | .file fault => "Io(" ++ fault.diagnostic ++ ")"
  | .unreadable => "Parse"
  | .invalid problems => "Validation(" ++ problemList problems ++ ")"

def PipelineError.diagnostic : PipelineError → String
  | .settings problems => "Config(" ++ problemList problems ++ ")"
  | .trustedProxy error => "TrustedProxy(InvalidProxyEntry(" ++ quoted error.entry ++ "))"
  | .limiter error => "Limiter(" ++ error.diagnostic ++ ")"
  | .missingValidator => "MissingTokenValidator"

namespace CommandLine

open Journal RateLimit

-- Why the program does not get ready with the settings that it has.
inductive StartupError where
  | pipeline (error : PipelineError)
  | metricsAddress

def StartupError.diagnostic : StartupError → String
  | .pipeline error => error.diagnostic
  | .metricsAddress => "AddrParseError(Socket)"

-- Where the metrics are shown, if they are.
def metricsEndpoint (s : ObservabilitySettings) : Except StartupError (Option Net.Endpoint) :=
  if s.metricsEnabled then
    match Net.Endpoint.parse? s.metricsAddress with
    | some endpoint => .ok (some endpoint)
    | none => .error .metricsAddress
  else .ok none

-- A line of the log, as a value or as plain text.
inductive LogLine where
  | json (value : Json)
  | plain (text : String)

def LogLine.text : LogLine → String
  | .json value => value.print
  | .plain text => text

-- What the program leaves behind when it ends before it serves anything.
structure Ending where
  exitCode : UInt8
  output : List LogLine
  complaints : List String

-- What is at hand once nothing stands in the way of serving.
structure Ready where
  pipeline : Pipeline
  limiter : Limiter
  metrics : Option Net.Endpoint
  output : List LogLine
  complaints : List String

def target : String := "archive_admission"

-- The line that is written before anything is set up.
def startLine (settings : Settings) (settingsFile : Option String) : LogLine :=
  let message := "archive-admission starting"
  let file := quotedOption settingsFile
  let address := settings.listener.bindAddress
  let seconds := settings.timeouts.requestSeconds.toNat
  if settings.observability.logJson then
    .json (Json.ofMembers [
      ("level", .string Severity.info.name),
      ("target", .string target),
      ("fields", Json.ofMembers [
        ("message", .string message),
        ("config", .string file),
        ("bind_address", .string address),
        ("request_timeout_secs", .integer seconds)])])
  else
    .plain (Severity.info.name ++ " " ++ target ++ ": " ++ message ++ " config=" ++ file ++
      " bind_address=" ++ address ++ " request_timeout_secs=" ++ toString seconds)

-- The level that the settings name holds for this program and for the layer
-- below it.
def ownRules (level : String) : String :=
  target ++ "=" ++ level ++ ",tower_http=" ++ level

def ignored (rule : List Char) (error : RuleError) : String :=
  "ignoring \x60" ++ String.ofList rule ++ "\x60: " ++ error.message

-- Rules from outside stand in for the level of the settings unless something is
-- wrong with them.
def logRules (outerRules : Option String) (level : String) : Rules × List String :=
  match outerRules.bind Rules.parse? with
  | some rules => (rules, [])
  | none =>
    let (rules, faults) := Rules.parseLenient (ownRules level)
    (rules, faults.map fun (rule, error) => ignored rule error)

-- What is set up before anything is served. The program itself knows no tokens.
def prepare (client : StoreClient) (settings : Settings) :
    Except StartupError (Pipeline × Limiter × Option Net.Endpoint) := do
  let (pipeline, limiter) ← (Pipeline.buildWith client settings none).mapError .pipeline
  let metrics ← metricsEndpoint settings.observability
  return (pipeline, limiter, metrics)

-- The first thing that goes wrong ends the program. If nothing does, it is
-- ready to serve.
def startup (settings : Settings) (settingsFile outerRules : Option String) :
    Except Ending Ready :=
  let (rules, complaints) := logRules outerRules settings.observability.logLevel
  let output := if rules.admits target .info then [startLine settings settingsFile] else []
  match prepare StoreUrl.client settings with
  | .ok (pipeline, limiter, metrics) => .ok ⟨pipeline, limiter, metrics, output, complaints⟩
  | .error error => .error ⟨1, output, complaints ++ ["Error: " ++ error.diagnostic]⟩

-- Runs up to the point where requests would be served. `load` reads a file, and
-- `outerRules` say what is logged in place of the settings.
def run (load : String → Except LoadError Settings) (outerRules : Option String)
    (arguments : List String) : Except Ending Ready :=
  match parse arguments with
  | .error error => .error ⟨2, [], [error.message]⟩
  | .ok .help => .error ⟨0, helpText.map .plain, []⟩
  | .ok (.run none) => startup {} none outerRules
  | .ok (.run (some file)) =>
    match load file with
    | .ok settings => startup settings (some file) outerRules
    | .error error => .error ⟨1, [], ["Error: " ++ error.diagnostic]⟩

end CommandLine

end AdmissionControl
