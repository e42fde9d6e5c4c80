import AdmissionControl.Text.Likeness
import AdmissionControl.Text.Split

namespace AdmissionControl.CommandLine

open Text

-- What is asked for on the command line: help, or a run with the settings of a
-- file or with the defaults.
inductive Command where
  | help
  | run (settingsFile : Option String)

-- Which form of use an error message recalls.
inductive Usage where
  | general
  | withOptions (options : List String)

def program : String := "archive-admission"

def Usage.text : Usage → String
  | .general => "Usage: " ++ program ++ " [OPTIONS]"
  | .withOptions options => "Usage: " ++ " ".intercalate (program :: options)

inductive ArgumentError where
  | unexpectedArgument (argument : String) (similar : Option String) (usage : Usage)
  | unexpectedValue (value option : String) (usage : Usage)
  | missingValue
  | repeated

def configOption : String := "--config <CONFIG>"

namespace ArgumentError

def paragraphs : ArgumentError → List String
  | .unexpectedArgument argument similar usage =>
    ["error: unexpected argument '" ++ argument ++ "' found"] ++
      (similar.map fun option => "  tip: a similar argument exists: '" ++ option ++ "'").toList ++
      [usage.text]
  | .unexpectedValue value option usage =>
    ["error: unexpected value '" ++ value ++ "' for '" ++ option ++
      "' found; no more were expected", usage.text]
  | .missingValue =>
    ["error: a value is required for '" ++ configOption ++ "' but none was supplied"]
  | .repeated =>
    ["error: the argument '" ++ configOption ++ "' cannot be used multiple times",
      Usage.general.text]

def message (error : ArgumentError) : String :=
  "\n\n".intercalate (error.paragraphs ++ ["For more information, try '--help'."])

end ArgumentError

-- What has been read so far. An option whose value may still come, or has come
-- but has not been looked at, is pending.
structure Reading where
  config : Option String := none
  pending : Option (Option String) := none

namespace Reading

-- Looks at the pending option.
def settle (reading : Reading) : Except ArgumentError Reading :=
  match reading.pending with
  | none => .ok reading
  | some none => .error .missingValue
  | some (some value) =>
    if reading.config.isSome then .error .repeated
    else if value.isEmpty then .error .missingValue
    else .ok { config := some value }

-- The usage to recall once something unknown is met. A repeated option is
-- forgotten altogether.
def usage (reading : Reading) (similar : Option String) : Usage :=
  let given :=
    match reading.pending with
    | some (some _) => reading.config.isNone
    | _ => reading.config.isSome
  let options :=
    (if given then [configOption] else []) ++
      (match similar with
      | some "config" => if given then [] else [configOption]
      | some name => ["--" ++ name]
      | none => [])
  if options.isEmpty then .general else .withOptions options

end Reading

-- Goes through the arguments. Help is given as soon as it is asked for.
def read (reading : Reading) : List String → Except ArgumentError Command
  | [] => do return .run (← reading.settle).config
  | "--" :: rest =>
    match rest with
    | [] => do return .run (← reading.settle).config
    | argument :: _ => .error (.unexpectedArgument argument none .general)
  | argument :: rest =>
    match argument.toList with
    | '-' :: '-' :: option =>
      let (name, value) :=
        match cutAt? '=' option with
        | some (name, value) => (String.ofList name, some (String.ofList value))
        | none => (String.ofList option, none)
      if name = "config" then do
        let reading ← reading.settle
        let reading := { reading with pending := some value }
        read (← if value.isSome then reading.settle else .ok reading) rest
      else if name = "help" then
        match value with
        | some value =>
          let given := if reading.config.isSome then .withOptions [configOption] else .general
          .error (.unexpectedValue value "--help" given)
        | none => do
          let _ ← reading.settle
          return .help
      else
        let similar := mostLike? name ["config", "help"]
        .error (.unexpectedArgument ("--" ++ name) (similar.map ("--" ++ ·))
          (reading.usage similar))
    | '-' :: 'c' :: value => do
      let reading ← reading.settle
      if value.isEmpty then read { reading with pending := some none } rest
      else
        let value := if value.head? = some '=' then value.tail else value
        read (← { reading with pending := some (some (String.ofList value)) }.settle) rest
    | '-' :: 'h' :: _ => do
      let _ ← reading.settle
      return .help
    | '-' :: c :: _ => .error (.unexpectedArgument ("-" ++ String.singleton c) none .general)
    | _ =>
      if reading.pending = some none then
        read { reading with pending := some (some argument) } rest
      else .error (.unexpectedArgument argument none .general)

def parse (arguments : List String) : Except ArgumentError Command := read {} arguments

def helpText : List String := [
  "Admission control front for the archive API",
  "",
  Usage.general.text,
  "",
  "Options:",
  "  -c, --config <CONFIG>  Path to the TOML configuration file. Built-in defaults when omitted",
  "  -h, --help             Print help"]

end AdmissionControl.CommandLine
