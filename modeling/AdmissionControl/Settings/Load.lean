import AdmissionControl.Settings.Check
import AdmissionControl.Settings.Decode
import AdmissionControl.Text.Percent
import AdmissionControl.Text.Quoted
import AdmissionControl.Toml.Parser

namespace AdmissionControl

open Settings Text

-- In TOML nothing is written as an empty table or array, and items that have
-- no field are passed over.
def Settings.tomlTolerance : Tolerance where
  extraItems := true
  isVoid := fun
    | .record [] => true
    | .sequence [] => true
    | _ => false

-- Why a file cannot be read as text.
inductive FileFault where
  | notFound
  | notDirectory
  | directory
  | notText
  | other (text : String)

namespace FileFault

-- The number, the kind and the text under which the system reports a fault.
def report? : FileFault → Option (Nat × String × String)
  | .notFound => some (2, "NotFound", "No such file or directory")
  | .notDirectory => some (20, "NotADirectory", "Not a directory")
  | .directory => some (21, "IsADirectory", "Is a directory")
  | .notText | .other _ => none

def message (fault : FileFault) : String :=
  match fault, fault.report? with
  | _, some (code, _, text) => text ++ " (os error " ++ toString code ++ ")"
  | .other text, none => text
  | _, none => "stream did not contain valid UTF-8"

def diagnostic (fault : FileFault) : String :=
  match fault, fault.report? with
  | _, some (code, kind, text) =>
    "Os \x7b code: " ++ toString code ++ ", kind: " ++ kind ++
      ", message: " ++ quoted text ++ " \x7d"
  | .other text, none => text
  | fault, none => "Error \x7b kind: InvalidData, message: " ++ quoted fault.message ++ " \x7d"

end FileFault

-- Why no settings could be had from a file.
inductive LoadError where
  | file (fault : FileFault)
  | unreadable
  | invalid (problems : List Problem)

def LoadError.message? : LoadError → Option String
  | .file fault => some ("IO error: " ++ fault.message)
  | .unreadable => none
  | .invalid problems =>
    some ("Validation failed: " ++ ", ".intercalate (problems.map Problem.message))

namespace Settings

-- The settings that a text spells, if nothing is wrong with them.
def parse (text : String) : Except LoadError Settings :=
  match Toml.parse? text with
  | none => .error .unreadable
  | some document =>
    match Settings.decode tomlTolerance document with
    | .error _ => .error .unreadable
    | .ok settings =>
      match check settings with
      | .ok () => .ok settings
      | .error problems => .error (.invalid problems)

-- The settings that a file holds. There may be no such file.
def load (octets : Option (List UInt8)) : Except LoadError Settings :=
  match octets with
  | none => .error (.file .notFound)
  | some octets =>
    match Text.textOfOctets? octets with
    | none => .error (.file .notText)
    | some text => parse text

end Settings

end AdmissionControl
