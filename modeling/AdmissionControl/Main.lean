import AdmissionControl.CommandLine.Startup

open AdmissionControl CommandLine

-- Reads a file of settings.
def readSettings (file : String) : IO (Except LoadError Settings) := do
  try
    let octets ← IO.FS.readBinFile file
    return Settings.load (some octets.toList)
  catch error =>
    match error with
    | .noFileOrDirectory .. => return .error (.file .notFound)
    | error => return .error (.file (.other (toString error)))

def main (arguments : List String) : IO UInt32 := do
  let file :=
    match parse arguments with
    | .ok (.run file) => file
    | _ => none
  let settings ←
    match file with
    | some file => readSettings file
    | none => pure (.ok {})
  let (exitCode, output, complaints) :=
    match run (fun _ => settings) none arguments with
    | .ok ready => (0, ready.output, ready.complaints)
    | .error ending => (ending.exitCode, ending.output, ending.complaints)
  for line in output do
    IO.println line.text
  for line in complaints do
    IO.eprintln line
  return exitCode.toUInt32
