import HrirAtlas.Command.Delays
import HrirAtlas.Command.Import
import HrirAtlas.Parameters.File
import HrirAtlas.Signal.Binary64
import HrirAtlas.Yaml

/-
The commands at work on files. The first argument tells the command. A measurement file is read as a
document that maps the names of attributes to nested lists.
-/

namespace HrirAtlas.Terminal

/-! ## Files -/

/-- What is found under the name of a text file. -/
def findText (name : String) : IO (Except FileFault String) := do
  try return .ok (← IO.FS.readFile name)
  catch
    | .noFileOrDirectory .. => return .error (.missing name)
    | .inappropriateType .. => return .error (.directory name)
    | .userError reason => return .error (.undecodable reason)
    | cause => return .error (.other (toString cause))

/-- What is found under the name of a measurement file. -/
def findMeasurements (name : String) : IO (Except ContainerFault (MeasurementFile Float)) := do
  match ← findText name with
  | .error cause => return .error (.unreadable cause.message)
  | .ok text =>
    match Yaml.read (α := Float) text with
    | .error cause => return .error (.unreadable cause.message)
    | .ok setting =>
      match MeasurementFile.ofSetting? setting with
      | some file => return .ok file
      | none => return .error (.unreadable "no measurements")

/-! ## Endings -/

/-- Prints what a command leaves behind, its result apart, and gives the exit code. -/
def leave {β : Type} (o : Outcome Float β) : IO UInt32 := do
  IO.print o.printed
  match o.logText, o.made with
  | some text, name :: _ => IO.FS.withFile name .append fun file => file.putStr text
  | _, _ => for e in o.journal do IO.eprintln e.line
  match o.ending with
  | .done _ => return 0
  | .exit message =>
    IO.eprintln message
    return 1
  | .stopped cause =>
    IO.eprintln cause.message
    return 1

/-- Reports why a command line is not followed. -/
def halt (program : String) : CommandLine.Halt → IO UInt32
  | .help => do
    IO.println ("usage: " ++ program ++ " [arguments]")
    return 0
  | .misuse cause => do
    IO.eprintln (program ++ ": error: " ++ cause.message)
    return 2

/-! ## Commands -/

def computeMhr (arguments : List String) : IO UInt32 := do
  match (ImportCommand.parse arguments : Except _ (ImportCommand.Request Float)) with
  | .error cause => halt ImportCommand.program cause
  | .ok request =>
    let file ← request.parameterFile.mapM fun name => return (name, ← findText name)
    let parameters := Parameters.gather Yaml.read file request.console
    let input := match parameters with
      | .ok p => ((p.find? "input_file").getD .null).shown
      | .error _ => ""
    let found ← findMeasurements input
    leave (ImportCommand.run parameters fun _ => found)

def plotDelays (arguments : List String) : IO UInt32 := do
  match (DelaysCommand.parse arguments : Except _ (List (String × Setting Float))) with
  | .error cause => halt DelaysCommand.program cause
  | .ok values =>
    let found ← findMeasurements (DelaysCommand.textOf values "sofa_file")
    let outcome := DelaysCommand.run values fun _ => found
    let code ← leave outcome
    if let .done (some plot) := outcome.ending then
      match outcome.made with
      | name :: _ => IO.FS.writeFile name plot.listing
      | [] => IO.print plot.listing
    return code

/-- Runs the command that the first argument names. -/
def run (arguments : List String) : IO UInt32 := do
  match arguments with
  | [] =>
    IO.eprintln ("usage: " ++ ImportCommand.program ++ " or " ++ DelaysCommand.program)
    return 2
  | command :: rest =>
    if command = ImportCommand.program then computeMhr rest
    else if command = DelaysCommand.program then plotDelays rest
    else
      IO.eprintln ("unknown command: " ++ command)
      return 2

end HrirAtlas.Terminal

def main (arguments : List String) : IO UInt32 := HrirAtlas.Terminal.run arguments
