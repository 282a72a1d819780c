import HrirAtlas.Command.Outcome
import HrirAtlas.Parameters
import HrirAtlas.Report

/-
The command that imports a measurement file. Its parameters come from the defaults, from a
parameter file that the command line may name, and from the command line. Faults in the parameters
and faults of the import end the command with a message.
-/

namespace HrirAtlas.ImportCommand

open CommandLine

variable {α : Type}

/-- The name under which the command reports misuse. -/
def program : String := "compute-mhr"

/-! ## Command line -/

/-- The switch that names the parameter file. -/
def fileSwitch : Switch α := { spellings := ["-yp", "--yaml_params"], key := "yaml_params", kind := .text }

/-- The switches for the parameters themselves. -/
def switches : List (Switch α) := [
  { spellings := ["-i", "--input_file"], key := "input_file", kind := .text },
  { spellings := ["-t", "--threads"], key := "threads", kind := .whole },
  { spellings := ["-f", "--fft_size"], key := "fft_size", kind := .whole },
  { spellings := ["-tr", "--trunc_size"], key := "trunc_size", kind := .whole },
  { spellings := ["-r", "--out_rate"], key := "out_rate", kind := .whole },
  { spellings := ["-m", "--channel_mode"], key := "channel_mode", kind := .text },
  { spellings := ["-v", "--verbose"], key := "verbose", kind := .flag },
  { spellings := ["-log", "--logfile"], key := "logfile", kind := .text }]

/-- What a command line asks for. -/
structure Request (α : Type) where
  parameterFile : Option String
  console : List (String × Setting α)

/-- Reads a command line: first the parameter file, then from what is left all other switches. -/
def parse (arguments : List String) : Except Halt (Request α) := do
  let (own, rest) ← parseKnown { switches := [(fileSwitch : Switch α)] } arguments
  let console ← CommandLine.parse { switches := [Switch.help, fileSwitch] ++ switches } rest
  let parameterFile := match own with
    | [(_, .text name)] => some name
    | _ => none
  return { parameterFile, console }

/-! ## Running -/

variable [Signal α]

/-- The report of the parameters. -/
def setupEntries (p : Parameters α) : Journal :=
  let lines := p.entries.map fun entry => entry.1.shown ++ " : " ++ entry.2.shown
  ([ruleLine, "SETUP:", ruleLine] ++ lines).map fun text => ⟨.info, .command, text⟩

/-- What the parameters ask of an import. -/
def options (p : Parameters α) : ImportOptions α where
  threads := (p.find? "threads").getD .null
  fftSize := (p.find? "fft_size").getD .null
  truncSize := (p.find? "trunc_size").getD .null
  outRate := (p.find? "out_rate").getD .null
  channelMode := (p.find? "channel_mode").getD .null

/-- Whether informative entries are shown. -/
def isVerbose (p : Parameters α) : Bool := ((p.find? "verbose").getD .null).isGiven

/-- The name of the log file: there is one only for a verbose command, and only where it is given. -/
def logFile (p : Parameters α) : Except (Fault α) (Option String) :=
  let file := (p.find? "logfile").getD .null
  if isVerbose p && file.isGiven then
    match file with
    | .text name => .ok (some name)
    | other => .error (.setting (.noFileName other.kind))
  else .ok none

/-- The import of the parameters: its ending, the whole journal, and what it printed. -/
def runImport (p : Parameters α) (found : Setting α → Except ContainerFault (MeasurementFile α)) :
    Ending α (DataSet α) × Journal × String :=
  match (p.find? "input_file").getD .null with
  | .null => (.exit "\n[ERROR] missing input file.", [], "")
  | input =>
    match Import.session input.shown (found input) (options p) with
    | (s, .ok d) => (.done d, s.journal ++ Report.summary d, s.printed)
    | (s, .error cause) =>
      if cause.isImportFault then
        (.exit ("\n[ERROR] " ++ cause.message), s.journal ++ [⟨.error, .command, "compute mhr: " ++ cause.message⟩],
          s.printed)
      else (.stopped cause, s.journal, s.printed)

/-- Runs the command with its parameters, as far as they are in order, and with what is found under
the name of a measurement file. -/
def run (parameters : Except (Fault α) (Parameters α))
    (found : Setting α → Except ContainerFault (MeasurementFile α)) : Outcome α (DataSet α) :=
  match parameters with
  | .error cause =>
    if cause.isParameterFault then { ending := .exit ("\n[ERROR] invalid params: " ++ cause.message) }
    else { ending := .stopped cause }
  | .ok p =>
    match logFile p with
    | .error cause => { ending := .stopped cause }
    | .ok log =>
      let (ending, journal, printed) := runImport p found
      let shown := (setupEntries p ++ journal).from (if isVerbose p then .info else .warning)
      { ending, journal := shown, printed, made := log.toList
        logText := log.map fun _ => String.join (shown.map fun e => e.line ++ "\n") }

end HrirAtlas.ImportCommand
