import HrirAtlas.Command.Outcome
import HrirAtlas.Report
import HrirAtlas.Text.LowerCase

/-
The command that reports the delays of a measurement file: as a table, or as a plot of one field and
channel, which is shown or saved.
-/

namespace HrirAtlas.DelaysCommand

open CommandLine

variable {α : Type}

/-- The name under which the command reports misuse. -/
def program : String := "plot-delays"

/-! ## Command line -/

def grammar : Grammar α where
  operands := ["sofa_file"]
  switches := [
    Switch.help,
    { spellings := ["--field"], key := "field", kind := .whole, unused := .int 0 },
    { spellings := ["--channel"], key := "channel", kind := .whole, unused := .int 0 },
    { spellings := ["--threads"], key := "threads", kind := .whole, unused := .int 2 },
    { spellings := ["--fft_size"], key := "fft_size", kind := .whole, unused := .int 65536 },
    { spellings := ["--csv"], key := "csv", kind := .flag, unused := .flag false },
    { spellings := ["--save"], key := "save", kind := .text },
    { spellings := ["--title"], key := "title", kind := .text, unused := .text "Delay vs Azimuth" }]

/-- Reads a command line. -/
def parse (arguments : List String) : Except Halt (List (String × Setting α)) :=
  CommandLine.parse grammar arguments

/-! ## Running -/

/-- The value of a switch. -/
def valueOf (values : List (String × Setting α)) (key : String) : Setting α :=
  ((values.find? fun entry => entry.1 == key).map Prod.snd).getD .null

/-- The whole number of a switch. -/
def wholeOf (values : List (String × Setting α)) (key : String) : Int :=
  match valueOf values key with
  | .number (.int n) => n
  | _ => 0

/-- The text of a switch; empty where it is not given. -/
def textOf (values : List (String × Setting α)) (key : String) : String :=
  match valueOf values key with
  | .text s => s
  | _ => ""

/-- The ending of a file name: what follows the last dot of its last part, dots in front apart. -/
def nameEnding (name : List Char) : List Char :=
  let stem := (name.reverse.takeWhile (· != '/')).reverse.dropWhile (· == '.')
  if stem.contains '.' then (stem.reverse.takeWhile (· != '.')).reverse else []

/-- The name of the file that a plot is saved to: its ending tells the kind of image, and a name
without one gets one. -/
def imageName (name : String) : Except (Fault α) String :=
  let ending := Text.lower (String.ofList (nameEnding name.toList))
  if ending.isEmpty then .ok (String.ofList (name.toList.reverse.dropWhile (· == '.')).reverse ++ ".png")
  else if Fault.imageEndings.contains ending then .ok name
  else .error (.imageFormat ending)

variable [Signal α]

/-- Shows the delays of an imported data set: the plot, if there is one, and what is printed. -/
def present (values : List (String × Setting α)) (d : DataSet α) :
    Except (Fault α) (Option (Report.Plot α) × String × List String) := do
  if (valueOf values "csv").isGiven then
    let table ← (Report.table d).mapError .shape
    return (none, table, [])
  else
    let plot ← (Report.plot d (wholeOf values "field") (wholeOf values "channel") (textOf values "title")).mapError .shape
    match textOf values "save" with
    | "" => return (some plot, "", [])
    | name => return (some plot, "Plot saved to " ++ name ++ "\n", [← imageName name])

/-- Runs the command with the values of its command line and with what is found under the name of
the measurement file. -/
def run (values : List (String × Setting α)) (found : String → Except ContainerFault (MeasurementFile α)) :
    Outcome α (Option (Report.Plot α)) :=
  let name := textOf values "sofa_file"
  let options : ImportOptions α :=
    { threads := valueOf values "threads", fftSize := valueOf values "fft_size", truncSize := .int 1 }
  let (s, result) := Import.session name (found name) options
  let journal := s.journal.from .warning
  match result.bind (present values) with
  | .error cause => { ending := .stopped cause, journal, printed := s.printed }
  | .ok (plot, text, made) => { ending := .done plot, journal, printed := s.printed ++ text, made }

end HrirAtlas.DelaysCommand
