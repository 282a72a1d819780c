import HrirAtlas.CommandLine
import HrirAtlas.Import
import HrirAtlas.MeasurementFile

/-
What a command leaves behind: how it ended, what it printed, the journal as far as it is shown, and
the files that it made.
-/

namespace HrirAtlas

/-- How a command ends. -/
inductive Ending (α β : Type) where
  | done (result : β)
  /-- It leaves with a message. -/
  | exit (message : String)
  /-- It stops with a fault that it does not handle. -/
  | stopped (cause : Fault α)

/-- What a command leaves behind. -/
structure Outcome (α β : Type) where
  ending : Ending α β
  journal : Journal := []
  printed : String := ""
  /-- The names of the files that it made. -/
  made : List String := []
  /-- The text of the log file, where there is one. -/
  logText : Option String := none

namespace Import

variable {α : Type} [Signal α]

/-- Imports the measurement file that was found under a name. -/
def load (name : String) (found : Except ContainerFault (MeasurementFile α)) (o : ImportOptions α) :
    Stage α Unit := do
  Stage.report .info .loader ("load sofa: " ++ name)
  let (entries, m) := MeasurementFile.read name found
  Stage.reportAll entries
  run (← Stage.ofExcept m) o

/-- The session of an import from its start, and the data set or the fault that ends it. -/
def session (name : String) (found : Except ContainerFault (MeasurementFile α)) (o : ImportOptions α) :
    Session α × Except (Fault α) (DataSet α) :=
  match load name found o { data := DataSet.fresh } with
  | .ok () s => (s, .ok s.data)
  | .error cause s => (s, .error cause)

end Import

end HrirAtlas
