import HrirAtlas.Grid
import HrirAtlas.Journal

/-
A session: the data set that an import works on, with what the import reports. A stage changes the
session and may stop with a fault; the session then stays as the stage left it.
-/

namespace HrirAtlas

/-- The data set of an import, its journal, what it printed, and how far its present task is. -/
structure Session (α : Type) where
  data : DataSet α
  journal : Journal := []
  printed : String := ""
  count : Nat := 0
deriving Repr, DecidableEq

/-- A step of an import. -/
abbrev Stage (α β : Type) := EStateM (Fault α) (Session α) β

namespace Stage

variable {α β : Type}

/-- Stops with a fault. -/
def fail (cause : Fault α) : Stage α β := throw cause

/-- The value, or the fault. -/
def ofExcept : Except (Fault α) β → Stage α β
  | .ok value => pure value
  | .error cause => throw cause

/-- The value, or the fault of a shape. -/
def ofShape (answer : Except ShapeFault β) : Stage α β := ofExcept (answer.mapError .shape)

/-- The value, or the fault of arithmetic. -/
def ofArithmetic (answer : Except ArithmeticFault β) : Stage α β := ofExcept (answer.mapError .arithmetic)

/-- Adds an entry to the journal. -/
def report (level : Level) (reporter : Reporter) (text : String) : Stage α Unit :=
  modify fun s => { s with journal := s.journal ++ [⟨level, reporter, text⟩] }

/-- Adds entries to the journal. -/
def reportAll (entries : Journal) : Stage α Unit :=
  modify fun s => { s with journal := s.journal ++ entries }

/-- The data set. -/
def data : Stage α (DataSet α) := return (← get).data

/-- Puts another data set in place. -/
def setData (data : DataSet α) : Stage α Unit := modify fun s => { s with data }

/-- Counts one more item of the present task. -/
def tick : Stage α Unit := modify fun s => { s with count := s.count + 1 }

/-- Adds to the printed text. -/
def print (text : String) : Stage α Unit := modify fun s => { s with printed := s.printed ++ text }

end Stage

/-- The last line that shows the progress of a task. -/
def progressLine (label : String) (count total : Int) : String :=
  "\r" ++ label ++ "... " ++ toString count ++ " of " ++ toString total ++ "\n"

/-- Runs a task from a count of zero and prints how far it came, whether it ends or stops. -/
def Stage.withProgress {α : Type} (label : String) (total : Nat) (task : Stage α Unit) : Stage α Unit :=
  fun s =>
    match task { s with count := 0 } with
    | .ok () t => .ok () { t with printed := t.printed ++ progressLine label t.count total }
    | .error cause t => .error cause { t with printed := t.printed ++ progressLine label t.count total }

end HrirAtlas
