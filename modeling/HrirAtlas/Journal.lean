/-
The journal of a run: what the stages report, in order. An entry has a level, the part that wrote
it, and a text.
-/

namespace HrirAtlas

inductive Level where
  | debug | info | warning | error
deriving Repr, DecidableEq

def Level.name : Level → String
  | debug => "DEBUG"
  | info => "INFO"
  | warning => "WARNING"
  | error => "ERROR"

def Level.rank : Level → Nat
  | debug => 0
  | info => 1
  | warning => 2
  | error => 3

/-- The parts of the import that report. -/
inductive Reporter where
  | command | reader | layout | grid | loader | resampler
deriving Repr, DecidableEq

/-- The name under which a part reports. -/
def Reporter.name : Reporter → String
  | command => "compute_mhr"
  | reader => "sofa_reader"
  | layout => "sofa_layout"
  | grid => "hrir_data"
  | loader => "load_sofa"
  | resampler => "polyphase"

/-- One report. -/
structure Entry where
  level : Level
  reporter : Reporter
  text : String
deriving Repr, DecidableEq

/-- The entry as a line of a log file. -/
def Entry.line (e : Entry) : String :=
  e.level.name ++ ":hrtf." ++ e.reporter.name ++ ":" ++ e.text

abbrev Journal := List Entry

/-- The entries that a threshold lets through. -/
def Journal.from (threshold : Level) (journal : Journal) : Journal :=
  journal.filter fun e => threshold.rank ≤ e.level.rank

/-- A rule across a report. -/
def ruleLine : String := String.ofList (List.replicate 80 '-')

end HrirAtlas
