import HrirAtlas.Journal
import HrirAtlas.Measurement
import HrirAtlas.Tensor.Nested
import HrirAtlas.Text.LowerCase

/-
Measurement files: named attributes, of which some must be present, have values of a usable shape,
and agree with each other. What is accepted has one emitter, one or two receivers, a response for
each position and receiver, and delays either for the receivers or for each response.
-/

namespace HrirAtlas

/-- The value of an attribute: given as nested lists, or already an array. -/
inductive Attribute (α : Type) where
  | given (value : Setting α)
  | array (values : Tensor α)

/-- How a check of a file against the conventions of its format ends. -/
inductive Verdict where
  | passed
  /-- The file does not keep to a convention. -/
  | complaint (reason : String)
  /-- The check stops, since it cannot go on reading. -/
  | stopped (cause : ContainerFault)
deriving Repr, DecidableEq

/-- A measurement file. -/
structure MeasurementFile (α : Type) where
  attributes : List (String × Attribute α)
  verdict : Verdict := .passed

namespace Attribute

variable {α : Type} [Scalar α]

/-- The array that an attribute stands for. -/
def tensor : Attribute α → Except (Fault α) (Tensor α)
  | given value => Nested.tensor value
  | array values => .ok values

/-- The shape of an attribute, whatever its elements. -/
def shape : Attribute α → Except (Fault α) (List Nat)
  | given value => (Nested.shape? value).mapError .shape
  | array values => .ok values.shape

/-- The text of an element of an array: a whole number keeps its point. -/
def elementText (x : α) : String :=
  match (Scalar.text x).toList.reverse with
  | '0' :: '.' :: whole => String.ofList ('.' :: whole).reverse
  | _ => Scalar.text x

/-- The text of the part of an array with the given shape that begins at an element: rows between
brackets. -/
def partText (data : Array α) : List Nat → Nat → String
  | [], start => (data[start]?).elim "" elementText
  | length :: rest, start =>
    let gap := if rest.isEmpty then " " else String.ofList (List.replicate rest.length '\n') ++ " "
    let size := rest.foldl (· * ·) 1
    "[" ++ gap.intercalate ((List.range length).map fun k => partText data rest (start + k * size)) ++ "]"

/-- The text of an attribute. -/
def text : Attribute α → String
  | given value => value.shown
  | array ⟨[], data⟩ => (data[0]?).elim "" Scalar.text
  | array values => partText values.data values.shape 0

/-- The text of an attribute, which is empty when the attribute is not given. -/
def textIfGiven : Attribute α → Except (Fault α) String
  | given value => .ok (if value.isGiven then value.shown else "")
  | array values =>
    match values.data.toList with
    | [x] => .ok (if Scalar.isZero x then "" else (array values).text)
    | several => .error (.shape (.ambiguous several.isEmpty))

end Attribute

namespace MeasurementFile

variable {α : Type}

/-- The measurement file whose attributes are the entries of a mapping that have names; nothing else
is a measurement file. -/
def ofSetting? : Setting α → Option (MeasurementFile α)
  | .map entries => some { attributes := entries.filterMap fun entry =>
      match entry.1 with
      | .text name => some (name, .given entry.2)
      | _ => none }
  | _ => none

def find? (f : MeasurementFile α) (name : String) : Option (Attribute α) :=
  (f.attributes.find? fun entry => entry.1 == name).map Prod.snd

/-- An attribute that must be present. -/
def get (f : MeasurementFile α) (name : String) : Except (Fault α) (Attribute α) :=
  match f.find? name with
  | some value => .ok value
  | none => .error (.missingAttribute name)

/-! ## The parts of a measurement set -/

variable [Trig α]

/-- The source positions; they are Cartesian unless the file says that they are spherical. -/
def positions (f : MeasurementFile α) : Except (Fault α) (List (Cartesian α)) := do
  let rows ← (← (← f.get "SourcePosition").tensor).triples.mapError .shape
  match Text.lower ((f.find? "SourcePosition_Type").elim "cartesian" Attribute.text) with
  | "spherical" => return rows.map fun (azimuth, elevation, distance) => Spherical.toCartesian ⟨azimuth, elevation, distance⟩
  | "cartesian" => return rows.map fun (x, y, z) => ⟨x, y, z⟩
  | name => throw (.format (.positionType name))

/-- The number of emitters: the rows of a table of positions. -/
def emitters (f : MeasurementFile α) : Except (Fault α) Nat := do
  match ← (← f.get "EmitterPosition").shape with
  | rows :: _ :: _ => return rows
  | _ => return 1

/-- The responses to a number of positions, by measurement, receiver and sample. -/
def responses (f : MeasurementFile α) (measurements : Nat) : Except (Fault α) (Tensor α × Nat) := do
  let responses ← (← f.get "Data_IR").tensor
  match responses.shape with
  | [count, receivers, _] =>
    if count ≠ measurements then throw (.format (.responseShape responses.shape measurements))
    if 2 < receivers ∨ receivers < 1 then throw (.format (.receivers receivers))
    return (responses, receivers)
  | shape => throw (.format (.responseShape shape measurements))

/-- The one sample rate in hertz. -/
def sampleRate (f : MeasurementFile α) : Except (Fault α) α := do
  let unit ← (f.find? "Data_SamplingRate_Units").elim (.ok "") Attribute.textIfGiven
  if unit.isEmpty then throw (.format .missingRateUnit)
  if Text.lower unit ≠ "hertz" then throw (.format (.rateUnit unit))
  let rates ← (← f.get "Data_SamplingRate").tensor
  match rates.data.toList with
  | [rate] =>
    if rate < Scalar.ofInt minRate ∨ rate > Scalar.ofInt maxRate then throw (.format (.rateRange rate))
    return rate
  | _ => throw (.format (.rateShape rates.shape))

/-- The delays in samples for so many measurements and receivers: none where the file has none. A
single row may be given without its brackets. -/
def delays (f : MeasurementFile α) (measurements receivers : Nat) :
    Except (Fault α) (DelayKind × Option (Tensor α)) := do
  match f.find? "Data_Delay" with
  | none | some (.given .null) => return (.absent, none)
  | some entry =>
    let delays ← entry.tensor
    if delays.data.isEmpty then return (.absent, none)
    let delays := if delays.shape = [receivers] then { delays with shape := [1, receivers] } else delays
    if delays.shape = [1, receivers] then return (.perReceiver, some delays)
    else if delays.shape = [measurements, receivers] then return (.perMeasurement, some delays)
    else throw (.format (.delayShape delays.shape))

/-! ## The set -/

/-- The warning for a file without an entry for delays. -/
def delayEntries (f : MeasurementFile α) : Journal :=
  match f.find? "Data_Delay" with
  | none | some (.given .null) => [⟨.warning, .reader, "sofa reader: missing delay dimensions"⟩]
  | some _ => []

/-- The report of an accepted set. -/
def summaryEntry (m : MeasurementSet α) : Entry :=
  let length (axis : Nat) := toString (m.responses.shape.getD axis 0)
  ⟨.info, .reader, "sofa reader: " ++ length 0 ++ " measurements, " ++ length 1 ++ " receivers, " ++ length 2
    ++ " samples @ " ++ Scalar.text m.sampleRate ++ " Hz"⟩

/-- The measurement set that a file holds. -/
def measurementSet (f : MeasurementFile α) : Except (Fault α) (MeasurementSet α) := do
  let positions ← f.positions
  let emitters ← f.emitters
  if emitters ≠ 1 then throw (.format (.emitters emitters))
  let (responses, receivers) ← f.responses positions.length
  let sampleRate ← f.sampleRate
  let (delayKind, delays) ← f.delays positions.length receivers
  return { positions, responses, sampleRate, delays, delayKind, emitters }

/-- The measurement set that a file holds, with the report; a file that is refused reports nothing. -/
def accept (f : MeasurementFile α) : Journal × Except (Fault α) (MeasurementSet α) :=
  match f.measurementSet with
  | .error cause => ([], .error cause)
  | .ok m => (f.delayEntries ++ [summaryEntry m], .ok m)

/-- The measurement set in what was found under a name: a file, or the reason why it cannot be read.
A file that does not keep to the conventions of its format is read all the same, but for one whose
check stops. -/
def read (name : String) (found : Except ContainerFault (MeasurementFile α)) :
    Journal × Except (Fault α) (MeasurementSet α) :=
  match found with
  | .error (.unreadable reason) => ([], .error (.format (.unreadable name reason)))
  | .error cause => ([], .error (.container cause))
  | .ok f =>
    match f.verdict with
    | .passed => f.accept
    | .complaint reason =>
      let (entries, m) := f.accept
      (⟨.warning, .reader, "Supposedly malformed source file '" ++ name ++ "': " ++ reason⟩ :: entries, m)
    | .stopped cause => ([], .error (.container cause))

end MeasurementFile

end HrirAtlas
