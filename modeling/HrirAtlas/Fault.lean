import HrirAtlas.Layout
import HrirAtlas.Setting
import HrirAtlas.Tensor
import HrirAtlas.Yaml.Fault

/-
Every reason for which an import stops. A fault keeps its cause; `message` gives the wording and
`kind` the family. The first four families are those of the import itself: a set of measurements
that is not supported, does not fit a grid, fills a slot twice, or leaves one empty.
-/

namespace HrirAtlas

/-! ## Causes -/

/-- Why the contents of a measurement file are not supported. -/
inductive FormatFault (α : Type) where
  | missingRateUnit
  | rateUnit (unit : String)
  | rateShape (shape : List Nat)
  | rateRange (rate : α)
  | delayShape (shape : List Nat)
  | responseShape (shape : List Nat) (measurements : Nat)
  | positionType (name : String)
  | emitters (count : Nat)
  | receivers (count : Nat)
  | unreadable (file reason : String)
  /-- Responses with more samples than the transform has points. -/
  | tooManyPoints (points : Nat) (fftSize : Number α)
  /-- Responses with fewer samples than asked for. -/
  | tooFewPoints (points : Nat) (truncSize : Number α)
deriving Repr, DecidableEq

/-- Sample rates that are supported, in hertz. -/
def minRate : Int := 32000

def maxRate : Int := 96000

def FormatFault.message {α : Type} [Scalar α] : FormatFault α → String
  | missingRateUnit => "Missing sample rate unit type"
  | rateUnit unit => "Unsupported sample rate unit type: " ++ unit
  | rateShape shape => "Unsupported sample rate dimensions: " ++ shapeText ", " shape
  | rateRange rate =>
    "Sample rate out of range: " ++ Decimal.fixed false 6 (Scalar.reading rate) ++ " (expected "
      ++ toString minRate ++ " to " ++ toString maxRate ++ ")"
  | delayShape shape => "Unsupported delay dimensions: " ++ shapeText ", " shape
  | responseShape shape measurements =>
    "Unsupported IR dimensions: " ++ shapeText ", " shape ++ " (expected M,R,N with M=" ++ toString measurements ++ ")"
  | positionType name => "Unsupported source position type: " ++ name
  | emitters count => toString count ++ " emitters not supported"
  | receivers count => toString count ++ " receivers not supported"
  | unreadable file reason => "Could not load " ++ file ++ ": " ++ reason
  | tooManyPoints points fftSize =>
    "Sample points exceeds the FFT size (" ++ toString points ++ " > " ++ fftSize.shown ++ ")."
  | tooFewPoints points truncSize =>
    "Sample points is below the truncation size (" ++ toString points ++ " < " ++ truncSize.shown ++ ")."

/-- Why the slots of a grid do not all have a response. -/
inductive CoverageFault where
  /-- A field without a single response. -/
  | emptyField (field : Nat)
  /-- An empty slot above the lowest row with a response. -/
  | emptySlot (field row column : Nat)
  /-- A row below that which has no row to be mirrored from. -/
  | noMirror (field row mirror : Nat)
deriving Repr, DecidableEq

def CoverageFault.message : CoverageFault → String
  | emptyField field => "Missing source references [ " ++ toString field ++ ", *, * ]."
  | emptySlot field row column =>
    "Missing source reference [ " ++ toString field ++ ", " ++ toString row ++ ", " ++ toString column ++ " ]."
  | noMirror field row mirror =>
    "No mirror source for [ " ++ toString field ++ ", " ++ toString row ++ ", * ] (mirror elevation "
      ++ toString mirror ++ ")."

/-- Why a parameter is refused. -/
inductive ParameterFault where
  | fftSize (n : Int)
  | truncSize (shown : String)
  | threads (shown : String)
  | outRate (shown : String)
  | channelMode (shown : String)
  /-- A parameter file that holds no mapping. -/
  | noMapping (file : String)
deriving Repr, DecidableEq

def ParameterFault.message : ParameterFault → String
  | fftSize n => "FFT size must be a power of two: " ++ toString n
  | truncSize shown => "invalid truncation size: " ++ shown
  | threads shown => "at least one thread is required: " ++ shown
  | outRate shown => "invalid output rate: " ++ shown
  | channelMode shown => "unsupported channel mode: " ++ shown
  | noMapping file => "invalid yaml params file: " ++ file

/-- Why a file cannot be opened. -/
inductive FileFault where
  | missing (name : String)
  | directory (name : String)
  | throughFile (name : String)
  /-- Any other refusal of the system. -/
  | other (reason : String)
  /-- Bytes that are no text. -/
  | undecodable (reason : String)
deriving Repr, DecidableEq

def FileFault.message : FileFault → String
  | missing name => "[Errno 2] No such file or directory: " ++ Text.quoted name
  | directory name => "[Errno 21] Is a directory: " ++ Text.quoted name
  | throughFile name => "[Errno 20] Not a directory: " ++ Text.quoted name
  | other reason | undecodable reason => reason

/-- Why a measurement file cannot be read. -/
inductive ContainerFault where
  /-- The file cannot be opened, or holds no measurements. -/
  | unreadable (reason : String)
  /-- An entry of the file is missing. -/
  | entry (key : String)
  /-- Any other failure of the file's reader. -/
  | other (kind reason : String)
deriving Repr, DecidableEq

/-! ## Faults -/

/-- Why an import stops. -/
inductive Fault (α : Type) where
  | format (cause : FormatFault α)
  | layout (cause : LayoutFault α)
  /-- Two measurements for one slot; the position is that of the second. -/
  | duplicate (azimuth elevation distance : α)
  | coverage (cause : CoverageFault)
  | arithmetic (cause : ArithmeticFault)
  | shape (cause : ShapeFault)
  | setting (cause : SettingFault)
  | parameter (cause : ParameterFault)
  /-- A parameter that is not there. -/
  | missingParameter (name : String)
  /-- An attribute that a measurement file lacks. -/
  | missingAttribute (name : String)
  /-- A number too large for a scalar. -/
  | hugeNumber
  /-- Rates between which there is no conversion. -/
  | rates (source target : Int)
  /-- An ending that no kind of image has. -/
  | imageFormat (ending : String)
  | file (cause : FileFault)
  | document (cause : Yaml.Fault)
  | container (cause : ContainerFault)
deriving Repr, DecidableEq

/-- The families of faults. -/
inductive FaultKind where
  | format | layout | duplicate | coverage
  | zeroDivision | overflow | value | type | index | key | attribute
  | missingFile | directory | throughFile | memory
  | character | token | structural | reference | construction
  | unreadable
  | other (name : String)
deriving Repr, DecidableEq

namespace Fault

variable {α : Type}

def kind : Fault α → FaultKind
  | format _ => .format
  | layout _ => .layout
  | duplicate .. => .duplicate
  | coverage _ => .coverage
  | arithmetic .divisionByZero => .zeroDivision
  | arithmetic .nanToInteger => .value
  | arithmetic .infinityToInteger => .overflow
  | shape .absent => .type
  | shape cause => if cause.isIndexFault then .index else if cause.isMemoryFault then .memory else .value
  | setting cause => if cause.isValueFault then .value else .type
  | parameter _ => .value
  | missingParameter _ => .key
  | missingAttribute _ => .attribute
  | hugeNumber => .overflow
  | rates .. => .value
  | imageFormat _ => .value
  | file (.missing _) => .missingFile
  | file (.directory _) => .directory
  | file (.throughFile _) => .throughFile
  | file (.other _) => .unreadable
  | file (.undecodable _) => .value
  | document .character => .character
  | document .token => .token
  | document .structural => .structural
  | document .reference => .reference
  | document .value => .construction
  | document .codePoint | document (.setting _) | document (.calendar _) => .value
  | document (.flag _) => .key
  | document .noDigits => .index
  | document .noInstant => .attribute
  | container (.unreadable _) => .unreadable
  | container (.entry _) => .key
  | container (.other name _) => .other name

/-- Whether the fault is one of the import itself. -/
def isImportFault (fault : Fault α) : Bool :=
  match fault.kind with
  | .format | .layout | .duplicate | .coverage => true
  | _ => false

/-- Whether a command with bad parameters may name the fault and leave: files that do not open,
and wrong values and kinds of values. -/
def isParameterFault (fault : Fault α) : Bool :=
  match fault.kind with
  | .missingFile | .directory | .throughFile | .unreadable | .value | .type => true
  | _ => false

variable [Scalar α]

/-- The endings of the kinds of images that can be written. -/
def imageEndings : List String :=
  ["eps", "jpeg", "jpg", "pdf", "pgf", "png", "ps", "raw", "rgba", "svg", "svgz", "tif", "tiff", "webp"]

/-- A coordinate with six decimals. -/
private def coordinate (x : α) : String := Decimal.fixed false 6 (Scalar.reading x)

def message : Fault α → String
  | format cause => cause.message
  | layout cause => cause.message
  | duplicate azimuth elevation distance =>
    "Multiple measurements near [ a=" ++ coordinate azimuth ++ ", e=" ++ coordinate elevation ++ ", r="
      ++ coordinate distance ++ " ]."
  | coverage cause => cause.message
  | arithmetic .divisionByZero => "float division by zero"
  | arithmetic .nanToInteger => "cannot convert float NaN to integer"
  | arithmetic .infinityToInteger => "cannot convert float infinity to integer"
  | shape cause => cause.message
  | setting cause => cause.message
  | parameter cause => cause.message
  | missingParameter name => Text.quoted name
  | missingAttribute name => "'Sofa' object has no attribute " ++ Text.quoted name
  | hugeNumber => "int too large to convert to float"
  | rates source target => "resampler: invalid rates " ++ toString source ++ " -> " ++ toString target
  | imageFormat ending =>
    "Format " ++ Text.quoted ending ++ " is not supported (supported formats: "
      ++ ", ".intercalate imageEndings ++ ")"
  | file cause => cause.message
  | document cause => cause.message
  | container (.unreadable reason) => reason
  | container (.entry key) => Text.quoted key
  | container (.other _ reason) => reason

end Fault

/-- The fault of a setting that is no integer. -/
def Setting.IntegerFault.toFault {α : Type} : Setting.IntegerFault → Fault α
  | arithmetic fault => .arithmetic fault
  | setting fault => .setting fault

end HrirAtlas
