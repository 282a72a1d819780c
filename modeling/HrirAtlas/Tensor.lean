import HrirAtlas.Power
import HrirAtlas.Scalar

/-
Arrays with a shape. The values of an array stand in row-major order, the last axis running
fastest. Taking parts of an array and writing into a row can fail on the shapes involved; those
causes are `ShapeFault`.
-/

namespace HrirAtlas

/-- Why an array, a list or a row does not have the part that is asked for. -/
inductive ShapeFault where
  /-- An index beyond an axis. -/
  | axisIndex (index : Int) (axis size : Nat)
  /-- An axis that the shape does not have. -/
  | missingAxis
  /-- More indices than axes. -/
  | indices (axes given : Nat)
  /-- An index beyond a list. -/
  | listIndex
  /-- An index beyond a list that was to be written to. -/
  | listTarget
  /-- A part of something that is not there. -/
  | absent
  /-- Values of one shape cannot fill a place of another. -/
  | broadcast (values place : List Nat)
  /-- A count of values that does not come in threes. -/
  | triples (size : Nat)
  /-- Lists that agree in their shape only up to an axis. -/
  | ragged (shape : List Nat)
  /-- Lists nested deeper than an array has axes. -/
  | tooDeep (limit : Nat)
  /-- A size below zero. -/
  | negativeSize
  /-- An axis longer than an index can reach. -/
  | hugeAxis
  /-- More values than can be addressed. -/
  | hugeSize
  /-- More values than there is memory for. -/
  | noMemory (shape : List Nat)
  /-- No sample to look for a peak in. -/
  | noSamples
  /-- A transform over fewer than one point. -/
  | noPoints (points : Int)
  /-- A pool with fewer than one worker. -/
  | noWorkers
  /-- An array of several values, or of none, was asked whether it is given. -/
  | ambiguous (empty : Bool)
deriving Repr, DecidableEq

/-- Whether the fault is a lack of memory. -/
def ShapeFault.isMemoryFault : ShapeFault → Bool
  | noMemory _ => true
  | _ => false

/-- Whether the fault is an index out of range. -/
def ShapeFault.isIndexFault : ShapeFault → Bool
  | axisIndex .. | missingAxis | indices .. | listIndex | listTarget => true
  | _ => false

/-- A shape between parentheses with the given separator; a single length keeps a comma. -/
def shapeText (separator : String) : List Nat → String
  | [] => "()"
  | [n] => "(" ++ toString n ++ ",)"
  | lengths => "(" ++ separator.intercalate (lengths.map toString) ++ ")"

/-- A count of bytes in a binary unit, with three digits. -/
def memoryText (bytes : Nat) : String :=
  let units := ["bytes", "KiB", "MiB", "GiB", "TiB", "PiB", "EiB"]
  let step := min (Nat.log2 bytes / 10) 6
  let unit := powerOfTwo (10 * step)
  let places := if bytes < 10 * unit then 2 else if bytes < 100 * unit then 1 else 0
  let scaled := Nat.divHalfEven (bytes * powerOfTen places) unit
  let digits := toString (scaled % powerOfTen places)
  toString (scaled / powerOfTen places) ++ "." ++ String.ofList (List.replicate (places - digits.length) '0')
    ++ (if places = 0 then "" else digits) ++ " " ++ units.getD step ""

def ShapeFault.message : ShapeFault → String
  | axisIndex index axis size =>
    "index " ++ toString index ++ " is out of bounds for axis " ++ toString axis ++ " with size " ++ toString size
  | missingAxis => "tuple index out of range"
  | indices axes given =>
    "too many indices for array: array is " ++ toString axes ++ "-dimensional, but " ++ toString given ++ " were indexed"
  | listIndex => "list index out of range"
  | listTarget => "list assignment index out of range"
  | absent => "'NoneType' object is not subscriptable"
  | broadcast values place =>
    "could not broadcast input array from shape " ++ shapeText "," values ++ " into shape " ++ shapeText "," place
  | triples size => "cannot reshape array of size " ++ toString size ++ " into shape (3)"
  | ragged shape =>
    "setting an array element with a sequence. The requested array has an inhomogeneous shape after "
      ++ toString shape.length ++ " dimensions. The detected shape was " ++ shapeText ", " shape
      ++ " + inhomogeneous part."
  | tooDeep limit =>
    "setting an array element with a sequence. The requested array would exceed the maximum number of dimension of "
      ++ toString limit ++ "."
  | negativeSize => "negative dimensions are not allowed"
  | hugeAxis => "Maximum allowed dimension exceeded"
  | hugeSize => "array is too big; \x60arr.size * arr.dtype.itemsize\x60 is larger than the maximum possible size."
  | noMemory shape =>
    "Unable to allocate " ++ memoryText (8 * shape.foldl (· * ·) 1) ++ " for an array with shape "
      ++ shapeText ", " shape ++ " and data type float64"
  | noSamples => "attempt to get argmax of an empty sequence"
  | noPoints points => "Invalid number of FFT data points (" ++ toString points ++ ") specified."
  | noWorkers => "Number of processes must be at least 1"
  | ambiguous true =>
    "The truth value of an empty array is ambiguous. Use \x60array.size > 0\x60 to check that an array is not empty."
  | ambiguous false =>
    "The truth value of an array with more than one element is ambiguous. Use a.any() or a.all()"

/-! ## Positions counted from either end -/

/-- The place of an index in a row of `size`; a negative index counts from the end. -/
def wrapIndex? (size : Nat) (index : Int) : Option Nat :=
  if 0 ≤ index then if index < size then some index.toNat else none
  else if -(size : Int) ≤ index then some (index + size).toNat else none

/-- The place of a bound of a slice in a row of `size`: counted from the end when negative, and
never beyond either end. -/
def clampIndex (size : Nat) (index : Int) : Nat :=
  if 0 ≤ index then min index.toNat size else (index + size).toNat

/-- Checks that an array of the given lengths can be had: no length is negative, and the values, of
eight bytes each, are within the reach of indices and of memory. -/
def checkSize (lengths : List Int) : Except ShapeFault Unit :=
  let sizes := lengths.map Int.toNat
  let bytes := 8 * sizes.foldl (· * ·) 1
  if lengths.any fun n => decide (powerOfTwo 63 ≤ n) then .error .hugeAxis
  else if lengths.any fun n => decide (n < 0) then .error .negativeSize
  else if powerOfTwo 63 ≤ bytes then .error .hugeSize
  else if powerOfTwo 36 < bytes then .error (.noMemory sizes)
  else .ok ()

/-- An array with a shape. -/
structure Tensor (α : Type) where
  shape : List Nat
  data : Array α
deriving Repr, DecidableEq

namespace Tensor

variable {α : Type}

/-- The row of the given values. -/
def row (values : Array α) : Tensor α := ⟨[values.size], values⟩

/-- An array that repeats one value. -/
def filled (shape : List Nat) (value : α) : Tensor α :=
  ⟨shape, Array.replicate (shape.foldl (· * ·) 1) value⟩

/-- The length of an axis. -/
def axisLength (t : Tensor α) (axis : Nat) : Except ShapeFault Nat :=
  match t.shape[axis]? with
  | some length => .ok length
  | none => .error .missingAxis

/-- Where the part at the given indices begins, counted in parts of its size, and its shape. -/
def locate (axis start : Nat) : List Nat → List Int → Except ShapeFault (Nat × List Nat)
  | shape, [] => .ok (start, shape)
  | [], _ :: _ => .error .missingAxis
  | length :: shape, index :: rest =>
    match wrapIndex? length index with
    | some place => locate (axis + 1) (start * length + place) shape rest
    | none => .error (.axisIndex index axis length)

/-- The part of an array at the given indices of its first axes. -/
def part (t : Tensor α) (indices : List Int) : Except ShapeFault (Tensor α) :=
  if t.shape.length < indices.length then .error (.indices t.shape.length indices.length)
  else do
    let (start, shape) ← locate 0 0 t.shape indices
    let size := shape.foldl (· * ·) 1
    return ⟨shape, t.data.extract (start * size) (start * size + size)⟩

/-- The values that fill a row of the given length: one for each place, or one for all. -/
def spread (t : Tensor α) (length : Nat) : Except ShapeFault (Array α) :=
  let fault := Except.error (.broadcast t.shape [length])
  match t.shape.dropWhile (· == 1) with
  | [] =>
    match t.data[0]? with
    | some value => .ok (Array.replicate length value)
    | none => fault
  | [size] => if size = length then .ok t.data else fault
  | _ => fault

/-- The rows of three values. -/
def triples (t : Tensor α) : Except ShapeFault (List (α × α × α)) :=
  if t.data.size % 3 = 0 then .ok (rows t.data.toList) else .error (.triples t.data.size)
where
  rows : List α → List (α × α × α)
    | a :: b :: c :: rest => (a, b, c) :: rows rest
    | _ => []

end Tensor

end HrirAtlas
