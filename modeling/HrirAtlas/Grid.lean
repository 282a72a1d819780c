import HrirAtlas.Fault

/-
The grid of a data set. Fields hold rows, rows hold slots, and a slot has a storage index of its
own. All responses live in one buffer of rows, one per channel and storage index. What a slot holds
stands apart from the slot, in a table of contents: the rows of the buffer that it views, and its
delays. A slot refers to the content at its own index until a mirrored slot is made to refer to the
content of its source; from then on the two share views and delays.
-/

namespace HrirAtlas

/-- A row of the buffer. -/
structure RowRef where
  channel : Nat
  index : Nat
deriving Repr, DecidableEq

/-- What a slot holds for each channel: the row that it views, if any, and a delay in seconds. -/
structure Content (α : Type) where
  views : List (Option RowRef)
  delays : List α
deriving Repr, DecidableEq

/-- A cell of the grid. -/
structure Slot (α : Type) where
  azimuth : α
  /-- The storage index. -/
  index : Nat
  /-- The place of its content in the table. -/
  content : Nat
deriving Repr, DecidableEq

/-- The slots of one elevation, by azimuth. -/
structure Row (α : Type) where
  elevation : α
  slots : List (Slot α)
deriving Repr, DecidableEq

/-- The rows at one distance, from the lowest up. Rows below `evStart` are mirrored. -/
structure Field (α : Type) where
  distance : α
  evLimit : α
  evStart : Int
  rows : List (Row α)
deriving Repr, DecidableEq

/-- The shared responses: `channels` times `slots` rows of `size` samples, channel by channel. -/
structure Buffer (α : Type) where
  channels : Nat
  slots : Nat
  size : Nat
  rows : Array (Array α)
deriving Repr, DecidableEq

/-- A data set under construction. -/
structure DataSet (α : Type) where
  stereo : Bool := false
  irRate : Number α := .int 0
  /-- Samples of a response that are in use. -/
  irPoints : Int := 0
  /-- Samples of a row of the buffer. -/
  irSize : Int := 0
  fftSize : Number α := .int 0
  /-- The radius of the head in metres. -/
  radius : α
  irCount : Nat := 0
  fields : List (Field α) := []
  contents : Array (Content α) := #[]
  buffer : Option (Buffer α) := none
deriving Repr, DecidableEq

namespace Buffer

variable {α : Type}

/-- A buffer of silence. -/
def silent [Scalar α] (channels slots size : Nat) : Buffer α :=
  ⟨channels, slots, size, Array.replicate (channels * slots) (Array.replicate size 0.0)⟩

/-- The place of a row among all rows. -/
def place (b : Buffer α) (ref : RowRef) : Nat := ref.channel * b.slots + ref.index

/-- The samples of a row. -/
def row (b : Buffer α) (ref : RowRef) : Array α := b.rows.getD (b.place ref) #[]

/-- The buffer with other samples in a row. -/
def setRow (b : Buffer α) (ref : RowRef) (samples : Array α) : Buffer α :=
  { b with rows := b.rows.setIfInBounds (b.place ref) samples }

/-- The row of a channel and a storage index, both counted from the end when negative. -/
def view (b : Buffer α) (channel index : Int) : Except ShapeFault RowRef :=
  match wrapIndex? b.channels channel with
  | none => .error (.axisIndex channel 0 b.channels)
  | some c =>
    match wrapIndex? b.slots index with
    | none => .error (.axisIndex index 1 b.slots)
    | some i => .ok ⟨c, i⟩

end Buffer

namespace Content

variable {α : Type}

/-- Nothing yet: no views, and no delay. -/
def empty [Scalar α] (channels : Nat) : Content α :=
  ⟨List.replicate channels none, List.replicate channels 0.0⟩

/-- Whether a first channel is viewed. -/
def populated (c : Content α) : Bool :=
  match c.views with
  | some _ :: _ => true
  | _ => false

end Content

namespace Field

variable {α : Type} [Scalar α]

/-- Degrees from a row to the next. -/
def evStep (f : Field α) : Except ArithmeticFault α :=
  Scalar.divide (2.0 * f.evLimit) (Scalar.ofInt ((f.rows.length : Int) - 1))

/-- The rows at and above `evStart`, which have measurements of their own; a negative start counts
from the top. -/
def measuredRows (f : Field α) : List (Row α) := f.rows.drop (clampIndex f.rows.length f.evStart)

/-- The slots of all rows, in storage order. -/
def slots (f : Field α) : List (Slot α) := f.rows.flatMap Row.slots

end Field

namespace DataSet

variable {α : Type} [Scalar α]

/-- A data set before any layout. -/
def fresh : DataSet α := { radius := 0.09 }

/-- Two channels for stereo, one for mono. -/
def channels (d : DataSet α) : Nat := if d.stereo then 2 else 1

/-- What a slot holds. -/
def contentOf (d : DataSet α) (s : Slot α) : Content α := d.contents.getD s.content ⟨[], []⟩

def populated (d : DataSet α) (s : Slot α) : Bool := (d.contentOf s).populated

/-- Every slot with a measurement of its own, in storage order. -/
def measuredSlots (d : DataSet α) : List (Slot α) :=
  d.fields.flatMap fun f => f.measuredRows.flatMap Row.slots

/-- The row of the buffer for a channel and a storage index. -/
def view (d : DataSet α) (channel index : Int) : Except ShapeFault RowRef :=
  match d.buffer with
  | none => .error .absent
  | some b => b.view channel index

/-- The samples of a row of the buffer. -/
def row (d : DataSet α) (ref : RowRef) : Array α :=
  match d.buffer with
  | none => #[]
  | some b => b.row ref

/-- The data set with other samples in a row of the buffer. -/
def setRow (d : DataSet α) (ref : RowRef) (samples : Array α) : DataSet α :=
  { d with buffer := d.buffer.map (·.setRow ref samples) }

/-- The data set with another content at a place of the table. -/
def setContent (d : DataSet α) (place : Nat) (content : Content α) : DataSet α :=
  { d with contents := d.contents.setIfInBounds place content }

/-- The view that a slot holds for a channel. -/
def heldView (d : DataSet α) (s : Slot α) (channel : Nat) : Except ShapeFault RowRef :=
  match (d.contentOf s).views[channel]? with
  | none => .error .listIndex
  | some none => .error .absent
  | some (some ref) => .ok ref

end DataSet

end HrirAtlas
