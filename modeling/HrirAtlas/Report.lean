import HrirAtlas.Session

/-
Reports on a data set: a summary for the journal, the delay of every slot and channel as a table,
and the delays of one field and channel as curves over the azimuth, one for each elevation.
-/

namespace HrirAtlas.Report

variable {α : Type} [Scalar α]

/-! ## Summary -/

/-- The summary of one field. -/
def fieldText (index : Nat) (f : Field α) : String :=
  "field " ++ toString index ++ ": distance " ++ LayoutFault.metres f.distance ++ " m, elevations "
    ++ toString f.rows.length ++ " (start " ++ toString f.evStart ++ "), azimuths "
    ++ Layout.countsText (f.rows.map fun row => row.slots.length)

/-- The lines of the summary: a heading between rules, the sizes, and each field. -/
def summaryLines (d : DataSet α) : List String :=
  [ruleLine, "HRIR DATA SET:", ruleLine,
    "channels: " ++ toString d.channels ++ ", rate: " ++ d.irRate.shown ++ " Hz, points: "
      ++ toString d.irPoints ++ ", ir size: " ++ toString d.irSize ++ ", fft size: " ++ d.fftSize.shown]
    ++ d.fields.mapIdx fieldText

/-- The summary as it stands in the journal. -/
def summary (d : DataSet α) : Journal := (summaryLines d).map fun text => ⟨.info, .command, text⟩

/-! ## Delays -/

/-- The delay of a slot for a channel, in seconds, with its place in the grid. -/
structure DelayRow (α : Type) where
  field : Nat
  row : Nat
  column : Nat
  channel : Nat
  elevation : α
  azimuth : α
  delay : α
  /-- Whether the slot shares what it holds with the slot that it mirrors. -/
  mirrored : Bool
deriving Repr, DecidableEq

/-- The delays of a slot. -/
def slotRows (d : DataSet α) (field : Nat) (f : Field α) (row : Nat) (elevation : α) (column : Nat)
    (slot : Slot α) : Except ShapeFault (List (DelayRow α)) :=
  let delays := (d.contentOf slot).delays
  (List.range d.channels).mapM fun (channel : Nat) =>
    match delays[channel]? with
    | none => .error (.axisIndex channel 0 delays.length)
    | some delay =>
      .ok { field, row, column, channel, elevation, azimuth := slot.azimuth, delay, mirrored := decide (row < f.evStart) }

/-- The delays of the rows of a field from `row` on. -/
def fieldRows (d : DataSet α) (field : Nat) (f : Field α) (row : Nat) :
    List (Row α) → Except ShapeFault (List (DelayRow α))
  | [] => .ok []
  | r :: rest => do
    let parts ← r.slots.zipIdx.mapM fun (slot, column) => slotRows d field f row r.elevation column slot
    return parts.flatten ++ (← fieldRows d field f (row + 1) rest)

/-- The delays of the fields from `field` on. -/
def rowsFrom (d : DataSet α) (field : Nat) : List (Field α) → Except ShapeFault (List (DelayRow α))
  | [] => .ok []
  | f :: rest => do
    let first ← fieldRows d field f 0 f.rows
    return first ++ (← rowsFrom d (field + 1) rest)

/-- The delays of all slots and channels, in storage order. -/
def delayRows (d : DataSet α) : Except ShapeFault (List (DelayRow α)) := rowsFrom d 0 d.fields

/-- Seconds as milliseconds. -/
def milliseconds (seconds : α) : α := seconds * 1000.0

/-! ## Table -/

/-- The heading of the table. -/
def tableHead : String := "field,elevation,azimuth,channel,delay_ms"

/-- A line of the table: degrees with two decimals and milliseconds with four. -/
def tableLine (r : DelayRow α) : String :=
  ",".intercalate [toString r.field, Decimal.fixed true 2 (Scalar.reading r.elevation),
    Decimal.fixed false 2 (Scalar.reading r.azimuth), toString r.channel,
    Decimal.fixed false 4 (Scalar.reading (milliseconds r.delay))]

/-- The table of delays; each line ends with a line feed. -/
def table (d : DataSet α) : Except ShapeFault String := do
  let lines := tableHead :: (← delayRows d).map tableLine
  return String.join (lines.map (· ++ "\n"))

/-! ## Curves -/

/-- The delays in milliseconds along the azimuths of one elevation. -/
structure Curve (α : Type) where
  label : String
  azimuths : List α
  delays : List α
deriving Repr, DecidableEq

/-- A plot of curves. -/
structure Plot (α : Type) where
  title : String
  xLabel : String := "Azimuth (degrees)"
  yLabel : String := "Delay (ms)"
  curves : List (Curve α)
deriving Repr, DecidableEq

/-- The curve of a row of a field. -/
def curve (rows : List (DelayRow α)) (row : Nat) (elevation : α) : Curve α :=
  let own := rows.filter (·.row == row)
  { label := Decimal.fixed true 1 (Scalar.reading elevation) ++ " deg"
    azimuths := own.map (·.azimuth)
    delays := own.map fun r => milliseconds r.delay }

/-- The plot of a field and a channel. A negative field counts from the end, but no delays are known
under such a number; nor are any for a channel that is not there. -/
def plot (d : DataSet α) (field channel : Int) (title : String) : Except ShapeFault (Plot α) := do
  let rows := (← delayRows d).filter fun r => (r.field : Int) == field && (r.channel : Int) == channel
  match (wrapIndex? d.fields.length field).bind (d.fields[·]?) with
  | none => throw .listIndex
  | some f => return { title, curves := f.rows.mapIdx fun row r => curve rows row r.elevation }

/-- The points of a plot as text: each curve with its label, and a line for each azimuth. -/
def Plot.listing (p : Plot α) : String :=
  let curveLines (c : Curve α) :=
    c.label :: (c.azimuths.zip c.delays).map fun (azimuth, delay) =>
      Decimal.fixed false 2 (Scalar.reading azimuth) ++ " " ++ Decimal.fixed false 4 (Scalar.reading delay)
  String.join ((p.title :: (p.xLabel ++ ", " ++ p.yLabel) :: p.curves.flatMap curveLines).map (· ++ "\n"))

end HrirAtlas.Report
