import HrirAtlas.Session

/-
Coverage of the grid. In each field the rows from the lowest one with a response upward must be
full; the rows below it are mirrored from the rows as far from the top, read backwards, and a
mirrored slot from then on refers to the content of its source.
-/

namespace HrirAtlas.Coverage

variable {α : Type} [Scalar α]

/-- The place of the lowest row that holds a response. -/
def lowestHeld? (d : DataSet α) (rows : List (Row α)) : Option Nat :=
  rows.findIdx? fun row => row.slots.any d.populated

/-- The first empty slot among the rows from `row` on. -/
def emptySlot? (d : DataSet α) (row : Nat) : List (Row α) → Option (Nat × Nat)
  | [] => none
  | r :: rest =>
    match r.slots.findIdx? fun slot => !d.populated slot with
    | some column => some (row, column)
    | none => emptySlot? d (row + 1) rest

/-- A row whose slots refer to the contents of a source row, read backwards. -/
def mirrorRow (row source : Row α) : Row α :=
  { row with slots := row.slots.zipWith (fun slot other => { slot with content := other.content }) source.slots.reverse }

/-- Mirrors the rows from `row` on, `remaining` of them, in a field whose rows are known from
`evStart` upward. Rows that were mirrored stay so when a later one cannot be. -/
def mirrorRows (field evStart : Nat) (rows : List (Row α)) (row : Nat) :
    Nat → List (Row α) × Option CoverageFault
  | 0 => (rows, none)
  | remaining + 1 =>
    let mirror := rows.length - 1 - row
    match rows[row]?, rows[mirror]? with
    | some target, some source =>
      if mirror < evStart ∨ source.slots.length ≠ target.slots.length then
        (rows, some (.noMirror field row mirror))
      else mirrorRows field evStart (rows.set row (mirrorRow target source)) (row + 1) remaining
    | _, _ => (rows, some (.noMirror field row mirror))

/-- The field with its start set and its lower rows mirrored, as far as that goes. -/
def coverField (d : DataSet α) (index : Nat) (f : Field α) : Field α × Option CoverageFault :=
  match lowestHeld? d f.rows with
  | none => (f, some (.emptyField index))
  | some evStart =>
    let started := { f with evStart := evStart }
    match emptySlot? d evStart (f.rows.drop evStart) with
    | some (row, column) => (started, some (.emptySlot index row column))
    | none =>
      let (rows, cause) := mirrorRows index evStart f.rows 0 evStart
      ({ started with rows }, cause)

/-- The report of a covered field. -/
def entry (index : Nat) (f : Field α) : Entry :=
  ⟨.info, .loader, "coverage: field " ++ toString index ++ " (distance " ++ LayoutFault.metres f.distance
    ++ ") ev_start " ++ toString f.evStart⟩

/-- Covers the fields from `index` on; the first that cannot be covered ends it. -/
def coverFields (d : DataSet α) (index : Nat) : List (Field α) → List (Field α) × Journal × Option CoverageFault
  | [] => ([], [], none)
  | f :: rest =>
    match coverField d index f with
    | (covered, some cause) => (covered :: rest, [], some cause)
    | (covered, none) =>
      let (later, entries, cause) := coverFields d (index + 1) rest
      (covered :: later, entry index covered :: entries, cause)

/-- Checks the coverage of all fields and mirrors their lower rows. -/
def check : Stage α Unit := do
  let d ← Stage.data
  let (fields, entries, cause) := coverFields d 0 d.fields
  Stage.setData { d with fields }
  Stage.reportAll entries
  match cause with
  | some cause => Stage.fail (.coverage cause)
  | none => return ()

end HrirAtlas.Coverage
