import HrirAtlas.Cluster
import HrirAtlas.Fault
import HrirAtlas.Journal
import HrirAtlas.Layout.Uniform

/-
Detection of the layouts in scattered positions. The distances are clustered into shells, the
elevations of a shell into rows, and the azimuths of a row into columns. A row with a single
azimuth and a shell without rows hold stray measurements and are left out; what else does not fit
the grid of equal divisions is a fault.
-/

namespace HrirAtlas.Layout

variable {α : Type} [Scalar α]

/-- Azimuths just below the full circle join those just above zero. -/
def foldSeam (p : Spherical α) : Spherical α :=
  if p.azimuth > 360.0 - angleTolerance then { p with azimuth := p.azimuth - 360.0 } else p

/-! ## Rows of a shell -/

/-- What a row of a shell is found to be. -/
inductive RowVerdict (α : Type) where
  | usable (elevation : α) (azimuths : Nat)
  | stray (elevation : α) (azimuths : Nat)
  | faulty (cause : Fault α)

/-- Judges a row by its distinct azimuths. -/
def judgeRow (distance elevation : α) (azimuths : List α) : RowVerdict α :=
  if Scalar.abs elevation > poleElevation then
    if azimuths.length = 1 then .usable elevation 1
    else .faulty (.layout (.splitPole elevation distance))
  else if azimuths.length < minAzimuths then .stray elevation azimuths.length
  else
    match azimuthCount? angleTolerance azimuths with
    | .ok (some count) => .usable elevation count
    | .ok none => .faulty (.layout (.unevenAzimuths elevation distance))
    | .error cause => .faulty (.arithmetic cause)

/-- The rows of the shell at a distance, from the lowest up. -/
def judgeShell (positions : List (Spherical α)) (distance : α) : List (RowVerdict α) :=
  (Cluster.along .elevation ⟨none, none, some distance⟩ Cluster.tolerances positions).map fun elevation =>
    judgeRow distance elevation
      (Cluster.along .azimuth ⟨none, some elevation, some distance⟩ Cluster.tolerances positions)

/-- The usable rows with their azimuth counts, if no row is faulty. -/
def usableRows : List (RowVerdict α) → Except (Fault α) (List (α × Nat))
  | [] => .ok []
  | .usable elevation azimuths :: rest => (usableRows rest).map ((elevation, azimuths) :: ·)
  | .stray .. :: rest => usableRows rest
  | .faulty cause :: _ => .error cause

/-- Reports the stray rows, up to the first faulty one. -/
def strayEntries (distance : α) : List (RowVerdict α) → Journal
  | [] => []
  | .usable .. :: rest => strayEntries distance rest
  | .stray elevation azimuths :: rest =>
    ⟨.warning, .layout, "layout: dropping stray elevation " ++ LayoutFault.degrees elevation ++ " ("
      ++ toString azimuths ++ " azimuths) on field distance " ++ LayoutFault.metres distance⟩
      :: strayEntries distance rest
  | .faulty _ :: _ => []

/-! ## The grid of a shell -/

/-- The row of a grid that an elevation belongs to. -/
def rowIndex (evLimit step elevation : α) : Except (Fault α) Int := do
  let ratio ← (Scalar.divide (elevation + evLimit) step).mapError .arithmetic
  (Scalar.round ratio).mapError .arithmetic

/-- Writes the count of a row at an index counted from either end. -/
def writeCount (counts : List Int) (index : Int) (count : Int) : Except (Fault α) (List Int) :=
  match wrapIndex? counts.length index with
  | some place => .ok (counts.set place count)
  | none => .error (.shape .listTarget)

/-- Writes the azimuth counts of the measured rows. -/
def writeRows (evLimit step : α) : List (α × Nat) → List Int → Except (Fault α) (List Int)
  | [], counts => .ok counts
  | (elevation, azimuths) :: rest, counts => do
    let index ← rowIndex evLimit step elevation
    writeRows evLimit step rest (← writeCount counts index azimuths)

/-- Copies to each of the lowest `evStart` rows, from `row` on, the count of the row as far from the
other end. -/
def mirrorCounts (row : Nat) : Nat → List Int → Except (Fault α) (List Int)
  | 0, counts => .ok counts
  | remaining + 1, counts =>
    match (wrapIndex? counts.length ((counts.length : Int) - row - 1)).bind (counts[·]?) with
    | none => .error (.shape .listIndex)
    | some count => do mirrorCounts (row + 1) remaining (← writeCount counts row count)

/-- The grid of a shell with at least one usable row. -/
def ofRows (distance : α) (rows : List (α × Nat)) (lowest highest : α) : Except (Fault α) (Layout α) := do
  if highest ≤ 0.0 then throw (.layout (.missingElevations distance))
  if rows.length < 2 then throw (.layout (.tooFewElevations distance))
  let elevations := rows.map Prod.fst
  let found ← (elevationStep? angleTolerance elevations).mapError .arithmetic
  let uneven := Fault.layout (.unevenElevations distance elevations)
  let step ← match found with
    | some step => if step ≤ 0.0 then throw uneven else pure step
    | none => throw uneven
  let evLimit := if highest > poleElevation then 90.0 else highest
  let intervals ← do
    let ratio ← (Scalar.divide (2.0 * evLimit) step).mapError .arithmetic
    (Scalar.round ratio).mapError .arithmetic
  let count := intervals + 1
  if count < minRows then throw (.layout (.tooFewRows distance))
  if (maxRows : Int) < count then throw (.layout (.tooManyRows count distance))
  if lowest > angleTolerance then throw (.layout (.missingElevations distance))
  let measured ← writeRows evLimit step rows (List.replicate count.toNat 0)
  let evStart ← rowIndex evLimit step lowest
  let azCounts ← mirrorCounts 0 evStart.toNat measured
  (checkDensity azCounts evLimit step distance).mapError .layout
  return { distance, evLimit, evStart, azCounts }

/-- The layout of the shell at a distance, or none when the shell holds only stray measurements. -/
def ofShell (distance : α) (verdicts : List (RowVerdict α)) : Except (Fault α) (Option (Layout α)) := do
  match ← usableRows verdicts with
  | [] => return none
  | first :: rest =>
    let layout ← ofRows distance (first :: rest) first.1 ((first :: rest).getLast (List.cons_ne_nil _ _)).1
    return some layout

/-! ## All shells -/

/-- Reports what became of a shell. -/
def shellEntries (distance : α) : Except (Fault α) (Option (Layout α)) → Journal
  | .ok (some layout) => [⟨.info, .layout, "layout: " ++ layout.text⟩]
  | .ok none =>
    [⟨.warning, .layout, "layout: no usable elevations on field distance " ++ LayoutFault.metres distance⟩]
  | .error _ => []

/-- The layouts of the shells at the given distances, with the report; the first fault ends both. -/
def ofShells (positions : List (Spherical α)) : List α → Journal × Except (Fault α) (List (Layout α))
  | [] => ([], .ok [])
  | distance :: rest =>
    let verdicts := judgeShell positions distance
    let found := ofShell distance verdicts
    let entries := strayEntries distance verdicts ++ shellEntries distance found
    match found with
    | .error cause => (entries, .error cause)
    | .ok layout? =>
      let (later, layouts) := ofShells positions rest
      (entries ++ later, layouts.map (layout?.toList ++ ·))

/-- The layouts that positions fit, in order of distance. -/
def detect (positions : List (Spherical α)) : Journal × Except (Fault α) (List (Layout α)) :=
  let folded := positions.map foldSeam
  let distances := Cluster.along .distance ⟨none, none, none⟩ Cluster.tolerances folded
  if maxFields < distances.length then ([], .error (.layout (.tooManyDistances distances.length)))
  else
    match ofShells folded distances with
    | (entries, .ok []) => (entries, .error (.layout .noField))
    | answer => answer

end HrirAtlas.Layout
