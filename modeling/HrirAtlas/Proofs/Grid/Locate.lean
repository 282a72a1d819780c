import HrirAtlas.Proofs.Exact.Rounding
import HrirAtlas.Proofs.Grid.Storage
import HrirAtlas.Proofs.Layout.Uniform

/-
Finding the slot of a position whose coordinates are near a row and a column. The fields of a grid
are those of the layouts in order, and so are the counts of their rows; a position within a tenth of
a step of a row, and of a column, has a slot of that row.
-/

namespace HrirAtlas.Grid

/-! ## Fields of layouts -/

/-- The field has the rows of the layout, each with its count of slots. -/
structure Built (l : Layout ℚ) (f : Field ℚ) : Prop where
  distance : f.distance = l.distance
  evLimit : f.evLimit = l.evLimit
  rows : f.rows.map (·.slots.length) = l.azCounts.map Int.toNat

theorem newFields_built : ∀ {next : Nat} {layouts : List (Layout ℚ)} {fields : List (Field ℚ)} {total : Nat},
    newFields next layouts = (fields, total, none) → List.Forall₂ Built layouts fields
  | next, [], fields, total, h => by cases h; exact .nil
  | next, l :: layouts, fields, total, h => by
    rcases newFields_cons h with ⟨-, -, hcause⟩ | ⟨rows, last, later, hrows, hlater, rfl⟩
    · cases hcause
    · exact .cons ⟨rfl, rfl, newRows_length hrows⟩ (newFields_built hlater)

theorem built_of_layout {layouts : List (Layout ℚ)} {fields : List (Field ℚ)} (h : List.Forall₂ Built layouts fields)
    {place : Nat} {l : Layout ℚ} (hl : layouts[place]? = some l) : ∃ f, fields[place]? = some f ∧ Built l f := by
  obtain ⟨hlen, hget⟩ := List.forall₂_iff_get.1 h
  obtain ⟨hlt, rfl⟩ := List.getElem?_eq_some_iff.1 hl
  exact ⟨_, List.getElem?_eq_getElem (hlen ▸ hlt), hget place hlt (hlen ▸ hlt)⟩

theorem built_of_field {layouts : List (Layout ℚ)} {fields : List (Field ℚ)} (h : List.Forall₂ Built layouts fields)
    {place : Nat} {f : Field ℚ} (hf : fields[place]? = some f) : ∃ l, layouts[place]? = some l ∧ Built l f := by
  obtain ⟨hlen, hget⟩ := List.forall₂_iff_get.1 h
  obtain ⟨hlt, rfl⟩ := List.getElem?_eq_some_iff.1 hf
  exact ⟨_, List.getElem?_eq_getElem (hlen ▸ hlt), hget place (hlen ▸ hlt) hlt⟩

theorem Built.exists_row {l : Layout ℚ} {f : Field ℚ} (h : Built l f) {row n : Nat}
    (hcount : l.azCounts[row]? = some (n : Int)) :
    ∃ found, f.rows[row]? = some found ∧ found.slots.length = n := by
  have hslots := congrArg (·[row]?) h.rows
  simp only [List.getElem?_map, hcount, Option.map_some, Int.toNat_natCast] at hslots
  exact Option.map_eq_some_iff.1 hslots

/-! ## Slots near a value -/

theorem slotTolerance_eq : (slotTolerance : ℚ) = 0.1 := rfl

theorem nearestStep?_of_near {steps : ℚ} {n : ℤ} (h : |steps - n| < 0.1) : nearestStep? steps = .ok (some n) := by
  have hround : Scalar.round steps = .ok n := Exact.round_of_near (h.trans (by norm_num))
  unfold nearestStep?
  rw [hround]
  show Except.ok (if slotTolerance ≤ Scalar.abs (steps - Scalar.ofInt n) then none else some n) = _
  rw [Exact.abs_eq, Exact.ofInt_eq, slotTolerance_eq, if_neg (not_le.2 h)]

/-- In a row with slots, the azimuth is counted in steps. -/
theorem slotInRow?_eq {row : Row ℚ} (hcount : 0 < row.slots.length) (azimuth : ℚ) :
    slotInRow? row azimuth = do
      match ← nearestStep? (azimuth / (360 / row.slots.length)) with
      | none => return none
      | some column => return row.slots[(column % row.slots.length).toNat]? := by
  have hlen : (0 : ℚ) < row.slots.length := by exact_mod_cast hcount
  have hspacing : Scalar.divide (360.0 : ℚ) (Scalar.ofInt row.slots.length) = .ok (360 / row.slots.length) := by
    rw [Exact.ofInt_eq, Int.cast_natCast, Exact.divide_eq _ hlen.ne']
    norm_num
  have hsteps : Scalar.divide azimuth (360 / (row.slots.length : ℚ)) = .ok (azimuth / (360 / row.slots.length)) :=
    Exact.divide_eq _ (by positivity)
  unfold slotInRow?
  rw [hspacing]
  show (Scalar.divide azimuth (360 / (row.slots.length : ℚ)) >>= _) = _
  rw [hsteps]
  rfl

/-- A row has a slot for every azimuth within a tenth of a step of a column. -/
theorem slotInRow?_of_near {row : Row ℚ} {azimuth : ℚ} {column : ℤ} (hpos : 0 < row.slots.length)
    (h : |azimuth / (360 / row.slots.length) - column| < 0.1) :
    ∃ slot ∈ row.slots, slotInRow? row azimuth = .ok (some slot) := by
  have hplace : (column % (row.slots.length : Int)).toNat < row.slots.length := by
    have := Int.emod_lt_of_pos column (show (0 : Int) < row.slots.length by exact_mod_cast hpos)
    have := Int.emod_nonneg column (show (row.slots.length : Int) ≠ 0 by omega)
    omega
  refine ⟨row.slots[(column % (row.slots.length : Int)).toNat], List.getElem_mem hplace, ?_⟩
  rw [slotInRow?_eq hpos, nearestStep?_of_near h, ← List.getElem?_eq_getElem hplace]
  rfl

/-- A field looks for the azimuth in the row that a tenth of a step is enough to reach. -/
theorem slotAbove?_of_near {f : Field ℚ} {row : Nat} {found : Row ℚ} (hrow : f.rows[row]? = some found)
    {rowsAbove : ℚ} (h : |rowsAbove - row| < 0.1) (azimuth : ℚ) :
    slotAbove? f rowsAbove azimuth = slotInRow? found azimuth := by
  have hlt : row < f.rows.length := (List.getElem?_eq_some_iff.1 hrow).1
  have hround : Scalar.round rowsAbove = .ok (row : ℤ) :=
    Exact.round_of_near (by push_cast; exact h.trans (by norm_num))
  have hinside : ¬((row : Int) < 0 ∨ (f.rows.length : Int) ≤ row) := by omega
  have hnear : ¬ slotTolerance ≤ Scalar.abs (rowsAbove - Scalar.ofInt (row : Int)) := by
    rw [Exact.abs_eq, Exact.ofInt_eq, Int.cast_natCast, slotTolerance_eq]
    exact not_le.2 h
  unfold slotAbove?
  simp only [hround, bind, Except.bind, if_neg hinside, if_neg hnear, Int.toNat_natCast, hrow]

theorem findSlot?_of_near {l : Layout ℚ} {f : Field ℚ} (hf : Built l f) (hstep : 0 < l.step) {row : Nat}
    {found : Row ℚ} (hrow : f.rows[row]? = some found) {elevation : ℚ}
    (h : |elevation - l.elevation row| < l.step / 10) (azimuth : ℚ) :
    findSlot? f azimuth elevation = slotInRow? found azimuth := by
  have hrows : f.rows.length = l.azCounts.length := by
    have := congrArg List.length hf.rows
    rwa [List.length_map, List.length_map] at this
  have hintervals : (l.azCounts.length : ℚ) - 1 ≠ 0 := by
    intro hzero
    unfold Layout.step at hstep
    rw [hzero, div_zero] at hstep
    exact lt_irrefl _ hstep
  have hevStep : f.evStep = .ok l.step := by
    unfold Field.evStep
    rw [hrows, hf.evLimit, Exact.ofInt_eq]
    push_cast
    rw [Exact.divide_eq _ hintervals]
    unfold Layout.step
    norm_num
  have hsteps : (elevation + f.evLimit) / l.step - row = (elevation - l.elevation row) / l.step := by
    unfold Layout.elevation
    rw [hf.evLimit]
    field_simp
    ring
  unfold findSlot?
  rw [hevStep]
  refine slotAbove?_of_near hrow ?_ azimuth
  rw [hsteps, abs_div, abs_of_pos hstep, div_lt_iff₀ hstep]
  norm_num
  linarith

/-! ## Fields at a distance -/

theorem findField?_of_first {layouts : List (Layout ℚ)} {fields : List (Field ℚ)}
    (hbuilt : List.Forall₂ Built layouts fields) {place : Nat} {l : Layout ℚ} (hl : layouts[place]? = some l)
    {distance : ℚ} (hnear : |distance - l.distance| < 0.001)
    (hfirst : ∀ earlier < place, ∀ other, layouts[earlier]? = some other → 0.001 ≤ |distance - other.distance|) :
    findField? fields distance = some place := by
  obtain ⟨f, hf, hfl⟩ := built_of_layout hbuilt hl
  obtain ⟨hlt, rfl⟩ := List.getElem?_eq_some_iff.1 hf
  unfold findField?
  rw [List.findIdx?_eq_some_iff_getElem]
  refine ⟨hlt, ?_, fun earlier hearlier => ?_⟩
  · rw [Exact.abs_eq, hfl.distance]
    exact decide_eq_true hnear
  · obtain ⟨other, hother, hbuiltOther⟩ := built_of_field hbuilt (List.getElem?_eq_getElem (hearlier.trans hlt))
    rw [Exact.abs_eq, hbuiltOther.distance, decide_eq_true_eq]
    exact not_lt.2 (hfirst earlier hearlier other hother)

/-! ## Clockwise azimuths -/

theorem clockwise_pole {p : Spherical ℚ} (h : 89.999 ≤ |p.elevation|) : clockwise p = 0 := by
  unfold clockwise
  rw [Exact.abs_eq, Layout.poleElevation_eq, if_pos h]
  norm_num

/-- Off the poles, an azimuth and its clockwise counterpart make up whole turns, on either side of
the seam. -/
theorem clockwise_turns {p : Spherical ℚ} (hazimuth : 0 ≤ p.azimuth ∧ p.azimuth < 360) (h : |p.elevation| < 89.999) :
    ∃ turns : ℤ, clockwise p = turns * 360 - (Layout.foldSeam p).azimuth := by
  have hrem : clockwise p = if p.azimuth = 0 then 0 else 360 - p.azimuth := by
    unfold clockwise
    rw [Exact.abs_eq, Layout.poleElevation_eq, if_neg (not_le.2 h), show (360.0 : ℚ) = 360 by norm_num]
    split
    · rename_i hzero
      rw [hzero, sub_zero, Exact.rem_self (by norm_num)]
    · rename_i hne
      have hpos : 0 < p.azimuth := lt_of_le_of_ne hazimuth.1 (Ne.symm hne)
      exact Exact.rem_of_lt (by linarith) (by linarith)
  rw [hrem]
  unfold Layout.foldSeam
  rw [Layout.angleTolerance_eq]
  split
  · rename_i hzero
    rw [if_neg (by rw [hzero]; norm_num)]
    exact ⟨0, by rw [hzero]; norm_num⟩
  · split
    · exact ⟨0, by norm_num⟩
    · exact ⟨1, by norm_num⟩

/-- Near a column, the clockwise azimuth is near the column as far from the other side. -/
theorem clockwise_near {p : Spherical ℚ} (hazimuth : 0 ≤ p.azimuth ∧ p.azimuth < 360) (hpole : |p.elevation| < 89.999)
    {n : Nat} (hn : 0 < n) {column : ℤ}
    (h : |(Layout.foldSeam p).azimuth - column * (360 / n)| < 360 / n / 10) :
    ∃ opposite : ℤ, |clockwise p / (360 / n) - opposite| < 0.1 := by
  have hn' : (0 : ℚ) < n := by exact_mod_cast hn
  have hspacing : (0 : ℚ) < 360 / n := by positivity
  obtain ⟨turns, hturns⟩ := clockwise_turns hazimuth hpole
  refine ⟨turns * n - column, ?_⟩
  have hsplit : clockwise p / (360 / n) - ((turns * n - column : ℤ) : ℚ) =
      -(((Layout.foldSeam p).azimuth - column * (360 / n)) / (360 / n)) := by
    rw [hturns]
    push_cast
    field_simp
    ring
  rw [hsplit, abs_neg, abs_div, abs_of_pos hspacing, div_lt_iff₀ hspacing]
  norm_num
  linarith

/-- The seam does not change which columns are near. -/
theorem foldSeam_near {p : Spherical ℚ} {n : Nat} (hn : 0 < n) {column : ℤ} {reach : ℚ}
    (h : |p.azimuth - column * (360 / n)| < reach) :
    ∃ column : ℤ, |(Layout.foldSeam p).azimuth - column * (360 / n)| < reach := by
  have hn' : (0 : ℚ) < n := by exact_mod_cast hn
  unfold Layout.foldSeam
  split
  · refine ⟨column - n, ?_⟩
    have hsame : p.azimuth - 360.0 - ((column - n : ℤ) : ℚ) * (360 / n) = p.azimuth - column * (360 / n) := by
      push_cast
      field_simp
      norm_num
      ring
    show |p.azimuth - 360.0 - ((column - n : ℤ) : ℚ) * (360 / n)| < reach
    rw [hsame]
    exact h
  · exact ⟨column, h⟩

end HrirAtlas.Grid
