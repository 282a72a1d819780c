import HrirAtlas.Proofs.Grid.Indices
import HrirAtlas.Proofs.Grid.Locate
import Mathlib.Algebra.Order.Round

/-
Looking up a slot by angles, at rational angles. The elevations and azimuths of a field are stored
when it is allocated, and a look-up computes places from angles again; it finds a slot exactly when
the angles are within a tenth of a step of the stored ones, azimuths around the circle. Two slots
are a step apart, so no angles are within a tenth of a step of both.
-/

namespace HrirAtlas

theorem Exact.unbounded : Scalar.Unbounded ℚ where
  finite x := ⟨_, _, _, rfl⟩
  ofInt := Exact.keepsNonzero
  quotient x y hx hy := by
    rw [← Bool.not_eq_true, Exact.isZero_iff] at hx hy ⊢
    exact div_ne_zero hx hy
  turn := by
    rw [← Bool.not_eq_true, Exact.isZero_iff]
    norm_num

namespace Grid

/-- How far two azimuths are apart around the circle, in degrees. -/
def circularDistance (x y : ℚ) : ℚ := |x - y - round ((x - y) / 360) * 360|

/-- The way around the circle is no longer than with any other number of turns. -/
theorem circularDistance_le (x y : ℚ) (turns : ℤ) : circularDistance x y ≤ |x - y - turns * 360| := by
  have h := round_le ((x - y) / 360) turns
  have hscale : ∀ n : ℤ, |x - y - n * 360| = |(x - y) / 360 - n| * 360 := fun n => by
    rw [← abs_of_pos (show (0 : ℚ) < 360 by norm_num), ← abs_mul, abs_of_pos (show (0 : ℚ) < 360 by norm_num)]
    congr 1
    ring
  unfold circularDistance
  rw [hscale, hscale]
  exact mul_le_mul_of_nonneg_right h (by norm_num)

theorem circularDistance_lt_iff {x y reach : ℚ} :
    circularDistance x y < reach ↔ ∃ turns : ℤ, |x - y - turns * 360| < reach :=
  ⟨fun h => ⟨_, h⟩, fun ⟨turns, h⟩ => (circularDistance_le x y turns).trans_lt h⟩

theorem circularDistance_self (x : ℚ) : circularDistance x x = 0 := by
  unfold circularDistance
  rw [sub_self, zero_div, round_zero, Int.cast_zero, zero_mul, sub_zero, abs_zero]

end Grid

/-! ## Stored angles -/

namespace Field

/-- Degrees between neighbouring rows. -/
def rowStep (f : Field ℚ) : ℚ := 2 * f.evLimit / (f.rows.length - 1)

section Regular

variable {f : Field ℚ} (hf : f.Regular)

include hf

theorem Regular.intervals_pos : (0 : ℚ) < f.rows.length - 1 := by
  have h : (2 : ℚ) ≤ f.rows.length := by exact_mod_cast hf.rows
  linarith

theorem Regular.rowStep_pos : 0 < f.rowStep := by
  have hlimit : 0 < f.evLimit := by
    have h := hf.limit
    norm_num at h
    exact h
  exact div_pos (by linarith) hf.intervals_pos

theorem Regular.evStep_eq : f.evStep = .ok f.rowStep := by
  unfold evStep rowStep
  rw [Exact.ofInt_eq]
  push_cast
  rw [Exact.divide_eq _ hf.intervals_pos.ne']
  norm_num

theorem Regular.elevation_eq {place : Nat} {row : Row ℚ} (h : f.rows[place]? = some row) :
    row.elevation = place * f.rowStep - f.evLimit := by
  have helevation := hf.elevations place row h
  unfold Grid.rowElevation at helevation
  rw [Exact.ofInt_eq, Exact.ofInt_eq] at helevation
  push_cast at helevation
  rw [Exact.divide_eq _ hf.intervals_pos.ne'] at helevation
  rw [← Except.ok.inj helevation]
  unfold rowStep
  norm_num
  ring

theorem Regular.azimuth_eq {row : Row ℚ} (hrow : row ∈ f.rows) {column : Nat} {slot : Slot ℚ}
    (h : row.slots[column]? = some slot) : slot.azimuth = column * (360 / row.slots.length) := by
  obtain ⟨-, first, hslots⟩ := hf.slots row hrow
  have hlt : column < row.slots.length := (List.getElem?_eq_some_iff.1 h).1
  rw [hslots] at h
  unfold Grid.newSlots at h
  rw [List.getElem?_map, List.getElem?_range hlt] at h
  rw [← Option.some.inj h]
  show ((column : ℤ) : ℚ) * 360.0 / ((row.slots.length : ℤ) : ℚ) = _
  push_cast
  norm_num
  ring

end Regular

end Field

namespace Grid

/-! ## Near a slot -/

/-- The row stands in a place of the field, and the slot in a column of the row. -/
structure Cell (f : Field ℚ) (place column : Nat) (row : Row ℚ) (slot : Slot ℚ) : Prop where
  inField : f.rows[place]? = some row
  inRow : row.slots[column]? = some slot

/-- The angles are less than a tenth of a step from those stored with a row and its slot. -/
structure Near (step : ℚ) (row : Row ℚ) (slot : Slot ℚ) (azimuth elevation : ℚ) : Prop where
  elevation : |elevation - row.elevation| < 0.1 * step
  azimuth : circularDistance azimuth slot.azimuth < 0.1 * (360 / row.slots.length)

theorem nearestStep?_iff {steps : ℚ} {n : ℤ} : nearestStep? steps = .ok (some n) ↔ |steps - n| < 0.1 := by
  refine ⟨fun h => ?_, nearestStep?_of_near⟩
  unfold nearestStep? at h
  obtain ⟨nearest, -, h⟩ := except_bind_ok h
  rw [Exact.abs_eq, Exact.ofInt_eq, slotTolerance_eq] at h
  by_cases hfar : (0.1 : ℚ) ≤ |steps - nearest|
  · rw [if_pos hfar] at h
    cases h
  · rw [if_neg hfar] at h
    cases h
    exact not_le.1 hfar

/-- The azimuth of a column differs from a whole count of steps by turns. -/
theorem sub_column (azimuth : ℚ) {count : Nat} (hcount : 0 < count) (column turns : ℤ) :
    azimuth - column * (360 / count) - turns * 360 =
      (azimuth / (360 / count) - ((column + turns * count : ℤ) : ℚ)) * (360 / count) := by
  have hpos : (0 : ℚ) < count := by exact_mod_cast hcount
  push_cast
  field_simp
  ring

theorem slotInRow?_iff {f : Field ℚ} (hf : f.Regular) {row : Row ℚ} (hrow : row ∈ f.rows) {azimuth : ℚ}
    {slot : Slot ℚ} : slotInRow? row azimuth = .ok (some slot) ↔
      ∃ column : Nat, row.slots[column]? = some slot ∧
        circularDistance azimuth slot.azimuth < 0.1 * (360 / row.slots.length) := by
  have hcount := (hf.slots row hrow).1
  have hlen : (0 : ℚ) < row.slots.length := by exact_mod_cast hcount
  have hspacing : (0 : ℚ) < 360 / row.slots.length := by positivity
  -- a distance counted in steps is a tenth where the distance in degrees is a tenth of a step
  have hscale : ∀ column turns : ℤ, |azimuth - column * (360 / row.slots.length) - turns * 360| <
      0.1 * (360 / row.slots.length) ↔
        |azimuth / (360 / row.slots.length) - ((column + turns * row.slots.length : ℤ) : ℚ)| < 0.1 :=
    fun column turns => by
      rw [sub_column azimuth hcount, abs_mul, abs_of_pos hspacing, mul_lt_mul_iff_left₀ hspacing]
  rw [slotInRow?_eq hcount]
  constructor
  · intro h
    obtain ⟨nearest, hnearest, h⟩ := except_bind_ok h
    cases nearest with
    | none => cases h
    | some column =>
      have hplace : row.slots[(column % row.slots.length).toNat]? = some slot := Except.ok.inj h
      refine ⟨_, hplace, circularDistance_lt_iff.2 ⟨column / row.slots.length, ?_⟩⟩
      have hnonneg := Int.emod_nonneg column (show (row.slots.length : Int) ≠ 0 by omega)
      have hcast : (((column % row.slots.length).toNat : Nat) : ℚ) = ((column % row.slots.length : ℤ) : ℚ) := by
        exact_mod_cast congrArg (Int.cast (R := ℚ)) (Int.toNat_of_nonneg hnonneg)
      rw [hf.azimuth_eq hrow hplace, hcast, hscale, Int.emod_add_ediv_mul]
      exact nearestStep?_iff.1 hnearest
  · rintro ⟨column, hplace, hnear⟩
    have hlt : column < row.slots.length := (List.getElem?_eq_some_iff.1 hplace).1
    obtain ⟨turns, hturns⟩ := circularDistance_lt_iff.1 hnear
    rw [hf.azimuth_eq hrow hplace, ← Int.cast_natCast column, hscale] at hturns
    have hback : ((column + turns * row.slots.length : ℤ) % row.slots.length).toNat = column := by
      rw [Int.add_mul_emod_self_right, Int.emod_eq_of_lt (by omega) (by omega), Int.toNat_natCast]
    rw [nearestStep?_iff.2 hturns]
    show Except.ok row.slots[((column + turns * row.slots.length : ℤ) % row.slots.length).toNat]? = _
    rw [hback, hplace]

theorem slotAbove?_some {f : Field ℚ} {rowsAbove azimuth : ℚ} {slot : Slot ℚ}
    (h : slotAbove? f rowsAbove azimuth = .ok (some slot)) :
    ∃ (place : Nat) (row : Row ℚ), f.rows[place]? = some row ∧ |rowsAbove - place| < 0.1 ∧
      slotInRow? row azimuth = .ok (some slot) := by
  unfold slotAbove? at h
  obtain ⟨place, -, h⟩ := except_bind_ok h
  split at h
  · cases h
  rename_i hinside
  split at h
  · cases h
  rename_i hnear
  simp only [pure, Except.pure] at h
  split at h
  · cases h
  rename_i row hrow
  refine ⟨place.toNat, row, hrow, ?_, h⟩
  have hcast : ((place.toNat : Nat) : ℚ) = place := by
    exact_mod_cast congrArg (Int.cast (R := ℚ)) (Int.toNat_of_nonneg (show 0 ≤ place by omega))
  rw [Exact.abs_eq, Exact.ofInt_eq, slotTolerance_eq] at hnear
  rw [hcast]
  exact not_le.1 hnear

theorem findSlot?_iff {f : Field ℚ} (hf : f.Regular) {azimuth elevation : ℚ} {slot : Slot ℚ} :
    findSlot? f azimuth elevation = .ok (some slot) ↔
      ∃ place column row, Cell f place column row slot ∧ Near f.rowStep row slot azimuth elevation := by
  have hstep := hf.rowStep_pos
  have hscale : ∀ (place : Nat) (row : Row ℚ), f.rows[place]? = some row →
      (|(elevation + f.evLimit) / f.rowStep - place| < 0.1 ↔ |elevation - row.elevation| < 0.1 * f.rowStep) := by
    intro place row hrow
    have hsteps : (elevation + f.evLimit) / f.rowStep - place = (elevation - row.elevation) / f.rowStep := by
      rw [hf.elevation_eq hrow]
      field_simp
      ring
    rw [hsteps, abs_div, abs_of_pos hstep, div_lt_iff₀ hstep]
  unfold findSlot?
  rw [hf.evStep_eq]
  show slotAbove? f ((elevation + f.evLimit) / f.rowStep) azimuth = _ ↔ _
  constructor
  · intro h
    obtain ⟨place, row, hrow, hnear, hslot⟩ := slotAbove?_some h
    obtain ⟨column, hcolumn, hazimuth⟩ := (slotInRow?_iff hf (List.mem_of_getElem? hrow)).1 hslot
    exact ⟨place, column, row, ⟨hrow, hcolumn⟩, (hscale place row hrow).1 hnear, hazimuth⟩
  · rintro ⟨place, column, row, hcell, hnear⟩
    rw [slotAbove?_of_near hcell.inField ((hscale place row hcell.inField).2 hnear.elevation),
      slotInRow?_iff hf (List.mem_of_getElem? hcell.inField)]
    exact ⟨column, hcell.inRow, hnear.azimuth⟩

/-- The step between rows is not zero, so it makes no difference whether a look-up refuses one. -/
theorem lookUp?_eq {f : Field ℚ} (hf : f.Regular) (azimuth elevation : ℚ) :
    lookUp? f azimuth elevation = findSlot? f azimuth elevation := by
  unfold lookUp? findSlot?
  rw [hf.evStep_eq]
  show (Scalar.divide (elevation + f.evLimit) f.rowStep >>= fun rowsAbove => slotAbove? f rowsAbove azimuth) = _
  rw [Exact.divide_eq _ hf.rowStep_pos.ne']
  rfl

/-! ## One slot at most -/

/-- A slot stands in one cell of the field only, since its storage index is its own. -/
theorem Allocated.cell_unique {d : DataSet ℚ} (h : Allocated d) {f : Field ℚ} (hf : f ∈ d.fields)
    {place column place' column' : Nat} {row row' : Row ℚ} {slot : Slot ℚ} (hcell : Cell f place column row slot)
    (hcell' : Cell f place' column' row' slot) : place = place' ∧ column = column' ∧ row = row' := by
  have hslots : d.slots.Nodup := by
    have hindices : (d.slots.map Slot.index).Nodup := by
      rw [h.indices]
      exact List.nodup_range
    exact hindices.of_map
  obtain ⟨hrows, hapart⟩ := List.nodup_flatMap.1 ((List.nodup_flatMap.1 hslots).1 f hf)
  have hplace : place = place' := by
    obtain ⟨hlt, hget⟩ := List.getElem?_eq_some_iff.1 hcell.inField
    obtain ⟨hlt', hget'⟩ := List.getElem?_eq_some_iff.1 hcell'.inField
    have hmem := List.mem_of_getElem? hcell.inRow
    have hmem' := List.mem_of_getElem? hcell'.inRow
    rw [List.pairwise_iff_getElem] at hapart
    rcases lt_trichotomy place place' with hbelow | heq | habove
    · have hdisjoint := hapart place place' hlt hlt' hbelow
      rw [hget, hget'] at hdisjoint
      exact absurd hmem' (hdisjoint hmem)
    · exact heq
    · have hdisjoint := hapart place' place hlt' hlt habove
      rw [hget, hget'] at hdisjoint
      exact absurd hmem (hdisjoint hmem')
  subst hplace
  obtain rfl : row = row' := Option.some.inj (hcell.inField.symm.trans hcell'.inField)
  have hcolumn : column = column' :=
    (List.getElem?_inj (List.getElem?_eq_some_iff.1 hcell.inRow).1
      (hrows row (List.mem_of_getElem? hcell.inField))).1 (hcell.inRow.trans hcell'.inRow.symm)
  exact ⟨rfl, hcolumn, rfl⟩

/-- In an allocated field, a look-up finds the slot that the angles are near and no other, so they are
near one at most; each slot is found at the angles stored with it. -/
structure FindsNear (f : Field ℚ) (step azimuth elevation : ℚ) : Prop where
  found : ∀ {place column : Nat} {row : Row ℚ} {slot : Slot ℚ}, Cell f place column row slot →
    (findSlot? f azimuth elevation = .ok (some slot) ↔ Near step row slot azimuth elevation)
  unique : ∀ {place column place' column' : Nat} {row row' : Row ℚ} {slot slot' : Slot ℚ},
    Cell f place column row slot → Cell f place' column' row' slot' → Near step row slot azimuth elevation →
      Near step row' slot' azimuth elevation → place = place' ∧ column = column'
  nominal : ∀ {place column : Nat} {row : Row ℚ} {slot : Slot ℚ}, Cell f place column row slot →
    findSlot? f slot.azimuth row.elevation = .ok (some slot)
  none : (∀ {place column : Nat} {row : Row ℚ} {slot : Slot ℚ}, Cell f place column row slot →
    ¬ Near step row slot azimuth elevation) → findSlot? f azimuth elevation = .ok none

theorem findSlot?_near {layouts : List (Layout ℚ)} {s t : Session ℚ} (hspaced : ∀ l ∈ layouts, l.Spaced)
    (h : allocate layouts s = .ok () t) {f : Field ℚ} (hf : f ∈ t.data.fields) (azimuth elevation : ℚ) :
    ∃ step, f.evStep = .ok step ∧ FindsNear f step azimuth elevation ∧
      lookUp? f azimuth elevation = findSlot? f azimuth elevation := by
  have hallocated := (allocate_ok h).1
  have hregular := regular_of_allocate hspaced h f hf
  have hfound : ∀ {place column : Nat} {row : Row ℚ} {slot : Slot ℚ} {azimuth elevation : ℚ},
      Cell f place column row slot →
        (findSlot? f azimuth elevation = .ok (some slot) ↔ Near f.rowStep row slot azimuth elevation) := by
    intro place column row slot azimuth elevation hcell
    rw [findSlot?_iff hregular]
    constructor
    · rintro ⟨place', column', row', hcell', hnear⟩
      rw [(hallocated.cell_unique hf hcell hcell').2.2]
      exact hnear
    · exact fun hnear => ⟨place, column, row, hcell, hnear⟩
  refine ⟨f.rowStep, hregular.evStep_eq, ⟨hfound, ?unique, ?nominal, ?none⟩, lookUp?_eq hregular azimuth elevation⟩
  case unique =>
    intro place column place' column' row row' slot slot' hcell hcell' hnear hnear'
    -- both are what the one look-up finds
    have hsame := ((hfound hcell).2 hnear).symm.trans ((hfound hcell').2 hnear')
    obtain rfl : slot = slot' := Option.some.inj (Except.ok.inj hsame)
    obtain ⟨hplace, hcolumn, -⟩ := hallocated.cell_unique hf hcell hcell'
    exact ⟨hplace, hcolumn⟩
  case nominal =>
    intro place column row slot hcell
    have hcount : (0 : ℚ) < row.slots.length := by
      exact_mod_cast (hregular.slots row (List.mem_of_getElem? hcell.inField)).1
    refine (hfound hcell).2 ⟨?_, ?_⟩
    · rw [sub_self, abs_zero]
      exact mul_pos (by norm_num) hregular.rowStep_pos
    · rw [circularDistance_self]
      positivity
  case none =>
    intro hfar
    obtain ⟨found, hanswer⟩ := findSlot?_answers Exact.unbounded hregular azimuth elevation
    cases found with
    | none => exact hanswer
    | some slot =>
      obtain ⟨place, column, row, hcell, hnear⟩ := (findSlot?_iff hregular).1 hanswer
      exact absurd hnear (hfar hcell)

/-- A ring of two azimuths below the horizon and a single azimuth above it. -/
def twoRows : Layout ℚ := { distance := 1, evLimit := 30, evStart := 0, azCounts := [2, 1] }

theorem twoRows_spaced : twoRows.Spaced where
  limit := by unfold twoRows; norm_num
  rows := by decide
  counts := by decide

/-- One degree before the full circle is near its beginning. -/
theorem findSlot?_near_twoRows : (∀ l ∈ [twoRows], l.Spaced) ∧ ∃ t f, allocate [twoRows] ⟨DataSet.fresh, [], "", 0⟩ =
    .ok () t ∧ f ∈ t.data.fields ∧ (∃ step, f.evStep = .ok step ∧ FindsNear f step 359 (-29) ∧
      lookUp? f 359 (-29) = findSlot? f 359 (-29)) ∧ findSlot? f 359 (-29) = .ok (some ⟨0, 0, 0⟩) := by
  have hspaced : ∀ l ∈ [twoRows], l.Spaced := List.forall_mem_singleton.2 twoRows_spaced
  obtain ⟨_, t, ht⟩ := Stage.exists_ok (s := ⟨DataSet.fresh, [], "", 0⟩) (x := allocate [twoRows]) (by decide +kernel)
  obtain ⟨-, fields, contents, irCount, buffer, hfields, hdata⟩ := allocate_ok ht
  have hf : (newFields 0 [twoRows]).1.head (by decide +kernel) ∈ t.data.fields := by
    have hsame : t.data.fields = (newFields 0 [twoRows]).1 := by rw [hdata, hfields]
    rw [hsame]
    exact List.head_mem _
  exact ⟨hspaced, t, _, ht, hf, findSlot?_near hspaced ht hf 359 (-29), by decide +kernel⟩

end Grid

end HrirAtlas
