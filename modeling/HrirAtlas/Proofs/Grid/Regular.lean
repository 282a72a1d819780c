import HrirAtlas.Proofs.Grid.Storage

/-
Grids that can be looked up. A layout with a limit above zero, two rows or more and an azimuth in
every row has a step between rows and between the azimuths of a row; its field keeps them, with the
elevations and azimuths that were computed for them. In arithmetic that neither overflows nor
underflows, a look-up in such a field always has an answer.
-/

namespace HrirAtlas

/-- Arithmetic that neither overflows nor underflows: every value can be read, an integer is zero
only if it is, and so is a quotient. -/
structure Scalar.Unbounded (α : Type) [Scalar α] : Prop where
  finite : ∀ x : α, ∃ negative num den, Scalar.reading x = .finite negative num den
  ofInt : ∀ n : Int, n ≠ 0 → isZero (Scalar.ofInt n : α) = false
  quotient : ∀ x y : α, isZero x = false → isZero y = false → isZero (x / y) = false
  turn : isZero (360.0 : α) = false

/-- The layout has a step between rows, and between the azimuths of each row. -/
structure Layout.Spaced {α : Type} [Scalar α] (l : Layout α) : Prop where
  limit : (0.0 : α) < l.evLimit
  rows : 2 ≤ l.azCounts.length
  counts : ∀ count ∈ l.azCounts, 1 ≤ count

/-- The field as it is allocated for a layout with steps. -/
structure Field.Regular {α : Type} [Scalar α] (f : Field α) : Prop where
  limit : (0.0 : α) < f.evLimit
  rows : 2 ≤ f.rows.length
  elevations : ∀ place row, f.rows[place]? = some row →
    Grid.rowElevation f.evLimit f.rows.length place = .ok row.elevation
  slots : ∀ row ∈ f.rows, 0 < row.slots.length ∧ ∃ first, row.slots = Grid.newSlots row.slots.length first

namespace Grid

variable {α : Type} [Scalar α]

/-! ## Fields of layouts with steps -/

theorem newRows_row {evLimit : α} {count : Nat} : ∀ {row next : Nat} {azCounts : List Int} {rows : List (Row α)}
    {last : Nat}, newRows evLimit count row next azCounts = .ok (rows, last) →
      rows.length = azCounts.length ∧ ∀ place found, rows[place]? = some found →
        rowElevation evLimit count (row + place) = .ok found.elevation ∧
          ∃ azimuths ∈ azCounts, ∃ first, found.slots = newSlots azimuths.toNat first
  | row, next, [], rows, last, h => by
    cases h
    exact ⟨rfl, nofun⟩
  | row, next, azimuths :: azCounts, rows, last, h => by
    obtain ⟨elevation, helevation, h⟩ := except_bind_ok h
    obtain ⟨⟨rest, last'⟩, hrest, h⟩ := except_bind_ok h
    cases h
    obtain ⟨hlength, hrows⟩ := newRows_row hrest
    refine ⟨congrArg (· + 1) hlength, fun place found hfound => ?_⟩
    cases place with
    | zero =>
      cases hfound
      exact ⟨helevation, azimuths, List.mem_cons_self, next, rfl⟩
    | succ place =>
      obtain ⟨hfoundElevation, azimuths', hmem, first, hslots⟩ := hrows place found hfound
      rw [Nat.add_right_comm] at hfoundElevation
      exact ⟨hfoundElevation, azimuths', List.mem_cons_of_mem _ hmem, first, hslots⟩

theorem newFields_regular : ∀ {next : Nat} {layouts : List (Layout α)} {fields : List (Field α)} {total : Nat},
    (∀ l ∈ layouts, l.Spaced) → newFields next layouts = (fields, total, none) → ∀ f ∈ fields, f.Regular
  | next, [], fields, total, _, h => by cases h; exact nofun
  | next, l :: layouts, fields, total, hspaced, h => by
    rcases newFields_cons h with ⟨-, -, hcause⟩ | ⟨rows, last, later, hrows, hlater, rfl⟩
    · cases hcause
    have hl := hspaced l List.mem_cons_self
    obtain ⟨hlength, hrow⟩ := newRows_row hrows
    rintro f (_ | ⟨_, hf⟩)
    · refine ⟨hl.limit, hlength ▸ hl.rows, fun place found hfound => ?_, fun found hfound => ?_⟩
      · have helevation := (hrow place found hfound).1
        rwa [Nat.zero_add, ← hlength] at helevation
      · obtain ⟨place, hplace⟩ := List.mem_iff_getElem?.1 hfound
        obtain ⟨-, azimuths, hmem, first, hslots⟩ := hrow place found hplace
        have hcount := hl.counts azimuths hmem
        have hlen : found.slots.length = azimuths.toNat := by rw [hslots, length_newSlots]
        refine ⟨by omega, first, ?_⟩
        rw [hlen]
        exact hslots
    · exact newFields_regular (fun l hmem => hspaced l (List.mem_cons_of_mem _ hmem)) hlater f hf

theorem regular_of_allocate {layouts : List (Layout α)} {s t : Session α} (hspaced : ∀ l ∈ layouts, l.Spaced)
    (h : allocate layouts s = .ok () t) : ∀ f ∈ t.data.fields, f.Regular := by
  obtain ⟨-, fields, contents, irCount, buffer, hfields, hdata⟩ := allocate_ok h
  rw [hdata]
  exact newFields_regular hspaced hfields

/-! ## Look-ups answer -/

theorem divide_answers (x : α) {y : α} (hy : Scalar.isZero y = false) : Scalar.divide x y = .ok (x / y) := by
  unfold Scalar.divide
  rw [hy]
  rfl

section Answers

variable (hα : Scalar.Unbounded α)

include hα

theorem round_answers (x : α) : ∃ n, Scalar.round x = .ok n := by
  obtain ⟨negative, num, den, hx⟩ := hα.finite x
  unfold Scalar.round
  rw [hx]
  exact ⟨_, rfl⟩

theorem nearestStep?_answers (steps : α) : ∃ nearest, nearestStep? steps = .ok nearest := by
  obtain ⟨n, hn⟩ := round_answers hα steps
  unfold nearestStep?
  rw [hn]
  exact ⟨_, rfl⟩

theorem slotInRow?_answers {row : Row α} (hrow : 0 < row.slots.length) (azimuth : α) :
    ∃ found, slotInRow? row azimuth = .ok found := by
  have hlength := hα.ofInt row.slots.length (by omega)
  have hspacing := hα.quotient _ _ hα.turn hlength
  obtain ⟨nearest, hnearest⟩ := nearestStep?_answers hα (azimuth / (360.0 / Scalar.ofInt row.slots.length))
  unfold slotInRow?
  rw [divide_answers _ hlength]
  simp only [bind, Except.bind]
  rw [divide_answers _ hspacing]
  simp only [hnearest]
  cases nearest with
  | none => exact ⟨_, rfl⟩
  | some column => exact ⟨_, rfl⟩

theorem findSlot?_answers {f : Field α} (hf : f.Regular) (azimuth elevation : α) :
    ∃ found, findSlot? f azimuth elevation = .ok found := by
  have hrows := hf.rows
  have hintervals := hα.ofInt ((f.rows.length : Int) - 1) (by omega)
  unfold findSlot? Field.evStep
  rw [divide_answers _ hintervals]
  obtain ⟨place, hplace⟩ :=
    round_answers hα ((elevation + f.evLimit) / (2.0 * f.evLimit / Scalar.ofInt ((f.rows.length : Int) - 1)))
  unfold slotAbove?
  simp only [bind, Except.bind, hplace]
  split
  · exact ⟨_, rfl⟩
  split
  · exact ⟨_, rfl⟩
  · simp only [pure, Except.pure]
    split
    · exact ⟨_, rfl⟩
    · rename_i found hfound
      exact slotInRow?_answers hα (hf.slots found (List.mem_of_getElem? hfound)).1 azimuth

/-- Every position has a slot of the grid, or is known to have none. -/
theorem resolve?_answers {fields : List (Field α)} (hfields : ∀ f ∈ fields, f.Regular) (p : Spherical α) :
    ∃ found, resolve? fields p = .ok found := by
  unfold resolve?
  split
  · exact ⟨_, rfl⟩
  · rename_i f hf
    obtain ⟨place, -, hplace⟩ := Option.bind_eq_some_iff.1 hf
    exact findSlot?_answers hα (hfields f (List.mem_of_getElem? hplace)) _ _

end Answers

end Grid

end HrirAtlas
