import HrirAtlas.Proofs.Layout.Counts
import HrirAtlas.Proofs.Layout.Sampled

/-
Detection inverts the generation of grids: from positions that are sampled from grids, exactly these
grids are detected. The counts of the measured rows are written where they belong, those of the rows
below are copied from their mirror rows, and so every count of the layout is found.
-/

namespace HrirAtlas.Layout

/-! ## Counts -/

section Counts

variable {l : Layout ℚ}

theorem IsGrid.rowIndex_elevation (h : l.IsGrid) (row : Nat) :
    rowIndex l.evLimit l.step (l.elevation row) = .ok (row : Int) := by
  have hstep := h.step_pos
  have hratio : (l.elevation row + l.evLimit) / l.step = ((row : ℤ) : ℚ) := by
    unfold elevation; field_simp; push_cast; ring
  unfold rowIndex
  rw [Exact.divide_eq _ hstep.ne', hratio]
  show (Scalar.round ((row : ℤ) : ℚ)).mapError Fault.arithmetic = .ok (row : Int)
  rw [Exact.round_intCast]
  rfl

/-- Copying mirror rows completes counts that are right from the lowest measured row on. -/
theorem IsGrid.mirrorCounts_eq (h : l.IsGrid) : ∀ (remaining row : Nat) (counts : List Int),
    l.evStart.toNat = row + remaining → counts.length = l.azCounts.length →
    counts.take row = l.azCounts.take row → counts.drop l.evStart.toNat = l.azCounts.drop l.evStart.toNat →
    (mirrorCounts row remaining counts : Except (Fault ℚ) (List Int)) = .ok l.azCounts
  | 0, row, counts, hlen, hcounts, htake, hdrop => by
    rw [show l.evStart.toNat = row by omega] at hdrop
    rw [← List.take_append_drop row counts, htake, hdrop, List.take_append_drop]
    rfl
  | remaining + 1, row, counts, hlen, hcounts, htake, hdrop => by
    have hstart := h.start_lt
    have hrow : row < l.azCounts.length := by omega
    -- the mirror row is above the lowest measured one
    have hsource : counts[counts.length - 1 - row]? = some l.azCounts[row] := by
      have hkept := congrArg (·[l.azCounts.length - 1 - row - l.evStart.toNat]?) hdrop
      simp only [List.getElem?_drop, show l.evStart.toNat + (l.azCounts.length - 1 - row - l.evStart.toNat) =
        l.azCounts.length - 1 - row by omega] at hkept
      rw [hcounts, hkept, h.mirrored row hrow (by omega), List.getElem?_eq_getElem]
    rw [mirrorCounts_succ (by omega) hsource]
    refine h.mirrorCounts_eq remaining (row + 1) (counts.set row l.azCounts[row]) (by omega)
      (by rw [List.length_set, hcounts]) ?_ ?_
    · rw [List.take_succ_eq_append_getElem (by rw [List.length_set]; omega), List.getElem_set_self,
        List.take_set_of_le (by omega), htake, List.take_succ_eq_append_getElem hrow]
    · rw [List.drop_set_of_lt (by omega), hdrop]

/-! ## The grid of a shell -/

theorem length_foundRows (l : Layout ℚ) : l.foundRows.length = l.azCounts.length - l.evStart.toNat := by
  unfold foundRows measuredRows
  rw [List.length_map, List.length_range']

theorem getElem_foundRows {i : Nat} (h : i < l.foundRows.length) :
    l.foundRows[i] = (l.elevation (l.evStart.toNat + i), l.azimuths (l.evStart.toNat + i)) := by
  unfold foundRows measuredRows at h ⊢
  rw [List.getElem_map, List.getElem_range', Nat.one_mul]

theorem IsGrid.writeRows_foundRows (h : l.IsGrid) :
    writeRows l.evLimit l.step l.foundRows (List.replicate l.azCounts.length 0) =
      .ok (List.replicate l.evStart.toNat 0 ++ l.azCounts.drop l.evStart.toNat) := by
  have hstart := h.start_lt
  have hcounts : l.foundRows.map (fun row => (row.2 : Int)) = l.azCounts.drop l.evStart.toNat := by
    refine List.ext_getElem (by rw [List.length_map, List.length_drop, length_foundRows]) fun i hi hi' => ?_
    rw [List.length_drop] at hi'
    rw [List.getElem_map, getElem_foundRows, List.getElem_drop]
    exact h.azimuths_eq (by omega)
  rw [writeRows_consecutive _ l.evStart.toNat _ (by rw [length_foundRows, List.length_replicate]; omega) fun i hi => ?_,
    hcounts, List.take_replicate, Nat.min_eq_left (by omega)]
  rw [getElem_foundRows]
  exact h.rowIndex_elevation _

theorem IsGrid.mirrorCounts_measured (h : l.IsGrid) :
    (mirrorCounts 0 l.evStart.toNat (List.replicate l.evStart.toNat 0 ++ l.azCounts.drop l.evStart.toNat) :
      Except (Fault ℚ) (List Int)) = .ok l.azCounts := by
  have hstart := h.start_lt
  refine h.mirrorCounts_eq l.evStart.toNat 0 _ (by omega) ?_ rfl ?_
  · rw [List.length_append, List.length_replicate, List.length_drop]; omega
  · rw [List.drop_append_of_le_length (by rw [List.length_replicate]), List.drop_of_length_le
      (by rw [List.length_replicate]), List.nil_append]

theorem IsGrid.evLimit_eq (h : l.IsGrid) :
    (if l.evLimit > poleElevation then (90.0 : ℚ) else l.evLimit) = l.evLimit := by
  rw [poleElevation_eq]
  rcases h.limit.2 with hle | hlim
  · rw [if_neg (not_lt.2 hle)]
  · rw [hlim, if_pos (by norm_num)]; norm_num

theorem IsGrid.intervals_eq (h : l.IsGrid) :
    Scalar.divide (2.0 * l.evLimit) l.step = .ok ((l.azCounts.length - 1 : ℤ) : ℚ) := by
  have hstep := h.step_pos
  have hmul := h.step_mul
  rw [Exact.divide_eq _ hstep.ne']
  congr 1
  rw [div_eq_iff hstep.ne']
  push_cast; norm_num; linarith

/-- The rows that a grid is found in give the grid back. -/
theorem IsGrid.ofRows_eq (h : l.IsGrid) :
    ofRows l.distance l.foundRows (l.elevation l.evStart.toNat) l.evLimit = .ok l := by
  have hstart := h.start_lt
  have hrows := h.rows
  have hlowest : ¬ l.elevation l.evStart.toNat > angleTolerance := by
    have := h.start.2
    rw [angleTolerance_eq, not_lt]; norm_num; linarith
  have hlength : ¬ l.foundRows.length < 2 := by
    rw [length_foundRows]; unfold minRows at hrows; omega
  have helevations : l.foundRows.map Prod.fst =
      (List.range' l.evStart.toNat (l.azCounts.length - l.evStart.toNat)).map l.elevation := by
    unfold foundRows measuredRows; rw [List.map_map]; rfl
  have hstep : ¬ l.step ≤ (0.0 : ℚ) := by have := h.step_pos; norm_num; exact this
  have hfound : elevationStep? angleTolerance (l.foundRows.map Prod.fst) = .ok (some l.step) := by
    rw [helevations]
    exact h.elevationStep?_rows (by unfold minRows at hrows; omega)
  have hcount : (l.azCounts.length : ℤ) - 1 + 1 = l.azCounts.length := by omega
  unfold ofRows
  rw [if_neg (by norm_num; exact h.limit.1), if_neg hlength]
  simp only [hfound, Except.mapError, bind, Except.bind, pure, Except.pure, h.evLimit_eq, if_neg hstep,
    h.intervals_eq, Exact.round_intCast, hcount, if_neg hlowest, h.writeRows_foundRows, h.rowIndex_elevation,
    Int.toNat_natCast, h.mirrorCounts_measured, h.checkDensity_ok]
  rw [if_neg (by exact_mod_cast not_lt.2 hrows.1), if_neg (by exact_mod_cast not_lt.2 hrows.2),
    Int.toNat_of_nonneg h.start.1]

/-! ## All shells -/

theorem usableRows_usable {α : Type} : ∀ rows : List (α × Nat),
    usableRows (rows.map fun row => RowVerdict.usable row.1 row.2) = .ok rows
  | [] => rfl
  | row :: rows => by
    show (usableRows (rows.map fun row => RowVerdict.usable row.1 row.2)).map _ = _
    rw [usableRows_usable rows]
    rfl

theorem IsGrid.foundRows_head (h : l.IsGrid) :
    ∃ rest, l.foundRows = (l.elevation l.evStart.toNat, l.azimuths l.evStart.toNat) :: rest := by
  have hstart := h.start_lt
  unfold foundRows measuredRows
  rw [show l.azCounts.length - l.evStart.toNat = l.azCounts.length - l.evStart.toNat - 1 + 1 by omega]
  exact ⟨_, rfl⟩

theorem IsGrid.foundRows_getLast (h : l.IsGrid) (hne : l.foundRows ≠ []) :
    (l.foundRows.getLast hne).1 = l.evLimit := by
  have hstart := h.start_lt
  have hlen := length_foundRows l
  rw [List.getLast_eq_getElem, getElem_foundRows, ← h.elevation_last]
  show l.elevation _ = _
  congr 1
  omega

theorem IsGrid.ofShell_eq (h : l.IsGrid) :
    ofShell l.distance (l.foundRows.map fun row => RowVerdict.usable row.1 row.2) = .ok (some l) := by
  obtain ⟨rest, hrest⟩ := h.foundRows_head
  have hne : l.foundRows ≠ [] := by rw [hrest]; exact List.cons_ne_nil _ _
  have hlast := h.foundRows_getLast hne
  have hgrid := h.ofRows_eq
  unfold ofShell
  rw [usableRows_usable]
  simp only [hrest] at hlast hgrid ⊢
  simp only [bind, Except.bind, hlast, hgrid, pure, Except.pure]

end Counts

section Shells

variable {layouts : List (Layout ℚ)} {positions : List (Spherical ℚ)}

/-- Shells with the rows of grids have the grids as layouts. -/
theorem ofShells_of_hasRows : ∀ shells : List (Layout ℚ),
    (∀ l ∈ shells, l.IsGrid ∧ HasRows positions l.distance l.foundRows) →
      (ofShells positions (shells.map (·.distance))).2 = .ok shells
  | [], _ => rfl
  | l :: shells, h => by
    have ih := ofShells_of_hasRows shells fun m hm => h m (List.mem_cons_of_mem _ hm)
    obtain ⟨hg, hrows⟩ := h l List.mem_cons_self
    have hshell := hg.ofShell_eq
    rw [← hrows.judgeShell_eq] at hshell
    rw [List.map_cons]
    unfold ofShells
    simp only [hshell, ih]
    rfl

/-- Detection ends with the shells at the distances that are told apart. -/
theorem detect_of_shells {distances : List ℚ}
    (hdistances : Cluster.along .distance ⟨none, none, none⟩ Cluster.tolerances (positions.map foldSeam) = distances)
    (hcount : distances.length ≤ maxFields) {entries : Journal} {found : List (Layout ℚ)} (hne : found ≠ [])
    (h : ofShells (positions.map foldSeam) distances = (entries, .ok found)) :
    detect positions = (entries, .ok found) := by
  unfold detect
  simp only [hdistances, if_neg (not_lt.2 hcount), h]
  cases found with
  | nil => exact absurd rfl hne
  | cons l found => rfl

/-- Detection finds grids wherever it finds their distances and their rows. -/
theorem detect_of_hasRows (hne : layouts ≠ []) (hcount : layouts.length ≤ maxFields)
    (hdistances : Cluster.along .distance ⟨none, none, none⟩ Cluster.tolerances (positions.map foldSeam) =
      layouts.map (·.distance))
    (h : ∀ l ∈ layouts, l.IsGrid ∧ HasRows (positions.map foldSeam) l.distance l.foundRows) :
    (detect positions).2 = .ok layouts := by
  rw [detect_of_shells hdistances (by rwa [List.length_map]) hne (Prod.ext rfl (ofShells_of_hasRows layouts h))]

theorem Sampled.ofShells_eq (hs : Sampled layouts positions) (hg : ∀ l ∈ layouts, l.IsGrid) (hd : Apart layouts)
    (shells : List (Layout ℚ)) (hmem : ∀ l ∈ shells, l ∈ layouts) :
    (ofShells positions (shells.map (·.distance))).2 = .ok shells :=
  ofShells_of_hasRows shells fun l hl => ⟨hg l (hmem l hl), hs.hasRows hg hd (hmem l hl)⟩

theorem Sampled.detect_of_shells (hs : Sampled layouts positions) (hg : ∀ l ∈ layouts, l.IsGrid) (hd : Apart layouts)
    (hcount : layouts.length ≤ maxFields) {entries : Journal} {found : List (Layout ℚ)} (hne : found ≠ [])
    (h : ofShells positions (layouts.map (·.distance)) = (entries, .ok found)) :
    detect positions = (entries, .ok found) := by
  have hfold := hs.map_foldSeam hg
  refine Layout.detect_of_shells (by rw [hfold, hs.distances_eq hg hd]) (by rwa [List.length_map]) hne ?_
  rw [hfold]
  exact h

end Shells

/-- Detection inverts the generation of grids: positions that lie on grids at distances more than a
millimetre apart, with two neighbouring points on every measured row, are detected as these grids. -/
theorem detect_of_sampled {layouts : List (Layout ℚ)} {positions : List (Spherical ℚ)}
    (hlayouts : 1 ≤ layouts.length ∧ layouts.length ≤ maxFields) (hg : ∀ l ∈ layouts, l.IsGrid)
    (hd : Apart layouts) (hs : Sampled layouts positions) : (detect positions).2 = .ok layouts := by
  have hshells := hs.ofShells_eq hg hd layouts fun _ hl => hl
  have hne : layouts ≠ [] := List.ne_nil_of_length_pos hlayouts.1
  rw [hs.detect_of_shells hg hd hlayouts.2 hne (Prod.ext rfl hshells)]

/-- A shell with poles whose lowest row was not measured, and one of five rows without poles. -/
def twoShells : List (Layout ℚ) :=
  [{ distance := 1, evLimit := 90, evStart := 1, azCounts := [1, 4, 1] },
   { distance := 3/2, evLimit := 60, evStart := 2, azCounts := [2, 3, 6, 3, 2] }]

/-- Points of both, in no order; of the rows on the equator some points are missing. -/
def twoShellsSample : List (Spherical ℚ) :=
  [⟨0, 0, 3/2⟩, ⟨180, 60, 3/2⟩, ⟨0, 90, 1⟩, ⟨120, 30, 3/2⟩, ⟨270, 0, 1⟩, ⟨300, 0, 3/2⟩, ⟨0, 60, 3/2⟩, ⟨0, 0, 1⟩,
   ⟨0, 30, 3/2⟩, ⟨180, 0, 3/2⟩, ⟨180, 0, 1⟩, ⟨240, 30, 3/2⟩]

theorem twoShells_isGrid : ∀ l ∈ twoShells, l.IsGrid := by
  intro l hl
  rcases List.mem_cons.1 hl with rfl | hl
  · constructor <;> decide +kernel
  · obtain rfl := List.mem_singleton.1 hl
    constructor <;> decide +kernel

theorem twoShells_sampled : Sampled twoShells twoShellsSample := by
  constructor <;> decide +kernel

theorem detect_twoShellsSample : (1 ≤ twoShells.length ∧ twoShells.length ≤ maxFields) ∧
    (∀ l ∈ twoShells, l.IsGrid) ∧ Apart twoShells ∧ Sampled twoShells twoShellsSample ∧
    (detect twoShellsSample).2 = .ok twoShells := by
  have hlayouts : 1 ≤ twoShells.length ∧ twoShells.length ≤ maxFields := by decide
  have hd : Apart twoShells := by unfold Apart; decide +kernel
  exact ⟨hlayouts, twoShells_isGrid, hd, twoShells_sampled,
    detect_of_sampled hlayouts twoShells_isGrid hd twoShells_sampled⟩

end HrirAtlas.Layout
