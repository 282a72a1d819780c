import HrirAtlas.Proofs.Layout.Cover
import HrirAtlas.Proofs.Layout.Shell

/-
The windows that give the points of a shell and of a row back. A cluster reaches from its least value
upward, but the window of that value reaches as far below it. So each point is in the window of its own
cluster, and it is in that of the next one, too, where this begins at most the tolerance above the
point; a third window cannot reach it.
-/

namespace HrirAtlas.Layout

/-! ## Windows around distinct values -/

/-- How the windows of distinct values fall on a value: it belongs to the cluster of exactly one of them,
at most two select it, and only one does exactly if no cluster begins close above the value. -/
structure Windowed (tolerance value : ℚ) (heads : List ℚ) (selects : ℚ → Bool) : Prop where
  own : ∃! head, head ∈ heads ∧ head ≤ value ∧ value ≤ head + tolerance
  ownSelects : ∀ head ∈ heads, head ≤ value → value ≤ head + tolerance → selects head = true
  most : (heads.filter selects).length ≤ 2
  alone : (∃! head, head ∈ heads ∧ selects head = true) ↔
    ∀ head ∈ heads, ¬ (value < head ∧ head ≤ value + tolerance)

section Windows

variable {tolerance value : ℚ} {heads : List ℚ} {selects : ℚ → Bool}

theorem length_filter_le_two (hapart : heads.Pairwise fun x y => x + tolerance < y)
    (hselects : ∀ head, selects head = true ↔ |value - head| ≤ tolerance) : (heads.filter selects).length ≤ 2 := by
  have hnear : ∀ head ∈ heads.filter selects, |value - head| ≤ tolerance := fun head hhead =>
    (hselects head).1 (List.mem_filter.1 hhead).2
  have hpairs := hapart.filter selects
  match hfound : heads.filter selects with
  | [] | [_] | [_, _] => simp
  | x :: y :: z :: rest =>
    -- the first and the third are more than two tolerances apart, and the value is near both
    rw [hfound] at hnear hpairs
    have hxy := (List.pairwise_cons.1 hpairs).1 y (by simp)
    have hyz := (List.pairwise_cons.1 (List.pairwise_cons.1 hpairs).2).1 z (by simp)
    have hx := abs_le.1 (hnear x (by simp))
    have hz := abs_le.1 (hnear z (by simp))
    linarith

/-- Every value of a list is windowed by the distinct values of the list. -/
theorem windowed_distinct (htol : 0 ≤ tolerance) {values : List ℚ} (hvalue : value ∈ values)
    (hselects : ∀ head, selects head = true ↔ |value - head| ≤ tolerance) :
    Windowed tolerance value (Cluster.distinct tolerance values) selects := by
  have hcovers := Cluster.covers_distinct htol values
  have hapart := hcovers.apart
  obtain ⟨own, ⟨hown, hlow, hhigh⟩, -⟩ := hcovers.existsUnique hvalue
  have hself : |value - own| ≤ tolerance := by
    rw [abs_le]
    constructor <;> linarith
  refine ⟨hcovers.existsUnique hvalue, ?_, length_filter_le_two hapart hselects, ?_, ?_⟩
  · intro head _ hlow' hhigh'
    rw [hselects, abs_le]
    constructor <;> linarith
  · rintro ⟨only, -, honly⟩ head hhead ⟨habove, hnear⟩
    have hselected : selects head = true := by
      rw [hselects, abs_le]
      constructor <;> linarith
    have hsame : head = own :=
      (honly head ⟨hhead, hselected⟩).trans (honly own ⟨hown, (hselects own).2 hself⟩).symm
    linarith
  · intro hnone
    refine ⟨own, ⟨hown, (hselects own).2 hself⟩, ?_⟩
    rintro head ⟨hhead, hselected⟩
    have hnear := abs_le.1 ((hselects head).1 hselected)
    have hbelow : head ≤ value := by
      by_contra habove
      exact hnone head hhead ⟨not_le.1 habove, by linarith⟩
    exact Cluster.eq_of_near_apart hapart hhead hown (by linarith) (by linarith)

end Windows

/-! ## Shells and rows -/

/-- The distances of the shells that are found in positions. -/
def shells (positions : List (Spherical ℚ)) : List ℚ :=
  Cluster.along .distance ⟨none, none, none⟩ Cluster.tolerances (positions.map foldSeam)

/-- The elevations that are found in the shell at a distance. -/
def shellRows (positions : List (Spherical ℚ)) (distance : ℚ) : List ℚ :=
  Cluster.along .elevation ⟨none, none, some distance⟩ Cluster.tolerances (positions.map foldSeam)

/-- Whether a position is taken for a point of the shell at a distance. -/
def inShell (distance : ℚ) (p : Spherical ℚ) : Bool :=
  Cluster.matchesAll Cluster.tolerances ⟨none, none, some distance⟩ (foldSeam p)

/-- Whether a position is taken for a point of the row at an elevation of a shell. -/
def inRow (distance elevation : ℚ) (p : Spherical ℚ) : Bool :=
  Cluster.matchesAll Cluster.tolerances ⟨none, some elevation, some distance⟩ (foldSeam p)

/-- A shell is judged by the azimuths of the positions that are in its rows. -/
theorem judgeShell_eq_map_shellRows (positions : List (Spherical ℚ)) (distance : ℚ) :
    judgeShell (positions.map foldSeam) distance = (shellRows positions distance).map fun elevation =>
      judgeRow distance elevation
        (Cluster.distinct 0.1 (((positions.filter (inRow distance elevation)).map foldSeam).map (·.azimuth))) := by
  unfold judgeShell shellRows
  refine List.map_congr_left fun elevation _ => ?_
  unfold Cluster.along
  rw [List.filter_map]
  rfl

section Positions

variable {positions : List (Spherical ℚ)} {p : Spherical ℚ} {distance elevation : ℚ}

theorem inShell_iff : inShell distance p = true ↔ |p.distance - distance| ≤ 0.001 := by
  unfold inShell
  rw [matchesAll_distance, foldSeam_distance]

theorem inRow_iff :
    inRow distance elevation p = true ↔ |p.elevation - elevation| ≤ 0.1 ∧ |p.distance - distance| ≤ 0.001 := by
  unfold inRow
  rw [matchesAll_row, foldSeam_elevation, foldSeam_distance]

/-- The windows of shells and rows nearly partition the positions. Each position belongs to one shell, and
the window of the next shell selects it, too, only where this begins within the tolerance above it; in a
shell that selects it, the same holds of the rows. -/
theorem windowed_of_mem (hp : p ∈ positions) :
    Windowed 0.001 p.distance (shells positions) (inShell · p) ∧
      ∀ distance ∈ shells positions, inShell distance p = true →
        Windowed 0.1 p.elevation (shellRows positions distance) (inRow distance · p) := by
  have hfolded : foldSeam p ∈ positions.map foldSeam := List.mem_map_of_mem hp
  constructor
  · refine windowed_distinct (by norm_num) ?_ fun head => inShell_iff
    rw [← foldSeam_distance p]
    exact (mem_along .distance ⟨none, none, none⟩ _ _).2 ⟨foldSeam p, hfolded, matchesAll_none _, rfl⟩
  · intro distance _ hselected
    refine windowed_distinct (by norm_num) ?_ fun head => ?_
    · rw [← foldSeam_elevation p]
      exact (mem_along .elevation ⟨none, none, some distance⟩ _ _).2 ⟨foldSeam p, hfolded, hselected, rfl⟩
    · have hnear := inShell_iff.1 hselected
      rw [inRow_iff]
      constructor
      · exact fun h => h.1
      · exact fun h => ⟨h, hnear⟩

end Positions

/-! ## Windows that overlap -/

/-- Every position is in the window of exactly one shell. -/
def ShellsPartition (positions : List (Spherical ℚ)) : Prop :=
  ∀ p ∈ positions, ∃! distance, distance ∈ shells positions ∧ inShell distance p = true

/-- In a shell that selects it, every position is in the window of exactly one row. -/
def RowsPartition (positions : List (Spherical ℚ)) : Prop :=
  ∀ p ∈ positions, ∀ distance ∈ shells positions, inShell distance p = true →
    ∃! elevation, elevation ∈ shellRows positions distance ∧ inRow distance elevation p = true

/-- Two shells of three rows, and a point of the nearer one that is close to the other. -/
def nearShells : List (Spherical ℚ) :=
  [⟨0, -45, 1⟩, ⟨180, -45, 1⟩, ⟨0, 0, 1⟩, ⟨180, 0, 1⟩, ⟨90, 0, 1.0008⟩, ⟨0, 45, 1⟩, ⟨180, 45, 1⟩, ⟨0, -45, 1.0016⟩,
    ⟨180, -45, 1.0016⟩, ⟨0, 0, 1.0016⟩, ⟨180, 0, 1.0016⟩, ⟨0, 45, 1.0016⟩, ⟨180, 45, 1.0016⟩]

theorem shells_nearShells : shells nearShells = [1, 1.0016] := by
  unfold shells
  rw [Cluster.along_eq_insertionSort]
  decide +kernel

/-- Three rows, and a point of the middle one that is close to the topmost. -/
def nearRows : List (Spherical ℚ) :=
  [⟨0, -0.16, 1⟩, ⟨180, -0.16, 1⟩, ⟨0, 0, 1⟩, ⟨180, 0, 1⟩, ⟨90, 0.08, 1⟩, ⟨0, 0.16, 1⟩, ⟨180, 0.16, 1⟩]

theorem shells_nearRows : shells nearRows = [1] := by
  unfold shells
  rw [Cluster.along_eq_insertionSort]
  decide +kernel

theorem shellRows_nearRows : shellRows nearRows 1 = [-0.16, 0, 0.16] := by
  unfold shellRows
  rw [Cluster.along_eq_insertionSort]
  decide +kernel

theorem windowed_of_mem_near : (⟨90, 0, 1.0008⟩ : Spherical ℚ) ∈ nearShells ∧
    Windowed 0.001 1.0008 [1, 1.0016] (inShell · (⟨90, 0, 1.0008⟩ : Spherical ℚ)) ∧
    (⟨90, 0.08, 1⟩ : Spherical ℚ) ∈ nearRows ∧
    Windowed 0.1 0.08 [-0.16, 0, 0.16] (inRow 1 · (⟨90, 0.08, 1⟩ : Spherical ℚ)) := by
  have hshells : (⟨90, 0, 1.0008⟩ : Spherical ℚ) ∈ nearShells := by decide +kernel
  have hrows : (⟨90, 0.08, 1⟩ : Spherical ℚ) ∈ nearRows := by decide +kernel
  refine ⟨hshells, ?_, hrows, ?_⟩
  · rw [← shells_nearShells]
    exact (windowed_of_mem hshells).1
  · rw [← shellRows_nearRows]
    exact (windowed_of_mem hrows).2 1 (by rw [shells_nearRows]; exact List.mem_cons_self) (by decide +kernel)

/-- The point between two shells is in the windows of both, and the point between two rows, too. -/
theorem not_partition_near : ¬ ShellsPartition nearShells ∧ ¬ RowsPartition nearRows := by
  constructor
  · intro hpartition
    obtain ⟨only, -, honly⟩ := hpartition ⟨90, 0, 1.0008⟩ (by decide +kernel)
    rw [shells_nearShells] at honly
    have hfirst := honly 1 ⟨by decide +kernel, by decide +kernel⟩
    have hsecond := honly 1.0016 ⟨by decide +kernel, by decide +kernel⟩
    exact absurd (hfirst.trans hsecond.symm) (by decide +kernel)
  · intro hpartition
    obtain ⟨only, -, honly⟩ := hpartition ⟨90, 0.08, 1⟩ (by decide +kernel) 1
      (by rw [shells_nearRows]; exact List.mem_cons_self) (by decide +kernel)
    rw [shellRows_nearRows] at honly
    have hmiddle := honly 0 ⟨by decide +kernel, by decide +kernel⟩
    have htop := honly 0.16 ⟨by decide +kernel, by decide +kernel⟩
    exact absurd (hmiddle.trans htop.symm) (by decide +kernel)

end HrirAtlas.Layout
