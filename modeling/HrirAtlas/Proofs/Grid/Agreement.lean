import HrirAtlas.Proofs.Grid.Locate
import HrirAtlas.Proofs.Layout.Detection
import HrirAtlas.Proofs.Layout.Shell

/-
Detection and mapping agree. Detection tells rows and columns apart by degrees, mapping finds them by
tenths of a step; detection knows a row by its lowest elevation, mapping looks at each position. Where
a tenth of a step covers both tolerances, or a position is that near to the grid by itself, a position
in the window of a usable row has a slot in the row that detection gave it.
-/

namespace HrirAtlas.Grid

/-! ## In reach of the grid -/

/-- A direction as the coordinates of a point give it. -/
structure Proper (p : Spherical ℚ) : Prop where
  azimuth : 0 ≤ p.azimuth ∧ p.azimuth < 360
  elevation : |p.elevation| ≤ 90

instance (p : Spherical ℚ) : Decidable (Proper p) :=
  decidable_of_iff ((0 ≤ p.azimuth ∧ p.azimuth < 360) ∧ |p.elevation| ≤ 90)
    ⟨fun h => ⟨h.1, h.2⟩, fun h => ⟨h.azimuth, h.elevation⟩⟩

/-- The elevation is less than a tenth of a step from a row, since the steps are wide, or by itself
where a step has room for that and for the windows of two rows. -/
def NearRow (l : Layout ℚ) (p : Spherical ℚ) : Prop :=
  2 < l.step ∨ 2 / 9 ≤ l.step ∧ ∃ row : Nat, |p.elevation - l.elevation row| < l.step / 10

theorem NearRow.step_le {l : Layout ℚ} {p : Spherical ℚ} (h : NearRow l p) : 2 / 9 ≤ l.step := by
  rcases h with hwide | ⟨hrows, -⟩
  · linarith
  · exact hrows

/-- The azimuth is less than a tenth of a step from a column of a row, by itself or since the columns
of the row are wide; the position of a pole, which has no azimuth, must count as one. -/
def NearColumn (elevation : ℚ) (azimuths : Nat) (p : Spherical ℚ) : Prop :=
  (azimuths < 180 ∧ (89.999 < |elevation| → 89.999 ≤ |p.elevation|)) ∨
    ∃ column : ℤ, |p.azimuth - column * (360 / azimuths)| < 360 / azimuths / 10

section Agreement

variable {positions : List (Spherical ℚ)} {l : Layout ℚ} {elevation : ℚ} {azimuths : Nat} {p : Spherical ℚ}

theorem clockwise_of_usable
    (husable : .usable elevation azimuths ∈ Layout.judgeShell (positions.map Layout.foldSeam) l.distance)
    (hp : p ∈ positions) (hproper : Proper p) (helevation : |p.elevation - elevation| ≤ 0.1)
    (hdistance : |p.distance - l.distance| ≤ 0.001) (hpos : 0 < azimuths) (hcolumn : NearColumn elevation azimuths p) :
    ∃ column : ℤ, |clockwise p / (360 / azimuths) - column| < 0.1 := by
  rcases le_or_gt 89.999 |p.elevation| with hpole | hbelow
  · exact ⟨0, by rw [clockwise_pole hpole]; norm_num⟩
  rcases hcolumn with ⟨hwide, hpole⟩ | ⟨column, hcolumn⟩
  · have hrow : |elevation| ≤ 89.999 := by
      by_contra hgt
      exact absurd (hpole (not_le.1 hgt)) (not_le.2 hbelow)
    obtain ⟨-, column, hcolumn⟩ := Layout.exists_column husable hrow (List.mem_map_of_mem (f := Layout.foldSeam) hp)
      (by rwa [Layout.foldSeam_elevation]) (by rwa [Layout.foldSeam_distance])
    refine clockwise_near hproper.azimuth hbelow hpos (hcolumn.trans_lt ?_)
    have hwide' : (azimuths : ℚ) < 180 := by exact_mod_cast hwide
    have hpos' : (0 : ℚ) < azimuths := by exact_mod_cast hpos
    rw [div_div, lt_div_iff₀ (by positivity)]
    norm_num
    linarith
  · obtain ⟨column, hcolumn⟩ := foldSeam_near hpos hcolumn
    exact clockwise_near hproper.azimuth hbelow hpos hcolumn

/-- A position in the window of a usable row has a slot in every row with the count of that row. -/
theorem slotInRow?_of_usable
    (husable : .usable elevation azimuths ∈ Layout.judgeShell (positions.map Layout.foldSeam) l.distance)
    (hp : p ∈ positions) (hproper : Proper p) (helevation : |p.elevation - elevation| ≤ 0.1)
    (hdistance : |p.distance - l.distance| ≤ 0.001) (hcolumn : NearColumn elevation azimuths p)
    {found : Row ℚ} (hslots : found.slots.length = azimuths) :
    ∃ slot ∈ found.slots, slotInRow? found (clockwise p) = .ok (some slot) := by
  have hpos : 0 < azimuths := by
    rcases Layout.judgeShell_usable husable with ⟨-, hone⟩ | ⟨-, hcount⟩
    · omega
    · have := (Layout.azimuthCount?_ok hcount).1.1
      omega
  obtain ⟨column, hnear⟩ := clockwise_of_usable husable hp hproper helevation hdistance hpos hcolumn
  rw [← hslots] at hnear
  exact slotInRow?_of_near (by rw [hslots]; exact hpos) hnear

/-- The row in reach of a position is the one that detection gave the row of its window. -/
theorem row_near {row : Nat} (hstep : 0 < l.step) (helevation : |p.elevation - elevation| ≤ 0.1)
    (hgap : |elevation - l.elevation row| + 0.1 ≤ 0.9 * l.step)
    (hreach : 2 < l.step → |elevation - l.elevation row| + 0.1 < l.step / 10) (hrow : NearRow l p) :
    |p.elevation - l.elevation row| < l.step / 10 := by
  have hdeviation : |p.elevation - l.elevation row| ≤ 0.1 + |elevation - l.elevation row| :=
    (abs_sub_le _ elevation _).trans (add_le_add_left helevation _)
  rcases hrow with hwide | ⟨-, other, hother⟩
  · have := hreach hwide
    linarith
  · -- two rows in reach would be less than a step apart
    have hapart : |l.elevation other - l.elevation row| < l.step := by
      calc |l.elevation other - l.elevation row|
          ≤ |l.elevation other - p.elevation| + |p.elevation - l.elevation row| := abs_sub_le _ _ _
        _ < l.step := by rw [abs_sub_comm]; norm_num at hgap; linarith
    rw [Layout.elevation_sub, abs_mul, abs_of_pos hstep] at hapart
    have hone : |((other - row : ℤ) : ℚ)| < 1 := by
      push_cast
      by_contra hge
      exact absurd hapart (not_lt.2 (le_mul_of_one_le_left hstep.le (not_lt.1 hge)))
    have hone' : |(other - row : ℤ)| < 1 := by exact_mod_cast hone
    have heq : other = row := by
      have := Int.abs_lt_one_iff.1 hone'
      omega
    rwa [← heq]

/-- Every position in the window of a usable row of a layout, at its distance and at that of no layout
before it, has a slot in the field of the layout and in the row whose index detection gave to the
usable row, as long as it is in reach of the grid. -/
theorem resolve?_of_usable {layouts : List (Layout ℚ)} {s t : Session ℚ} {place : Nat}
    (hdetect : (Layout.detect positions).2 = .ok layouts) (hallocate : allocate layouts s = .ok () t)
    (hproper : ∀ p ∈ positions, Proper p) (hl : layouts[place]? = some l)
    (husable : .usable elevation azimuths ∈ Layout.judgeShell (positions.map Layout.foldSeam) l.distance)
    (hp : p ∈ positions) (helevation : |p.elevation - elevation| ≤ 0.1) (hdistance : |p.distance - l.distance| < 0.001)
    (hfirst : ∀ earlier < place, ∀ other, layouts[earlier]? = some other → 0.001 ≤ |p.distance - other.distance|)
    (hrow : NearRow l p) (hcolumn : NearColumn elevation azimuths p) :
    ∃ row : Nat, Layout.GivesIndex positions l elevation row ∧ ∃ f found slot, t.data.fields[place]? = some f ∧
      f.rows[row]? = some found ∧ slot ∈ found.slots ∧ resolve? t.data.fields p = .ok (some slot) := by
  obtain ⟨-, fields, contents, irCount, buffer, hfields, ht⟩ := allocate_ok hallocate
  have hbuilt := newFields_built hfields
  obtain ⟨f, hf, hfl⟩ := built_of_layout hbuilt hl
  obtain ⟨row, hindex, hcount, hgap, hreach⟩ := Layout.exists_row hdetect (List.mem_of_getElem? hl)
    (fun p hp => (hproper p hp).elevation) hrow.step_le husable
  have hstep : 0 < l.step := lt_of_lt_of_le (by norm_num) hrow.step_le
  obtain ⟨found, hfound, hslots⟩ := hfl.exists_row hcount
  obtain ⟨slot, hslot, hresolved⟩ :=
    slotInRow?_of_usable husable hp (hproper p hp) helevation hdistance.le hcolumn hslots
  have hsame : t.data.fields = fields := by rw [ht]
  refine ⟨row, hindex, f, found, slot, by rw [hsame, hf], hfound, hslot, ?_⟩
  unfold resolve?
  rw [hsame, findField?_of_first hbuilt hl hdistance hfirst, Option.bind_some, hf]
  show findSlot? f (clockwise p) p.elevation = _
  rw [findSlot?_of_near hfl hstep hfound (row_near hstep helevation hgap hreach hrow)]
  exact hresolved

end Agreement

/-- A pole and the equator. One point lies above its row and outside its shell, within the tolerances. -/
def roughPositions : List (Spherical ℚ) := [⟨0, 0, 1⟩, ⟨180, 1 / 20, 2001 / 2000⟩, ⟨0, 90, 1⟩]

/-- The upper half of a sphere with a pole. -/
def upper (azimuths : Int) (distance : ℚ) : Layout ℚ :=
  { distance, evLimit := 90, evStart := 1, azCounts := [1, azimuths, 1] }

theorem hasRows_rough : Layout.HasRows (roughPositions.map Layout.foldSeam) 1 (upper 2 1).foundRows := by
  constructor <;> simp only [Cluster.along_eq_insertionSort] <;> decide +kernel

theorem detect_rough : (Layout.detect roughPositions).2 = .ok [upper 2 1] := by
  refine Layout.detect_of_hasRows (List.cons_ne_nil _ _) (by decide) ?_ fun l hl => ?_
  · rw [Cluster.along_eq_insertionSort]; decide +kernel
  · obtain rfl := List.mem_singleton.1 hl
    exact ⟨by constructor <;> decide +kernel, hasRows_rough⟩

theorem resolve?_rough :
    (Layout.detect roughPositions).2 = .ok [upper 2 1] ∧ (∀ p ∈ roughPositions, Proper p) ∧
    Layout.RowVerdict.usable 0 2 ∈ Layout.judgeShell (roughPositions.map Layout.foldSeam) (upper 2 1).distance ∧
    (⟨180, 1 / 20, 2001 / 2000⟩ : Spherical ℚ) ∈ roughPositions ∧ |(1 / 20 : ℚ) - 0| ≤ 0.1 ∧
    |2001 / 2000 - (upper 2 1).distance| < 0.001 ∧ NearRow (upper 2 1) ⟨180, 1 / 20, 2001 / 2000⟩ ∧
    NearColumn 0 2 ⟨180, 1 / 20, 2001 / 2000⟩ ∧ ∃ s t, allocate [upper 2 1] s = .ok () t ∧
    ∃ row : Nat, Layout.GivesIndex roughPositions (upper 2 1) 0 row ∧ ∃ f found slot, t.data.fields[0]? = some f ∧
      f.rows[row]? = some found ∧ slot ∈ found.slots ∧
      resolve? t.data.fields ⟨180, 1 / 20, 2001 / 2000⟩ = .ok (some slot) := by
  have hproper : ∀ p ∈ roughPositions, Proper p := by decide +kernel
  have husable : Layout.RowVerdict.usable 0 2 ∈
      Layout.judgeShell (roughPositions.map Layout.foldSeam) (upper 2 1).distance := by
    rw [show (upper 2 1).distance = 1 from rfl, hasRows_rough.judgeShell_eq]
    exact List.mem_map.2 ⟨(0, 2), by decide +kernel, rfl⟩
  have hmem : (⟨180, 1 / 20, 2001 / 2000⟩ : Spherical ℚ) ∈ roughPositions := by decide +kernel
  have hdistance : |2001 / 2000 - (upper 2 1).distance| < 0.001 := by norm_num [upper]
  have hrow : NearRow (upper 2 1) ⟨180, 1 / 20, 2001 / 2000⟩ := .inl (by decide +kernel)
  have hcolumn : NearColumn 0 2 ⟨180, 1 / 20, 2001 / 2000⟩ := .inl ⟨by decide, fun h => by norm_num at h⟩
  obtain ⟨_, t, ht⟩ := Stage.exists_ok (x := allocate [upper 2 1]) (s := { data := DataSet.fresh }) (by decide +kernel)
  exact ⟨detect_rough, hproper, husable, hmem, by norm_num, hdistance, hrow, hcolumn, _, t, ht,
    resolve?_of_usable detect_rough ht hproper rfl husable hmem (by norm_num) hdistance nofun hrow hcolumn⟩

/-! ## Out of reach -/

/-- The position lies in the window of a usable row of a layout, at its distance, and has no slot in
the field of the layout. -/
structure Missed (positions : List (Spherical ℚ)) (layouts : List (Layout ℚ)) (place : Nat) (elevation : ℚ)
    (azimuths : Nat) (p : Spherical ℚ) : Prop where
  detected : (Layout.detect positions).2 = .ok layouts
  proper : ∀ p ∈ positions, Proper p
  mem : p ∈ positions
  window : ∃ l, layouts[place]? = some l ∧
    .usable elevation azimuths ∈ Layout.judgeShell (positions.map Layout.foldSeam) l.distance ∧
    |p.elevation - elevation| ≤ 0.1 ∧ |p.distance - l.distance| ≤ 0.001
  missed : ∃ s t, allocate layouts s = .ok () t ∧
    ∀ f ∈ t.data.fields[place]?, ∀ slot ∈ f.slots, resolve? t.data.fields p ≠ .ok (some slot)

/-- Where the layouts are grids, the rest of it can be computed. -/
theorem Missed.of_grids {positions : List (Spherical ℚ)} {layouts : List (Layout ℚ)} {place : Nat} {l : Layout ℚ}
    {elevation : ℚ} {azimuths : Nat} {p : Spherical ℚ} (hplace : layouts[place]? = some l)
    (hcount : layouts.length ≤ Layout.maxFields)
    (hdistances : Cluster.along .distance ⟨none, none, none⟩ Cluster.tolerances (positions.map Layout.foldSeam) =
      layouts.map (·.distance))
    (hgrids : ∀ l ∈ layouts, l.IsGrid ∧ Layout.HasRows (positions.map Layout.foldSeam) l.distance l.foundRows)
    (hproper : ∀ p ∈ positions, Proper p) (hok : ∃ b t, allocate layouts { data := DataSet.fresh } = .ok b t)
    (h : p ∈ positions ∧ ((elevation, azimuths) ∈ l.foundRows ∧ |p.elevation - elevation| ≤ 0.1 ∧
      |p.distance - l.distance| ≤ 0.001) ∧ ∀ f ∈ (newFields 0 layouts).1[place]?, ∀ slot ∈ f.slots,
      resolve? (newFields 0 layouts).1 p ≠ .ok (some slot)) : Missed positions layouts place elevation azimuths p := by
  obtain ⟨hp, ⟨hrow, hwindow⟩, hmissed⟩ := h
  have hl := List.mem_of_getElem? hplace
  have husable : .usable elevation azimuths ∈ Layout.judgeShell (positions.map Layout.foldSeam) l.distance := by
    rw [(hgrids l hl).2.judgeShell_eq]
    exact List.mem_map.2 ⟨(elevation, azimuths), hrow, rfl⟩
  obtain ⟨_, t, ht⟩ := hok
  obtain ⟨-, fields, contents, irCount, buffer, hfields, hdata⟩ := allocate_ok ht
  rw [hfields] at hmissed
  refine ⟨Layout.detect_of_hasRows (List.ne_nil_of_mem hl) hcount hdistances hgrids, hproper, hp,
    ⟨l, hplace, husable, hwindow⟩, _, t, ht, ?_⟩
  rw [hdata]
  exact hmissed

/-- Rows half a degree apart; one point lies above its row by more than a tenth of a step. -/
def closePositions : List (Spherical ℚ) :=
  [⟨0, -1 / 2, 1⟩, ⟨180, -1 / 2, 1⟩, ⟨0, 0, 1⟩, ⟨180, 3 / 50, 1⟩, ⟨0, 1 / 2, 1⟩, ⟨180, 1 / 2, 1⟩]

def closeLayout : Layout ℚ := { distance := 1, evLimit := 1 / 2, evStart := 0, azCounts := [2, 2, 2] }

/-- Shells with a point at the edge of the first, one between the next two, one off the lower pole,
and columns two degrees apart with a point above the last. -/
def edgePositions : List (Spherical ℚ) :=
  [⟨0, 0, 1⟩, ⟨180, 0, 1001 / 1000⟩, ⟨0, 90, 1⟩,
   ⟨0, 0, 2⟩, ⟨180, 0, 2⟩, ⟨0, 90, 2⟩, ⟨180, 0, 20009 / 10000⟩,
   ⟨0, 0, 4003 / 2000⟩, ⟨180, 0, 4003 / 2000⟩, ⟨0, 90, 4003 / 2000⟩,
   ⟨90, -90, 3⟩, ⟨90, -1799 / 20, 3⟩, ⟨0, 0, 3⟩, ⟨180, 0, 3⟩, ⟨0, 90, 3⟩,
   ⟨0, 0, 4⟩, ⟨2, 0, 4⟩, ⟨41 / 10, 0, 4⟩, ⟨21 / 5, 0, 4⟩, ⟨0, 90, 4⟩]

def edgeLayouts : List (Layout ℚ) :=
  [upper 2 1, upper 2 2, upper 2 (4003 / 2000), { upper 2 3 with evStart := 0 }, upper 180 4]

theorem hasRows_edge : ∀ l ∈ edgeLayouts,
    l.IsGrid ∧ Layout.HasRows (edgePositions.map Layout.foldSeam) l.distance l.foundRows := by
  intro l hl
  simp only [edgeLayouts, List.mem_cons, List.not_mem_nil, or_false] at hl
  rcases hl with rfl | rfl | rfl | rfl | rfl <;>
    exact ⟨by constructor <;> decide +kernel,
      by constructor <;> simp only [Cluster.along_eq_insertionSort] <;> decide +kernel⟩

/-- What is out of reach is missed: a position more than a tenth of a step from its row, one at the
very edge of its shell, one at the distance of an earlier field, one beside a pole, and one a tenth of
a step from its column. -/
theorem resolve?_missed : Missed closePositions [closeLayout] 0 0 2 ⟨180, 3 / 50, 1⟩ ∧
    Missed edgePositions edgeLayouts 0 0 2 ⟨180, 0, 1001 / 1000⟩ ∧
    Missed edgePositions edgeLayouts 2 0 2 ⟨180, 0, 20009 / 10000⟩ ∧
    Missed edgePositions edgeLayouts 3 (-90) 1 ⟨90, -1799 / 20, 3⟩ ∧
    Missed edgePositions edgeLayouts 4 0 180 ⟨21 / 5, 0, 4⟩ := by
  have hclose : ∀ l ∈ [closeLayout],
      l.IsGrid ∧ Layout.HasRows (closePositions.map Layout.foldSeam) l.distance l.foundRows := by
    intro l hl
    obtain rfl := List.mem_singleton.1 hl
    exact ⟨by constructor <;> decide +kernel,
      by constructor <;> simp only [Cluster.along_eq_insertionSort] <;> decide +kernel⟩
  have hshell : Cluster.along .distance ⟨none, none, none⟩ Cluster.tolerances (closePositions.map Layout.foldSeam) =
      [closeLayout].map (·.distance) := by
    rw [Cluster.along_eq_insertionSort]; decide +kernel
  have hshells : Cluster.along .distance ⟨none, none, none⟩ Cluster.tolerances (edgePositions.map Layout.foldSeam) =
      edgeLayouts.map (·.distance) := by
    rw [Cluster.along_eq_insertionSort]; decide +kernel
  have hok : ∃ b t, allocate edgeLayouts { data := DataSet.fresh } = .ok b t := Stage.exists_ok (by decide +kernel)
  have hproper : ∀ p ∈ edgePositions, Proper p := by decide +kernel
  exact ⟨Missed.of_grids rfl (by decide) hshell hclose (by decide +kernel) (Stage.exists_ok (by decide +kernel))
      (by decide +kernel),
    Missed.of_grids rfl (by decide) hshells hasRows_edge hproper hok (by decide +kernel),
    Missed.of_grids rfl (by decide) hshells hasRows_edge hproper hok (by decide +kernel),
    Missed.of_grids rfl (by decide) hshells hasRows_edge hproper hok (by decide +kernel),
    Missed.of_grids rfl (by decide) hshells hasRows_edge hproper hok (by decide +kernel)⟩

end HrirAtlas.Grid
