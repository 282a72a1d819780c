import HrirAtlas.Proofs.Layout.Sampled

/-
What clustering finds, said without the walk. The distinct values of a list are values of the list,
more than the tolerance apart, and every value of the list lies at most the tolerance above one of
them. No other list is such a cover: its first value is the least of all, and the others cover what
lies farther above. So the distinct values depend on which values there are, and neither on their
order nor on how often each is given.
-/

namespace HrirAtlas

namespace Cluster

/-! ## Covers -/

/-- The heads are values of the list, more than the tolerance apart, and each value of the list lies at
most the tolerance above one of them. -/
structure Covers (tolerance : ℚ) (values heads : List ℚ) : Prop where
  apart : heads.Pairwise fun x y => x + tolerance < y
  given : ∀ head ∈ heads, head ∈ values
  reached : ∀ v ∈ values, ∃ head ∈ heads, head ≤ v ∧ v ≤ head + tolerance

section Covers

variable {tolerance : ℚ} {values others heads heads' : List ℚ} {first : ℚ}

/-- A value belongs to one head only. -/
theorem Covers.existsUnique (h : Covers tolerance values heads) {v : ℚ} (hv : v ∈ values) :
    ∃! head, head ∈ heads ∧ head ≤ v ∧ v ≤ head + tolerance := by
  obtain ⟨own, hown, hlow, hhigh⟩ := h.reached v hv
  refine ⟨own, ⟨hown, hlow, hhigh⟩, ?_⟩
  rintro head ⟨hhead, hlow', hhigh'⟩
  exact eq_of_near_apart h.apart hhead hown (by linarith) (by linarith)

theorem Covers.isLeast (htol : 0 ≤ tolerance) (h : Covers tolerance values (first :: heads)) :
    IsLeast {v | v ∈ values} first := by
  refine ⟨h.given first List.mem_cons_self, fun v hv => ?_⟩
  obtain ⟨head, hhead, hlow, -⟩ := h.reached v hv
  rcases List.mem_cons.1 hhead with rfl | hhead
  · exact hlow
  · have hfar := (List.pairwise_cons.1 h.apart).1 head hhead
    linarith

/-- The heads after the first cover the values that the first does not reach. -/
theorem Covers.tail (h : Covers tolerance values (first :: heads)) :
    Covers tolerance (values.filter fun v => first + tolerance < v) heads := by
  obtain ⟨hfar, hapart⟩ := List.pairwise_cons.1 h.apart
  refine ⟨hapart, fun head hhead => ?_, fun v hv => ?_⟩
  · rw [List.mem_filter, decide_eq_true_eq]
    exact ⟨h.given head (List.mem_cons_of_mem _ hhead), hfar head hhead⟩
  · rw [List.mem_filter, decide_eq_true_eq] at hv
    obtain ⟨head, hhead, hlow, hhigh⟩ := h.reached v hv.1
    rcases List.mem_cons.1 hhead with rfl | hhead
    · exact absurd hv.2 (not_lt.2 hhigh)
    · exact ⟨head, hhead, hlow, hhigh⟩

theorem Covers.eq_nil (h : Covers tolerance values []) : values = [] := by
  rw [List.eq_nil_iff_forall_not_mem]
  intro v hv
  obtain ⟨head, hhead, -⟩ := h.reached v hv
  exact List.not_mem_nil hhead

/-- There is one cover only. -/
theorem Covers.unique (htol : 0 ≤ tolerance) : ∀ {values heads heads' : List ℚ},
    Covers tolerance values heads → Covers tolerance values heads' → heads = heads'
  | _, [], [], _, _ => rfl
  | _, [], other :: _, h, h' => absurd (h'.given other List.mem_cons_self) (h.eq_nil ▸ List.not_mem_nil)
  | _, first :: _, [], h, h' => absurd (h.given first List.mem_cons_self) (h'.eq_nil ▸ List.not_mem_nil)
  | _, first :: heads, other :: heads', h, h' => by
    obtain rfl : first = other := (h.isLeast htol).unique (h'.isLeast htol)
    rw [Covers.unique htol h.tail h'.tail]

theorem Covers.congr (hmem : ∀ v, v ∈ values ↔ v ∈ others) (h : Covers tolerance values heads) :
    Covers tolerance others heads :=
  ⟨h.apart, fun head hhead => (hmem head).1 (h.given head hhead), fun v hv => h.reached v ((hmem v).2 hv)⟩

/-! ## Distinct values -/

theorem covers_distinct (htol : 0 ≤ tolerance) (values : List ℚ) :
    Covers tolerance values (distinct tolerance values) where
  apart := pairwise_distinct_apart htol values
  given _ hhead := List.mem_mergeSort.1 ((ofSorted_sublist tolerance _).subset hhead)
  reached _ hv := exists_distinct htol hv

/-- The distinct values depend only on which values there are. -/
theorem distinct_congr (htol : 0 ≤ tolerance) (hmem : ∀ v, v ∈ values ↔ v ∈ others) :
    distinct tolerance values = distinct tolerance others :=
  ((covers_distinct htol values).congr hmem).unique htol (covers_distinct htol others)

end Covers

/-! ## Distinct coordinates -/

/-- A position is in the window of each filter that is set. -/
def Selected (filters : PerAxis (Option ℚ)) (tolerances : PerAxis ℚ) (p : Spherical ℚ) : Prop :=
  ∀ axis centre, filters.of axis = some centre → |axis.of p - centre| ≤ tolerances.of axis

theorem passes_filter_iff (tolerance : ℚ) (filter : Option ℚ) (value : ℚ) :
    passes tolerance filter value = true ↔ ∀ centre, filter = some centre → |value - centre| ≤ tolerance := by
  cases filter with
  | none => exact ⟨fun _ => nofun, fun _ => rfl⟩
  | some centre =>
    rw [Layout.passes_iff]
    exact ⟨fun h other hother => Option.some.inj hother ▸ h, fun h => h centre rfl⟩

section Coordinates

variable {filters : PerAxis (Option ℚ)} {tolerances : PerAxis ℚ}

theorem matchesAll_iff {p : Spherical ℚ} : matchesAll tolerances filters p = true ↔ Selected filters tolerances p := by
  unfold matchesAll
  rw [List.all_eq_true]
  constructor
  · intro h axis
    have hmem : axis ∈ Axis.all := by cases axis <;> decide
    exact (passes_filter_iff _ _ _).1 (h axis hmem)
  · intro h axis _
    exact (passes_filter_iff _ _ _).2 (h axis)

theorem mem_coordinates {axis : Axis} {positions : List (Spherical ℚ)} {v : ℚ} :
    v ∈ (positions.filter (matchesAll tolerances filters)).map axis.of ↔
      ∃ p ∈ positions, Selected filters tolerances p ∧ axis.of p = v := by
  simp only [Layout.mem_along, matchesAll_iff]

/-- The distinct coordinates depend only on which positions there are. -/
theorem along_congr {axis : Axis} (htol : 0 ≤ tolerances.of axis) {positions others : List (Spherical ℚ)}
    (hmem : ∀ p, p ∈ others ↔ p ∈ positions) :
    along axis filters tolerances others = along axis filters tolerances positions := by
  refine distinct_congr htol fun v => ?_
  rw [mem_coordinates, mem_coordinates]
  constructor
  · rintro ⟨p, hp, hselected⟩
    exact ⟨p, (hmem p).1 hp, hselected⟩
  · rintro ⟨p, hp, hselected⟩
    exact ⟨p, (hmem p).2 hp, hselected⟩

end Coordinates

end Cluster

/-! ## Filters given as lists -/

/-- The values of the three axes in order. -/
def PerAxis.toList {β : Type} (values : PerAxis β) : List β := [values.azimuth, values.elevation, values.distance]

namespace Cluster

theorem query_eq_along {α : Type} [Scalar α] (axis : Axis) (filters : PerAxis (Option α)) (tolerances : PerAxis α)
    (positions : List (Spherical α)) :
    query axis.index filters.toList tolerances.toList positions = .ok (along axis filters tolerances positions) := by
  obtain ⟨azimuth, elevation, distance⟩ := filters
  cases azimuth <;> cases elevation <;> cases distance <;> cases axis <;> rfl

/-- The coordinates that are found along an axis are a canonical cover. They ascend by more than the
tolerance, each of them is the coordinate of a selected position, and each selected position belongs to
exactly one of them; they stay what they are when the positions are given in another order or some of
them more than once. -/
theorem query_canonical (axis : Axis) (filters : PerAxis (Option ℚ)) {tolerances : PerAxis ℚ}
    (htol : 0 ≤ tolerances.of axis) (positions : List (Spherical ℚ)) :
    ∃ found, query axis.index filters.toList tolerances.toList positions = .ok found ∧
      along axis filters tolerances positions = found ∧
      found.Pairwise (fun x y => x < y ∧ tolerances.of axis < y - x) ∧
      (∀ v ∈ found, ∃ p ∈ positions, Selected filters tolerances p ∧ axis.of p = v) ∧
      (∀ p ∈ positions, Selected filters tolerances p →
        ∃! v, v ∈ found ∧ v ≤ axis.of p ∧ axis.of p ≤ v + tolerances.of axis) ∧
      ∀ others : List (Spherical ℚ), (∀ p, p ∈ others ↔ p ∈ positions) →
        query axis.index filters.toList tolerances.toList others = .ok found := by
  have hcovers := covers_distinct htol ((positions.filter (matchesAll tolerances filters)).map axis.of)
  refine ⟨along axis filters tolerances positions, query_eq_along .., rfl, ?_, ?_, ?_, ?_⟩
  · refine hcovers.apart.imp fun {x y} hfar => ?_
    constructor <;> linarith
  · exact fun v hv => mem_coordinates.1 (hcovers.given v hv)
  · exact fun p hp hselected => hcovers.existsUnique (mem_coordinates.2 ⟨p, hp, hselected, rfl⟩)
  · intro others hmem
    rw [query_eq_along, along_congr htol hmem]

/-- A chain of elevations, each within the tolerance of the one before it, and two positions at another distance. -/
def chainPositions : List (Spherical ℚ) :=
  [⟨0, 10.08, 1⟩, ⟨0, 10.16, 1⟩, ⟨90, -5, 1⟩, ⟨0, 10, 1⟩, ⟨0, 10.24, 1⟩, ⟨90, 40, 2⟩, ⟨0, 10.12, 2⟩]

/-- The chain is split where it has left the tolerance of its first value, also when it is given twice. -/
theorem query_canonical_chain : 0 ≤ (tolerances : PerAxis ℚ).of .elevation ∧
    query 1 [none, none, some 1] [0.1, 0.1, 0.001] chainPositions = .ok [-5, 10, 10.16] ∧
    query 1 [none, none, some 1] [0.1, 0.1, 0.001] (chainPositions ++ chainPositions) = .ok [-5, 10, 10.16] := by
  have htol : 0 ≤ (tolerances : PerAxis ℚ).of .elevation := by
    rw [Layout.elevationTolerance_eq]
    norm_num
  obtain ⟨found, hfound, halong, -, -, -, hothers⟩ :=
    query_canonical .elevation ⟨none, none, some 1⟩ htol chainPositions
  have hchain : found = [-5, 10, 10.16] := by
    rw [← halong, along_eq_insertionSort]
    decide +kernel
  subst hchain
  exact ⟨htol, hfound, hothers _ fun p => by rw [List.mem_append, or_self]⟩

end Cluster

end HrirAtlas
