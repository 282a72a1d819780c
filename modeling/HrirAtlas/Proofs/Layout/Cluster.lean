import HrirAtlas.Cluster
import HrirAtlas.Proofs.Exact.Scalar

/-
Distinct values of a list. Where the order of the values is exact, they do not depend on the order
in which the values are given. Of rational values that lie on points farther apart than the
tolerance, they are those points in ascending order.
-/

namespace HrirAtlas

/-! ## Values in an exact order -/

/-- The values that a test picks compare as numbers do: any two one way or the other, and both ways
only if they are the same. -/
structure Scalar.ExactOn {α : Type} [Scalar α] (P : α → Prop) : Prop where
  total : ∀ x y, P x → P y → x ≤ y ∨ y ≤ x
  trans : ∀ x y z, P x → P y → P z → x ≤ y → y ≤ z → x ≤ z
  antisymm : ∀ x y, P x → P y → x ≤ y → y ≤ x → x = y

namespace Scalar

variable {α : Type} [Scalar α] {P : α → Prop}

theorem ExactOn.sortsBefore_iff (h : ExactOn P) {x y : α} (hy : P y) : sortsBefore x y = true ↔ x ≤ y := by
  have hyy : y ≤ y := (h.total y y hy hy).elim id id
  simp [sortsBefore, isNumber, hyy]

theorem ExactOn.pairwise_mergeSort (h : ExactOn P) (values : List α) (hv : ∀ x ∈ values, P x) :
    (values.mergeSort sortsBefore).Pairwise fun x y => sortsBefore x y = true := by
  -- the order is only known on the values, so the sort is moved to the subtype
  have hmap : (values.attach.mergeSort fun x y => sortsBefore x.1 y.1).map Subtype.val =
      values.mergeSort sortsBefore := by
    have h := List.map_mergeSort (f := Subtype.val) (r := fun x y : {x // x ∈ values} => sortsBefore x.1 y.1)
      (s := sortsBefore) (l := values.attach) fun _ _ _ _ => rfl
    rw [h, List.attach_map_subtype_val]
  rw [← hmap, List.pairwise_map]
  refine List.pairwise_mergeSort (fun x y z hxy hyz => ?_) (fun x y => ?_) _
  · rw [h.sortsBefore_iff (hv _ z.2)]
    rw [h.sortsBefore_iff (hv _ y.2)] at hxy
    rw [h.sortsBefore_iff (hv _ z.2)] at hyz
    exact h.trans _ _ _ (hv _ x.2) (hv _ y.2) (hv _ z.2) hxy hyz
  · rw [Bool.or_eq_true, h.sortsBefore_iff (hv _ y.2), h.sortsBefore_iff (hv _ x.2)]
    exact h.total _ _ (hv _ x.2) (hv _ y.2)

/-- Sorting forgets the order of its input. -/
theorem ExactOn.mergeSort_eq_of_perm (h : ExactOn P) {values others : List α} (hv : ∀ x ∈ values, P x)
    (hp : values.Perm others) : values.mergeSort sortsBefore = others.mergeSort sortsBefore := by
  have ho : ∀ x ∈ others, P x := fun x hx => hv x (hp.mem_iff.2 hx)
  refine List.Perm.eq_of_pairwise (fun x y hx hy hxy hyx => ?_) (h.pairwise_mergeSort values hv)
    (h.pairwise_mergeSort others ho) (((List.mergeSort_perm _ _).trans hp).trans (List.mergeSort_perm _ _).symm)
  have hx := hv x (List.mem_mergeSort.1 hx)
  have hy := ho y (List.mem_mergeSort.1 hy)
  rw [h.sortsBefore_iff hy] at hxy
  rw [h.sortsBefore_iff hx] at hyx
  exact h.antisymm x y hx hy hxy hyx

end Scalar

theorem Exact.exactOn (P : ℚ → Prop) : Scalar.ExactOn P :=
  ⟨fun x y _ _ => le_total x y, fun _ _ _ _ _ _ => le_trans, fun _ _ _ _ => le_antisymm⟩

theorem Exact.pairwise_le_mergeSort (values : List ℚ) : (values.mergeSort Scalar.sortsBefore).Pairwise (· ≤ ·) :=
  ((Exact.exactOn fun _ => True).pairwise_mergeSort values fun _ _ => trivial).imp
    fun {_ _} h => ((Exact.exactOn fun _ => True).sortsBefore_iff trivial).1 h

namespace Cluster

theorem distinct_eq_of_perm {α : Type} [Scalar α] {P : α → Prop} (h : Scalar.ExactOn P) (tolerance : α)
    {values others : List α} (hv : ∀ x ∈ values, P x) (hp : values.Perm others) :
    distinct tolerance values = distinct tolerance others := by
  unfold distinct; rw [h.mergeSort_eq_of_perm hv hp]

/-- The distinct coordinates along an axis do not depend on the order of the positions. -/
theorem along_eq_of_perm {α : Type} [Scalar α] {P : α → Prop} (h : Scalar.ExactOn P) (axis : Axis)
    (filters : PerAxis (Option α)) (tolerances : PerAxis α) {positions others : List (Spherical α)}
    (hv : ∀ p ∈ positions, P (axis.of p)) (hp : positions.Perm others) :
    along axis filters tolerances positions = along axis filters tolerances others := by
  refine distinct_eq_of_perm h _ (fun x hx => ?_) ((hp.filter _).map _)
  obtain ⟨p, hp', rfl⟩ := List.mem_map.1 hx
  exact hv p (List.mem_filter.1 hp').1

/-! ## Clusters of any values -/

theorem heads_sublist {α : Type} [Scalar α] (tolerance : α) : ∀ (sorted : List α) (last : α),
    (heads tolerance last sorted).Sublist sorted
  | [], _ => List.Sublist.refl _
  | v :: sorted, last => by
    unfold heads
    split
    · exact (heads_sublist tolerance sorted last).cons v
    · exact (heads_sublist tolerance sorted v).cons_cons v

theorem ofSorted_sublist {α : Type} [Scalar α] (tolerance : α) : ∀ sorted : List α,
    (ofSorted tolerance sorted).Sublist sorted
  | [] => List.Sublist.refl _
  | v :: sorted => (heads_sublist tolerance sorted v).cons_cons v

theorem pairwise_heads {tolerance : ℚ} (htol : 0 ≤ tolerance) : ∀ (sorted : List ℚ) (last : ℚ),
    (last :: sorted).Pairwise (· ≤ ·) → (last :: heads tolerance last sorted).Pairwise fun x y => x + tolerance < y
  | [], last, _ => List.pairwise_singleton _ _
  | v :: sorted, last, hs => by
    unfold heads
    split
    · exact pairwise_heads htol sorted last (hs.sublist ((List.sublist_cons_self v sorted).cons_cons last))
    · rename_i hfar
      have hrest := pairwise_heads htol sorted v (List.pairwise_cons.1 hs).2
      refine List.pairwise_cons.2 ⟨fun w hw => ?_, hrest⟩
      rcases List.mem_cons.1 hw with rfl | hw
      · linarith
      · have hvw := (List.pairwise_cons.1 hrest).1 w hw
        linarith

/-- Distinct values are more than the tolerance apart. -/
theorem pairwise_distinct_apart {tolerance : ℚ} (htol : 0 ≤ tolerance) (values : List ℚ) :
    (distinct tolerance values).Pairwise fun x y => x + tolerance < y := by
  have hsorted := Exact.pairwise_le_mergeSort values
  unfold distinct
  cases hsort : values.mergeSort Scalar.sortsBefore with
  | nil => exact List.Pairwise.nil
  | cons first rest =>
    rw [hsort] at hsorted
    exact pairwise_heads htol rest first hsorted

/-- Of values that are more than the tolerance apart, two within the tolerance of each other are the same. -/
theorem eq_of_near_apart {tolerance : ℚ} {heads : List ℚ} (hapart : heads.Pairwise fun x y => x + tolerance < y)
    {x y : ℚ} (hx : x ∈ heads) (hy : y ∈ heads) (hxy : x ≤ y + tolerance) (hyx : y ≤ x + tolerance) : x = y := by
  obtain ⟨i, hi, rfl⟩ := List.mem_iff_getElem.1 hx
  obtain ⟨j, hj, rfl⟩ := List.mem_iff_getElem.1 hy
  rw [List.pairwise_iff_getElem] at hapart
  rcases lt_trichotomy i j with hij | rfl | hji
  · have hfar := hapart i j hi hj hij
    linarith
  · rfl
  · have hfar := hapart j i hj hi hji
    linarith

/-- On the rationals any sort finds the same clusters, so that they can be computed by insertion. -/
theorem along_eq_insertionSort (axis : Axis) (filters : PerAxis (Option ℚ)) (tolerances : PerAxis ℚ)
    (positions : List (Spherical ℚ)) :
    along axis filters tolerances positions =
      ofSorted (tolerances.of axis)
        (((positions.filter (matchesAll tolerances filters)).map axis.of).insertionSort (· ≤ ·)) := by
  unfold along distinct
  rw [List.Perm.eq_of_pairwise (fun _ _ _ _ => le_antisymm) (Exact.pairwise_le_mergeSort _)
    (List.pairwise_insertionSort (· ≤ ·) _) ((List.mergeSort_perm _ _).trans (List.perm_insertionSort _ _).symm)]

/-- A value lies at most the tolerance above the first value of its cluster. -/
theorem exists_head {tolerance : ℚ} (htol : 0 ≤ tolerance) : ∀ {sorted : List ℚ} {last v : ℚ},
    (last :: sorted).Pairwise (· ≤ ·) → v ∈ last :: sorted →
    ∃ head ∈ last :: heads tolerance last sorted, head ≤ v ∧ v ≤ head + tolerance
  | [], last, v, _, hv => by
    rw [List.mem_singleton.1 hv]
    exact ⟨last, List.mem_cons_self, le_rfl, by linarith⟩
  | w :: sorted, last, v, hs, hv => by
    rcases List.mem_cons.1 hv with rfl | hv
    · exact ⟨v, List.mem_cons_self, le_rfl, by linarith⟩
    unfold heads
    split
    · rename_i hjoin
      rcases List.mem_cons.1 hv with rfl | hv
      · exact ⟨last, List.mem_cons_self, (List.pairwise_cons.1 hs).1 v List.mem_cons_self, by linarith⟩
      · exact exists_head htol (hs.sublist ((List.sublist_cons_self w sorted).cons_cons last))
          (List.mem_cons_of_mem _ hv)
    · obtain ⟨head, hhead, hnear⟩ := exists_head htol (List.pairwise_cons.1 hs).2 hv
      exact ⟨head, List.mem_cons_of_mem _ hhead, hnear⟩

theorem exists_distinct {tolerance : ℚ} (htol : 0 ≤ tolerance) {values : List ℚ} {v : ℚ} (hv : v ∈ values) :
    ∃ head ∈ distinct tolerance values, head ≤ v ∧ v ≤ head + tolerance := by
  have hsorted := Exact.pairwise_le_mergeSort values
  have hmem : v ∈ values.mergeSort Scalar.sortsBefore := List.mem_mergeSort.2 hv
  unfold distinct
  cases hsort : values.mergeSort Scalar.sortsBefore with
  | nil => rw [hsort] at hmem; exact absurd hmem List.not_mem_nil
  | cons first rest =>
    rw [hsort] at hsorted hmem
    exact exists_head htol hsorted hmem

/-! ## Separated values -/

section Separated

variable {tolerance : ℚ}

theorem heads_eq_of_separated (htol : 0 ≤ tolerance) : ∀ (sorted : List ℚ) (last : ℚ) (rest : List ℚ),
    sorted.Pairwise (· ≤ ·) → (last :: rest).Pairwise (fun a b => a + tolerance < b) →
    (∀ v ∈ sorted, v ∈ last :: rest) → (∀ v ∈ rest, v ∈ sorted) → heads tolerance last sorted = rest
  | [], last, rest, _, _, _, hrest => by
    cases rest with
    | nil => rfl
    | cons v rest => exact absurd (hrest v List.mem_cons_self) List.not_mem_nil
  | v :: sorted, last, rest, hs, hsep, hmem, hrest => by
    rw [List.pairwise_cons] at hs
    have hlast : ∀ w ∈ rest, last + tolerance < w := (List.pairwise_cons.1 hsep).1
    rcases List.mem_cons.1 (hmem v List.mem_cons_self) with rfl | hv
    · have hle : v - v ≤ tolerance := by linarith
      unfold heads; rw [if_pos hle]
      refine heads_eq_of_separated htol sorted v rest hs.2 hsep (fun w hw => hmem w (List.mem_cons_of_mem _ hw)) ?_
      intro w hw
      rcases List.mem_cons.1 (hrest w hw) with rfl | hw'
      · have := hlast w hw; linarith
      · exact hw'
    · have hgt : ¬ v - last ≤ tolerance := by have := hlast v hv; linarith
      unfold heads; rw [if_neg hgt]
      -- the least value not yet passed is the next point
      obtain ⟨point, points, rfl⟩ := List.exists_cons_of_ne_nil (List.ne_nil_of_mem hv)
      have hpoints := (List.pairwise_cons.1 (List.pairwise_cons.1 hsep).2).1
      have hpv : point = v := by
        rcases List.mem_cons.1 hv with h | h
        · exact h.symm
        · have h1 := hpoints v h
          rcases List.mem_cons.1 (hrest point List.mem_cons_self) with h2 | h2
          · exact h2
          · have := hs.1 point h2; linarith
      subst hpv
      congr 1
      refine heads_eq_of_separated htol sorted point points hs.2 (List.pairwise_cons.1 hsep).2 ?_ ?_
      · intro w hw
        rcases List.mem_cons.1 (hmem w (List.mem_cons_of_mem _ hw)) with rfl | h
        · have h1 := hs.1 w hw
          have h2 := hlast point List.mem_cons_self
          linarith
        · exact h
      · intro w hw
        rcases List.mem_cons.1 (hrest w (List.mem_cons_of_mem _ hw)) with rfl | h
        · have := hpoints w hw; linarith
        · exact h

/-- Values that lie on points farther apart than the tolerance have those points as distinct values. -/
theorem distinct_eq_of_separated (htol : 0 ≤ tolerance) {values points : List ℚ}
    (hsep : points.Pairwise (fun a b => a + tolerance < b)) (hmem : ∀ v, v ∈ values ↔ v ∈ points) :
    distinct tolerance values = points := by
  have hsorted := Exact.pairwise_le_mergeSort values
  have hmem' : ∀ v, v ∈ values.mergeSort Scalar.sortsBefore ↔ v ∈ points := fun v => List.mem_mergeSort.trans (hmem v)
  unfold distinct
  generalize values.mergeSort Scalar.sortsBefore = sorted at hsorted hmem'
  cases sorted with
  | nil =>
    cases points with
    | nil => rfl
    | cons point points => exact absurd ((hmem' point).2 List.mem_cons_self) List.not_mem_nil
  | cons v sorted =>
    -- a point below all points starts the walk, so that the first value is no special case
    have hfirst : heads tolerance (v - tolerance - 1) (v :: sorted) = points := by
      refine heads_eq_of_separated htol _ _ _ hsorted ?_ (fun w hw => List.mem_cons_of_mem _ ((hmem' w).1 hw))
        fun w hw => (hmem' w).2 hw
      rw [List.pairwise_cons]
      refine ⟨fun w hw => ?_, hsep⟩
      rcases List.mem_cons.1 ((hmem' w).2 hw) with rfl | h
      · linarith
      · have := (List.pairwise_cons.1 hsorted).1 w h; linarith
    unfold heads at hfirst
    rw [if_neg (by linarith)] at hfirst
    exact hfirst

end Separated

end Cluster

end HrirAtlas
