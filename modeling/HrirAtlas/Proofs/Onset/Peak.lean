import HrirAtlas.Onset
import HrirAtlas.Proofs.Exact.Scalar

/-
The peak of a list. The walk keeps the first greatest value it has seen and its place; a value that is
no number counts as greater than all numbers, and is never left. So the place it ends with is the first
one of a greatest value.
-/

namespace HrirAtlas

/-- The order of scalars: it holds between numbers only, and of any two numbers it holds one way or the
other. -/
structure Scalar.Comparable (α : Type) [Scalar α] : Prop where
  number : ∀ {x y : α}, x ≤ y → x ≤ x ∧ y ≤ y
  total : ∀ {x y : α}, x ≤ x → y ≤ y → x ≤ y ∨ y ≤ x
  trans : ∀ {x y z : α}, x ≤ y → y ≤ z → x ≤ z

theorem Exact.comparable : Scalar.Comparable ℚ where
  number _ := ⟨le_rfl, le_rfl⟩
  total _ _ := le_total _ _
  trans := le_trans

namespace Onset

variable {α : Type} [Signal α]

/-- The value at the place is greatest, and none before it is: if it is a number, none is above it; and
the values before it are numbers below it. -/
def IsPeak (values : List α) (place : Nat) : Prop :=
  ∃ best, values[place]? = some best ∧ (best ≤ best → ∀ value ∈ values, value ≤ best) ∧
    ∀ value ∈ values.take place, value ≤ value ∧ ¬ best ≤ value

theorem IsPeak.lt {values : List α} {place : Nat} (h : IsPeak values place) : place < values.length := by
  obtain ⟨best, hbest, -⟩ := h
  exact (List.getElem?_eq_some_iff.1 hbest).choose

section Peak

variable (hα : Scalar.Comparable α) {seen : List α} {place : Nat} {best value : α}

include hα

/-- A value above the best one, or one that is no number, is the next peak. -/
theorem IsPeak.replace (h : IsPeak seen place) (hbest : seen[place]? = some best) (hnumber : best ≤ best)
    (habove : ¬ value ≤ best) : IsPeak (seen ++ [value]) seen.length := by
  obtain ⟨best', hbest', hgreatest, -⟩ := h
  obtain rfl : best' = best := Option.some.inj (hbest'.symm.trans hbest)
  have hbelow := hgreatest hnumber
  refine ⟨value, List.getElem?_concat_length, ?_, ?_⟩
  · intro hvalue other hother
    rcases List.mem_append.1 hother with hseen | hlast
    · rcases hα.total hnumber hvalue with hle | hle
      · exact hα.trans (hbelow other hseen) hle
      · exact absurd hle habove
    · rw [List.mem_singleton.1 hlast]
      exact hvalue
  · intro other hother
    rw [List.take_left] at hother
    refine ⟨(hα.number (hbelow other hother)).1, ?_⟩
    intro hle
    exact habove (hα.trans hle (hbelow other hother))

omit hα in
/-- Any other value leaves the peak where it is. -/
theorem IsPeak.keep (h : IsPeak seen place) (hbest : seen[place]? = some best)
    (hnot : ¬ (best ≤ best ∧ ¬ value ≤ best)) : IsPeak (seen ++ [value]) place := by
  have hlt := h.lt
  obtain ⟨best', hbest', hgreatest, hfirst⟩ := h
  obtain rfl : best' = best := Option.some.inj (hbest'.symm.trans hbest)
  refine ⟨best', ?_, ?_, ?_⟩
  · rw [List.getElem?_append_left hlt, hbest]
  · intro hnumber other hother
    rcases List.mem_append.1 hother with hseen | hlast
    · exact hgreatest hnumber other hseen
    · rw [List.mem_singleton.1 hlast]
      by_contra habove
      exact hnot ⟨hnumber, habove⟩
  · rw [List.take_append_of_le_length hlt.le]
    exact hfirst

/-- The walk over the rest of a list finds the peak of the whole. -/
theorem isPeak_peakAfter : ∀ (rest seen : List α) (best : α) (place : Nat), IsPeak seen place →
    seen[place]? = some best → IsPeak (seen ++ rest) (peakAfter best place seen.length rest)
  | [], seen, best, place, h, hbest => by
    rw [List.append_nil]
    exact h
  | value :: rest, seen, best, place, h, hbest => by
    have hlength : (seen ++ [value]).length = seen.length + 1 := List.length_append
    rw [List.append_cons]
    unfold peakAfter
    rw [← hlength]
    split
    · rename_i hreplace
      exact isPeak_peakAfter rest _ value seen.length (h.replace hα hbest hreplace.1 hreplace.2)
        List.getElem?_concat_length
    · rename_i hkeep
      exact isPeak_peakAfter rest _ best place (h.keep hbest hkeep)
        (by rw [List.getElem?_append_left h.lt, hbest])

/-- A list with a value has a peak, and it is found. -/
theorem exists_peak {values : List α} (hne : values ≠ []) : ∃ place, peak values = .ok place ∧ IsPeak values place := by
  obtain ⟨first, rest, rfl⟩ := List.exists_cons_of_ne_nil hne
  have hfirst : IsPeak [first] 0 := by
    refine ⟨first, rfl, ?_, nofun⟩
    intro hnumber value hvalue
    rw [List.mem_singleton.1 hvalue]
    exact hnumber
  exact ⟨_, rfl, isPeak_peakAfter hα rest [first] first 0 hfirst rfl⟩

/-- A place that is found is the peak. -/
theorem isPeak_of_peak {values : List α} {place : Nat} (h : peak values = .ok place) : IsPeak values place := by
  have hne : values ≠ [] := by
    rintro rfl
    cases h
  obtain ⟨found, hfound, hpeak⟩ := exists_peak hα hne
  rw [h] at hfound
  cases hfound
  exact hpeak

end Peak

end Onset

end HrirAtlas
