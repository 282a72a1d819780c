import HrirAtlas.Tensor
import Mathlib.Tactic

/-
Arrays with a shape: indices and bounds within range stand for themselves, and a row of values fills
a row of its own length.
-/

namespace HrirAtlas

/-! ## Indices and bounds -/

theorem wrapIndex?_natCast {size place : Nat} (h : place < size) : wrapIndex? size (place : Int) = some place := by
  unfold wrapIndex?
  rw [if_pos (by omega), if_pos (by exact_mod_cast h), Int.toNat_natCast]

/-- An index reaches as far beyond the start as there are places. -/
theorem exists_wrapIndex? {size : Nat} {index : Int} (h : -(size : Int) ≤ index ∧ index < size) :
    ∃ place, wrapIndex? size index = some place := by
  unfold wrapIndex?
  split
  · rw [if_pos h.2]
    exact ⟨_, rfl⟩
  · rw [if_pos h.1]
    exact ⟨_, rfl⟩

theorem eq_of_wrapIndex?_natCast {size index place : Nat} (h : wrapIndex? size (index : Int) = some place) :
    index = place := by
  unfold wrapIndex? at h
  rw [if_pos (by omega)] at h
  split at h
  · rw [← Option.some.inj h, Int.toNat_natCast]
  · cases h

theorem lt_of_wrapIndex?_natCast {size index place : Nat} (h : wrapIndex? size (index : Int) = some place) :
    index < size := by
  unfold wrapIndex? at h
  rw [if_pos (by omega)] at h
  split at h
  · omega
  · cases h

theorem clampIndex_le (size : Nat) (index : Int) : clampIndex size index ≤ size := by
  unfold clampIndex
  split <;> omega

theorem clampIndex_natCast (size n : Nat) : clampIndex size (n : Int) = min n size := by
  unfold clampIndex
  rw [if_pos (by omega)]
  rfl

theorem nonneg_of_checkSize {n : Int} (h : checkSize [n] = .ok ()) : 0 ≤ n := by
  unfold checkSize at h
  simp only at h
  split at h
  · cases h
  split at h
  · cases h
  · rename_i hneg
    simpa using hneg

namespace Tensor

variable {α : Type}

/-! ## Parts -/

theorem locate_natCast {length place : Nat} (axis start : Nat) (shape : List Nat) (rest : List Int)
    (h : place < length) :
    locate axis start (length :: shape) ((place : Int) :: rest) =
      locate (axis + 1) (start * length + place) shape rest := by
  rw [locate, wrapIndex?_natCast h]

/-- The part at two indices of an array with three axes. -/
theorem part_natCast_three {t : Tensor α} {a b c i j : Nat} (hshape : t.shape = [a, b, c]) (hi : i < a) (hj : j < b) :
    t.part [(i : Int), (j : Int)] = .ok ⟨[c], t.data.extract ((i * b + j) * c) ((i * b + j) * c + c)⟩ := by
  unfold part
  rw [hshape, if_neg (by simp), locate_natCast 0 0 _ _ hi, locate_natCast 1 _ _ _ hj]
  simp [locate, bind, Except.bind, pure, Except.pure]

/-- The value at two indices of an array with two axes. -/
theorem part_natCast_two {t : Tensor α} {a b i j : Nat} (hshape : t.shape = [a, b]) (hi : i < a) (hj : j < b) :
    t.part [(i : Int), (j : Int)] = .ok ⟨[], t.data.extract (i * b + j) (i * b + j + 1)⟩ := by
  unfold part
  rw [hshape, if_neg (by simp), locate_natCast 0 0 _ _ hi, locate_natCast 1 _ _ _ hj]
  simp [locate, bind, Except.bind, pure, Except.pure]

/-- Two indices of which there is a part are within their axes. -/
theorem lt_of_part_natCast {t p : Tensor α} {a b i j : Nat} {shape : List Nat} (hshape : t.shape = a :: b :: shape)
    (h : t.part [(i : Int), (j : Int)] = .ok p) : i < a ∧ j < b := by
  unfold part at h
  rw [hshape, if_neg (by simp), locate] at h
  cases hi : wrapIndex? a (i : Int) with
  | none => rw [hi] at h; cases h
  | some first =>
    rw [hi] at h
    simp only [locate] at h
    cases hj : wrapIndex? b (j : Int) with
    | none => rw [hj] at h; cases h
    | some second => exact ⟨lt_of_wrapIndex?_natCast hi, lt_of_wrapIndex?_natCast hj⟩

/-! ## First parts -/

/-- The first parts of an array along its first axis. -/
def first (t : Tensor α) (count : Nat) : Tensor α :=
  match t.shape with
  | [] => t
  | _ :: shape => ⟨count :: shape, t.data.extract 0 (count * shape.foldl (· * ·) 1)⟩

/-- A part ends where the part that it lies in ends, or before. -/
theorem locate_end : ∀ {indices : List Int} {axis start place : Nat} {shape left : List Nat},
    locate axis start shape indices = .ok (place, left) → (place + 1) * left.prod ≤ (start + 1) * shape.prod
  | [], axis, start, place, shape, left, h => by
    cases shape <;> cases h <;> exact le_rfl
  | index :: indices, axis, start, place, [], left, h => by cases h
  | index :: indices, axis, start, place, length :: shape, left, h => by
    unfold locate at h
    split at h
    · rename_i inner hinner
      have hlt : inner < length := by
        unfold wrapIndex? at hinner
        grind
      calc (place + 1) * left.prod ≤ (start * length + inner + 1) * shape.prod := locate_end h
        _ ≤ ((start + 1) * length) * shape.prod := Nat.mul_le_mul_right _ (by rw [Nat.succ_mul]; omega)
        _ = (start + 1) * (length :: shape).prod := by rw [List.prod_cons, Nat.mul_assoc]
    · cases h

/-- The first parts are parts of the array. -/
theorem part_first {t : Tensor α} {length count index : Nat} {shape : List Nat} (hshape : t.shape = length :: shape)
    (hcount : count ≤ length) (hindex : index < count) (indices : List Int) :
    (t.first count).part ((index : Int) :: indices) = t.part ((index : Int) :: indices) := by
  unfold part first
  simp only [hshape, List.length_cons]
  rw [locate_natCast 0 0 shape indices hindex, locate_natCast 0 0 shape indices (hindex.trans_le hcount),
    Nat.zero_mul, Nat.zero_mul]
  split
  · rfl
  · cases hlocate : locate (0 + 1) (0 + index) shape indices with
    | error cause => rfl
    | ok answer =>
      obtain ⟨place, left⟩ := answer
      have hend := locate_end hlocate
      have hinside : (index + 1) * shape.prod ≤ count * shape.prod := Nat.mul_le_mul_right _ hindex
      rw [Nat.zero_add, Nat.succ_mul] at hend
      simp only [bind, Except.bind, pure, Except.pure, ← List.prod_eq_foldl, Array.extract_extract, Nat.zero_add]
      rw [Nat.min_eq_left (by omega)]

/-! ## Full arrays -/

/-- Every place of the shape has a value. -/
def Full (t : Tensor α) : Prop := t.data.size = t.shape.prod

theorem full_row (values : Array α) : (row values).Full := List.prod_singleton.symm

/-- The parts of a full array are full. -/
theorem Full.part {t p : Tensor α} (h : t.Full) {indices : List Int} (hp : t.part indices = .ok p) : p.Full := by
  unfold Tensor.part at hp
  split at hp
  · cases hp
  · cases hlocate : locate 0 0 t.shape indices with
    | error cause => rw [hlocate] at hp; cases hp
    | ok answer =>
      obtain ⟨start, left⟩ := answer
      have hend := locate_end hlocate
      rw [hlocate] at hp
      cases hp
      unfold Full at h ⊢
      rw [Nat.zero_add, Nat.one_mul, Nat.succ_mul, ← h] at hend
      rw [Array.size_extract, ← List.prod_eq_foldl, Nat.min_eq_left hend, Nat.add_sub_cancel_left]

theorem prod_dropWhile_one (shape : List Nat) : (shape.dropWhile (· == 1)).prod = shape.prod := by
  induction shape with
  | nil => rfl
  | cons length shape ih =>
    by_cases h : length = 1
    · rw [List.dropWhile_cons_of_pos (by simpa using h), ih, h, List.prod_cons, Nat.one_mul]
    · rw [List.dropWhile_cons_of_neg (by simpa using h)]

theorem Full.size_spread {t : Tensor α} (h : t.Full) {length : Nat} {out : Array α} (hout : t.spread length = .ok out) :
    out.size = length := by
  have hprod := prod_dropWhile_one t.shape
  unfold spread at hout
  simp only at hout
  split at hout
  · split at hout
    · cases hout; exact Array.size_replicate
    · cases hout
  · rename_i size hshape
    split at hout
    · rename_i hsize
      cases hout
      rw [hshape, List.prod_singleton, hsize] at hprod
      exact h.trans hprod.symm
    · cases hout
  · cases hout

/-! ## Rows -/

theorem size_of_spread_row {values : Array α} {length : Nat} {out : Array α}
    (h : (Tensor.row values).spread length = .ok out) : out.size = length :=
  (full_row values).size_spread h

/-- The values of a single axis fill a row of their length, also where there is only one. -/
theorem spread_self {values : Array α} {length : Nat} (h : values.size = length) :
    (⟨[length], values⟩ : Tensor α).spread length = .ok values := by
  unfold spread
  by_cases h1 : length = 1
  · have h0 : 0 < values.size := by omega
    have hone : values = Array.replicate 1 values[0] := by
      refine Array.ext (by rw [Array.size_replicate]; omega) fun i hi _ => ?_
      rw [Array.getElem_replicate]
      congr 1
      omega
    simp only [h1, List.dropWhile_cons, beq_self_eq_true, if_true, List.dropWhile_nil, Array.getElem?_eq_getElem h0]
    exact congrArg Except.ok hone.symm
  · simp [h1]

end Tensor

end HrirAtlas
