import HrirAtlas.Decimal.Read
import HrirAtlas.Scalar
import Mathlib.Tactic

/-
The rational numbers as scalars: every operation exact, every value its own reading. An algorithm of
the library at this scalar computes what it means, without rounding, which is how its angles and
distances are read where a statement is about the grid and not about digits.
-/

namespace HrirAtlas

/-- A quotient of integers, or an integer alone. -/
def Decimal.readQuotient? (text : String) : Option ℚ :=
  match text.splitOn "/" with
  | [num] => (readInt? num).map Int.cast
  | [num, den] => do
    let n ← readInt? num
    let d ← readInt? den
    if d = 0 then none else some (n / d)
  | _ => none

instance : Scalar ℚ where
  decideLT := inferInstance
  decideLE := inferInstance
  ofInt n := n
  reading q := .finite (decide (q < 0)) q.num.natAbs q.den
  rem x y := x - y * ((x / y).num.tdiv (x / y).den : ℤ)
  text q := if q.den = 1 then toString q.num else toString q.num ++ "/" ++ toString q.den
  ofText? := Decimal.readQuotient?

namespace Exact

@[simp] theorem ofInt_eq (n : ℤ) : (Scalar.ofInt n : ℚ) = n := rfl

theorem isZero_iff (q : ℚ) : Scalar.isZero q = true ↔ q = 0 := by
  have h0 : (0.0 : ℚ) = 0 := by norm_num
  show (decide (q ≤ (0.0 : ℚ)) && decide ((0.0 : ℚ) ≤ q)) = true ↔ q = 0
  rw [h0, Bool.and_eq_true, decide_eq_true_eq, decide_eq_true_eq]
  exact ⟨fun h => le_antisymm h.1 h.2, fun h => ⟨h.le, h.ge⟩⟩

theorem pos_of_not_le {q : ℚ} (h : ¬ q ≤ (0.0 : ℚ)) : 0 < q := by
  norm_num at h
  exact h

theorem divide_eq {y : ℚ} (x : ℚ) (hy : y ≠ 0) : Scalar.divide x y = .ok (x / y) := by
  unfold Scalar.divide
  rw [if_neg (by rw [isZero_iff]; exact hy)]

@[simp] theorem abs_eq (q : ℚ) : Scalar.abs q = |q| := by
  have h0 : (0.0 : ℚ) = 0 := by norm_num
  show (if q < (0.0 : ℚ) then -q else q) = |q|
  rw [h0]
  split
  · rename_i h; rw [abs_of_neg h]
  · rename_i h; rw [abs_of_nonneg (not_lt.1 h)]

theorem signed_natAbs (n : ℤ) : Reading.signed (decide ((n : ℚ) < 0)) n.natAbs = n := by
  unfold Reading.signed
  by_cases h : (n : ℚ) < 0
  · rw [decide_eq_true h, if_pos rfl]
    have : n < 0 := by exact_mod_cast h
    omega
  · rw [decide_eq_false h, if_neg nofun]
    have : ¬ n < 0 := by exact_mod_cast h
    omega

@[simp] theorem round_intCast (n : ℤ) : Scalar.round (n : ℚ) = .ok n := by
  show Reading.round (.finite (decide ((n : ℚ) < 0)) (n : ℚ).num.natAbs (n : ℚ).den) = _
  rw [Rat.num_intCast, Rat.den_intCast]
  unfold Reading.round Nat.divHalfEven
  simp only [Nat.mod_one, Nat.mul_zero, Nat.div_one, Nat.zero_lt_one, if_true, signed_natAbs]

/-- The least integer that is not below a quotient, from the next lower one. -/
theorem neg_neg_ediv (n : Nat) {d : Nat} (hd : 0 < d) : -(-(n : ℤ) / d) = ((n + d - 1) / d : Nat) := by
  have hd' : (0 : ℤ) < d := by exact_mod_cast hd
  have hdiv := Nat.div_add_mod (n + d - 1) d
  have hmod := Nat.mod_lt (n + d - 1) hd
  have hdiv' : (d : ℤ) * ((n + d - 1) / d : Nat) + ((n + d - 1) % d : Nat) = n + d - 1 := by
    rw [← Nat.cast_mul, ← Nat.cast_add, hdiv]
    omega
  rw [neg_eq_iff_eq_neg, Int.ediv_eq_iff_of_pos hd', neg_mul, mul_comm]
  omega

/-- Rounding up gives the least integer that is not below. -/
theorem ceil_eq (x : ℚ) : Scalar.ceil x = .ok ⌈x⌉ := by
  have hceil : ⌈x⌉ = -(-x.num / (x.den : ℤ)) := by
    rw [← Rat.ceil_intCast_div_natCast, Rat.num_div_den]
  show Reading.ceil (.finite (decide (x < 0)) x.num.natAbs x.den) = _
  rw [hceil]
  by_cases hneg : x < 0
  · rw [decide_eq_true hneg]
    have hnum : (x.num.natAbs : ℤ) = -x.num := by
      have := Rat.num_neg.2 hneg
      omega
    show Except.ok (-((x.num.natAbs / x.den : Nat) : ℤ)) = _
    rw [Int.natCast_div, hnum]
  · rw [decide_eq_false hneg]
    obtain ⟨n, hn⟩ := Int.eq_ofNat_of_zero_le (Rat.num_nonneg.2 (not_lt.1 hneg))
    show Except.ok (((x.num.natAbs + x.den - 1) / x.den : Nat) : ℤ) = _
    rw [hn, Int.natAbs_natCast, neg_neg_ediv n x.den_pos]

@[simp] theorem ceil_intCast (n : ℤ) : Scalar.ceil (n : ℚ) = .ok n := by
  rw [ceil_eq, Int.ceil_intCast]

end Exact

end HrirAtlas
