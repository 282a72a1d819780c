import HrirAtlas.Setting
import Mathlib.Tactic

/-
Numbers that are whole compare and convert as integers do.
-/

namespace HrirAtlas

theorem Reading.signed_ofInt (n : Int) : signed (decide (n < 0)) n.natAbs = n := by
  unfold signed
  by_cases h : n < 0
  · rw [decide_eq_true h, if_pos rfl]; omega
  · rw [decide_eq_false h, if_neg nofun]; omega

namespace Number

variable {α : Type} [Scalar α]

theorem less_int (a b : Int) : (int a : Number α).less (int b) = decide (a < b) := by
  unfold less reading Reading.ofInt Reading.less
  simp only [Nat.mul_one, Reading.signed_ofInt]

theorem same_int (a b : Int) : (int a : Number α).same (int b) = (a == b) := by
  unfold same reading Reading.ofInt Reading.same
  simp only [Nat.mul_one, Reading.signed_ofInt]

theorem isGiven_int (n : Int) : (int n : Number α).isGiven = !(n == 0) := by
  unfold isGiven
  rw [same_int]

theorem truncate_int (n : Int) : (int n : Number α).truncate = .ok n := by
  unfold truncate reading Reading.ofInt Reading.truncate
  simp only [Nat.div_one, Reading.signed_ofInt]

end Number

theorem Setting.toInt_int {α : Type} [Scalar α] (n : Int) : (Setting.int n : Setting α).toInt = .ok n := by
  show (Number.truncate (.int n : Number α)).mapError Setting.IntegerFault.arithmetic = .ok n
  rw [Number.truncate_int]
  rfl

end HrirAtlas
