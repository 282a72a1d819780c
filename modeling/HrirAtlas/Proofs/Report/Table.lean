import HrirAtlas.Proofs.Report.Rows
import Mathlib.Data.Nat.Digits.Defs

/-
The table of delays line by line. No number is written with a line feed, so the text of the table comes
apart at its line feeds into the heading, one line for each row of the report in its order, and nothing
after the last.
-/

namespace HrirAtlas

/-! ## Numbers on one line -/

namespace Decimal

theorem newline_not_mem_digitsOf (n : Nat) : '\n' ∉ digitsOf n := by
  intro h
  have hdigit := Nat.isDigit_of_mem_toDigits (by decide) (by decide) h
  revert hdigit
  decide

theorem newline_not_mem_padded (width n : Nat) : '\n' ∉ padded width n := by
  unfold padded
  simp [newline_not_mem_digitsOf]

theorem newline_not_mem_sign (plus negative : Bool) : '\n' ∉ (sign plus negative).toList := by
  cases plus <;> cases negative <;> decide

theorem newline_not_mem_fixedDigits (places num den : Nat) : '\n' ∉ (fixedDigits places num den).toList := by
  unfold fixedDigits
  dsimp only
  split <;> simp [newline_not_mem_digitsOf, newline_not_mem_padded]

/-- A number with a fixed count of places has no line feed. -/
theorem newline_not_mem_fixed (plus : Bool) (places : Nat) (x : Reading) : '\n' ∉ (fixed plus places x).toList := by
  cases x <;> simp [fixed, newline_not_mem_sign, newline_not_mem_fixedDigits]

end Decimal

namespace Report

variable {α : Type} [Scalar α]

/-! ## Lines -/

/-- Lines that are each ended by a line feed come apart at the line feeds. -/
theorem splitOn_join_lines {lines : List String} (h : ∀ line ∈ lines, '\n' ∉ line.toList) :
    (String.join (lines.map (· ++ "\n"))).toList.splitOn '\n' = lines.map String.toList ++ [[]] := by
  rw [String.toList_join, List.flatMap_map]
  induction lines with
  | nil => exact List.splitOn_nil '\n'
  | cons line rest ih =>
    rw [List.forall_mem_cons] at h
    obtain ⟨hline, hrest⟩ := h
    rw [List.flatMap_cons, String.toList_append, List.append_assoc]
    exact (List.splitOn_append_cons_self_of_not_mem hline _).trans (congrArg (line.toList :: ·) (ih hrest))

theorem newline_not_mem_tableLine (r : DelayRow α) : '\n' ∉ (tableLine r).toList := by
  have hwhole : ∀ n : Nat, '\n' ∉ Nat.toDigits 10 n := Decimal.newline_not_mem_digitsOf
  unfold tableLine
  rw [String.toList_intercalate]
  simp [List.intercalate_cons_cons, hwhole, Decimal.newline_not_mem_fixed]

/-- The table has a heading and a line for each row of the report, in order. -/
theorem table_lines {d : DataSet α} {rows : List (DelayRow α)} (h : delayRows d = .ok rows) :
    ∃ text, table d = .ok text ∧ text.toList.splitOn '\n' = (tableHead :: rows.map tableLine).map String.toList ++ [[]] := by
  refine ⟨String.join ((tableHead :: rows.map tableLine).map (· ++ "\n")), ?_, splitOn_join_lines ?_⟩
  · unfold table
    rw [h]
    rfl
  · rw [List.forall_mem_cons]
    constructor
    · decide
    · simp only [List.mem_map]
      rintro _ ⟨r, -, rfl⟩
      exact newline_not_mem_tableLine r

end Report

end HrirAtlas
