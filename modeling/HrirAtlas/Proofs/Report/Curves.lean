import HrirAtlas.Proofs.Exact.Scalar
import HrirAtlas.Proofs.Report.Rows

/-
The curves of the delay plot. The plot takes the rows of the report apart again, first by field and
channel and then by elevation; what is left for an elevation are the rows of its slots, one each, in the
order of their columns. So its curve has the azimuths of the slots, and they go round in even steps.
-/

namespace HrirAtlas

/-- Of the items of a list with their places, one alone gives something. -/
theorem flatMap_zipIdx_single {β γ : Type} {g : β × Nat → List γ} {l : List β} {k first : Nat} {x : β} (hx : l[k]? = some x)
    (hother : ∀ y i, i ≠ first + k → g (y, i) = []) : (l.zipIdx first).flatMap g = g (x, first + k) := by
  induction l generalizing k first with
  | nil => cases hx
  | cons y rest ih =>
    rw [List.zipIdx_cons, List.flatMap_cons]
    cases k with
    | zero =>
      cases hx
      have hrest : (rest.zipIdx (first + 1)).flatMap g = [] := by
        rw [List.flatMap_eq_nil_iff]
        rintro ⟨z, i⟩ hz
        have hplace := List.le_snd_of_mem_zipIdx hz
        exact hother z i (by dsimp only at hplace; omega)
      rw [hrest, List.append_nil, Nat.add_zero]
    | succ k =>
      have hplace : first + 1 + k = first + (k + 1) := by omega
      rw [hother y first (by omega), List.nil_append, ih hx fun z i hi => hother z i (by omega), hplace]

namespace Report

variable {α : Type} [Scalar α]

/-- The curve of a row of the grid for a channel: a point for each slot. -/
def rowCurve (d : DataSet α) (channel : Nat) (r : Row α) : Curve α where
  label := Decimal.fixed true 1 (Scalar.reading r.elevation) ++ " deg"
  azimuths := r.slots.map Slot.azimuth
  delays := r.slots.map fun slot => milliseconds ((d.contentOf slot).delays.getD channel 0.0)

section Plot

variable {d : DataSet α} {f : Field α} {r : Row α} {field row channel : Nat}

/-- Of the rows of a cell, one is for the channel. -/
theorem filter_delayRows (c : Cell α) (hchannel : channel < d.channels) :
    (c.delayRows d).filter (fun x => x.row == row && ((x.field : Int) == field && (x.channel : Int) == channel)) =
      if c.field = field ∧ c.row = row then [c.delayRow d channel] else [] := by
  unfold Cell.delayRows
  rw [List.filter_map]
  by_cases hplace : c.field = field ∧ c.row = row
  · have hsame : ((fun x : DelayRow α => x.row == row && ((x.field : Int) == field && (x.channel : Int) == channel)) ∘
        c.delayRow d) = fun i => i == channel := by
      funext i
      simp [Cell.delayRow, hplace, Bool.beq_eq_decide_eq]
    rw [hsame, if_pos hplace, List.filter_beq, List.count_eq_one_of_mem List.nodup_range (List.mem_range.2 hchannel)]
    rfl
  · rw [if_neg hplace, List.filter_eq_nil_iff.2, List.map_nil]
    intro i _ hfound
    simp only [Function.comp_apply, Cell.delayRow, Bool.and_eq_true, beq_iff_eq, Nat.cast_inj] at hfound
    exact hplace ⟨hfound.2.1, hfound.1⟩

/-- The rows for a field, a channel and a row of the field are those of the slots of that row. -/
theorem filter_rows (hf : d.fields[field]? = some f) (hr : f.rows[row]? = some r) (hchannel : channel < d.channels) :
    ((cells d).flatMap (Cell.delayRows · d)).filter
        (fun x => x.row == row && ((x.field : Int) == field && (x.channel : Int) == channel)) =
      (rowCells field f row r).map (Cell.delayRow · d channel) := by
  rw [List.filter_flatMap]
  simp only [filter_delayRows _ hchannel]
  unfold cells fieldCells
  rw [List.flatMap_assoc]
  simp only [List.flatMap_assoc]
  rw [flatMap_zipIdx_single hf, Nat.zero_add]
  · dsimp only
    rw [flatMap_zipIdx_single hr, Nat.zero_add, List.map_eq_flatMap]
    · refine List.flatMap_congr fun c hc => ?_
      obtain ⟨-, hfield, hrow, -⟩ := mem_rowCells.1 hc
      rw [if_pos ⟨hfield, hrow⟩]
    · intro r' i hi
      rw [List.flatMap_eq_nil_iff]
      intro c hc
      have hrow : c.row = i := (mem_rowCells.1 hc).2.2.1
      rw [if_neg fun hplace => hi (by rw [← hrow, hplace.2, Nat.zero_add])]
  · intro f' i hi
    rw [List.flatMap_eq_nil_iff]
    intro p _
    rw [List.flatMap_eq_nil_iff]
    intro c hc
    have hfield : c.field = i := (mem_rowCells.1 hc).2.1
    rw [if_neg fun hplace => hi (by rw [← hfield, hplace.1, Nat.zero_add])]

/-- The plot of a field that is there has a curve for each of its rows, from the lowest up. -/
theorem plot_eq (h : Delayed d) (hf : d.fields[field]? = some f) (hchannel : channel < d.channels) (title : String) :
    plot d field channel title = .ok { title, curves := f.rows.map (rowCurve d channel) } := by
  have hfound : (wrapIndex? d.fields.length field).bind (d.fields[·]?) = some f := by
    rw [wrapIndex?_natCast (List.getElem?_eq_some_iff.1 hf).choose]
    exact hf
  unfold plot
  rw [delayRows_eq h]
  simp only [bind, Except.bind, hfound, pure, Except.pure]
  congr 2
  refine List.ext_getElem (by rw [List.length_mapIdx, List.length_map]) fun row hrow _ => ?_
  rw [List.length_mapIdx] at hrow
  rw [List.getElem_mapIdx, List.getElem_map]
  have hr := List.getElem?_eq_getElem hrow
  unfold curve
  rw [List.filter_filter, filter_rows hf hr hchannel]
  unfold rowCurve
  rw [← map_slot_rowCells field f row f.rows[row]]
  simp only [List.map_map]
  rfl

end Plot

/-! ## Azimuths -/

/-- The azimuths of a row with `count` slots. -/
def evenAzimuths (count : Nat) : List α :=
  (List.range count).map fun (column : Nat) => Scalar.ofInt column * 360.0 / Scalar.ofInt count

/-- Arithmetic that keeps a relation at each step on the way to the azimuths of a row with `count` slots:
the columns, their multiples of a turn, and the parts of a turn. -/
structure Ascending (R : α → α → Prop) (count : Nat) : Prop where
  column : ∀ i k : Nat, i < k → k < count → R (Scalar.ofInt i) (Scalar.ofInt k)
  turn : ∀ i k : Nat, i < k → k < count → R (Scalar.ofInt i) (Scalar.ofInt k) →
    R (Scalar.ofInt i * 360.0) (Scalar.ofInt k * 360.0)
  part : ∀ i k : Nat, i < k → k < count → R (Scalar.ofInt i * 360.0) (Scalar.ofInt k * 360.0) →
    R (Scalar.ofInt i * 360.0 / Scalar.ofInt count) (Scalar.ofInt k * 360.0 / Scalar.ofInt count)

/-- The azimuths of a row ascend in every relation that the arithmetic keeps. -/
theorem pairwise_evenAzimuths {R : α → α → Prop} {count : Nat} (h : Ascending R count) :
    (evenAzimuths count).Pairwise R := by
  unfold evenAzimuths
  rw [List.pairwise_map]
  refine List.Pairwise.imp_of_mem ?_ List.pairwise_lt_range
  intro i k _ hk hik
  have hcount := List.mem_range.1 hk
  exact h.part i k hik hcount (h.turn i k hik hcount (h.column i k hik hcount))

/-- Exact azimuths ascend strictly. -/
theorem ascending_lt (count : Nat) : Ascending (fun x y : ℚ => x < y) count where
  column i k hik _ := by
    show ((i : ℤ) : ℚ) < ((k : ℤ) : ℚ)
    exact_mod_cast hik
  turn i k _ _ h := mul_lt_mul_of_pos_right h (by norm_num)
  part i k _ hk h := div_lt_div_of_pos_right h (by
    show (0 : ℚ) < ((count : ℤ) : ℚ)
    exact_mod_cast Nat.zero_lt_of_lt hk)

end Report

end HrirAtlas
