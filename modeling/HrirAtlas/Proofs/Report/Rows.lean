import HrirAtlas.Proofs.Grid.Storage
import HrirAtlas.Report

/-
The rows of the delay report. The report walks fields, rows, slots and channels in nested loops; written
down at once it has a block of rows, one for each channel, for every slot in storage order. Where the
slots are numbered from zero on without a gap, the place of a row is that of its channel in the block of
its storage index.
-/

namespace HrirAtlas

/-! ## Blocks -/

theorem getElem?_flatMap_blocks {β γ : Type} {g : β → List γ} {size : Nat} (hsize : ∀ x, (g x).length = size) {l : List β}
    {k : Nat} {x : β} (hx : l[k]? = some x) {i : Nat} (hi : i < size) : (l.flatMap g)[k * size + i]? = (g x)[i]? := by
  induction l generalizing k with
  | nil => cases hx
  | cons first rest ih =>
    rw [List.flatMap_cons]
    cases k with
    | zero =>
      cases hx
      rw [Nat.zero_mul, Nat.zero_add, List.getElem?_append_left (by rw [hsize]; exact hi)]
    | succ k =>
      rw [List.getElem?_append_right (by rw [hsize, Nat.succ_mul]; omega), hsize,
        show (k + 1) * size + i - size = k * size + i by rw [Nat.succ_mul]; omega]
      exact ih hx

theorem length_flatMap_blocks {β γ : Type} {g : β → List γ} {size : Nat} (hsize : ∀ x, (g x).length = size) (l : List β) :
    (l.flatMap g).length = l.length * size := by
  rw [List.length_flatMap, List.map_congr_left fun x _ => hsize x, List.map_const', List.sum_replicate, smul_eq_mul]

/-- The places in a list ascend. -/
theorem pairwise_zipIdx {β : Type} (l : List β) (first : Nat) : (l.zipIdx first).Pairwise fun a b => a.2 < b.2 := by
  induction l generalizing first with
  | nil => exact .nil
  | cons x rest ih =>
    rw [List.zipIdx_cons, List.pairwise_cons]
    refine ⟨fun p hp => ?_, ih (first + 1)⟩
    obtain ⟨value, place⟩ := p
    have hplace := List.le_snd_of_mem_zipIdx hp
    show first < place
    omega

namespace Report

variable {α : Type}

/-! ## Cells -/

/-- A slot with its place in the grid. -/
structure Cell (α : Type) where
  field : Nat
  row : Nat
  column : Nat
  elevation : α
  mirrored : Bool
  slot : Slot α

/-- The cells of a row of a field. -/
def rowCells (field : Nat) (f : Field α) (row : Nat) (r : Row α) : List (Cell α) :=
  r.slots.zipIdx.map fun (slot, column) =>
    { field, row, column, elevation := r.elevation, mirrored := decide (row < f.evStart), slot }

def fieldCells (field : Nat) (f : Field α) : List (Cell α) :=
  f.rows.zipIdx.flatMap fun (r, row) => rowCells field f row r

/-- All cells, in storage order. -/
def cells (d : DataSet α) : List (Cell α) := d.fields.zipIdx.flatMap fun (f, field) => fieldCells field f

/-- One cell comes before another: in an earlier field, an earlier row of the field, or an earlier column
of the row. -/
def Cell.Before (c c' : Cell α) : Prop :=
  c.field < c'.field ∨ c.field = c'.field ∧ (c.row < c'.row ∨ c.row = c'.row ∧ c.column < c'.column)

section Cells

variable {d : DataSet α} {c : Cell α} {f : Field α} {r : Row α} {field row : Nat}

theorem mem_rowCells : c ∈ rowCells field f row r ↔
    r.slots[c.column]? = some c.slot ∧ c.field = field ∧ c.row = row ∧ c.elevation = r.elevation ∧
      c.mirrored = decide (row < f.evStart) := by
  unfold rowCells
  rw [List.mem_map]
  constructor
  · rintro ⟨⟨slot, column⟩, hmem, rfl⟩
    exact ⟨List.mem_zipIdx_iff_getElem?.1 hmem, rfl, rfl, rfl, rfl⟩
  · rintro ⟨hslot, rfl, rfl, helevation, hmirrored⟩
    refine ⟨(c.slot, c.column), List.mem_zipIdx_iff_getElem?.2 hslot, ?_⟩
    rw [← helevation, ← hmirrored]

theorem mem_cells : c ∈ cells d ↔ ∃ f r, d.fields[c.field]? = some f ∧ f.rows[c.row]? = some r ∧
    r.slots[c.column]? = some c.slot ∧ c.elevation = r.elevation ∧ c.mirrored = decide (c.row < f.evStart) := by
  unfold cells fieldCells
  simp only [List.mem_flatMap, Prod.exists, List.mem_zipIdx_iff_getElem?, mem_rowCells]
  constructor
  · rintro ⟨f, field, hf, r, row, hr, hslot, rfl, rfl, helevation, hmirrored⟩
    exact ⟨f, r, hf, hr, hslot, helevation, hmirrored⟩
  · rintro ⟨f, r, hf, hr, hslot, helevation, hmirrored⟩
    exact ⟨f, c.field, hf, r, c.row, hr, hslot, rfl, rfl, helevation, hmirrored⟩

theorem map_slot_rowCells (field : Nat) (f : Field α) (row : Nat) (r : Row α) :
    (rowCells field f row r).map Cell.slot = r.slots := by
  unfold rowCells
  rw [List.map_map]
  exact List.zipIdx_map_fst 0 r.slots

/-- The slots of the cells are those of the grid, in storage order. -/
theorem map_slot_cells [Scalar α] (d : DataSet α) : (cells d).map Cell.slot = d.slots := by
  have hzip : ∀ {β γ : Type} (l : List β) (g : β → List γ), (l.zipIdx.flatMap fun p => g p.1) = l.flatMap g := by
    intro β γ l g
    rw [← List.flatMap_map, List.zipIdx_map_fst]
  unfold cells fieldCells DataSet.slots Field.slots
  simp only [List.map_flatMap, map_slot_rowCells]
  rw [← hzip d.fields]
  simp only [hzip _ Row.slots]

theorem pairwise_rowCells (field : Nat) (f : Field α) (row : Nat) (r : Row α) : (rowCells field f row r).Pairwise Cell.Before := by
  unfold rowCells
  rw [List.pairwise_map]
  refine (pairwise_zipIdx r.slots 0).imp fun hcolumn => ?_
  exact .inr ⟨rfl, .inr ⟨rfl, hcolumn⟩⟩

theorem pairwise_fieldCells (field : Nat) (f : Field α) : (fieldCells field f).Pairwise Cell.Before := by
  unfold fieldCells
  rw [List.pairwise_flatMap]
  refine ⟨fun p _ => pairwise_rowCells .., (pairwise_zipIdx f.rows 0).imp fun hrow c hc c' hc' => ?_⟩
  obtain ⟨-, hfield, hrow₁, -⟩ := mem_rowCells.1 hc
  obtain ⟨-, hfield', hrow₂, -⟩ := mem_rowCells.1 hc'
  exact .inr ⟨hfield.trans hfield'.symm, .inl (by rwa [hrow₁, hrow₂])⟩

/-- The cells come by field, row and column. -/
theorem pairwise_cells (d : DataSet α) : (cells d).Pairwise Cell.Before := by
  unfold cells
  rw [List.pairwise_flatMap]
  refine ⟨fun p _ => pairwise_fieldCells .., (pairwise_zipIdx d.fields 0).imp fun hfield c hc c' hc' => ?_⟩
  have hfieldOf : ∀ {field : Nat} {f : Field α} {c : Cell α}, c ∈ fieldCells field f → c.field = field := by
    intro field f c hc
    obtain ⟨p, -, hc⟩ := List.mem_flatMap.1 hc
    exact (mem_rowCells.1 hc).2.1
  exact .inl (by rwa [hfieldOf hc, hfieldOf hc'])

end Cells

/-! ## Rows -/

variable [Scalar α]

/-- The row of a cell and a channel. -/
def Cell.delayRow (c : Cell α) (d : DataSet α) (channel : Nat) : DelayRow α where
  field := c.field
  row := c.row
  column := c.column
  channel := channel
  elevation := c.elevation
  azimuth := c.slot.azimuth
  delay := (d.contentOf c.slot).delays.getD channel 0.0
  mirrored := c.mirrored

/-- The rows of a cell. -/
def Cell.delayRows (c : Cell α) (d : DataSet α) : List (DelayRow α) := (List.range d.channels).map (c.delayRow d)

/-- Every slot has a delay for each channel. -/
def Delayed (d : DataSet α) : Prop := ∀ slot ∈ d.slots, (d.contentOf slot).delays.length = d.channels

section Rows

variable {d : DataSet α} {c : Cell α} {channel : Nat}

theorem slotRows_eq (c : Cell α) {f : Field α} (hdelays : (d.contentOf c.slot).delays.length = d.channels)
    (hmirrored : c.mirrored = decide (c.row < f.evStart)) :
    slotRows d c.field f c.row c.elevation c.column c.slot = .ok (c.delayRows d) := by
  unfold slotRows Cell.delayRows
  refine except_mapM_of_ok fun channel hchannel => ?_
  have hlt : channel < (d.contentOf c.slot).delays.length := by
    rw [hdelays]
    exact List.mem_range.1 hchannel
  unfold Cell.delayRow
  rw [hmirrored, List.getD_eq_getElem?_getD, List.getElem?_eq_getElem hlt]
  rfl

theorem fieldRows_eq {field : Nat} {f : Field α} {rows : List (Row α)} {row : Nat}
    (hdelays : ∀ slot ∈ rows.flatMap Row.slots, (d.contentOf slot).delays.length = d.channels) :
    fieldRows d field f row rows =
      .ok (((rows.zipIdx row).flatMap fun (r, row) => rowCells field f row r).flatMap (Cell.delayRows · d)) := by
  induction rows generalizing row with
  | nil => rfl
  | cons r rest ih =>
    rw [List.flatMap_cons, List.forall_mem_append] at hdelays
    obtain ⟨hfirst, hrest⟩ := hdelays
    have hparts : (r.slots.zipIdx.mapM fun (slot, column) => slotRows d field f row r.elevation column slot) =
        .ok (r.slots.zipIdx.map fun (slot, column) => Cell.delayRows
          { field, row, column, elevation := r.elevation, mirrored := decide (row < f.evStart), slot } d) := by
      refine except_mapM_of_ok fun p hp => ?_
      exact slotRows_eq { field, row, column := p.2, elevation := r.elevation, mirrored := decide (row < f.evStart), slot := p.1 }
        (hfirst p.1 (List.fst_mem_of_mem_zipIdx hp)) rfl
    unfold fieldRows
    rw [hparts, ih hrest, List.zipIdx_cons, List.flatMap_cons, List.flatMap_append]
    unfold rowCells
    rw [List.flatMap_map]
    rfl

theorem rowsFrom_eq {fields : List (Field α)} {field : Nat}
    (hdelays : ∀ slot ∈ fields.flatMap Field.slots, (d.contentOf slot).delays.length = d.channels) :
    rowsFrom d field fields =
      .ok (((fields.zipIdx field).flatMap fun (f, field) => fieldCells field f).flatMap (Cell.delayRows · d)) := by
  induction fields generalizing field with
  | nil => rfl
  | cons f rest ih =>
    rw [List.flatMap_cons, List.forall_mem_append] at hdelays
    obtain ⟨hfirst, hrest⟩ := hdelays
    unfold rowsFrom
    rw [fieldRows_eq hfirst, ih hrest, List.zipIdx_cons, List.flatMap_cons, List.flatMap_append]
    rfl

/-- The report has the rows of all cells one after another. -/
theorem delayRows_eq (h : Delayed d) : delayRows d = .ok ((cells d).flatMap (Cell.delayRows · d)) := rowsFrom_eq h

theorem length_delayRows (c : Cell α) : (c.delayRows d).length = d.channels := by
  unfold Cell.delayRows
  rw [List.length_map, List.length_range]

/-- The row of a channel of a cell stands in the block of the storage index, where the indices are those
of the places. -/
theorem getElem?_delayRows (hindices : d.slots.map Slot.index = List.range d.irCount) (hc : c ∈ cells d)
    (hchannel : channel < d.channels) :
    ((cells d).flatMap (Cell.delayRows · d))[c.slot.index * d.channels + channel]? = some (c.delayRow d channel) := by
  obtain ⟨place, hplace⟩ := List.mem_iff_getElem?.1 hc
  have hindex : (d.slots.map Slot.index)[place]? = some c.slot.index := by
    rw [← map_slot_cells, List.getElem?_map, List.getElem?_map, hplace]
    rfl
  rw [hindices] at hindex
  obtain ⟨hlt, hsame⟩ := List.getElem?_eq_some_iff.1 hindex
  rw [List.getElem_range] at hsame
  rw [← hsame, getElem?_flatMap_blocks length_delayRows hplace hchannel]
  unfold Cell.delayRows
  rw [List.getElem?_map, List.getElem?_range hchannel]
  rfl

end Rows

/-! ## Order -/

/-- One row comes before another: by field, row, column and channel. -/
def DelayRow.Before (x y : DelayRow α) : Prop :=
  x.field < y.field ∨ x.field = y.field ∧ (x.row < y.row ∨ x.row = y.row ∧
    (x.column < y.column ∨ x.column = y.column ∧ x.channel < y.channel))

theorem pairwise_delayRows (d : DataSet α) : ((cells d).flatMap (Cell.delayRows · d)).Pairwise DelayRow.Before := by
  rw [List.pairwise_flatMap]
  constructor
  · intro c _
    unfold Cell.delayRows
    rw [List.pairwise_map]
    exact List.pairwise_lt_range.imp fun hchannel => .inr ⟨rfl, .inr ⟨rfl, .inr ⟨rfl, hchannel⟩⟩⟩
  · refine (pairwise_cells d).imp fun hbefore x hx y hy => ?_
    obtain ⟨_, -, rfl⟩ := List.mem_map.1 hx
    obtain ⟨_, -, rfl⟩ := List.mem_map.1 hy
    rcases hbefore with hfield | ⟨hfield, hrow | ⟨hrow, hcolumn⟩⟩
    · exact .inl hfield
    · exact .inr ⟨hfield, .inl hrow⟩
    · exact .inr ⟨hfield, .inr ⟨hrow, .inl hcolumn⟩⟩

end Report

end HrirAtlas
