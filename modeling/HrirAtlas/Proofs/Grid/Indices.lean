import HrirAtlas.Proofs.Exact.Scalar
import HrirAtlas.Proofs.Grid.Regular

/-
Storage indices as a bijection. Layouts with steps between their rows are allocated whatever the data
set held before, if the buffer can be had. The slots of the grid, walked field by field and row by row,
then have the indices from zero on, as many as the layouts have azimuths, and the rows of the buffer
correspond one to one to the channels of these slots. So no two of them share storage, and none is
without.
-/

namespace HrirAtlas

/-- An integer is zero as a scalar only if it is zero. -/
def Scalar.KeepsNonzero (α : Type) [Scalar α] : Prop := ∀ n : Int, n ≠ 0 → isZero (ofInt n : α) = false

theorem Exact.keepsNonzero : Scalar.KeepsNonzero ℚ := by
  intro n hn
  rw [Bool.eq_false_iff, ne_eq, isZero_iff, ofInt_eq, Int.cast_eq_zero]
  exact hn

namespace Grid

variable {α : Type} [Scalar α]

/-! ## Counts -/

/-- The slots of the grid of the layouts. -/
def slotCount (layouts : List (Layout α)) : Nat := (layouts.map fun l => (l.azCounts.map Int.toNat).sum).sum

theorem sum_toNat : ∀ {counts : List Int}, (∀ count ∈ counts, 0 ≤ count) → ((counts.map Int.toNat).sum : Int) = counts.sum
  | [], _ => rfl
  | count :: counts, h => by
    have hrest := sum_toNat fun other hother => h other (List.mem_cons_of_mem _ hother)
    have hcount := h count List.mem_cons_self
    rw [List.map_cons, List.sum_cons, List.sum_cons, Nat.cast_add, hrest, Int.toNat_of_nonneg hcount]

omit [Scalar α] in
/-- There are as many slots as azimuths. -/
theorem slotCount_eq_sum : ∀ {layouts : List (Layout α)}, (∀ l ∈ layouts, ∀ count ∈ l.azCounts, 0 ≤ count) →
    (slotCount layouts : Int) = (layouts.map fun l => l.azCounts.sum).sum
  | [], _ => rfl
  | l :: layouts, h => by
    have hrest := slotCount_eq_sum fun other hother => h other (List.mem_cons_of_mem _ hother)
    have hfirst := sum_toNat (h l List.mem_cons_self)
    unfold slotCount at hrest ⊢
    rw [List.map_cons, List.map_cons, List.sum_cons, List.sum_cons, Nat.cast_add, hrest, hfirst]

theorem newFields_counts : ∀ {next : Nat} {layouts : List (Layout α)} {fields : List (Field α)} {total : Nat},
    newFields next layouts = (fields, total, none) →
      fields.map (fun f => f.rows.map (·.slots.length)) = layouts.map fun l => l.azCounts.map Int.toNat
  | next, [], fields, total, h => by cases h; rfl
  | next, l :: layouts, fields, total, h => by
    rcases newFields_cons h with ⟨-, -, hcause⟩ | ⟨rows, last, later, hrows, hlater, rfl⟩
    · cases hcause
    · rw [List.map_cons, List.map_cons, newFields_counts hlater, newRows_length hrows]

/-! ## Allocation answers -/

section Answers

variable (hα : Scalar.KeepsNonzero α)

include hα

theorem newRows_answers (evLimit : α) {count : Nat} (hcount : count ≠ 1) : ∀ (row next : Nat) (azCounts : List Int),
    ∃ rows, newRows evLimit count row next azCounts = .ok (rows, next + (azCounts.map Int.toNat).sum)
  | _, _, [] => ⟨[], rfl⟩
  | row, next, azimuths :: rest => by
    obtain ⟨rows, hrows⟩ := newRows_answers evLimit hcount (row + 1) (next + azimuths.toNat) rest
    have helevation := divide_answers (Scalar.ofInt row * (2.0 * evLimit)) (hα ((count : Int) - 1) (by omega))
    unfold newRows rowElevation
    rw [helevation, List.map_cons, List.sum_cons, ← Nat.add_assoc]
    show ∃ all, (newRows evLimit count (row + 1) (next + azimuths.toNat) rest >>= fun answer => _) = .ok (all, _)
    rw [hrows]
    exact ⟨_, rfl⟩

theorem newFields_answers : ∀ (next : Nat) {layouts : List (Layout α)}, (∀ l ∈ layouts, l.azCounts.length ≠ 1) →
    ∃ fields, newFields next layouts = (fields, next + slotCount layouts, none)
  | next, [], _ => ⟨[], rfl⟩
  | next, l :: layouts, hrows => by
    obtain ⟨rows, hl⟩ := newRows_answers hα l.evLimit (hrows l List.mem_cons_self) 0 next l.azCounts
    obtain ⟨fields, hfields⟩ := newFields_answers (next + (l.azCounts.map Int.toNat).sum) fun other hother =>
      hrows other (List.mem_cons_of_mem _ hother)
    unfold newFields
    rw [hl]
    simp only [hfields]
    refine ⟨_, Prod.ext rfl (Prod.ext ?_ rfl)⟩
    exact Nat.add_assoc next (l.azCounts.map Int.toNat).sum (slotCount layouts)

variable {layouts : List (Layout α)} (hrows : ∀ l ∈ layouts, l.azCounts.length ≠ 1) {s : Session α}

include hrows

/-- Where no layout has a single row, only the size of the buffer can stop the allocation. -/
theorem allocate_answers (hsize : checkSize [s.data.channels, slotCount layouts, s.data.irSize] = .ok ()) :
    ∃ t, allocate layouts s = .ok () t := by
  obtain ⟨fields, hfields⟩ := newFields_answers hα 0 hrows
  rw [Nat.zero_add] at hfields
  unfold allocate
  rw [Stage.data_bind]
  simp only [hfields, Stage.setData_bind]
  exact ⟨_, Stage.bind_of_ok (Stage.ofShape_of_ok hsize)⟩

theorem allocate_refuses {cause : ShapeFault}
    (hsize : checkSize [s.data.channels, slotCount layouts, s.data.irSize] = .error cause) :
    ∃ t, allocate layouts s = .error (.shape cause) t := by
  have hstop : ∀ u : Session α, Stage.ofShape (checkSize [s.data.channels, slotCount layouts, s.data.irSize]) u =
      .error (.shape cause) u := fun u => by rw [hsize]; rfl
  obtain ⟨fields, hfields⟩ := newFields_answers hα 0 hrows
  rw [Nat.zero_add] at hfields
  unfold allocate
  rw [Stage.data_bind]
  simp only [hfields, Stage.setData_bind]
  exact ⟨_, Stage.bind_of_error (hstop _)⟩

end Answers

/-! ## Storage of slots -/

section Storage

variable {d : DataSet α}

theorem Allocated.contentOf_eq (h : Allocated d) {slot : Slot α} (hslot : slot ∈ d.slots) :
    d.contentOf slot = Content.empty d.channels := by
  unfold DataSet.contentOf
  rw [h.own slot hslot, h.contents, Array.getD_eq_getD_getElem?, Array.getElem?_replicate, if_pos (h.index_lt hslot)]
  rfl

theorem Allocated.exists_slot (h : Allocated d) {index : Nat} (hindex : index < d.irCount) :
    ∃ slot ∈ d.slots, slot.index = index := by
  have hmem : index ∈ d.slots.map Slot.index := by
    rw [h.indices]
    exact List.mem_range.2 hindex
  exact List.mem_map.1 hmem

/-- The channels of the slots. -/
def slotChannels (d : DataSet α) : Set (Nat × Slot α) := {p | p.1 < d.channels ∧ p.2 ∈ d.slots}

/-- The row that a slot has for a channel. -/
def slotRow (p : Nat × Slot α) : RowRef := ⟨p.1, p.2.index⟩

theorem Allocated.holds (h : Allocated d) {size : Nat} {p : Nat × Slot α} (hp : p ∈ slotChannels d) :
    (Buffer.silent (α := α) d.channels d.irCount size).Holds (slotRow p) :=
  ⟨hp.1, h.index_lt hp.2⟩

theorem Allocated.view_eq (h : Allocated d) {p : Nat × Slot α} (hp : p ∈ slotChannels d) :
    d.view p.1 p.2.index = .ok (slotRow p) := by
  unfold DataSet.view
  rw [h.buffer]
  exact Buffer.view_natCast (h.holds hp)

/-- The rows of the buffer are those of the channels of the slots, one for each. -/
theorem Allocated.bijOn_place (h : Allocated d) (size : Nat) :
    Set.BijOn (fun p => (Buffer.silent (α := α) d.channels d.irCount size).place (slotRow p)) (slotChannels d)
      (Set.Iio (d.channels * d.irCount)) := by
  refine ⟨fun p hp => (h.holds hp).place_lt, fun p hp q hq he => ?_, fun place hplace => ?_⟩
  · obtain ⟨hchannel, hindex⟩ := RowRef.mk.inj ((h.holds hp).place_inj (h.holds hq) he)
    exact Prod.ext hchannel (h.eq_of_index_eq hp.2 hq.2 hindex)
  · obtain ⟨hchannel, hindex⟩ := Buffer.holds_refAt (b := Buffer.silent (α := α) d.channels d.irCount size) hplace
    obtain ⟨slot, hslot, he⟩ := h.exists_slot hindex
    refine ⟨(place / d.irCount, slot), ⟨hchannel, hslot⟩, ?_⟩
    show (Buffer.silent (α := α) d.channels d.irCount size).place ⟨place / d.irCount, slot.index⟩ = place
    rw [he]
    exact Buffer.place_refAt _ place

end Storage

/-! ## The grid of layouts -/

/-- The grid of the layouts has taken the place of what a data set held before: the slots are numbered in
the order of the walk, are empty, and have the rows of a silent buffer to themselves. -/
structure Numbered (layouts : List (Layout α)) (before d : DataSet α) : Prop where
  kept : d = { before with fields := d.fields, contents := d.contents, irCount := d.irCount, buffer := d.buffer }
  counts : d.fields.map (fun f => f.rows.map (·.slots.length)) = layouts.map fun l => l.azCounts.map Int.toNat
  total : (d.irCount : Int) = (layouts.map fun l => l.azCounts.sum).sum
  indices : d.slots.map Slot.index = List.range d.irCount
  silent : d.buffer = some (Buffer.silent d.channels d.irCount d.irSize.toNat)
  empty : ∀ slot ∈ d.slots, d.contentOf slot = Content.empty d.channels ∧ d.populated slot = false
  views : ∀ p ∈ slotChannels d, d.view p.1 p.2.index = .ok (slotRow p)
  rows : ∀ b, d.buffer = some b → Set.BijOn (fun p => b.place (slotRow p)) (slotChannels d) (Set.Iio b.rows.size)

/-- Layouts of two rows or more are allocated in any data set, and their slots are numbered; only a buffer
whose size cannot be had, being negative or beyond memory, stops the allocation. -/
theorem allocate_numbered (hα : Scalar.KeepsNonzero α) {layouts : List (Layout α)}
    (hrows : ∀ l ∈ layouts, 2 ≤ l.azCounts.length) (hcounts : ∀ l ∈ layouts, ∀ count ∈ l.azCounts, 0 ≤ count)
    (s : Session α) :
    (checkSize [s.data.channels, slotCount layouts, s.data.irSize] = .ok () ∧
      ∃ t, allocate layouts s = .ok () t ∧ Numbered layouts s.data t.data) ∨
    ∃ cause t, checkSize [s.data.channels, slotCount layouts, s.data.irSize] = .error cause ∧
      allocate layouts s = .error (.shape cause) t := by
  have hsteps : ∀ l ∈ layouts, l.azCounts.length ≠ 1 := fun l hl => by have := hrows l hl; omega
  cases hsize : checkSize [(s.data.channels : Int), slotCount layouts, s.data.irSize] with
  | error cause =>
    obtain ⟨t, ht⟩ := allocate_refuses hα hsteps hsize
    exact .inr ⟨cause, t, rfl, ht⟩
  | ok =>
    obtain ⟨t, ht⟩ := allocate_answers hα hsteps hsize
    obtain ⟨hallocated, fields, contents, irCount, buffer, hfields, hdata⟩ := allocate_ok ht
    refine .inl ⟨rfl, t, ht, ?_, ?_, ?_, hallocated.indices, hallocated.buffer, ?_, ?_, ?_⟩
    · rw [hdata]
    · rw [hdata]
      exact newFields_counts hfields
    · obtain ⟨fields', hfields'⟩ := newFields_answers hα 0 hsteps
      rw [hfields, Nat.zero_add] at hfields'
      cases hfields'
      rw [hdata]
      exact slotCount_eq_sum hcounts
    · intro slot hslot
      have hcontent := hallocated.contentOf_eq hslot
      refine ⟨hcontent, ?_⟩
      unfold DataSet.populated
      rw [hcontent, Content.populated_empty]
    · exact fun p hp => hallocated.view_eq hp
    · intro b hb
      obtain rfl := Option.some.inj (hallocated.buffer.symm.trans hb)
      have hplaces := hallocated.bijOn_place t.data.irSize.toNat
      rwa [show t.data.channels * t.data.irCount = (Buffer.silent (α := α) t.data.channels t.data.irCount
        t.data.irSize.toNat).rows.size from Array.size_replicate.symm] at hplaces

/-- Two fields with rows of different lengths, some of them empty. -/
def raggedLayouts : List (Layout ℚ) :=
  [{ distance := 1, evLimit := 45, evStart := 0, azCounts := [0, 3, 2] },
    { distance := 2, evLimit := 90, evStart := 0, azCounts := [1, 0] }]

/-- A session whose data set holds something already. -/
def occupiedSession : Session ℚ where
  data := { DataSet.fresh with
    stereo := true, irSize := 3, irCount := 7, fields := [⟨1, 45, 2, [⟨0, [⟨0, 5, 1⟩]⟩]⟩]
    contents := #[⟨[some ⟨0, 4⟩], [1]⟩] }

theorem allocate_numbered_ragged : (∀ l ∈ raggedLayouts, 2 ≤ l.azCounts.length) ∧
    (∀ l ∈ raggedLayouts, ∀ count ∈ l.azCounts, 0 ≤ count) ∧
    ∃ t, allocate raggedLayouts occupiedSession = .ok () t ∧ t.data.slots.map Slot.index = [0, 1, 2, 3, 4, 5] ∧
      Numbered raggedLayouts occupiedSession.data t.data := by
  have hrows : ∀ l ∈ raggedLayouts, 2 ≤ l.azCounts.length := by decide
  have hcounts : ∀ l ∈ raggedLayouts, ∀ count ∈ l.azCounts, 0 ≤ count := by decide
  refine ⟨hrows, hcounts, ?_⟩
  rcases allocate_numbered Exact.keepsNonzero hrows hcounts occupiedSession with
    ⟨-, t, ht, hnumbered⟩ | ⟨cause, t, hsize, -⟩
  · have hcount : t.data.irCount = 6 := by
      have htotal := hnumbered.total
      rw [show (raggedLayouts.map fun l => l.azCounts.sum).sum = 6 by decide] at htotal
      omega
    refine ⟨t, ht, ?_, hnumbered⟩
    rw [hnumbered.indices, hcount]
    rfl
  · cases hsize

end Grid

end HrirAtlas
