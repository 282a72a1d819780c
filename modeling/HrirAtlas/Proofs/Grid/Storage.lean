import HrirAtlas.Grid.Allocate
import HrirAtlas.Grid.Locate
import HrirAtlas.Proofs.Stage
import HrirAtlas.Proofs.Tensor

/-
Storage of a grid. The rows of a buffer are told apart by channel and storage index, so writing one
leaves the others. An allocated grid gives out the storage indices from zero on without a gap, and
each slot refers to an empty content of its own; finding a slot for a position finds one of these.
-/

namespace HrirAtlas

/-! ## Rows of the buffer -/

namespace Buffer

variable {α : Type}

/-- The row belongs to the buffer. -/
def Holds (b : Buffer α) (ref : RowRef) : Prop := ref.channel < b.channels ∧ ref.index < b.slots

/-- The row at a place. -/
def refAt (slots place : Nat) : RowRef := ⟨place / slots, place % slots⟩

/-- The buffer with the given rows. -/
def ofRows (channels slots size : Nat) (row : RowRef → Array α) : Buffer α :=
  ⟨channels, slots, size, Array.ofFn fun place : Fin (channels * slots) => row (refAt slots place)⟩

variable {b : Buffer α} {ref other : RowRef}

theorem Holds.place_lt (h : b.Holds ref) : b.place ref < b.channels * b.slots := by
  unfold place
  calc ref.channel * b.slots + ref.index < ref.channel * b.slots + b.slots := Nat.add_lt_add_left h.2 _
    _ = (ref.channel + 1) * b.slots := (Nat.succ_mul _ _).symm
    _ ≤ b.channels * b.slots := Nat.mul_le_mul_right _ h.1

theorem Holds.refAt_place (h : b.Holds ref) : refAt b.slots (b.place ref) = ref := by
  unfold refAt place
  rw [Nat.mul_comm, Nat.mul_add_div (by have := h.2; omega), Nat.div_eq_of_lt h.2, Nat.mul_add_mod,
    Nat.mod_eq_of_lt h.2, Nat.add_zero]

theorem place_refAt (b : Buffer α) (place : Nat) : b.place (refAt b.slots place) = place := by
  show place / b.slots * b.slots + place % b.slots = place
  rw [Nat.mul_comm]
  exact Nat.div_add_mod place _

theorem holds_refAt {place : Nat} (h : place < b.channels * b.slots) : b.Holds (refAt b.slots place) := by
  have hslots : 0 < b.slots := Nat.pos_of_ne_zero fun h0 => by rw [h0, Nat.mul_zero] at h; omega
  exact ⟨Nat.div_lt_of_lt_mul (by rwa [Nat.mul_comm] at h), Nat.mod_lt _ hslots⟩

theorem Holds.place_inj (h : b.Holds ref) (ho : b.Holds other) (he : b.place ref = b.place other) : ref = other := by
  rw [← h.refAt_place, he, ho.refAt_place]

theorem view_natCast (h : b.Holds ref) : b.view ref.channel ref.index = .ok ref := by
  unfold view
  rw [wrapIndex?_natCast h.1]
  simp only
  rw [wrapIndex?_natCast h.2]

section OfRows

variable {channels slots size : Nat} {row : RowRef → Array α}

theorem getElem_ofRows {place : Nat} (h : place < (ofRows channels slots size row).rows.size) :
    (ofRows channels slots size row).rows[place] = row (refAt slots place) := by
  unfold ofRows at h ⊢
  exact Array.getElem_ofFn h

theorem size_ofRows : (ofRows channels slots size row).rows.size = channels * slots := Array.size_ofFn

theorem row_ofRows (h : (ofRows channels slots size row).Holds ref) :
    (ofRows channels slots size row).row ref = row ref := by
  have hlt : (ofRows channels slots size row).place ref < (ofRows channels slots size row).rows.size := by
    rw [size_ofRows]; exact h.place_lt
  unfold Buffer.row
  rw [Array.getD_eq_getD_getElem?, Array.getElem?_eq_getElem hlt, Option.getD_some, getElem_ofRows hlt]
  exact congrArg row h.refAt_place

theorem setRow_ofRows (h : (ofRows channels slots size row).Holds ref) (samples : Array α) :
    (ofRows channels slots size row).setRow ref samples =
    ofRows channels slots size (Function.update row ref samples) := by
  have hrows :
      (ofRows channels slots size row).rows.setIfInBounds ((ofRows channels slots size row).place ref) samples =
      (ofRows channels slots size (Function.update row ref samples)).rows := by
    refine Array.ext (by rw [Array.size_setIfInBounds, size_ofRows, size_ofRows]) fun i h1 h2 => ?_
    rw [Array.size_setIfInBounds] at h1
    rw [Array.getElem_setIfInBounds h1, getElem_ofRows h1, getElem_ofRows h2]
    by_cases he : (ofRows channels slots size row).place ref = i
    · have hr : refAt slots i = ref := by rw [← he]; exact h.refAt_place
      rw [if_pos he, hr, Function.update_self]
    · have hr : refAt slots i ≠ ref := by
        rintro rfl
        exact he (place_refAt (ofRows channels slots size row) i)
      rw [if_neg he, Function.update_of_ne hr]
  exact congrArg (fun rows => { ofRows channels slots size row with rows }) hrows

theorem ofRows_congr {row' : RowRef → Array α}
    (h : ∀ ref, ref.channel < channels → ref.index < slots → row ref = row' ref) :
    ofRows channels slots size row = ofRows channels slots size row' := by
  have hrows : (fun place : Fin (channels * slots) => row (refAt slots place)) =
      fun place : Fin (channels * slots) => row' (refAt slots place) := by
    funext place
    have hholds := holds_refAt (b := ofRows channels slots size row) place.2
    exact h _ hholds.1 hholds.2
  unfold ofRows
  rw [hrows]

theorem silent_eq [Scalar α] :
    silent (α := α) channels slots size = ofRows channels slots size fun _ => Array.replicate size 0.0 := by
  have hrows : Array.replicate (channels * slots) (Array.replicate size (0.0 : α)) =
      Array.ofFn fun _ : Fin (channels * slots) => Array.replicate size 0.0 :=
    Array.ext (by rw [Array.size_replicate, Array.size_ofFn]) fun i h1 h2 => by
      rw [Array.getElem_replicate, Array.getElem_ofFn]
  exact congrArg (Buffer.mk channels slots size) hrows

end OfRows

end Buffer

/-! ## Data sets from tables -/

theorem Content.populated_of_view {α : Type} {c : Content α} {ref : RowRef} (h : c.views[0]? = some (some ref)) :
    c.populated = true := by
  unfold populated
  cases hviews : c.views with
  | nil => rw [hviews] at h; cases h
  | cons first rest =>
    rw [hviews, List.getElem?_cons_zero] at h
    cases h
    rfl

namespace DataSet

variable {α : Type} {d : DataSet α} {content : Nat → Content α} {row : RowRef → Array α}

theorem channels_pos (d : DataSet α) : 0 < d.channels := by
  unfold channels; split <;> decide

theorem channels_le_two (d : DataSet α) : d.channels ≤ 2 := by
  unfold channels; split <;> decide

/-- All slots, in storage order. -/
def slots (d : DataSet α) : List (Slot α) := d.fields.flatMap Field.slots

/-- The data set with the given contents and rows. -/
def assembled (d : DataSet α) (content : Nat → Content α) (row : RowRef → Array α) : DataSet α :=
  { d with
    contents := Array.ofFn fun place : Fin d.irCount => content place
    buffer := some (Buffer.ofRows d.channels d.irCount d.irSize.toNat row) }

/-- Slots that share a content hold the same. -/
theorem contentOf_congr {slot other : Slot α} (h : slot.content = other.content) :
    d.contentOf slot = d.contentOf other := by
  unfold contentOf
  rw [h]

theorem contentOf_assembled {slot : Slot α} (h : slot.content < d.irCount) :
    (d.assembled content row).contentOf slot = content slot.content := by
  show (Array.ofFn fun place : Fin d.irCount => content place).getD slot.content ⟨[], []⟩ = _
  rw [Array.getD_eq_getD_getElem?, Array.getElem?_eq_getElem (by rw [Array.size_ofFn]; exact h), Option.getD_some,
    Array.getElem_ofFn]

theorem setContent_assembled (place : Nat) (c : Content α) :
    (d.assembled content row).setContent place c = d.assembled (Function.update content place c) row := by
  have hcontents : (Array.ofFn fun place : Fin d.irCount => content place).setIfInBounds place c =
      Array.ofFn fun i : Fin d.irCount => Function.update content place c i := by
    refine Array.ext (by rw [Array.size_setIfInBounds, Array.size_ofFn, Array.size_ofFn]) fun i h1 h2 => ?_
    rw [Array.size_setIfInBounds] at h1
    rw [Array.getElem_setIfInBounds h1, Array.getElem_ofFn, Array.getElem_ofFn]
    by_cases he : place = i
    · subst he
      rw [if_pos rfl, Function.update_self]
    · rw [if_neg he, Function.update_of_ne (Ne.symm he)]
  exact congrArg (fun contents => { d.assembled content row with contents }) hcontents

/-- A content is put back as it was. -/
theorem assembled_restored {place : Nat} :
    d.assembled (Function.update content place (content place)) row = d.assembled content row := by
  rw [Function.update_eq_self]

theorem view_assembled {channel index : Nat} (hc : channel < d.channels) (hi : index < d.irCount) :
    (d.assembled content row).view channel index = .ok ⟨channel, index⟩ :=
  have hholds : (Buffer.ofRows d.channels d.irCount d.irSize.toNat row).Holds ⟨channel, index⟩ := ⟨hc, hi⟩
  Buffer.view_natCast hholds

theorem row_assembled {ref : RowRef} (hc : ref.channel < d.channels) (hi : ref.index < d.irCount) :
    (d.assembled content row).row ref = row ref :=
  Buffer.row_ofRows ⟨hc, hi⟩

theorem setRow_assembled {ref : RowRef} (hc : ref.channel < d.channels) (hi : ref.index < d.irCount)
    (samples : Array α) :
    (d.assembled content row).setRow ref samples = d.assembled content (Function.update row ref samples) :=
  congrArg (fun b => { d.assembled content row with buffer := some b }) (Buffer.setRow_ofRows ⟨hc, hi⟩ samples)

theorem assembled_congr {content' : Nat → Content α} {row' : RowRef → Array α}
    (hcontent : ∀ place < d.irCount, content place = content' place)
    (hrow : ∀ ref : RowRef, ref.channel < d.channels → ref.index < d.irCount → row ref = row' ref) :
    d.assembled content row = d.assembled content' row' := by
  have hcontents : (fun place : Fin d.irCount => content place) = fun place : Fin d.irCount => content' place :=
    funext fun place => hcontent place place.2
  unfold assembled
  rw [hcontents, Buffer.ofRows_congr hrow]

/-- The measured slots have storage of their own, and each views its row for every channel. -/
structure Stored (d : DataSet α) (content : Nat → Content α) : Prop where
  nodup : (d.measuredSlots.map Slot.index).Nodup
  bound : ∀ slot ∈ d.measuredSlots, slot.index < d.irCount
  own : ∀ slot ∈ d.measuredSlots, slot.content = slot.index
  views : ∀ slot ∈ d.measuredSlots, ∀ channel < d.channels,
    (content slot.index).views[channel]? = some (some ⟨channel, slot.index⟩)

end DataSet

theorem Content.populated_empty {α : Type} [Scalar α] (channels : Nat) :
    (Content.empty channels : Content α).populated = false := by
  cases channels <;> rfl

namespace Grid

variable {α : Type} [Scalar α]

/-- The grid as it is allocated: storage indices without a gap, contents apart from one another and
empty, and a silent row for every channel and index. -/
structure Allocated (d : DataSet α) : Prop where
  indices : d.slots.map Slot.index = List.range d.irCount
  own : ∀ slot ∈ d.slots, slot.content = slot.index
  contents : d.contents = Array.replicate d.irCount (Content.empty d.channels)
  buffer : d.buffer = some (Buffer.silent d.channels d.irCount d.irSize.toNat)

theorem Allocated.index_lt {d : DataSet α} (h : Allocated d) {slot : Slot α} (hslot : slot ∈ d.slots) :
    slot.index < d.irCount := by
  have hmem := List.mem_map_of_mem (f := Slot.index) hslot
  rw [h.indices] at hmem
  exact List.mem_range.1 hmem

theorem Allocated.eq_of_index_eq {d : DataSet α} (h : Allocated d) {slot slot' : Slot α} (hslot : slot ∈ d.slots)
    (hslot' : slot' ∈ d.slots) (he : slot.index = slot'.index) : slot = slot' := by
  refine List.inj_on_of_nodup_map ?_ hslot hslot' he
  rw [h.indices]
  exact List.nodup_range

theorem Allocated.eq_assembled {d : DataSet α} (h : Allocated d) :
    d = d.assembled (fun _ => Content.empty d.channels) fun _ => Array.replicate d.irSize.toNat 0.0 := by
  have hcontents : d.contents = Array.ofFn fun _ : Fin d.irCount => Content.empty d.channels := by
    rw [h.contents]
    exact Array.ext (by rw [Array.size_replicate, Array.size_ofFn]) fun i h1 h2 => by
      rw [Array.getElem_replicate, Array.getElem_ofFn]
  have hbuffer := h.buffer
  rw [Buffer.silent_eq] at hbuffer
  calc d = { d with contents := d.contents, buffer := d.buffer } := rfl
    _ = { d with
          contents := Array.ofFn fun _ : Fin d.irCount => Content.empty d.channels
          buffer := some
            (Buffer.ofRows d.channels d.irCount d.irSize.toNat fun _ => Array.replicate d.irSize.toNat 0.0) } := by
        rw [← hcontents, ← hbuffer]

/-! ## Allocation -/

theorem range'_append_of_le {a b c : Nat} (hab : a ≤ b) (hbc : b ≤ c) :
    List.range' a (b - a) ++ List.range' b (c - b) = List.range' a (c - a) := by
  have h := List.range'_append_1 (s := a) (m := b - a) (n := c - b)
  rwa [show a + (b - a) = b by omega, show b - a + (c - b) = c - a by omega] at h

theorem newSlots_index (count next : Nat) :
    (newSlots (α := α) count next).map Slot.index = List.range' next count := by
  unfold newSlots
  rw [List.map_map, List.range'_eq_map_range]
  rfl

theorem length_newSlots (count next : Nat) : (newSlots (α := α) count next).length = count := by
  unfold newSlots
  rw [List.length_map, List.length_range]

theorem newSlots_own {count next : Nat} {slot : Slot α} (h : slot ∈ newSlots (α := α) count next) :
    slot.content = slot.index := by
  unfold newSlots at h
  obtain ⟨column, -, rfl⟩ := List.mem_map.1 h
  rfl

theorem newRows_slots {evLimit : α} {count : Nat} :
    ∀ {row next : Nat} {azCounts : List Int} {rows : List (Row α)} {last : Nat},
    newRows evLimit count row next azCounts = .ok (rows, last) →
      (next ≤ last ∧ (rows.flatMap Row.slots).map Slot.index = List.range' next (last - next)) ∧
        ∀ slot ∈ rows.flatMap Row.slots, slot.content = slot.index
  | row, next, [], rows, last, h => by
    cases h
    exact ⟨⟨le_rfl, by rw [Nat.sub_self]; rfl⟩, nofun⟩
  | row, next, azimuths :: azCounts, rows, last, h => by
    obtain ⟨elevation, -, h⟩ := except_bind_ok h
    obtain ⟨⟨rest, last'⟩, hrest, h⟩ := except_bind_ok h
    cases h
    obtain ⟨⟨hle, hindex⟩, hown⟩ := newRows_slots hrest
    refine ⟨⟨by omega, ?_⟩, fun slot hslot => ?_⟩
    · have happend := range'_append_of_le (show next ≤ next + azimuths.toNat by omega) hle
      rw [Nat.add_sub_cancel_left] at happend
      rw [List.flatMap_cons, List.map_append, hindex, newSlots_index]
      exact happend
    · rw [List.flatMap_cons, List.mem_append] at hslot
      rcases hslot with hslot | hslot
      · exact newSlots_own hslot
      · exact hown slot hslot

theorem newRows_length {evLimit : α} {count : Nat} :
    ∀ {row next : Nat} {azCounts : List Int} {rows : List (Row α)} {last : Nat},
    newRows evLimit count row next azCounts = .ok (rows, last) →
      rows.map (·.slots.length) = azCounts.map Int.toNat
  | row, next, [], rows, last, h => by cases h; rfl
  | row, next, azimuths :: azCounts, rows, last, h => by
    obtain ⟨elevation, -, h⟩ := except_bind_ok h
    obtain ⟨⟨rest, last'⟩, hrest, h⟩ := except_bind_ok h
    cases h
    rw [List.map_cons, List.map_cons, newRows_length hrest, length_newSlots]

/-- The first layout has no field, and ends the allocation, or its field comes before those of the others. -/
theorem newFields_cons {next total : Nat} {l : Layout α} {layouts : List (Layout α)} {fields : List (Field α)}
    {cause : Option ArithmeticFault} (h : newFields next (l :: layouts) = (fields, total, cause)) :
    (fields = [] ∧ total = next ∧ cause.isSome) ∨
      ∃ rows last later, newRows l.evLimit l.azCounts.length 0 next l.azCounts = .ok (rows, last) ∧
        newFields last layouts = (later, total, cause) ∧
        fields = { distance := l.distance, evLimit := l.evLimit, evStart := l.evStart, rows } :: later := by
  unfold newFields at h
  cases hrows : newRows l.evLimit l.azCounts.length 0 next l.azCounts with
  | error e =>
    rw [hrows] at h
    cases h
    exact .inl ⟨rfl, rfl, rfl⟩
  | ok answer =>
    obtain ⟨rows, last⟩ := answer
    rw [hrows] at h
    cases h
    exact .inr ⟨rows, last, _, rfl, rfl, rfl⟩

theorem newFields_slots : ∀ {next : Nat} {layouts : List (Layout α)} {fields : List (Field α)} {total : Nat}
    {cause : Option ArithmeticFault}, newFields next layouts = (fields, total, cause) →
      (next ≤ total ∧ (fields.flatMap Field.slots).map Slot.index = List.range' next (total - next)) ∧
        ∀ slot ∈ fields.flatMap Field.slots, slot.content = slot.index
  | next, [], fields, total, cause, h => by
    cases h
    exact ⟨⟨le_rfl, by rw [Nat.sub_self]; rfl⟩, nofun⟩
  | next, layout :: layouts, fields, total, cause, h => by
    rcases newFields_cons h with ⟨rfl, rfl, -⟩ | ⟨rows, last, later, hrows, hlater, rfl⟩
    · exact ⟨⟨le_rfl, by rw [Nat.sub_self]; rfl⟩, nofun⟩
    obtain ⟨⟨hle, hindex⟩, hown⟩ := newRows_slots hrows
    obtain ⟨⟨hle', hindex'⟩, hown'⟩ := newFields_slots hlater
    refine ⟨⟨by omega, ?_⟩, fun slot hslot => ?_⟩
    · -- the next field goes on where the rows of this one end
      rw [List.flatMap_cons, List.map_append, hindex']
      show (rows.flatMap Row.slots).map Slot.index ++ _ = _
      rw [hindex]
      exact range'_append_of_le hle hle'
    · rw [List.flatMap_cons, List.mem_append] at hslot
      rcases hslot with hslot | hslot
      · exact hown slot hslot
      · exact hown' slot hslot

/-- What the allocation leaves of a data set as it was. -/
theorem allocate_ok {layouts : List (Layout α)} {s t : Session α} (h : allocate layouts s = .ok () t) :
    Allocated t.data ∧ ∃ fields contents irCount buffer, newFields 0 layouts = (fields, irCount, none) ∧
      t.data = { s.data with fields, contents, irCount, buffer } := by
  unfold allocate at h
  rw [Stage.data_bind] at h
  obtain ⟨fields, count, cause, hfields⟩ : ∃ fields count cause, newFields 0 layouts = (fields, count, cause) :=
    ⟨_, _, _, rfl⟩
  obtain ⟨⟨-, hindex⟩, hown⟩ := newFields_slots hfields
  simp only [hfields] at h
  rw [Stage.setData_bind] at h
  cases cause with
  | some cause => cases h
  | none =>
    simp only [Stage.setData_bind] at h
    obtain ⟨_, u, hsize, h⟩ := Stage.bind_ok h
    obtain ⟨-, rfl⟩ := Stage.ofShape_ok hsize
    rw [Stage.setData_bind] at h
    cases h
    refine ⟨⟨?_, hown, rfl, rfl⟩, fields, _, count, _, hfields, rfl⟩
    rw [List.range_eq_range']
    exact hindex

/-- The survey only reports. -/
theorem survey_ok {positions : List (Spherical α)} {layouts : List (Layout α)} {s t : Session α}
    (h : survey positions s = .ok layouts t) : (Layout.detect positions).2 = .ok layouts ∧ t.data = s.data := by
  unfold survey at h
  rw [Stage.report_bind] at h
  simp only at h
  rw [Stage.reportAll_bind] at h
  obtain ⟨found, u, hfound, hreport⟩ := Stage.bind_ok h
  obtain ⟨hfound, hu⟩ := Stage.ofExcept_ok hfound
  rw [Stage.report_bind, hu] at hreport
  cases hreport
  exact ⟨hfound, rfl⟩

theorem survey_of_detect {positions : List (Spherical α)} {layouts : List (Layout α)}
    (h : (Layout.detect positions).2 = .ok layouts) (s : Session α) :
    ∃ t, survey positions s = .ok layouts t ∧ t.data = s.data := by
  unfold survey
  rw [Stage.report_bind]
  simp only [h]
  exact ⟨_, rfl, rfl⟩

/-! ## Finding slots -/

theorem slotInRow?_mem {row : Row α} {azimuth : α} {slot : Slot α} (h : slotInRow? row azimuth = .ok (some slot)) :
    slot ∈ row.slots := by
  unfold slotInRow? at h
  obtain ⟨spacing, -, h⟩ := except_bind_ok h
  obtain ⟨steps, -, h⟩ := except_bind_ok h
  obtain ⟨nearest, -, h⟩ := except_bind_ok h
  split at h
  · cases h
  · rename_i column
    cases hslot : row.slots[(column % row.slots.length).toNat]? with
    | none => rw [hslot] at h; cases h
    | some other =>
      rw [hslot] at h
      cases h
      exact List.mem_of_getElem? hslot

theorem slotAbove?_mem {f : Field α} {rowsAbove azimuth : α} {slot : Slot α}
    (h : slotAbove? f rowsAbove azimuth = .ok (some slot)) : slot ∈ f.slots := by
  unfold slotAbove? at h
  obtain ⟨row, -, h⟩ := except_bind_ok h
  split at h
  · cases h
  split at h
  · cases h
  simp only [pure, Except.pure] at h
  split at h
  · cases h
  · rename_i found hfound
    exact List.mem_flatMap.2 ⟨found, List.mem_of_getElem? hfound, slotInRow?_mem h⟩

/-- The slot found for a position is one of the fields'. -/
theorem resolve?_mem {d : DataSet α} {p : Spherical α} {slot : Slot α}
    (h : resolve? d.fields p = .ok (some slot)) : slot ∈ d.slots := by
  unfold resolve? at h
  split at h
  · cases h
  · rename_i f hf
    unfold findSlot? at h
    obtain ⟨step, -, h⟩ := except_bind_ok h
    obtain ⟨place, -, hplace⟩ := Option.bind_eq_some_iff.1 hf
    exact List.mem_flatMap.2 ⟨f, List.mem_of_getElem? hplace, slotAbove?_mem h⟩

end Grid

end HrirAtlas
