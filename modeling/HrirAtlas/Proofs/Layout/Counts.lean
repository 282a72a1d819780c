import HrirAtlas.Layout.Detect
import HrirAtlas.Proofs.Stage
import HrirAtlas.Proofs.Tensor

/-
The azimuth counts of a layout. Rows with consecutive indices write their counts one after another,
and the copies of the mirror rows below leave what was written.
-/

namespace HrirAtlas.Layout

variable {α : Type}

theorem writeCount_natCast {counts : List Int} {place : Nat} (h : place < counts.length) (count : Int) :
    (writeCount counts place count : Except (Fault α) (List Int)) = .ok (counts.set place count) := by
  unfold writeCount
  rw [wrapIndex?_natCast h]

theorem writeCount_ok {counts written : List Int} {place : Nat} {count : Int}
    (h : (writeCount counts place count : Except (Fault α) (List Int)) = .ok written) :
    written = counts.set place count := by
  unfold writeCount at h
  split at h
  · rename_i wrapped hwrapped
    rw [eq_of_wrapIndex?_natCast hwrapped]
    exact (Except.ok.inj h).symm
  · cases h

theorem length_writeRows [Scalar α] {evLimit step : α} : ∀ {rows : List (α × Nat)} {counts written : List Int},
    writeRows evLimit step rows counts = .ok written → written.length = counts.length
  | [], counts, written, h => by cases h; rfl
  | (elevation, azimuths) :: rows, counts, written, h => by
    obtain ⟨index, -, h⟩ := except_bind_ok h
    obtain ⟨next, hnext, h⟩ := except_bind_ok h
    rw [length_writeRows h]
    unfold writeCount at hnext
    split at hnext
    · cases hnext; exact List.length_set
    · cases hnext

/-- A row is written at an index inside the counts. -/
theorem index_lt_of_writeRows [Scalar α] {evLimit step : α} : ∀ {rows : List (α × Nat)} {counts written : List Int},
    writeRows evLimit step rows counts = .ok written →
    ∀ row ∈ rows, ∃ index, rowIndex evLimit step row.1 = .ok index ∧ index < counts.length
  | first :: rows, counts, written, h, row, hrow => by
    obtain ⟨index, hindex, h⟩ := except_bind_ok h
    obtain ⟨next, hnext, h⟩ := except_bind_ok h
    have hbounds : index < counts.length ∧ next.length = counts.length := by
      unfold writeCount at hnext
      split at hnext
      · rename_i place hplace
        cases hnext
        refine ⟨?_, List.length_set⟩
        unfold wrapIndex? at hplace
        grind
      · cases hnext
    rcases List.mem_cons.1 hrow with rfl | hrow
    · exact ⟨index, hindex, hbounds.1⟩
    · rw [← hbounds.2]
      exact index_lt_of_writeRows h row hrow

/-- Where no index counts from the end, a place holds the count of a row with that index, or what it
held before if no row has it. -/
theorem writeRows_place [Scalar α] {evLimit step : α} : ∀ {rows : List (α × Nat)} {counts written : List Int},
    writeRows evLimit step rows counts = .ok written →
    (∀ row ∈ rows, ∀ index, rowIndex evLimit step row.1 = .ok index → 0 ≤ index) → ∀ place : Nat,
    (∃ row ∈ rows, rowIndex evLimit step row.1 = .ok (place : Int) ∧ written[place]? = some (row.2 : Int)) ∨
      (∀ row ∈ rows, rowIndex evLimit step row.1 ≠ .ok (place : Int)) ∧ written[place]? = counts[place]?
  | [], counts, written, h, _, place => by
    cases h
    exact .inr ⟨nofun, rfl⟩
  | first :: rows, counts, written, h, hnonneg, place => by
    obtain ⟨other, hindex, hother⟩ := index_lt_of_writeRows h first List.mem_cons_self
    obtain ⟨own, rfl⟩ := Int.eq_ofNat_of_zero_le (hnonneg first List.mem_cons_self other hindex)
    obtain ⟨index, hindex', h⟩ := except_bind_ok h
    obtain rfl : (own : Int) = index := Except.ok.inj (hindex.symm.trans hindex')
    obtain ⟨next, hnext, hrest⟩ := except_bind_ok h
    rw [writeCount_ok hnext] at hrest
    rcases writeRows_place hrest (fun row hrow => hnonneg row (List.mem_cons_of_mem _ hrow)) place with
      ⟨row, hrow, hplace, hcount⟩ | ⟨hfree, hcount⟩
    · exact .inl ⟨row, List.mem_cons_of_mem _ hrow, hplace, hcount⟩
    · by_cases heq : own = place
      · subst heq
        refine .inl ⟨first, List.mem_cons_self, hindex, ?_⟩
        rw [hcount, List.getElem?_set_self (by omega)]
      · refine .inr ⟨fun row hrow => ?_, ?_⟩
        · rcases List.mem_cons.1 hrow with rfl | hrow
          · rw [hindex]
            exact fun hsame => heq (by exact_mod_cast Except.ok.inj hsame)
          · exact hfree row hrow
        · rw [hcount, List.getElem?_set_ne heq]

/-! ## Indices in reach -/

theorem writeCount_answers {counts : List Int} {index : Int}
    (h : -(counts.length : Int) ≤ index ∧ index < counts.length) (count : Int) :
    ∃ written, (writeCount counts index count : Except (Fault α) (List Int)) = .ok written ∧
      written.length = counts.length := by
  obtain ⟨place, hplace⟩ := exists_wrapIndex? h
  unfold writeCount
  rw [hplace]
  exact ⟨_, rfl, List.length_set⟩

theorem writeRows_answers [Scalar α] {evLimit step : α} : ∀ {rows : List (α × Nat)} {counts : List Int},
    (∀ row ∈ rows, ∃ index, rowIndex evLimit step row.1 = .ok index ∧
      -(counts.length : Int) ≤ index ∧ index < counts.length) →
    ∃ written, writeRows evLimit step rows counts = .ok written
  | [], counts, _ => ⟨counts, rfl⟩
  | (elevation, azimuths) :: rows, counts, h => by
    obtain ⟨index, hindex, hreach⟩ := h (elevation, azimuths) List.mem_cons_self
    obtain ⟨next, hnext, hlength⟩ := writeCount_answers (α := α) hreach azimuths
    unfold writeRows
    rw [hindex]
    show ∃ written, (do writeRows evLimit step rows (← writeCount counts index azimuths)) = .ok written
    rw [hnext]
    exact writeRows_answers fun row hrow => by
      rw [hlength]
      exact h row (List.mem_cons_of_mem _ hrow)

/-- A copy is taken from the row as far from the other end. -/
theorem mirrorCounts_succ {remaining row : Nat} {counts : List Int} {count : Int} (h : row < counts.length)
    (hcount : counts[counts.length - 1 - row]? = some count) :
    (mirrorCounts row (remaining + 1) counts : Except (Fault α) (List Int)) =
      mirrorCounts (row + 1) remaining (counts.set row count) := by
  have hfound : (wrapIndex? counts.length ((counts.length : Int) - row - 1)).bind (counts[·]?) = some count := by
    rw [show (counts.length : Int) - row - 1 = ((counts.length - 1 - row : Nat) : Int) by omega,
      wrapIndex?_natCast (by omega), Option.bind_some, hcount]
  conv_lhs => unfold mirrorCounts
  rw [hfound]
  show (writeCount counts row count >>= mirrorCounts (row + 1) remaining : Except (Fault α) (List Int)) = _
  rw [writeCount_natCast h]
  rfl

theorem mirrorCounts_answers : ∀ {remaining row : Nat} {counts : List Int}, row + remaining ≤ counts.length →
    ∃ final, (mirrorCounts row remaining counts : Except (Fault α) (List Int)) = .ok final
  | 0, row, counts, _ => ⟨counts, rfl⟩
  | remaining + 1, row, counts, h => by
    have hmirror : counts.length - 1 - row < counts.length := by omega
    rw [mirrorCounts_succ (by omega) (List.getElem?_eq_getElem hmirror)]
    exact mirrorCounts_answers (by rw [List.length_set]; omega)

/-! ## Rows and mirror rows -/

/-- The highest rows of a layout get the counts they were found with. -/
theorem writeRows_consecutive [Scalar α] {evLimit step : α} :
    ∀ (rows : List (α × Nat)) (first : Nat) (counts : List Int),
    first + rows.length = counts.length →
    (∀ i (h : i < rows.length), rowIndex evLimit step rows[i].1 = .ok ((first + i : Nat) : Int)) →
    writeRows evLimit step rows counts = .ok (counts.take first ++ rows.map fun row => (row.2 : Int))
  | [], first, counts, hlen, _ => by
    rw [List.map_nil, List.append_nil, List.take_of_length_le (by rw [List.length_nil] at hlen; omega)]
    rfl
  | (elevation, azimuths) :: rows, first, counts, hlen, hindex => by
    rw [List.length_cons] at hlen
    have hfirst : rowIndex evLimit step elevation = .ok ((first : Nat) : Int) :=
      hindex 0 (by rw [List.length_cons]; omega)
    -- the rows still to be written lie above, so what they keep includes the count written here
    have hindex' : ∀ i (h : i < rows.length), rowIndex evLimit step rows[i].1 = .ok ((first + 1 + i : Nat) : Int) :=
      fun i hi => by
        have := hindex (i + 1) (by rw [List.length_cons]; omega)
        rwa [List.getElem_cons_succ, show first + (i + 1) = first + 1 + i by omega] at this
    have ih := writeRows_consecutive rows (first + 1) (counts.set first azimuths)
      (by rw [List.length_set]; omega) hindex'
    unfold writeRows
    rw [hfirst]
    show (do writeRows evLimit step rows (← writeCount counts first azimuths)) = _
    rw [writeCount_natCast (by omega)]
    refine ih.trans ?_
    rw [List.take_succ_eq_append_getElem (by rw [List.length_set]; omega), List.getElem_set_self,
      List.take_set_of_le (by omega), List.append_assoc, List.singleton_append, List.map_cons]

/-- Copies of mirror rows touch the rows below the lowest measured one only. -/
theorem mirrorCounts_ok : ∀ {remaining row : Nat} {counts final : List Int},
    (mirrorCounts row remaining counts : Except (Fault α) (List Int)) = .ok final →
    final.length = counts.length ∧ final.drop (row + remaining) = counts.drop (row + remaining)
  | 0, row, counts, final, h => by
    cases h
    exact ⟨rfl, rfl⟩
  | remaining + 1, row, counts, final, h => by
    unfold mirrorCounts at h
    split at h
    · cases h
    obtain ⟨written, hwrite, h⟩ := except_bind_ok h
    obtain rfl := writeCount_ok hwrite
    obtain ⟨hlen, hdrop⟩ := mirrorCounts_ok h
    rw [Nat.add_right_comm] at hdrop
    rw [← Nat.add_assoc, hlen, hdrop, List.length_set, List.drop_set_of_lt (by omega)]
    exact ⟨rfl, rfl⟩

theorem mirrorCounts_before : ∀ {remaining row : Nat} {counts final : List Int},
    (mirrorCounts row remaining counts : Except (Fault α) (List Int)) = .ok final → ∀ place < row,
    final[place]? = counts[place]?
  | 0, row, counts, final, h, place, hplace => by
    cases h
    rfl
  | remaining + 1, row, counts, final, h, place, hplace => by
    unfold mirrorCounts at h
    split at h
    · cases h
    obtain ⟨written, hwrite, h⟩ := except_bind_ok h
    rw [mirrorCounts_before h place (by omega), writeCount_ok hwrite, List.getElem?_set_ne (by omega)]

/-- A copy in the lower half is that of the row as far from the top, as it was before. -/
theorem mirrorCounts_low : ∀ {remaining row : Nat} {counts final : List Int},
    (mirrorCounts row remaining counts : Except (Fault α) (List Int)) = .ok final → ∀ low : Nat, row ≤ low →
    low < row + remaining → 2 * low < counts.length → final[low]? = counts[counts.length - 1 - low]?
  | 0, row, counts, final, h, low, hrow, hlow, _ => by omega
  | remaining + 1, row, counts, final, h, low, hrow, hlow, hhalf => by
    unfold mirrorCounts at h
    split at h
    · cases h
    rename_i count hcount
    obtain ⟨written, hwrite, h⟩ := except_bind_ok h
    obtain rfl := writeCount_ok hwrite
    obtain ⟨place, hplace, hcount⟩ := Option.bind_eq_some_iff.1 hcount
    rw [show (counts.length : Int) - row - 1 = ((counts.length - 1 - row : Nat) : Int) by omega] at hplace
    rw [← eq_of_wrapIndex?_natCast hplace] at hcount
    rcases hrow.eq_or_lt with rfl | hlt
    · rw [mirrorCounts_before h row (Nat.lt_succ_self row), List.getElem?_set_self (by omega), hcount]
    · rw [mirrorCounts_low h low hlt (by omega) (by rwa [List.length_set]), List.length_set,
        List.getElem?_set_ne (by omega)]

end HrirAtlas.Layout
