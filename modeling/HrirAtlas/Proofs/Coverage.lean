import HrirAtlas.Coverage
import HrirAtlas.Proofs.Grid.Storage

/-
What coverage leaves. In a covered field the rows from its start upward are as they were, and full;
each slot below them shares the content of a slot among them. So the measured slots are slots of the
grid before, in storage order, and no slot is empty.
-/

namespace HrirAtlas.Coverage

variable {α : Type}

/-! ## Mirrored rows -/

/-- What mirroring the rows from `row` up to `evStart` made of the rows. -/
structure Mirrored (evStart row : Nat) (rows rows' : List (Row α)) : Prop where
  length : rows'.length = rows.length
  same : ∀ i, i < row ∨ evStart ≤ i → rows'[i]? = rows[i]?
  mirror : ∀ i, row ≤ i → i < evStart → ∃ target source, rows[i]? = some target ∧ evStart ≤ rows.length - 1 - i ∧
    rows[rows.length - 1 - i]? = some source ∧ source.slots.length = target.slots.length ∧
    rows'[i]? = some (mirrorRow target source)

theorem mirrorRows_ok {field evStart : Nat} : ∀ {remaining row : Nat} {rows rows' : List (Row α)},
    row + remaining = evStart → mirrorRows field evStart rows row remaining = (rows', none) →
    Mirrored evStart row rows rows'
  | 0, row, rows, rows', hrow, h => by
    cases h
    exact ⟨rfl, fun _ _ => rfl, fun i h1 h2 => by omega⟩
  | remaining + 1, row, rows, rows', hrow, h => by
    unfold mirrorRows at h
    simp only at h
    split at h
    · rename_i target source htarget hsource
      split at h
      · cases h
      · rename_i hgood
        rw [not_or, not_lt, not_not] at hgood
        -- sources lie at the start or above, so the row written here is the source of no later one
        have ih := mirrorRows_ok (by omega) h
        have hlen : (rows.set row (mirrorRow target source)).length = rows.length := List.length_set
        have hrowlt := (List.getElem?_eq_some_iff.1 htarget).choose
        refine ⟨ih.length.trans hlen, fun i hi => ?_, fun i h1 h2 => ?_⟩
        · rw [ih.same i (by omega), List.getElem?_set_ne (by omega)]
        · rcases Nat.eq_or_lt_of_le h1 with he | hlt
          · subst he
            refine ⟨target, source, htarget, hgood.1, hsource, hgood.2, ?_⟩
            rw [ih.same row (by omega), List.getElem?_set_self hrowlt]
          · obtain ⟨t, s, ht, hle, hs, heq, hmirror⟩ := ih.mirror i (by omega) h2
            rw [hlen] at hle hs
            rw [List.getElem?_set_ne (by omega)] at ht hs
            exact ⟨t, s, ht, hle, hs, heq, hmirror⟩
    · cases h

/-- A mirrored slot shares the content of a slot of the source row. -/
theorem content_of_mem_mirrorRow {target source : Row α} {slot : Slot α}
    (h : slot ∈ (mirrorRow target source).slots) :
    ∃ other ∈ source.slots, slot.content = other.content := by
  unfold mirrorRow at h
  rw [List.mem_iff_getElem] at h
  obtain ⟨i, hi, rfl⟩ := h
  rw [List.length_zipWith] at hi
  refine ⟨source.slots.reverse[i], List.mem_reverse.1 (List.getElem_mem _), ?_⟩
  rw [List.getElem_zipWith]

theorem mem_drop_of_getElem? {β : Type} {xs : List β} {x : β} {i n : Nat} (hle : n ≤ i) (h : xs[i]? = some x) :
    x ∈ xs.drop n := by
  refine List.mem_of_getElem? (i := i - n) ?_
  rwa [List.getElem?_drop, Nat.add_sub_cancel' hle]

section Mirrored

variable {evStart : Nat} {rows rows' : List (Row α)}

theorem Mirrored.drop_eq (h : Mirrored evStart 0 rows rows') : rows'.drop evStart = rows.drop evStart :=
  List.ext_getElem? fun i => by rw [List.getElem?_drop, List.getElem?_drop, h.same _ (.inr (by omega))]

/-- Each slot shares the content of a slot of a row that was not mirrored. -/
theorem Mirrored.shared (h : Mirrored evStart 0 rows rows') {r : Row α} (hr : r ∈ rows') {slot : Slot α}
    (hslot : slot ∈ r.slots) :
    ∃ source ∈ rows.drop evStart, ∃ other ∈ source.slots, slot.content = other.content := by
  obtain ⟨i, hi⟩ := List.mem_iff_getElem?.1 hr
  by_cases hlow : i < evStart
  · obtain ⟨target, source, -, hle, hsource, -, hmirrored⟩ := h.mirror i (Nat.zero_le _) hlow
    rw [hi] at hmirrored
    obtain rfl := Option.some.inj hmirrored
    exact ⟨source, mem_drop_of_getElem? hle hsource, content_of_mem_mirrorRow hslot⟩
  · have hsame := h.same i (.inr (by omega))
    exact ⟨r, mem_drop_of_getElem? (by omega) (hsame.symm.trans hi), slot, hslot, rfl⟩

end Mirrored

/-! ## Fields -/

theorem emptySlot?_none {d : DataSet α} : ∀ {row : Nat} {rows : List (Row α)}, emptySlot? d row rows = none →
    ∀ r ∈ rows, ∀ slot ∈ r.slots, d.populated slot = true
  | row, [], _, r, hr, _, _ => absurd hr List.not_mem_nil
  | row, first :: rows, h, r, hr, slot, hslot => by
    unfold emptySlot? at h
    split at h
    · cases h
    · rename_i hnone
      rcases List.mem_cons.1 hr with rfl | hr
      · have := List.findIdx?_eq_none_iff.1 hnone slot hslot
        simpa using this
      · exact emptySlot?_none h r hr slot hslot

/-- What coverage makes of a field: from the start upward its rows are as they were, and each slot
below shares the content of one of theirs. -/
structure Covered (d : DataSet α) (f f' : Field α) : Prop where
  measured : ∃ rows, f'.measuredRows = rows ∧ rows.Sublist f.rows ∧ rows ≠ []
  full : ∀ slot ∈ f'.measuredRows.flatMap Row.slots, d.populated slot = true
  shared : ∀ slot ∈ f'.slots, ∃ other ∈ f'.measuredRows.flatMap Row.slots, slot.content = other.content

theorem coverField_ok {d : DataSet α} {index : Nat} {f f' : Field α} (h : coverField d index f = (f', none)) :
    Covered d f f' := by
  unfold coverField at h
  split at h
  · cases h
  · rename_i evStart hstart
    have hlt : evStart < f.rows.length := by
      unfold lowestHeld? at hstart
      exact (List.findIdx?_eq_some_iff_getElem.1 hstart).choose
    simp only at h
    split at h
    · cases h
    · rename_i hfull
      obtain ⟨rows, cause, hmirror⟩ : ∃ rows cause, mirrorRows index evStart f.rows 0 evStart = (rows, cause) :=
        ⟨_, _, rfl⟩
      rw [hmirror] at h
      cases h
      have hm := mirrorRows_ok (by omega) hmirror
      have hmeasured : ({ f with evStart := evStart, rows } : Field α).measuredRows = f.rows.drop evStart := by
        unfold Field.measuredRows
        simp only [clampIndex_natCast, hm.length]
        rw [Nat.min_eq_left hlt.le, hm.drop_eq]
      refine ⟨⟨_, hmeasured, List.drop_sublist _ _, ?_⟩, ?_, fun slot hslot => ?_⟩
      · exact List.ne_nil_of_length_pos (by rw [List.length_drop]; omega)
      · -- the check for empty slots only looked at the rows that mirroring left as they were
        rw [hmeasured]
        intro slot hslot
        obtain ⟨r, hr, hslot⟩ := List.mem_flatMap.1 hslot
        exact emptySlot?_none hfull r hr slot hslot
      · rw [hmeasured]
        obtain ⟨r, hr, hslot⟩ := List.mem_flatMap.1 hslot
        obtain ⟨source, hsource, other, hother, hcontent⟩ := hm.shared hr hslot
        exact ⟨other, List.mem_flatMap.2 ⟨source, hsource, hother⟩, hcontent⟩

/-- What stands on the right of a relation of lists has its counterpart on the left. -/
theorem exists_of_forall₂ {β γ : Type} {R : β → γ → Prop} {l : List β} {l' : List γ} (h : List.Forall₂ R l l') :
    ∀ y ∈ l', ∃ x ∈ l, R x y := by
  induction h with
  | nil => nofun
  | cons hfirst _ ih =>
    intro y hy
    rcases List.mem_cons.1 hy with rfl | hy
    · exact ⟨_, List.mem_cons_self, hfirst⟩
    · obtain ⟨x, hx, hxy⟩ := ih y hy
      exact ⟨x, List.mem_cons_of_mem _ hx, hxy⟩

theorem measuredSlots_sublist {d : DataSet α} : ∀ {fields fields' : List (Field α)},
    List.Forall₂ (Covered d) fields fields' →
    (fields'.flatMap fun f => f.measuredRows.flatMap Row.slots).Sublist (fields.flatMap Field.slots)
  | [], [], .nil => List.Sublist.refl _
  | f :: fields, f' :: fields', .cons h hrest => by
    obtain ⟨rows, hrows, hsub, -⟩ := h.measured
    rw [List.flatMap_cons, List.flatMap_cons, hrows]
    exact (hsub.flatMap _).append (measuredSlots_sublist hrest)

theorem covered_full {d : DataSet α} {fields fields' : List (Field α)} (h : List.Forall₂ (Covered d) fields fields') :
    ∀ slot ∈ fields'.flatMap fun f => f.measuredRows.flatMap Row.slots, d.populated slot = true := by
  intro slot hslot
  obtain ⟨f', hf', hslot⟩ := List.mem_flatMap.1 hslot
  obtain ⟨f, -, hcovered⟩ := exists_of_forall₂ h f' hf'
  exact hcovered.full slot hslot

theorem covered_shared {d : DataSet α} {fields fields' : List (Field α)}
    (h : List.Forall₂ (Covered d) fields fields') :
    ∀ slot ∈ fields'.flatMap Field.slots, ∃ other ∈ fields'.flatMap fun f => f.measuredRows.flatMap Row.slots,
      slot.content = other.content := by
  intro slot hslot
  obtain ⟨f', hf', hslot⟩ := List.mem_flatMap.1 hslot
  obtain ⟨f, -, hcovered⟩ := exists_of_forall₂ h f' hf'
  obtain ⟨other, hother, hcontent⟩ := hcovered.shared slot hslot
  exact ⟨other, List.mem_flatMap.2 ⟨f', hf', hother⟩, hcontent⟩

/-! ## The data set -/

variable [Scalar α]

theorem coverFields_ok {d : DataSet α} : ∀ {index : Nat} {fields fields' : List (Field α)} {entries : Journal},
    coverFields d index fields = (fields', entries, none) → List.Forall₂ (Covered d) fields fields'
  | index, [], fields', entries, h => by cases h; exact .nil
  | index, f :: fields, fields', entries, h => by
    unfold coverFields at h
    split at h
    · cases h
    · rename_i covered hcovered
      obtain ⟨later, rest, cause, hlater⟩ :
        ∃ later rest cause, coverFields d (index + 1) fields = (later, rest, cause) :=
        ⟨_, _, _, rfl⟩
      rw [hlater] at h
      cases h
      exact .cons (coverField_ok hcovered) (coverFields_ok hlater)

/-- What a check that ends well leaves: the grid with other fields, whose measured slots were slots
before and are full, and whose every slot shares the content of a measured one. -/
theorem check_ok {s t : Session α} (h : check s = .ok () t) : (∃ fields, t.data = { s.data with fields }) ∧
    t.data.measuredSlots.Sublist s.data.slots ∧ (∀ slot ∈ t.data.measuredSlots, s.data.populated slot = true) ∧
    ∀ slot ∈ t.data.slots, ∃ other ∈ t.data.measuredSlots, slot.content = other.content := by
  unfold check at h
  rw [Stage.data_bind] at h
  obtain ⟨fields, entries, cause, hcover⟩ :
    ∃ fields entries cause, coverFields s.data 0 s.data.fields = (fields, entries, cause) :=
    ⟨_, _, _, rfl⟩
  simp only [hcover] at h
  rw [Stage.setData_bind, Stage.reportAll_bind] at h
  cases cause with
  | some cause => cases h
  | none =>
    cases h
    have hcovered := coverFields_ok hcover
    exact ⟨⟨fields, rfl⟩, measuredSlots_sublist hcovered, covered_full hcovered, covered_shared hcovered⟩

/-! ## Whatever the ending -/

section Steps

variable {R : List (Row α) → List (Row α) → Prop} (hrefl : ∀ rows, R rows rows)
  (htrans : ∀ {rows rows' rows''}, R rows rows' → R rows' rows'' → R rows rows'')
  (hset : ∀ {rows : List (Row α)} {row : Nat} {target source : Row α}, rows[row]? = some target → source ∈ rows →
    source.slots.length = target.slots.length → R rows (rows.set row (mirrorRow target source)))

include hrefl htrans hset

omit [Scalar α] in
/-- What holds whenever a row gives way to its mirror image holds of the rows that are mirrored, even if a
later one cannot be. -/
theorem mirrorRows_steps {field evStart : Nat} : ∀ (remaining : Nat) {row : Nat} {rows : List (Row α)},
    R rows (mirrorRows field evStart rows row remaining).1
  | 0, row, rows => hrefl rows
  | remaining + 1, row, rows => by
    unfold mirrorRows
    dsimp only
    split
    · rename_i target source htarget hsource
      split
      · exact hrefl rows
      · rename_i hgood
        rw [not_or, not_not] at hgood
        exact htrans (hset htarget (List.mem_of_getElem? hsource) hgood.2) (mirrorRows_steps remaining)
    · exact hrefl rows

omit [Scalar α] in
theorem coverField_steps (d : DataSet α) (index : Nat) (f : Field α) : R f.rows (coverField d index f).1.rows := by
  unfold coverField
  split
  · exact hrefl _
  · dsimp only
    split
    · exact hrefl _
    · exact mirrorRows_steps hrefl htrans hset _

theorem coverFields_steps (d : DataSet α) : ∀ (index : Nat) (fields : List (Field α)),
    List.Forall₂ (fun f f' => R f.rows f'.rows) fields (coverFields d index fields).1
  | index, [] => .nil
  | index, f :: rest => by
    unfold coverFields
    have hfirst := coverField_steps hrefl htrans hset d index f
    split
    · rename_i covered cause hcovered
      rw [hcovered] at hfirst
      exact .cons hfirst (List.forall₂_same.2 fun f _ => hrefl _)
    · rename_i covered hcovered
      rw [hcovered] at hfirst
      exact .cons hfirst (coverFields_steps d (index + 1) rest)

end Steps

end HrirAtlas.Coverage
