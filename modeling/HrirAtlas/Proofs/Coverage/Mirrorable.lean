import HrirAtlas.Proofs.Coverage

/-
Which grids coverage accepts, and what it makes of them. A field is mirrorable from its lowest row
with a response when no slot is empty from there upward and every row below has a full mirror row of
its own length. Coverage ends well exactly when every field is mirrorable. Then the slots below the
start share the contents of their mirror slots; else the first field that is not mirrorable is named
with what it lacks, the fields after it stay as they were, and so do the rows from the start of each
field upward.
-/

namespace HrirAtlas

/-- The slot in a column of a row. -/
def Field.slot? {α : Type} (f : Field α) (row column : Nat) : Option (Slot α) :=
  f.rows[row]?.bind fun r => r.slots[column]?

theorem Field.slot?_eq_some {α : Type} {f : Field α} {row column : Nat} {slot : Slot α} :
    f.slot? row column = some slot ↔ ∃ r, f.rows[row]? = some r ∧ r.slots[column]? = some slot := by
  unfold Field.slot?
  rw [Option.bind_eq_some_iff]

theorem Field.exists_slot? {α : Type} {f : Field α} {slot : Slot α} (h : slot ∈ f.rows.flatMap Row.slots) :
    ∃ row column, f.slot? row column = some slot := by
  obtain ⟨r, hr, hslot⟩ := List.mem_flatMap.1 h
  obtain ⟨row, hrow⟩ := List.mem_iff_getElem?.1 hr
  obtain ⟨column, hcolumn⟩ := List.mem_iff_getElem?.1 hslot
  exact ⟨row, column, Field.slot?_eq_some.2 ⟨r, hrow, hcolumn⟩⟩

namespace Coverage

variable {α : Type}

/-! ## Mirrorable fields -/

/-- The row is the lowest one of a field that holds a response. -/
structure Lowest (d : DataSet α) (f : Field α) (start : Nat) : Prop where
  held : ∃ column slot, f.slot? start column = some slot ∧ d.populated slot = true
  below : ∀ row < start, ∀ column slot, f.slot? row column = some slot → d.populated slot = false

/-- The row has a mirror row, as far from the top as it is from the bottom, that is not below the
start and has as many slots. -/
def HasMirror (rows : List (Row α)) (start row : Nat) : Prop :=
  ∃ target source, rows[row]? = some target ∧ start ≤ rows.length - 1 - row ∧
    rows[rows.length - 1 - row]? = some source ∧ source.slots.length = target.slots.length

/-- Every slot from the start upward holds a response. -/
def FullFrom (d : DataSet α) (f : Field α) (start : Nat) : Prop :=
  ∀ row, start ≤ row → ∀ column slot, f.slot? row column = some slot → d.populated slot = true

/-- The field is full from its lowest row with a response upward, and the rows below have mirror rows. -/
structure Mirrorable (d : DataSet α) (f : Field α) (start : Nat) : Prop where
  lowest : Lowest d f start
  full : FullFrom d f start
  mirrors : ∀ row < start, HasMirror f.rows start row

/-- What mirroring from a start makes of a field: the rows from there upward stay, and each slot below
has the content of the slot in the mirror row, at the column counted from the other end. -/
structure MirroredFrom (start : Nat) (f f' : Field α) : Prop where
  rest : f' = { f with evStart := start, rows := f'.rows }
  length : f'.rows.length = f.rows.length
  kept : ∀ row, start ≤ row → f'.rows[row]? = f.rows[row]?
  mirrored : ∀ row < start, ∃ r r', f.rows[row]? = some r ∧ f'.rows[row]? = some r' ∧ r'.elevation = r.elevation ∧
    r'.slots.length = r.slots.length ∧
    ∀ column slot, r.slots[column]? = some slot →
      ∃ source, f.slot? (f.rows.length - 1 - row) (r.slots.length - 1 - column) = some source ∧
        r'.slots[column]? = some { slot with content := source.content }

/-- What is wrong with a field that cannot be mirrored; of several empty slots or rows without a mirror
the first is named. -/
inductive Violation (d : DataSet α) (index : Nat) (f : Field α) : CoverageFault → Prop
  | emptyField (none : ∀ row column slot, f.slot? row column = some slot → d.populated slot = false) :
    Violation d index f (.emptyField index)
  | emptySlot {start row column : Nat} {slot : Slot α} (lowest : Lowest d f start) (above : start ≤ row)
    (here : f.slot? row column = some slot) (empty : d.populated slot = false)
    (first : ∀ row' column' slot', start ≤ row' → row' < row ∨ row' = row ∧ column' < column →
      f.slot? row' column' = some slot' → d.populated slot' = true) :
    Violation d index f (.emptySlot index row column)
  | noMirror {start row : Nat} (lowest : Lowest d f start) (full : FullFrom d f start) (below : row < start)
    (lacks : ¬ HasMirror f.rows start row) (first : ∀ row' < row, HasMirror f.rows start row') :
    Violation d index f (.noMirror index row (f.rows.length - 1 - row))

section Fields

variable {d : DataSet α} {index : Nat} {f f' : Field α}

theorem Lowest.unique {start start' : Nat} (h : Lowest d f start) (h' : Lowest d f start') : start = start' := by
  obtain ⟨column, slot, hslot, hheld⟩ := h.held
  obtain ⟨column', slot', hslot', hheld'⟩ := h'.held
  rcases Nat.lt_trichotomy start start' with hlt | heq | hgt
  · rw [h'.below start hlt column slot hslot] at hheld
    cases hheld
  · exact heq
  · rw [h.below start' hgt column' slot' hslot'] at hheld'
    cases hheld'

theorem Violation.not_mirrorable {fault : CoverageFault} (h : Violation d index f fault) (start : Nat) :
    ¬ Mirrorable d f start := by
  intro hm
  cases h with
  | emptyField none =>
    obtain ⟨column, slot, hslot, hheld⟩ := hm.lowest.held
    rw [none start column slot hslot] at hheld
    cases hheld
  | emptySlot lowest above here empty first =>
    obtain rfl := lowest.unique hm.lowest
    rw [hm.full _ above _ _ here] at empty
    cases empty
  | noMirror lowest full below lacks first =>
    obtain rfl := lowest.unique hm.lowest
    exact lacks (hm.mirrors _ below)

/-! ## The lowest row with a response -/

theorem lowest_of_lowestHeld? {start : Nat} (h : lowestHeld? d f.rows = some start) : Lowest d f start := by
  unfold lowestHeld? at h
  obtain ⟨hlt, hheld, hbelow⟩ := List.findIdx?_eq_some_iff_getElem.1 h
  constructor
  · obtain ⟨slot, hslot, hpopulated⟩ := List.any_eq_true.1 hheld
    obtain ⟨column, hcolumn⟩ := List.mem_iff_getElem?.1 hslot
    exact ⟨column, slot, Field.slot?_eq_some.2 ⟨_, List.getElem?_eq_getElem hlt, hcolumn⟩, hpopulated⟩
  · intro row hrow column slot hslot
    obtain ⟨r, hr, hslot⟩ := Field.slot?_eq_some.1 hslot
    obtain ⟨hlt', rfl⟩ := List.getElem?_eq_some_iff.1 hr
    have hnone := hbelow row hrow
    rw [Bool.not_eq_true, List.any_eq_false] at hnone
    simpa using hnone slot (List.mem_of_getElem? hslot)

theorem unheld_of_lowestHeld? (h : lowestHeld? d f.rows = none) (row column : Nat) (slot : Slot α)
    (hslot : f.slot? row column = some slot) : d.populated slot = false := by
  obtain ⟨r, hr, hslot⟩ := Field.slot?_eq_some.1 hslot
  unfold lowestHeld? at h
  have hnone := List.findIdx?_eq_none_iff.1 h r (List.mem_of_getElem? hr)
  rw [List.any_eq_false] at hnone
  simpa using hnone slot (List.mem_of_getElem? hslot)

/-! ## Empty slots -/

theorem fullFrom_of_emptySlot? {start : Nat} (h : emptySlot? d start (f.rows.drop start) = none) :
    FullFrom d f start := by
  intro row hrow column slot hslot
  obtain ⟨r, hr, hslot⟩ := Field.slot?_eq_some.1 hslot
  exact emptySlot?_none h r (mem_drop_of_getElem? hrow hr) slot (List.mem_of_getElem? hslot)

/-- The slot found is empty, and none before it is. -/
theorem emptySlot?_some : ∀ {start row column : Nat} {rows : List (Row α)},
    emptySlot? d start rows = some (row, column) → start ≤ row ∧
      (∃ r slot, rows[row - start]? = some r ∧ r.slots[column]? = some slot ∧ d.populated slot = false) ∧
      ∀ row' column' r' slot', start ≤ row' → row' < row ∨ row' = row ∧ column' < column →
        rows[row' - start]? = some r' → r'.slots[column']? = some slot' → d.populated slot' = true
  | start, row, column, [], h => by cases h
  | start, row, column, first :: rows, h => by
    unfold emptySlot? at h
    split at h
    · rename_i found hfound
      cases h
      obtain ⟨hlt, hempty, hbefore⟩ := List.findIdx?_eq_some_iff_getElem.1 hfound
      refine ⟨le_rfl, ⟨first, first.slots[column], ?_, List.getElem?_eq_getElem hlt, by simpa using hempty⟩, ?_⟩
      · rw [Nat.sub_self, List.getElem?_cons_zero]
      · rintro row' column' r' slot' hstart (hrow | ⟨rfl, hcolumn⟩) hr hslot
        · omega
        · rw [Nat.sub_self, List.getElem?_cons_zero] at hr
          cases hr
          obtain ⟨hlt', rfl⟩ := List.getElem?_eq_some_iff.1 hslot
          simpa using hbefore column' hcolumn
    · rename_i hnone
      obtain ⟨hle, ⟨r, slot, hr, hslot, hempty⟩, hbefore⟩ := emptySlot?_some h
      have hshift : ∀ row', start + 1 ≤ row' → row' - start = row' - (start + 1) + 1 := fun row' h => by omega
      refine ⟨by omega, ⟨r, slot, ?_, hslot, hempty⟩, fun row' column' r' slot' hstart hlt hr' hslot' => ?_⟩
      · rw [hshift row hle, List.getElem?_cons_succ, hr]
      · rcases Nat.eq_or_lt_of_le hstart with rfl | hstart
        · rw [Nat.sub_self, List.getElem?_cons_zero] at hr'
          cases hr'
          simpa using List.findIdx?_eq_none_iff.1 hnone slot' (List.mem_of_getElem? hslot')
        · rw [hshift row' hstart, List.getElem?_cons_succ] at hr'
          exact hbefore row' column' r' slot' hstart hlt hr' hslot'

theorem violation_of_emptySlot? {start row column : Nat} (hlowest : Lowest d f start)
    (h : emptySlot? d start (f.rows.drop start) = some (row, column)) :
    Violation d index f (.emptySlot index row column) := by
  obtain ⟨hle, ⟨r, slot, hr, hslot, hempty⟩, hbefore⟩ := emptySlot?_some h
  have hdrop : ∀ row', start ≤ row' → (f.rows.drop start)[row' - start]? = f.rows[row']? := fun row' h => by
    rw [List.getElem?_drop, Nat.add_sub_cancel' h]
  rw [hdrop row hle] at hr
  refine .emptySlot hlowest hle (Field.slot?_eq_some.2 ⟨r, hr, hslot⟩) hempty ?_
  intro row' column' slot' hstart hlt hslot'
  obtain ⟨r', hr', hslot'⟩ := Field.slot?_eq_some.1 hslot'
  exact hbefore row' column' r' slot' hstart hlt (by rw [hdrop row' hstart, hr']) hslot'

end Fields

/-! ## Mirrored rows -/

section Rows

variable {field start : Nat}

/-- Rows written below the start leave the others their mirror rows. -/
theorem hasMirror_set {rows : List (Row α)} {row other : Nat} {r : Row α} (hrow : row < start) (hne : other ≠ row) :
    HasMirror (rows.set row r) start other ↔ HasMirror rows start other := by
  unfold HasMirror
  rw [List.length_set, List.getElem?_set_ne hne.symm]
  by_cases hle : start ≤ rows.length - 1 - other
  · rw [List.getElem?_set_ne (by omega)]
  · constructor
    · rintro ⟨_, _, _, h, _⟩
      exact absurd h hle
    · rintro ⟨_, _, _, h, _⟩
      exact absurd h hle

/-- Mirroring that stops names the first row without a mirror, and has not touched a row from the
start upward. -/
theorem mirrorRows_some : ∀ {remaining row : Nat} {rows rows' : List (Row α)} {fault : CoverageFault},
    row + remaining = start → mirrorRows field start rows row remaining = (rows', some fault) →
    (∀ i, start ≤ i → rows'[i]? = rows[i]?) ∧
      ∃ i, row ≤ i ∧ i < start ∧ fault = .noMirror field i (rows.length - 1 - i) ∧ ¬ HasMirror rows start i ∧
        ∀ j, row ≤ j → j < i → HasMirror rows start j
  | 0, row, rows, rows', fault, hrow, h => by cases h
  | remaining + 1, row, rows, rows', fault, hrow, h => by
    have hstop : ¬ HasMirror rows start row → rows' = rows → fault = .noMirror field row (rows.length - 1 - row) →
        (∀ i, start ≤ i → rows'[i]? = rows[i]?) ∧
          ∃ i, row ≤ i ∧ i < start ∧ fault = .noMirror field i (rows.length - 1 - i) ∧ ¬ HasMirror rows start i ∧
            ∀ j, row ≤ j → j < i → HasMirror rows start j := by
      rintro hlacks rfl rfl
      exact ⟨fun _ _ => rfl, row, le_rfl, by omega, rfl, hlacks, fun j h1 h2 => by omega⟩
    unfold mirrorRows at h
    simp only at h
    split at h
    · rename_i target source htarget hsource
      split at h
      · rename_i hbad
        cases h
        refine hstop ?_ rfl rfl
        rintro ⟨target', source', htarget', hle, hsource', hlength⟩
        rw [htarget] at htarget'
        rw [hsource] at hsource'
        cases htarget'
        cases hsource'
        rcases hbad with hbad | hbad
        · omega
        · exact hbad hlength
      · rename_i hgood
        rw [not_or, not_lt, not_not] at hgood
        obtain ⟨hkept, i, hi, hlt, hfault, hlacks, hfirst⟩ := mirrorRows_some (by omega) h
        rw [List.length_set] at hfault
        rw [hasMirror_set (by omega) (by omega)] at hlacks
        refine ⟨fun j hj => ?_, i, by omega, hlt, hfault, hlacks, fun j h1 h2 => ?_⟩
        · rw [hkept j hj, List.getElem?_set_ne (by omega)]
        · rcases Nat.eq_or_lt_of_le h1 with rfl | h1
          · exact ⟨target, source, htarget, hgood.1, hsource, hgood.2⟩
          · exact (hasMirror_set (by omega) (by omega)).1 (hfirst j h1 h2)
    · rename_i hmissing
      cases h
      refine hstop ?_ rfl rfl
      rintro ⟨target, source, htarget, -, hsource, -⟩
      exact hmissing target source htarget hsource

/-- A mirrored row read column by column. -/
theorem mirrorRow_getElem? {target source : Row α} (hlength : source.slots.length = target.slots.length)
    {column : Nat} {slot : Slot α} (h : target.slots[column]? = some slot) :
    ∃ other, source.slots[target.slots.length - 1 - column]? = some other ∧
      (mirrorRow target source).slots[column]? = some { slot with content := other.content } := by
  obtain ⟨hlt, rfl⟩ := List.getElem?_eq_some_iff.1 h
  have hsource : target.slots.length - 1 - column < source.slots.length := by omega
  refine ⟨_, List.getElem?_eq_getElem hsource, ?_⟩
  unfold mirrorRow
  rw [List.getElem?_zipWith, List.getElem?_eq_getElem hlt, List.getElem?_reverse (by omega), hlength,
    List.getElem?_eq_getElem hsource]

theorem Mirrored.mirroredFrom {f : Field α} {rows : List (Row α)} (h : Mirrored start 0 f.rows rows) :
    MirroredFrom start f { f with evStart := start, rows } := by
  refine ⟨rfl, h.length, fun row hrow => h.same row (.inr hrow), fun row hrow => ?_⟩
  obtain ⟨target, source, htarget, -, hsource, hlength, hmirror⟩ := h.mirror row (Nat.zero_le _) hrow
  refine ⟨target, mirrorRow target source, htarget, hmirror, rfl, ?_, fun column slot hslot => ?_⟩
  · unfold mirrorRow
    rw [List.length_zipWith, List.length_reverse, hlength, Nat.min_self]
  · obtain ⟨other, hother, hread⟩ := mirrorRow_getElem? hlength hslot
    exact ⟨other, Field.slot?_eq_some.2 ⟨source, hsource, hother⟩, hread⟩

end Rows

/-! ## Fields -/

/-- The field was mirrorable, and has been mirrored from its lowest row with a response. -/
def CoveredFrom (d : DataSet α) (f f' : Field α) : Prop := ∃ start, Mirrorable d f start ∧ MirroredFrom start f f'

/-- The rows from the lowest one with a response upward are as they were. -/
def KeptAbove (d : DataSet α) (f f' : Field α) : Prop :=
  ∀ start, Lowest d f start → ∀ row, start ≤ row → f'.rows[row]? = f.rows[row]?

section Fields

variable {d : DataSet α} {index : Nat} {f f' : Field α}

theorem coveredFrom_of_coverField (h : coverField d index f = (f', none)) : CoveredFrom d f f' := by
  unfold coverField at h
  split at h
  · cases h
  · rename_i start hstart
    simp only at h
    split at h
    · cases h
    · rename_i hfull
      obtain ⟨rows, cause, hmirror⟩ : ∃ rows cause, mirrorRows index start f.rows 0 start = (rows, cause) := ⟨_, _, rfl⟩
      rw [hmirror] at h
      cases h
      have hm := mirrorRows_ok (by omega) hmirror
      refine ⟨start, ⟨lowest_of_lowestHeld? hstart, fullFrom_of_emptySlot? hfull, fun row hrow => ?_⟩,
        hm.mirroredFrom⟩
      obtain ⟨target, source, htarget, hle, hsource, hlength, -⟩ := hm.mirror row (Nat.zero_le _) hrow
      exact ⟨target, source, htarget, hle, hsource, hlength⟩

theorem mirrorable_of_coveredFrom : ∀ {fields fields' : List (Field α)},
    List.Forall₂ (CoveredFrom d) fields fields' → ∀ f ∈ fields, ∃ start, Mirrorable d f start
  | [], [], .nil, f, hf => absurd hf List.not_mem_nil
  | g :: fields, g' :: fields', .cons ⟨start, hmirrorable, _⟩ hrest, f, hf => by
    rcases List.mem_cons.1 hf with rfl | hf
    · exact ⟨start, hmirrorable⟩
    · exact mirrorable_of_coveredFrom hrest f hf

/-- Two coverages that leave the same fields started each field at the same row. -/
theorem same_start_of_coveredFrom {d' : DataSet α} : ∀ {fields fields' : List (Field α)},
    List.Forall₂ (CoveredFrom d) fields fields' → List.Forall₂ (CoveredFrom d') fields fields' →
    ∀ f ∈ fields, ∃ start, Mirrorable d f start ∧ Mirrorable d' f start
  | [], [], .nil, .nil, f, hf => absurd hf List.not_mem_nil
  | g :: fields, g' :: fields', .cons ⟨start, hm, hfrom⟩ hrest, .cons ⟨start', hm', hfrom'⟩ hrest', f, hf => by
    rcases List.mem_cons.1 hf with rfl | hf
    · have hstart : (start : Int) = start' := by
        calc (start : Int) = g'.evStart := by rw [hfrom.rest]
          _ = start' := by rw [hfrom'.rest]
      obtain rfl := Int.ofNat.inj hstart
      exact ⟨start, hm, hm'⟩
    · exact same_start_of_coveredFrom hrest hrest' f hf

theorem violation_of_coverField {fault : CoverageFault} (h : coverField d index f = (f', some fault)) :
    Violation d index f fault ∧ KeptAbove d f f' := by
  unfold coverField at h
  split at h
  · rename_i hnone
    cases h
    exact ⟨.emptyField (unheld_of_lowestHeld? hnone), fun _ _ _ _ => rfl⟩
  · rename_i start hstart
    have hlowest := lowest_of_lowestHeld? hstart
    simp only at h
    split at h
    · rename_i row column hempty
      cases h
      exact ⟨violation_of_emptySlot? hlowest hempty, fun _ _ _ _ => rfl⟩
    · rename_i hfull
      obtain ⟨rows, cause, hmirror⟩ : ∃ rows cause, mirrorRows index start f.rows 0 start = (rows, cause) := ⟨_, _, rfl⟩
      rw [hmirror] at h
      cases h
      obtain ⟨hkept, row, -, hrow, rfl, hlacks, hfirst⟩ := mirrorRows_some (by omega) hmirror
      refine ⟨.noMirror hlowest (fullFrom_of_emptySlot? hfull) hrow hlacks fun j hj => hfirst j (Nat.zero_le _) hj, ?_⟩
      intro start' hstart' row hle
      obtain rfl := hlowest.unique hstart'
      exact hkept row hle

end Fields

section Check

variable [Scalar α] {d : DataSet α}

theorem coveredFrom_of_coverFields : ∀ {index : Nat} {fields fields' : List (Field α)} {entries : Journal},
    coverFields d index fields = (fields', entries, none) → List.Forall₂ (CoveredFrom d) fields fields'
  | index, [], fields', entries, h => by cases h; exact .nil
  | index, f :: fields, fields', entries, h => by
    unfold coverFields at h
    split at h
    · cases h
    · rename_i covered hcovered
      obtain ⟨later, rest, cause, hlater⟩ :
        ∃ later rest cause, coverFields d (index + 1) fields = (later, rest, cause) :=
        ⟨_, _, _, rfl⟩
      rw [hlater] at h
      cases h
      exact .cons (coveredFrom_of_coverField hcovered) (coveredFrom_of_coverFields hlater)

/-- Coverage that stops has covered the fields before the violating one, and left those after it. -/
theorem violation_of_coverFields : ∀ {index : Nat} {fields fields' : List (Field α)} {entries : Journal}
    {fault : CoverageFault}, coverFields d index fields = (fields', entries, some fault) →
    ∃ before f after before' f', fields = before ++ f :: after ∧ fields' = before' ++ f' :: after ∧
      List.Forall₂ (CoveredFrom d) before before' ∧ Violation d (index + before.length) f fault ∧ KeptAbove d f f'
  | index, [], fields', entries, fault, h => by cases h
  | index, f :: fields, fields', entries, fault, h => by
    unfold coverFields at h
    split at h
    · rename_i covered cause hcovered
      cases h
      obtain ⟨hviolation, hkept⟩ := violation_of_coverField hcovered
      exact ⟨[], f, fields, [], covered, rfl, rfl, .nil, hviolation, hkept⟩
    · rename_i covered hcovered
      obtain ⟨later, rest, cause, hlater⟩ :
        ∃ later rest cause, coverFields d (index + 1) fields = (later, rest, cause) :=
        ⟨_, _, _, rfl⟩
      rw [hlater] at h
      cases h
      obtain ⟨before, g, after, before', g', hfields, hfields', hbefore, hviolation, hkept⟩ :=
        violation_of_coverFields hlater
      refine ⟨f :: before, g, after, covered :: before', g', by rw [hfields]; rfl, by rw [hfields']; rfl,
        .cons (coveredFrom_of_coverField hcovered) hbefore, ?_, hkept⟩
      rw [List.length_cons, Nat.add_comm before.length, ← Nat.add_assoc]
      exact hviolation

/-! ## The data set -/

/-- Every field is covered, every slot holds a response, and nothing else has changed. -/
structure CoveredData (d d' : DataSet α) : Prop where
  rest : d' = { d with fields := d'.fields }
  fields : List.Forall₂ (CoveredFrom d) d.fields d'.fields
  populated : ∀ slot ∈ d'.slots, d'.populated slot = true

/-- The fields before the first that is not mirrorable are covered, that one keeps its rows from the
start upward, and nothing after it or beside the fields has changed. -/
structure StoppedData (d d' : DataSet α) (fault : CoverageFault) : Prop where
  rest : d' = { d with fields := d'.fields }
  fields : ∃ before f after before' f', d.fields = before ++ f :: after ∧ d'.fields = before' ++ f' :: after ∧
    List.Forall₂ (CoveredFrom d) before before' ∧ Violation d before.length f fault ∧ KeptAbove d f f'

/-- A check covers the fields one after another, and stops if one of them stops. -/
theorem check_run {s : Session α} {fields : List (Field α)} {entries : Journal} {fault : Option CoverageFault}
    (h : coverFields s.data 0 s.data.fields = (fields, entries, fault)) :
    check s = match fault with
      | none => .ok () { s with data := { s.data with fields }, journal := s.journal ++ entries }
      | some fault =>
        .error (.coverage fault) { s with data := { s.data with fields }, journal := s.journal ++ entries } := by
  unfold check
  rw [Stage.data_bind]
  simp only [h]
  rw [Stage.setData_bind, Stage.reportAll_bind]
  cases fault <;> rfl

theorem check_covered {s t : Session α} (h : check s = .ok () t) : CoveredData s.data t.data := by
  obtain ⟨-, -, hmeasured, hshared⟩ := check_ok h
  obtain ⟨fields, entries, fault, hcover⟩ :
    ∃ fields entries fault, coverFields s.data 0 s.data.fields = (fields, entries, fault) :=
    ⟨_, _, _, rfl⟩
  rw [check_run hcover] at h
  cases fault with
  | some fault => cases h
  | none =>
    cases h
    refine ⟨rfl, coveredFrom_of_coverFields hcover, fun slot hslot => ?_⟩
    obtain ⟨other, hother, hcontent⟩ := hshared slot hslot
    rw [← hmeasured other hother]
    exact congrArg (fun place => (s.data.contents.getD place ⟨[], []⟩).populated) hcontent

theorem check_stopped {s t : Session α} {cause : Fault α} (h : check s = .error cause t) :
    ∃ fault, cause = .coverage fault ∧ StoppedData s.data t.data fault := by
  obtain ⟨fields, entries, fault, hcover⟩ :
    ∃ fields entries fault, coverFields s.data 0 s.data.fields = (fields, entries, fault) :=
    ⟨_, _, _, rfl⟩
  rw [check_run hcover] at h
  cases fault with
  | none => cases h
  | some fault =>
    cases h
    obtain ⟨before, f, after, before', f', hfields, hfields', hbefore, hviolation, hkept⟩ :=
      violation_of_coverFields hcover
    rw [Nat.zero_add] at hviolation
    exact ⟨fault, rfl, rfl, before, f, after, before', f', hfields, hfields', hbefore, hviolation, hkept⟩

/-- Coverage ends well exactly on a grid whose every field is mirrorable, and mirrors it; else it
names what the first field that is not mirrorable lacks. -/
theorem check_outcome (s : Session α) :
    ((∃ t, check s = .ok () t) ↔ ∀ f ∈ s.data.fields, ∃ start, Mirrorable s.data f start) ∧
    (∀ t, check s = .ok () t → CoveredData s.data t.data) ∧
    ∀ cause t, check s = .error cause t → ∃ fault, cause = .coverage fault ∧ StoppedData s.data t.data fault := by
  refine ⟨⟨?_, fun hmirrorable => ?_⟩, fun t => check_covered, fun cause t => check_stopped⟩
  · rintro ⟨t, h⟩ f hf
    exact mirrorable_of_coveredFrom (check_covered h).fields f hf
  · cases h : check s with
    | ok b t => exact ⟨t, rfl⟩
    | error cause t =>
      obtain ⟨fault, -, -, before, f, after, before', f', hfields, -, -, hviolation, -⟩ := check_stopped h
      obtain ⟨start, hstart⟩ := hmirrorable f (by rw [hfields]; exact List.mem_append_right _ List.mem_cons_self)
      exact absurd hstart (hviolation.not_mirrorable start)

end Check

end Coverage

end HrirAtlas
