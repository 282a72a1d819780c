import HrirAtlas.Proofs.Load.Responses

/-
The numbers of the measurements do not matter to loading. If the measurements of a set are found in
another under other numbers, what they store does not change; owners that are assigned for the one
are assigned, under their other numbers, for the other.
-/

namespace HrirAtlas

/-- The second set has the measurement `i` of the first as its measurement `f i`. -/
structure MeasurementSet.Renumbered {α : Type} (f : Nat → Nat) (m m' : MeasurementSet α) : Prop where
  positions : ∀ i < m.positions.length, m'.positions[f i]? = m.positions[i]?
  responses : ∀ i < m.positions.length, ∀ receiver, m'.response (f i) receiver = m.response i receiver
  delays : ∀ i < m.positions.length, ∀ receiver, m'.delay (f i) receiver = m.delay i receiver

namespace MeasurementSet

variable {α : Type} {f : Nat → Nat} {m m' : MeasurementSet α}

theorem Renumbered.samples_eq (h : Renumbered f m m') {i : Nat} (hi : i < m.positions.length) (receiver : Nat) :
    m'.samples (f i) receiver = m.samples i receiver := by
  unfold samples
  rw [h.responses i hi]

theorem Renumbered.measuredDelay_eq [Scalar α] (h : Renumbered f m m') {i : Nat} (hi : i < m.positions.length)
    (receiver : Nat) : m'.measuredDelay (f i) receiver = m.measuredDelay i receiver := by
  unfold measuredDelay
  rw [h.delays i hi]

end MeasurementSet

namespace Load

variable {α : Type} [Signal α] {f : Nat → Nat} {m m' : MeasurementSet α} {fields : List (Field α)}
  {owner : Nat → Option Nat}

theorem sphericals_renumbered (h : MeasurementSet.Renumbered f m m') {i : Nat} (hi : i < m.positions.length) :
    (sphericals m')[f i]? = (sphericals m)[i]? := by
  unfold sphericals
  rw [List.getElem?_map, List.getElem?_map, h.positions i hi]

/-- Who owns what says nothing of the order in which the measurements were placed. -/
theorem Assigned.of_mem_iff {positions : List (Spherical α)} {placed placed' : List Nat}
    (ha : Assigned fields positions placed owner) (h : ∀ i, i ∈ placed' ↔ i ∈ placed) :
    Assigned fields positions placed' owner := by
  constructor
  · intro i hi
    exact ha.found i ((h i).1 hi)
  · intro index i hi
    obtain ⟨hplaced, hslot⟩ := ha.owned index i hi
    exact ⟨(h i).2 hplaced, hslot⟩

theorem Assigned.renumber (h : MeasurementSet.Renumbered f m m')
    (ha : Assigned fields (sphericals m) (List.range m.positions.length) owner) :
    Assigned fields (sphericals m') ((List.range m.positions.length).map f) fun index => (owner index).map f := by
  constructor
  · intro k hk
    obtain ⟨i, hi, rfl⟩ := List.mem_map.1 hk
    obtain ⟨p, slot?, hp, hr, hown⟩ := ha.found i hi
    refine ⟨p, slot?, ?_, hr, fun slot hslot => ?_⟩
    · rw [sphericals_renumbered h (List.mem_range.1 hi), hp]
    · rw [hown slot hslot, Option.map_some]
  · intro index k hk
    obtain ⟨i, hi, rfl⟩ := Option.map_eq_some_iff.1 hk
    obtain ⟨hplaced, p, slot, hp, hr, hindex⟩ := ha.owned index i hi
    refine ⟨List.mem_map_of_mem hplaced, p, slot, ?_, hr, hindex⟩
    rw [sphericals_renumbered h (List.mem_range.1 hplaced), hp]

/-- The owners store the same under their other numbers. -/
theorem loaded_renumbered (h : MeasurementSet.Renumbered f m m') (r : Option (Resampler α)) (d : DataSet α)
    (hbelow : ∀ index i, owner index = some i → i < m.positions.length) :
    loaded m' r d (fun index => (owner index).map f) = loaded m r d owner := by
  refine DataSet.assembled_congr (fun place _ => ?_) fun ref _ _ => ?_
  · cases ho : owner place with
    | none => rw [ownedContent_none ho, ownedContent_none (by simp only [ho, Option.map_none])]
    | some i =>
      have ho' : (owner place).map f = some (f i) := by rw [ho, Option.map_some]
      rw [ownedContent_some ho, ownedContent_some ho']
      unfold storedContent storedDelay
      simp only [h.measuredDelay_eq (hbelow place i ho)]
  · cases ho : owner ref.index with
    | none => rw [ownedRow_none ho, ownedRow_none (by simp only [ho, Option.map_none])]
    | some i =>
      have ho' : (owner ref.index).map f = some (f i) := by rw [ho, Option.map_some]
      rw [ownedRow_some ho, ownedRow_some ho']
      unfold storedRow
      rw [h.samples_eq (hbelow _ i ho)]

theorem Assigned.owner_lt {positions : List (Spherical α)} {count : Nat}
    (ha : Assigned fields positions (List.range count) owner) (index i : Nat) (h : owner index = some i) : i < count :=
  List.mem_range.1 (ha.owned index i h).1

end Load

end HrirAtlas
