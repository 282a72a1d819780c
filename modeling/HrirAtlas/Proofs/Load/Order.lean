import HrirAtlas.Proofs.Load.Renumber

/-
Loading does not depend on the order of the measurements. In another order a storage index is owned
by the same measurement under its other number, so the same rows and contents are stored; and owners
can be assigned in one order exactly when they can in the other.
-/

namespace HrirAtlas

/-- The second set has the measurements of the first in another order: its measurement `i` is the
measurement `σ i` of the first, with position, responses and delays. -/
structure MeasurementSet.Reordered {α : Type} (σ : Equiv.Perm Nat) (m m' : MeasurementSet α) : Prop where
  below : ∀ i, σ i < m.positions.length ↔ i < m.positions.length
  count : m'.positions.length = m.positions.length
  positions : ∀ i < m.positions.length, m'.positions[i]? = m.positions[σ i]?
  shape : m'.responses.shape = m.responses.shape
  responses : ∀ i < m.positions.length, ∀ receiver, m'.response i receiver = m.response (σ i) receiver
  delays : ∀ i < m.positions.length, ∀ receiver, m'.delay i receiver = m.delay (σ i) receiver
  rate : m'.sampleRate = m.sampleRate

namespace MeasurementSet

variable {α : Type} {σ : Equiv.Perm Nat} {m m' : MeasurementSet α}

theorem Reordered.below_symm (h : Reordered σ m m') (i : Nat) :
    σ.symm i < m.positions.length ↔ i < m.positions.length := by
  rw [← h.below, Equiv.apply_symm_apply]

theorem Reordered.symm (h : Reordered σ m m') : Reordered σ.symm m' m := by
  refine ⟨by rw [h.count]; exact h.below_symm, h.count.symm, fun i hi => ?_, h.shape.symm, fun i hi receiver => ?_,
    fun i hi receiver => ?_, h.rate.symm⟩
  · rw [h.count] at hi
    rw [h.positions _ ((h.below_symm i).2 hi), Equiv.apply_symm_apply]
  · rw [h.count] at hi
    rw [h.responses _ ((h.below_symm i).2 hi), Equiv.apply_symm_apply]
  · rw [h.count] at hi
    rw [h.delays _ ((h.below_symm i).2 hi), Equiv.apply_symm_apply]

theorem Reordered.perm_range (h : Reordered σ m m') :
    ((List.range m.positions.length).map σ).Perm (List.range m.positions.length) := by
  rw [List.perm_ext_iff_of_nodup (List.nodup_range.map σ.injective) List.nodup_range]
  intro i
  rw [List.mem_map, List.mem_range]
  constructor
  · rintro ⟨j, hj, rfl⟩
    exact (h.below j).2 (List.mem_range.1 hj)
  · intro hi
    exact ⟨σ.symm i, List.mem_range.2 ((h.below_symm i).2 hi), σ.apply_symm_apply i⟩

theorem map_getElem?_range {β : Type} (l : List β) : (List.range l.length).map (l[·]?) = l.map some := by
  refine List.ext_getElem (by simp) fun i h1 h2 => ?_
  rw [List.length_map] at h2
  rw [List.getElem_map, List.getElem_range, List.getElem_map, List.getElem?_eq_getElem h2]

/-- The positions of both are the same but for their order. -/
theorem Reordered.perm_positions (h : Reordered σ m m') : m.positions.Perm m'.positions := by
  have hsome : (m.positions.map some).Perm (m'.positions.map some) := by
    rw [← map_getElem?_range, ← map_getElem?_range, h.count]
    have hmap : (List.range m.positions.length).map (m'.positions[·]?) =
        ((List.range m.positions.length).map σ).map (m.positions[·]?) := by
      rw [List.map_map]
      exact List.map_congr_left fun i hi => h.positions i (List.mem_range.1 hi)
    rw [hmap]
    exact (h.perm_range.map _).symm
  exact (List.map_perm_map_iff (Option.some_injective _)).1 hsome

/-- The measurement `i` of the first set is the measurement `σ.symm i` of the second. -/
theorem Reordered.renumbered (h : Reordered σ m m') : Renumbered σ.symm m m' := by
  constructor
  · intro i hi
    rw [h.positions _ ((h.below_symm i).2 hi), Equiv.apply_symm_apply]
  · intro i hi receiver
    rw [h.responses _ ((h.below_symm i).2 hi), Equiv.apply_symm_apply]
  · intro i hi receiver
    rw [h.delays _ ((h.below_symm i).2 hi), Equiv.apply_symm_apply]

end MeasurementSet

namespace Load

variable {α : Type} [Signal α] {σ : Equiv.Perm Nat} {m m' : MeasurementSet α}

/-- In the other order every storage index has the same owner under its other number. -/
theorem Assigned.reorder (h : MeasurementSet.Reordered σ m m') {fields : List (Field α)} {owner : Nat → Option Nat}
    (ha : Assigned fields (sphericals m) (List.range m.positions.length) owner) :
    Assigned fields (sphericals m') (List.range m'.positions.length) fun index => (owner index).map σ.symm := by
  have hperm := h.symm.perm_range
  rw [h.count] at hperm ⊢
  exact (ha.renumber h.renumbered).of_mem_iff fun i => hperm.mem_iff.symm

/-- Where loading ends well in one order, it ends with the same session in the other. -/
theorem responses_reordered (h : MeasurementSet.Reordered σ m m') {receivers points : Nat} {d : DataSet α}
    (hm : Ready m receivers points d) (hm' : Ready m' receivers points d) {target : Setting α} {s t : Session α}
    (hs : s.data = d) (hok : responses m target s = .ok () t) : responses m' target s = .ok () t := by
  obtain ⟨r, u, owner, hconverter, hassigned, hfinish⟩ := (responses_ok_iff hm hs).1 hok
  refine (responses_ok_iff hm' hs).2 ⟨r, u, _, hconverter, hassigned.reorder h, ?_⟩
  rw [loaded_renumbered h.renumbered r d hassigned.owner_lt, h.count]
  exact hfinish

end Load

end HrirAtlas
