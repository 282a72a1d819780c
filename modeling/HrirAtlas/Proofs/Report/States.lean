import HrirAtlas.Proofs.Grid.Regular
import HrirAtlas.Proofs.Onset.Added
import HrirAtlas.Proofs.Report.Curves
import HrirAtlas.Proofs.Report.Table
import HrirAtlas.Proofs.Views.Contained

/-
Data sets that can be reported. What the report needs of a data set holds from the allocation of its
grid on: slots numbered without a gap, azimuths that go round in even steps, and a delay for each channel
in every content that a slot refers to. Loads, coverage, onsets and magnitudes keep it, however they end.
-/

namespace HrirAtlas

open Relation

namespace Report

variable {α : Type}

/-- The slots of a row go round in even steps. -/
def EvenlySpaced [Scalar α] (r : Row α) : Prop := r.slots.map Slot.azimuth = evenAzimuths r.slots.length

/-- What a report needs of a data set that came from another: slots numbered without a gap and evenly
spaced in their rows, and a delay for each channel wherever a slot refers to; as many slots and channels
as there were. -/
structure Reportable [Scalar α] (d₀ d : DataSet α) : Prop where
  irCount : d.irCount = d₀.irCount
  stereo : d.stereo = d₀.stereo
  indices : d.slots.map Slot.index = List.range d.irCount
  spaced : ∀ f ∈ d.fields, ∀ r ∈ f.rows, EvenlySpaced r
  contents : ∀ slot ∈ d.slots, slot.content < d.contents.size
  delays : ∀ place (h : place < d.contents.size), d.contents[place].delays.length = d.channels

section Reportable

variable [Scalar α] {d₀ d d' : DataSet α}

theorem Reportable.delayed (h : Reportable d₀ d) : Delayed d := by
  intro slot hslot
  have hlt := h.contents slot hslot
  unfold DataSet.contentOf
  rw [Array.getD_eq_getD_getElem?, Array.getElem?_eq_getElem hlt]
  exact h.delays slot.content hlt

/-! ## Allocation -/

theorem map_azimuth_newSlots (count next : Nat) :
    (Grid.newSlots (α := α) count next).map Slot.azimuth = evenAzimuths count := by
  unfold Grid.newSlots evenAzimuths
  rw [List.map_map]
  rfl

/-- Every row is allocated with its slots at even steps. -/
theorem newFields_spaced : ∀ {next : Nat} {layouts : List (Layout α)} {fields : List (Field α)} {total : Nat}
    {cause : Option ArithmeticFault}, Grid.newFields next layouts = (fields, total, cause) →
      ∀ f ∈ fields, ∀ r ∈ f.rows, EvenlySpaced r
  | next, [], fields, total, cause, h => by
    cases h
    exact nofun
  | next, l :: layouts, fields, total, cause, h => by
    rcases Grid.newFields_cons h with ⟨rfl, -, -⟩ | ⟨rows, last, later, hrows, hlater, rfl⟩
    · exact nofun
    rintro f (_ | ⟨_, hf⟩)
    · intro r hr
      obtain ⟨place, hplace⟩ := List.mem_iff_getElem?.1 hr
      obtain ⟨-, azimuths, -, first, hslots⟩ := (Grid.newRows_row hrows).2 place r hplace
      unfold EvenlySpaced
      rw [hslots, map_azimuth_newSlots, Grid.length_newSlots]
    · exact newFields_spaced hlater f hf

theorem reportable_of_allocate {layouts : List (Layout α)} {s s₀ : Session α} (h : Grid.allocate layouts s = .ok () s₀) :
    Reportable s₀.data s₀.data := by
  obtain ⟨hallocated, fields, contents, irCount, buffer, hfields, hdata⟩ := Grid.allocate_ok h
  refine ⟨rfl, rfl, hallocated.indices, ?_, ?_, ?_⟩
  · rw [hdata]
    exact newFields_spaced hfields
  · intro slot hslot
    rw [hallocated.contents, Array.size_replicate, hallocated.own slot hslot]
    exact hallocated.index_lt hslot
  · intro place hplace
    simp only [hallocated.contents, Array.getElem_replicate]
    exact List.length_replicate

/-! ## Changes -/

/-- A content may give way to one with as many delays. -/
theorem Reportable.setContent (h : Reportable d₀ d) {slot : Slot α} {content : Content α}
    (hdelays : content.delays.length = (d.contentOf slot).delays.length) :
    Reportable d₀ (d.setContent slot.content content) := by
  refine ⟨h.irCount, h.stereo, h.indices, h.spaced, fun other hother => ?_, fun place hplace => ?_⟩
  · have hlt := h.contents other hother
    unfold DataSet.setContent
    rwa [Array.size_setIfInBounds]
  · unfold DataSet.setContent at hplace ⊢
    rw [Array.size_setIfInBounds] at hplace
    simp only [Array.getElem_setIfInBounds hplace]
    split
    · rename_i hsame
      rw [hdelays]
      unfold DataSet.contentOf
      subst hsame
      rw [Array.getD_eq_getD_getElem?, Array.getElem?_eq_getElem hplace]
      exact h.delays _ hplace
    · exact h.delays place hplace

theorem spaced_mirrorRow {target source : Row α} (hlength : source.slots.length = target.slots.length) (h : EvenlySpaced target) :
    EvenlySpaced (Coverage.mirrorRow target source) := by
  have hmirror : (Coverage.mirrorRow target source).slots.map Slot.azimuth = target.slots.map Slot.azimuth := by
    unfold Coverage.mirrorRow
    refine List.ext_getElem (by simp [hlength]) fun i _ _ => ?_
    simp
  have hcount := congrArg List.length hmirror
  rw [List.length_map, List.length_map] at hcount
  unfold EvenlySpaced at h ⊢
  rw [hmirror, hcount, h]

/-- Coverage leaves slots evenly spaced. -/
theorem spaced_coverFields (d : DataSet α) (index : Nat) (fields : List (Field α)) :
    List.Forall₂ (fun f f' => (∀ r ∈ f.rows, EvenlySpaced r) → ∀ r ∈ f'.rows, EvenlySpaced r) fields
      (Coverage.coverFields d index fields).1 := by
  refine Coverage.coverFields_steps (R := fun rows rows' => (∀ r ∈ rows, EvenlySpaced r) → ∀ r ∈ rows', EvenlySpaced r)
    (fun _ h => h) (fun h h' hspaced => h' (h hspaced)) ?_ d index fields
  intro rows row target source htarget _ hlength hspaced r hr
  rcases List.mem_or_eq_of_mem_set hr with hr | rfl
  · exact hspaced r hr
  · exact spaced_mirrorRow hlength (hspaced target (List.mem_of_getElem? htarget))

theorem Reportable.cover (h : Reportable d₀ d) :
    Reportable d₀ { d with fields := (Coverage.coverFields d 0 d.fields).1 } := by
  have hshares := Views.shares_coverFields d 0 d.fields
  refine ⟨h.irCount, h.stereo, ?_, ?_, ?_, h.delays⟩
  · show ((Coverage.coverFields d 0 d.fields).1.flatMap Field.slots).map Slot.index = _
    rw [← Views.flatten_gridIndices, Views.gridIndices_of_shares hshares, Views.flatten_gridIndices]
    exact h.indices
  · intro f' hf'
    obtain ⟨f, hf, hspaced⟩ := Coverage.exists_of_forall₂ (spaced_coverFields d 0 d.fields) f' hf'
    exact hspaced (h.spaced f hf)
  · intro slot' hslot'
    obtain ⟨f', hf', hslot'⟩ := List.mem_flatMap.1 hslot'
    obtain ⟨r', hr', hslot'⟩ := List.mem_flatMap.1 hslot'
    obtain ⟨f, hf, hfield⟩ := Coverage.exists_of_forall₂ hshares f' hf'
    obtain ⟨r, hr, -, slot, hslot, hcontent⟩ := hfield.contents r' hr' slot' hslot'
    rw [hcontent]
    exact h.contents slot (List.mem_flatMap.2 ⟨f, hf, List.mem_flatMap.2 ⟨r, hr, hslot⟩⟩)

end Reportable

theorem Reportable.change [Signal α] {Retimes : DataSet α → Number α → Int → Prop} {d₀ : DataSet α} (d d' : DataSet α)
    (hchange : Views.Change Retimes d d') (h : Reportable d₀ d) : Reportable d₀ d' := by
  cases hchange with
  | deposit hdeposit =>
    cases hdeposit with
    | view => exact h.setContent rfl
    | delay => exact h.setContent List.length_set
    | samples | rate => exact ⟨h.irCount, h.stereo, h.indices, h.spaced, h.contents, h.delays⟩
  | cover => exact h.cover

end Report

end HrirAtlas
