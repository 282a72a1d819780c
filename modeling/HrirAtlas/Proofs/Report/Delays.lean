import HrirAtlas.Proofs.Report.States

/-
The report of delays as a whole. Whatever was done to a data set since its grid was allocated, the report
has one row for each slot and channel, in storage order, and the table and the plot show them all. Once
coverage is checked and onsets are added, a mirrored row has the delay of the row that it mirrors.
-/

namespace HrirAtlas.Report

open Relation

variable {α : Type}

/-- The rows of the report cover the grid of a data set exactly once, in storage order, and so do the
table and the plots; the azimuths of a curve ascend. -/
structure Complete [Scalar α] (R : α → α → Prop) (d : DataSet α) (rows : List (DelayRow α)) : Prop where
  report : delayRows d = .ok rows
  length : rows.length = d.irCount * d.channels
  indices : d.slots.map Slot.index = List.range d.irCount
  placed : ∀ (field row column channel : Nat) f r slot, d.fields[field]? = some f → f.rows[row]? = some r →
    r.slots[column]? = some slot → channel < d.channels → ∃ delay, (d.contentOf slot).delays[channel]? = some delay ∧
      rows[slot.index * d.channels + channel]? = some
        { field, row, column, channel, elevation := r.elevation, azimuth := slot.azimuth, delay,
          mirrored := decide (row < f.evStart) }
  ordered : rows.Pairwise DelayRow.Before
  lines : ∃ text, table d = .ok text ∧
    text.toList.splitOn '\n' = (tableHead :: rows.map tableLine).map String.toList ++ [[]]
  curves : ∀ (field channel : Nat) f title, d.fields[field]? = some f → channel < d.channels →
    plot d field channel title = .ok { title, curves := f.rows.map (rowCurve d channel) } ∧
      ∀ r ∈ f.rows, (rowCurve d channel r).azimuths.Pairwise R

/-- Every mirrored row has the delay of its source: as far from the top row as it is from the lowest, and
as far from the last column as it is from the first. -/
def Mirrors (d : DataSet α) (rows : List (DelayRow α)) : Prop :=
  ∀ x ∈ rows, x.mirrored = true → ∃ f r y, d.fields[x.field]? = some f ∧ f.rows[x.row]? = some r ∧ y ∈ rows ∧
    y.field = x.field ∧ y.row = f.rows.length - 1 - x.row ∧ y.column = r.slots.length - 1 - x.column ∧
    y.channel = x.channel ∧ y.delay = x.delay

section Complete

variable [Scalar α] {R : α → α → Prop} {d₀ d : DataSet α}

theorem Reportable.length_slots (h : Reportable d₀ d) : d.slots.length = d.irCount := by
  have hlength := congrArg List.length h.indices
  rwa [List.length_map, List.length_range] at hlength

theorem Reportable.length_row_le (h : Reportable d₀ d) {f : Field α} (hf : f ∈ d.fields) {r : Row α} (hr : r ∈ f.rows) :
    r.slots.length ≤ d₀.irCount := by
  rw [← h.irCount, ← h.length_slots]
  have hrow : r.slots.Sublist f.slots := List.sublist_flatten_of_mem (List.mem_map_of_mem hr)
  have hfield : f.slots.Sublist d.slots := List.sublist_flatten_of_mem (List.mem_map_of_mem hf)
  exact (hrow.trans hfield).length_le

/-- The report of a data set that has what it needs is complete. -/
theorem Reportable.complete (h : Reportable d₀ d) (hR : ∀ count ≤ d₀.irCount, Ascending R count) :
    Complete R d ((cells d).flatMap (Cell.delayRows · d)) := by
  have hrows := delayRows_eq h.delayed
  constructor
  case report => exact hrows
  case length =>
    rw [length_flatMap_blocks length_delayRows, ← List.length_map (f := Cell.slot), map_slot_cells, h.length_slots]
  case indices => exact h.indices
  case placed =>
    intro field row column channel f r slot hf hr hslot hchannel
    have hmem : slot ∈ d.slots := List.mem_flatMap.2 ⟨f, List.mem_of_getElem? hf, List.mem_flatMap.2
      ⟨r, List.mem_of_getElem? hr, List.mem_of_getElem? hslot⟩⟩
    have hdelay : channel < (d.contentOf slot).delays.length := by
      rw [h.delayed slot hmem]
      exact hchannel
    let c : Cell α := { field, row, column, elevation := r.elevation, mirrored := decide (row < f.evStart), slot }
    have hc : c ∈ cells d := mem_cells.2 ⟨f, r, hf, hr, hslot, rfl, rfl⟩
    refine ⟨_, List.getElem?_eq_getElem hdelay, ?_⟩
    rw [show slot.index = c.slot.index from rfl, getElem?_delayRows h.indices hc hchannel]
    unfold Cell.delayRow
    rw [List.getD_eq_getElem?_getD, List.getElem?_eq_getElem hdelay]
    rfl
  case ordered => exact pairwise_delayRows d
  case lines => exact table_lines hrows
  case curves =>
    intro field channel f title hf hchannel
    refine ⟨plot_eq h.delayed hf hchannel title, fun r hr => ?_⟩
    have hfield := List.mem_of_getElem? hf
    unfold rowCurve
    dsimp only
    rw [h.spaced f hfield r hr]
    exact pairwise_evenAzimuths (hR _ (h.length_row_le hfield hr))

end Complete

section Mirrors

variable [Signal α] {d : DataSet α}

omit [Signal α] in
theorem sourced_congr {d' : DataSet α} (hfields : d'.fields = d.fields) (h : Onset.Sourced d) : Onset.Sourced d' := by
  obtain ⟨hshared, hmirrored⟩ := h
  have hmeasured : d'.measuredSlots = d.measuredSlots := by
    unfold DataSet.measuredSlots
    rw [hfields]
  constructor
  · rw [hmeasured]
    unfold DataSet.slots at hshared ⊢
    rwa [hfields]
  · rw [hmeasured, hfields]
    exact hmirrored

/-- Where mirrored slots refer to the contents of their sources, they have their delays. -/
theorem mirrors_of_sourced (h : Onset.Sourced d) : Mirrors d ((cells d).flatMap (Cell.delayRows · d)) := by
  intro x hx hmirrored
  obtain ⟨c, hc, hx⟩ := List.mem_flatMap.1 hx
  obtain ⟨channel, hchannel, rfl⟩ := List.mem_map.1 hx
  obtain ⟨f, r, hf, hr, hslot, -, hstart⟩ := mem_cells.1 hc
  have hlow : (c.row : Int) < f.evStart := of_decide_eq_true (hstart.symm.trans hmirrored)
  obtain ⟨r', source, hr', hsource, -, hcontent⟩ := h.mirrored f (List.mem_of_getElem? hf) c.row c.column c.slot hlow
    (Field.slot?_eq_some.2 ⟨r, hr, hslot⟩)
  obtain rfl : r = r' := Option.some.inj (hr.symm.trans hr')
  obtain ⟨mirror, hmirror, hplace⟩ := Field.slot?_eq_some.1 hsource
  let c' : Cell α :=
    { field := c.field, row := f.rows.length - 1 - c.row, column := r.slots.length - 1 - c.column
      elevation := mirror.elevation, mirrored := decide (((f.rows.length - 1 - c.row : Nat) : Int) < f.evStart), slot := source }
  have hc' : c' ∈ cells d := mem_cells.2 ⟨f, mirror, hf, hmirror, hplace, rfl, rfl⟩
  refine ⟨f, r, c'.delayRow d channel, hf, hr, ?_, rfl, rfl, rfl, rfl, ?_⟩
  · exact List.mem_flatMap.2 ⟨c', hc', List.mem_map_of_mem hchannel⟩
  · unfold Cell.delayRow
    dsimp only
    rw [DataSet.contentOf_congr hcontent]

end Mirrors

/-! ## Every data set -/

section Operations

open Views Views.Operation

variable [Signal α] {R : α → α → Prop} {s s₀ : Session α} {layouts : List (Layout α)} {operations : List (Operation α)}

theorem reportable_of_chain {d : DataSet α} (h : Grid.allocate layouts s = .ok () s₀)
    (hchain : ReflTransGen (Change AnyRate) s₀.data d) : Reportable s₀.data d :=
  Stage.kept_of_chain Reportable.change hchain (reportable_of_allocate h)

/-- The report covers the grid once, in storage order, for any list of layouts and any number of channels,
and whatever was done since the grid was allocated; after a coverage that was accepted and the onsets,
mirrored rows have the delays of their sources. -/
theorem report_complete (h : Grid.allocate layouts s = .ok () s₀) (hload : ∀ operation ∈ operations, operation.Loadable)
    (hR : ∀ count ≤ s₀.data.irCount, Ascending R count) :
    (∃ rows, Complete R (runAll operations s₀).data rows) ∧
      ∀ c t, Coverage.check (runAll operations s₀) = .ok () c → Onset.addAll c = .ok () t →
        ∃ rows, Complete R t.data rows ∧ Mirrors t.data rows := by
  have hchain := changes_of_runAll hload s₀
  refine ⟨⟨_, (reportable_of_chain h hchain).complete hR⟩, fun c t hcheck honsets => ?_⟩
  have hcovered : ReflTransGen (Change AnyRate) (runAll operations s₀).data c.data := (follows_check _).of_ok hcheck
  have hadded : ReflTransGen (Deposit AnyRate) c.data t.data := (follows_addAll c).of_ok honsets
  have hall := (hchain.trans hcovered).trans (ReflTransGen.mono (fun _ _ => .deposit) _ _ hadded)
  refine ⟨_, (reportable_of_chain h hall).complete hR, mirrors_of_sourced (sourced_congr ?_ (Onset.sourced_of_check hcheck))⟩
  -- onsets leave the grid, and with it the contents that its slots refer to
  exact Stage.kept_of_chain (P := fun d => d.fields = c.data.fields) (fun d d' hd hfields => hd.fields.trans hfields) hadded rfl

/-- The upper half of a small sphere is loaded, mirrored and timed; the report has its rows and a mirrored
one among them. -/
theorem report_complete_upperHalf : ∃ s₀ c t : Session ℚ,
    Grid.allocate [Load.smallSphere] Load.roomForThree = .ok () s₀ ∧
    Coverage.check (runAll [.load MeasurementSet.upperHalf (.int 96000)] s₀) = .ok () c ∧ Onset.addAll c = .ok () t ∧
    ∃ rows, Complete (fun x y => x < y) t.data rows ∧ Mirrors t.data rows ∧ ∃ x ∈ rows, x.mirrored = true := by
  obtain ⟨_, t, hrun, hmirrored⟩ := Stage.exists_ok_and (s := Load.roomForThree)
    (x := do
      Grid.allocate [Load.smallSphere]
      Load.responses MeasurementSet.upperHalf (.int 96000)
      Coverage.check
      Onset.addAll)
    (p := fun t => match delayRows t.data with
      | .ok rows => rows.any (·.mirrored)
      | .error _ => false) (by decide +kernel)
  obtain ⟨_, s₀, hallocate, hrun⟩ := Stage.bind_ok hrun
  obtain ⟨_, b, hload, hrun⟩ := Stage.bind_ok hrun
  obtain ⟨_, c, hcheck, honsets⟩ := Stage.bind_ok hrun
  have hloadable : ∀ operation ∈ [Operation.load MeasurementSet.upperHalf (.int 96000)], operation.Loadable := by
    intro operation hoperation
    obtain rfl := List.mem_singleton.1 hoperation
    trivial
  have hafter : runAll [.load MeasurementSet.upperHalf (.int 96000)] s₀ = b := by
    show (Load.responses MeasurementSet.upperHalf (.int 96000)).after s₀ = b
    unfold Stage.after
    rw [hload]
  rw [← hafter] at hcheck
  obtain ⟨rows, hcomplete, hmirrors⟩ :=
    (report_complete hallocate hloadable fun count _ => ascending_lt count).2 c t hcheck honsets
  rw [hcomplete.report] at hmirrored
  exact ⟨s₀, c, t, hallocate, hcheck, honsets, rows, hcomplete, hmirrors, List.any_eq_true.1 hmirrored⟩

end Operations

end HrirAtlas.Report
