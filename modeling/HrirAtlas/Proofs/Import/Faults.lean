import HrirAtlas.Proofs.Import.Outcome
import HrirAtlas.Proofs.Layout.Faults
import HrirAtlas.Proofs.Load.Duplicate

/-
The faults of shapes that an import can stop for. Where a data set has room for every response and
for the bins of its transform, no stage asks for lengths that disagree or for something that is not
there; what is left is a lack of memory or of workers, and the list of azimuth counts that detection
writes to.
-/

namespace HrirAtlas

/-! ## Faults of shapes -/

/-- Whether the fault is a lack of memory or of workers, and tells nothing of lengths. -/
def ShapeFault.isLack : ShapeFault → Bool
  | hugeAxis | hugeSize | noMemory _ | noWorkers => true
  | _ => false

/-- If the fault is one of shapes, it is a lack. -/
def Fault.Lacks {α : Type} (fault : Fault α) : Prop := ∀ cause, fault = .shape cause → cause.isLack = true

theorem Fault.lacks_arithmetic {α : Type} (cause : ArithmeticFault) : (Fault.arithmetic cause : Fault α).Lacks := nofun

/-- An array without a negative length can only be too large. -/
theorem isLack_of_checkSize {lengths : List Int} {cause : ShapeFault} (hnonneg : ∀ n ∈ lengths, 0 ≤ n)
    (h : checkSize lengths = .error cause) : cause.isLack = true := by
  unfold checkSize at h
  simp only at h
  split at h
  · cases h
    rfl
  split at h
  · rename_i hnegative
    obtain ⟨n, hn, hlt⟩ := List.any_eq_true.1 hnegative
    exact absurd (of_decide_eq_true hlt) (not_lt.2 (hnonneg n hn))
  split at h
  · cases h
    rfl
  split at h
  · cases h
    rfl
  · cases h

open Stage

variable {α : Type}

/-! ## The grid -/

section Grid

variable [Scalar α] {s : Session α}

theorem Grid.allocate_stops (layouts : List (Layout α)) (hsize : 0 ≤ s.data.irSize) :
    StopsFor Fault.Lacks (allocate layouts) s := by
  intro fault t h
  unfold allocate at h
  rw [data_bind] at h
  simp only at h
  rw [setData_bind] at h
  cases hcause : (newFields 0 layouts).2.2 with
  | some cause =>
    rw [hcause] at h
    cases h
    nofun
  | none =>
    rw [hcause] at h
    simp only [setData_bind] at h
    refine StopsFor.bind (stopsFor_ofShape fun cause hcause => ?_) (fun _ u _ => ?_) fault t h
    · rintro _ ⟨⟩
      refine isLack_of_checkSize (fun n hn => ?_) hcause
      rcases hn with _ | ⟨_, _ | ⟨_, _ | ⟨_, hn⟩⟩⟩
      · exact Int.natCast_nonneg _
      · exact Int.natCast_nonneg _
      · exact hsize
      · cases hn
    · rintro _ _ ⟨⟩

theorem Grid.survey_stops (positions : List (Spherical α)) :
    StopsFor (fun fault => (Layout.detect positions).2 = .error fault) (survey positions) s := by
  intro fault t h
  unfold survey at h
  rw [report_bind] at h
  simp only at h
  rw [reportAll_bind] at h
  cases hfound : (Layout.detect positions).2 with
  | ok layouts => rw [hfound] at h; cases h
  | error cause => rw [hfound] at h; cases h; rfl

/-- Preparing the grid stops only for a lack of memory, or because detection stops. -/
theorem Grid.prepare_stops (positions : List (Spherical α)) (hsize : 0 ≤ s.data.irSize) :
    StopsFor (fun fault => fault.Lacks ∨ (Layout.detect positions).2 = .error fault) (Grid.prepare positions) s := by
  refine ((survey_stops positions).mono fun _ => .inr).bind fun layouts u hu => ?_
  rw [← (survey_ok hu).2] at hsize
  exact (allocate_stops layouts hsize).mono fun _ => .inl

end Grid

variable [Signal α] {s : Session α}

/-! ## Loading -/

theorem Resampler.set_stops {source target : Int} {fault : Fault α}
    (h : Resampler.set (.int source : Setting α) (.int target) = .error fault) : fault.Lacks := by
  rw [set_int] at h
  split at h
  · cases h
    rintro cause ⟨⟩
  · cases h

namespace Load

variable {m : MeasurementSet α} {receivers points : Nat} {rate out : Int}

theorem converter?_stops : StopsFor Fault.Lacks (converter? (.int rate : Number α) (.int out)) s := by
  unfold converter?
  split
  · exact StopsFor.bind (stopsFor_ofExcept fun fault => Resampler.set_stops) fun _ _ _ => by rintro _ _ ⟨⟩
  · rintro _ _ ⟨⟩

theorem finish_stops (r : Option (Resampler α)) : StopsFor Fault.Lacks (finish (.int out) r) s := by
  unfold finish
  split
  · intro fault t h
    unfold retime at h
    rw [data_bind] at h
    simp only at h
    rw [setData_bind] at h
    exact StopsFor.bind (stopsFor_ofArithmetic Fault.lacks_arithmetic) (fun _ _ _ => by rintro _ _ ⟨⟩) fault t h
  · rintro _ _ ⟨⟩

/-- With whole rates, loading never stops for a fault of shapes. -/
theorem responses_stops (h : Ready m receivers points s.data) (hrate : s.data.irRate = .int rate) :
    StopsFor Fault.Lacks (responses m (.int out)) s := by
  intro fault t ht
  rw [responses_eq h.shaped, hrate] at ht
  refine StopsFor.bind converter?_stops (fun r u hu => ?_) fault t ht
  have hdata : u.data = s.data := by rw [(converter?_ok hu).1]
  have hend := forM_place_end (r := r) (s := u) h hdata
  refine StopsFor.bind (fun fault v hv => ?_) fun _ v _ => finish_stops r
  rw [hv] at hend
  cases hend <;> nofun

end Load

/-! ## Coverage -/

theorem Coverage.check_stops : StopsFor Fault.Lacks (check : Stage α Unit) s := by
  intro fault t h
  unfold check at h
  rw [data_bind] at h
  simp only at h
  rw [setData_bind, reportAll_bind] at h
  cases hcause : (coverFields s.data 0 s.data.fields).2.2 with
  | some cause => rw [hcause] at h; cases h; nofun
  | none => rw [hcause] at h; cases h

/-! ## Onsets -/

namespace Onset

section Slots

variable {r : Resampler α} {d : DataSet α} {content : Nat → Content α} {row : RowRef → Array α}

/-- Samples have a peak if there are any. -/
theorem ofResponse_stops {rate : Number α} {fine response : Array α} {fault : Fault α} (hfine : 0 < fine.size)
    (h : ofResponse r rate fine response = .error fault) : fault.Lacks := by
  unfold ofResponse at h
  rcases except_bind_error h with h | ⟨place, -, h⟩
  · obtain ⟨cause, hpeak, -⟩ := except_mapError_error h
    cases hsamples : (r.process response fine).toList.map Scalar.abs with
    | nil =>
      have hnone : (r.process response fine).size = 0 := by
        rw [← Array.length_toList, List.eq_nil_of_map_eq_nil hsamples]
        rfl
      rw [Resampler.process_eq, Signal.size_fitted] at hnone
      omega
    | cons first rest =>
      rw [hsamples] at hpeak
      cases hpeak
  rcases except_bind_error h with h | ⟨seconds, -, h⟩
  · obtain ⟨cause, -, rfl⟩ := except_mapError_error h
    nofun
  · cases h

theorem addTo_stops {slot : Slot α} {fine : Array α} {channel : Nat} (hs : s.data = d.assembled content row)
    (hindex : slot.index < d.irCount) (hown : slot.content = slot.index) (hchannel : channel < d.channels)
    (hview : (content slot.index).views[channel]? = some (some ⟨channel, slot.index⟩))
    (hdelays : (content slot.index).delays.length = d.channels) (hfine : 0 < fine.size) :
    StopsFor Fault.Lacks (addTo r fine slot channel) s := by
  have hcontent : (d.assembled content row).contentOf slot = content slot.index := by
    rw [DataSet.contentOf_assembled (by rw [hown]; exact hindex), hown]
  have hheld : (d.assembled content row).heldView slot channel = .ok ⟨channel, slot.index⟩ := by
    unfold DataSet.heldView
    rw [hcontent, hview]
  intro fault t h
  unfold addTo at h
  rw [tick_bind, data_bind] at h
  simp only [hs, hcontent] at h
  rw [List.getElem?_eq_getElem (by omega)] at h
  simp only at h
  rw [bind_of_ok (ofShape_of_ok hheld)] at h
  exact StopsFor.bind (stopsFor_ofExcept fun fault hfault => ofResponse_stops hfine hfault)
    (fun _ _ _ => by rintro _ _ ⟨⟩) fault t h

theorem addChannels_stops {slot : Slot α} (hindex : slot.index < d.irCount) (hown : slot.content = slot.index) :
    ∀ (n first : Nat) (content : Nat → Content α) (fine : Array α) (s : Session α), first + n = d.channels →
      s.data = d.assembled content row → ViewsOwn d content slot →
      (content slot.index).delays.length = d.channels → 0 < fine.size →
      StopsFor Fault.Lacks ((List.range' first n).foldlM (fun fine channel => addTo r fine slot channel) fine) s
  | 0, _, _, _, _, _, _, _, _, _ => by rintro _ _ ⟨⟩
  | n + 1, first, content, fine, s, hfirst, hs, hviews, hdelays, hfine => by
    have hchannel : first < d.channels := by omega
    refine StopsFor.bind (x := addTo r fine slot first)
      (addTo_stops hs hindex hown hchannel (hviews first hchannel) hdelays hfine) fun fine₁ u hadd => ?_
    obtain ⟨hsize, delay, seconds, -, -, hu⟩ := addTo_ok hs hindex hown hchannel (hviews first hchannel) hadd
    refine addChannels_stops hindex hown n (first + 1) _ fine₁ u (by omega) hu (fun channel hlt => ?_) ?_ (by omega)
    · rw [Function.update_self]
      exact hviews channel hlt
    · rw [Function.update_self]
      show ((content slot.index).delays.set first _).length = _
      rw [List.length_set, hdelays]

theorem addSlots_stops : ∀ (slots : List (Slot α)) (content : Nat → Content α) (fine : Array α) (s : Session α),
    (slots.map Slot.index).Nodup →
      (∀ slot ∈ slots, slot.index < d.irCount ∧ slot.content = slot.index ∧ ViewsOwn d content slot ∧
        (content slot.index).delays.length = d.channels) →
      s.data = d.assembled content row → 0 < fine.size →
      StopsFor Fault.Lacks (slots.foldlM (addToSlot r d.channels) fine) s
  | [], _, _, _, _, _, _, _ => by rintro _ _ ⟨⟩
  | first :: slots, content, fine, s, hnodup, hslots, hs, hfine => by
    rw [List.map_cons, List.nodup_cons] at hnodup
    obtain ⟨hindex, hown, hviews, hdelays⟩ := hslots first List.mem_cons_self
    refine StopsFor.bind (x := addToSlot r d.channels fine first) ?_ fun fine₁ u hfirst => ?_
    · unfold addToSlot
      rw [List.range_eq_range']
      exact addChannels_stops hindex hown d.channels 0 content fine s (by omega) hs hviews hdelays hfine
    · unfold addToSlot at hfirst
      rw [List.range_eq_range'] at hfirst
      obtain ⟨hsize, content₁, hu, htimed⟩ :=
        addChannels_ok hindex hown d.channels 0 content fine fine₁ s u (by omega) hs hviews hfirst
      refine addSlots_stops slots content₁ fine₁ u hnodup.2 (fun slot hslot => ?_) hu (by omega)
      -- the first slot has a content of its own
      have hother : content₁ slot.index = content slot.index :=
        htimed.others _ fun he => hnodup.1 (by rw [← he]; exact List.mem_map_of_mem hslot)
      obtain ⟨h1, h2, h3, h4⟩ := hslots slot (List.mem_cons_of_mem _ hslot)
      refine ⟨h1, h2, fun channel hlt => ?_, by rw [hother, h4]⟩
      rw [hother]
      exact h3 channel hlt

/-- With samples in use and a delay for every channel, adding onsets stops for no fault of shapes but a
lack of memory. -/
theorem addAll_stops {rate : Int} (hs : s.data = d.assembled content row) (hstored : d.Stored content)
    (hdelays : ∀ slot ∈ d.measuredSlots, (content slot.index).delays.length = d.channels) (hpoints : 1 ≤ d.irPoints)
    (hrate : d.irRate = .int rate) : StopsFor Fault.Lacks addAll s := by
  have hirPoints : s.data.irPoints = d.irPoints := by rw [hs]; rfl
  have hirRate : s.data.irRate = .int rate := by rw [hs]; exact hrate
  have hmeasured : s.data.measuredSlots = d.measuredSlots := by rw [hs]; rfl
  have hchannels : s.data.channels = d.channels := by rw [hs]; rfl
  intro fault t h
  unfold addAll at h
  rw [data_bind] at h
  simp only [hirPoints, hirRate, hmeasured, hchannels] at h
  have hlength : 0 < multiple * d.irPoints := by unfold multiple; omega
  refine StopsFor.bind (stopsFor_ofShape fun cause hcause => ?_) (fun _ u hu => ?_) fault t h
  · rintro _ ⟨⟩
    refine isLack_of_checkSize (fun n hn => ?_) hcause
    rw [List.mem_singleton.1 hn]
    exact hlength.le
  refine StopsFor.bind (stopsFor_ofExcept fun fault => Resampler.set_stops) fun r v hv => ?_
  obtain ⟨-, rfl⟩ := ofShape_ok hu
  obtain ⟨-, rfl⟩ := ofExcept_ok hv
  refine StopsFor.bind (by rintro _ _ ⟨⟩) fun _ w hw => StopsFor.discard ?_
  cases hw
  exact addSlots_stops _ content _ _ hstored.nodup
    (fun slot hslot => ⟨hstored.bound slot hslot, hstored.own slot hslot, hstored.views slot hslot, hdelays slot hslot⟩)
    hs (by rw [Array.size_replicate]; omega)

end Slots

end Onset

/-! ## Magnitudes -/

namespace Magnitude

theorem workerCount_stops {threads : Setting α} {fault : Fault α} (h : workerCount threads = .error fault) :
    fault.Lacks := by
  unfold workerCount at h
  split at h
  · split at h
    · cases h
      rintro _ ⟨⟩
      rfl
    · split at h
      · cases h
        nofun
      · cases h
      · cases h
  · cases h
    nofun
  · cases h
    nofun

/-- With room for the samples in use and for the bins, taking magnitudes stops for no fault of shapes but
a lack of memory or of workers. -/
theorem all_stops {d : DataSet α} {content : Nat → Content α} {row : RowRef → Array α} {threads : Setting α}
    {fftSize points : Nat} (hs : s.data = d.assembled content row) (hstored : d.Stored content)
    (hfftSize : d.fftSize = .int fftSize) (hirPoints : d.irPoints = points) (hpos : 0 < fftSize)
    (hpoints : points ≤ fftSize)
    (hroom : ∀ slot ∈ d.measuredSlots, ∀ channel < d.channels,
      points ≤ (row ⟨channel, slot.index⟩).size ∧ Signal.bins fftSize ≤ (row ⟨channel, slot.index⟩).size) :
    StopsFor Fault.Lacks (all threads) s := by
  let buffer := Buffer.ofRows d.channels d.irCount d.irSize.toNat row
  have hget : s.data.buffer.getD ⟨0, 0, 0, #[]⟩ = buffer := by rw [hs]; rfl
  intro fault t h
  unfold all at h
  rw [data_bind] at h
  simp only [hget] at h
  rw [hs, bind_of_ok (ofShape_of_ok (workList_eq hstored buffer))] at h
  refine StopsFor.bind (stopsFor_ofExcept fun fault => workerCount_stops) (fun count u _ => ?_) fault t h
  simp only [show (d.assembled content row).fftSize = .int fftSize from hfftSize,
    show (d.assembled content row).irPoints = points from hirPoints, transformSize]
  let pool : Pool α := { rows := buffer.rows, work := (workRows d).map fun ref => some (buffer.place ref),
                         fftSize := fftSize, points := points }
  have hwork : pool.work = ((workRows d).map buffer.place).map some := by rw [List.map_map]; rfl
  have hall : ∀ place ∈ (workRows d).map buffer.place, pool.succeeds place = true := by
    intro place hplace
    obtain ⟨ref, href, rfl⟩ := List.mem_map.1 hplace
    obtain ⟨slot, hslot, hchannel, hindex⟩ := mem_workRows.1 href
    obtain ⟨hresponse, hbins⟩ := hroom slot hslot ref.channel hchannel
    have hrow : buffer.rows.getD (buffer.place ref) #[] = row ref :=
      Buffer.row_ofRows (holds_of_mem_workRows hstored href)
    obtain ⟨samples, hsamples⟩ := replaceHead_answers hpos hpoints hresponse hbins
    unfold Pool.succeeds Pool.outcome Pool.freshScratch
    rw [show pool.rows = buffer.rows from rfl, hrow, show ref = ⟨ref.channel, slot.index⟩ by rw [← hindex],
      show pool.fftSize.toNat = fftSize from Int.toNat_natCast _, show pool.points = points from rfl, hsamples]
    rfl
  refine StopsFor.bind (by rintro _ _ ⟨⟩) fun _ _ _ => StopsFor.bind (by rintro _ _ ⟨⟩) fun _ _ _ => ?_
  cases hcause : (Pool.runWorkers count pool).2 with
  | none => rintro _ _ ⟨⟩
  | some cause =>
    have hlack := Pool.runWorkers_lack hwork (nodup_places hstored _ _) (fun _ => place_lt_of_mem hstored) rfl rfl hall
      hcause
    refine stopsFor_fail ?_
    rintro _ ⟨⟩
    refine isLack_of_checkSize (fun n hn => ?_) hlack
    rw [List.mem_singleton.1 hn]
    exact Int.natCast_nonneg _

end Magnitude

/-! ## The stages after loading -/

/-- With room for the samples in use and for the bins, the analysis of a loaded grid stops for no fault
of shapes but a lack of memory or of workers. -/
theorem Import.analyse_stops {m : MeasurementSet α} {r : Option (Resampler α)} {d : DataSet α}
    {owner : Nat → Option Nat} {threads : Setting α} {rate : Int} {fftSize points : Nat} (h : Grid.Allocated d)
    (hs : s.data = { Load.loaded m r d owner with irRate := .int rate, irPoints := (points : Int) })
    (hpoints : 1 ≤ points) (hfftSize : d.fftSize = .int fftSize) (hle : points ≤ d.irSize.toNat)
    (hfits : d.irSize.toNat ≤ fftSize) (hbins : Signal.bins fftSize ≤ d.irSize.toNat) :
    StopsFor Fault.Lacks (analyse threads) s := by
  unfold analyse
  refine StopsFor.bind Coverage.check_stops fun _ a hcheck => ?_
  obtain ⟨fields, ha, hstored, howner, -⟩ := check_loaded_ok h hs hcheck
  have hmeasured : a.data.measuredSlots =
      ({ d with irRate := .int rate, irPoints := (points : Int), fields } : DataSet α).measuredSlots := by
    rw [ha]; rfl
  rw [hmeasured] at howner
  have hdelays : ∀ slot ∈
      ({ d with irRate := .int rate, irPoints := (points : Int), fields } : DataSet α).measuredSlots,
        (Load.ownedContent m d owner slot.index).delays.length = d.channels := by
    intro slot hslot
    obtain ⟨measurement, hmeasurement⟩ := howner slot hslot
    rw [Load.ownedContent_some hmeasurement, Load.storedContent, List.length_map, List.length_range]
  refine StopsFor.bind (x := Stage.data) (by rintro _ _ ⟨⟩) fun _ b hb => ?_
  cases hb
  refine StopsFor.bind (StopsFor.withProgress (Onset.addAll_stops ha hstored hdelays ?_ rfl)) fun _ b honsets => ?_
  · show (1 : Int) ≤ points
    omega
  obtain ⟨e, honsets, hb⟩ := withProgress_ok honsets
  obtain ⟨fine, content, -, -, he, htimes⟩ := Onset.addAll_ok (s := { a with count := 0 }) ha hstored honsets
  have hstored' : ({ d with irRate := .int rate, irPoints := (points : Int), fields } : DataSet α).Stored content :=
    { hstored with
      views := fun slot hslot channel hchannel => by
        rw [(htimes slot hslot).1]
        exact hstored.views slot hslot channel hchannel }
  have hb' : b.data = e.data := by rw [hb]
  refine Magnitude.all_stops (hb'.trans he) hstored' hfftSize rfl (by omega) (by omega) fun slot hslot channel _ => ?_
  obtain ⟨measurement, hmeasurement⟩ := howner slot hslot
  rw [Load.ownedRow_some hmeasurement, Load.storedRow, Signal.size_fitted]
  exact ⟨hle, hbins⟩

end HrirAtlas
