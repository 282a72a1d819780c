import HrirAtlas.Proofs.Coverage
import HrirAtlas.Proofs.Exact.Signal
import HrirAtlas.Proofs.Import.Start
import HrirAtlas.Proofs.Layout.Detection
import HrirAtlas.Proofs.Load.Mapping
import HrirAtlas.Proofs.Magnitude.All
import HrirAtlas.Proofs.Onset
import HrirAtlas.Proofs.Onset.Peak

/-
What an import leaves. Loading stores one measurement each in some slots, coverage sees to it that
all slots from the start of a field upward are among them, and the two stages after it turn the
delays of these into times of arrival and their rows into magnitudes. So every slot is populated,
and each measured slot stands for one measurement of its own.
-/

namespace HrirAtlas.Import

variable {α : Type} [Signal α]

/-! ## A covered grid -/

section Covered

variable {m : MeasurementSet α} {receivers points : Nat} {d : DataSet α} {s t : Session α}
  {r : Option (Resampler α)} {owner : Nat → Option Nat} {rate : Number α} {irPoints : Int}

/-- A loaded grid that is covered: measured slots are slots of the loaded grid, each with an owner. -/
theorem check_loaded_ok (h : Grid.Allocated d)
    (hs : s.data = { Load.loaded m r d owner with irRate := rate, irPoints })
    (hcheck : Coverage.check s = .ok () t) :
    ∃ fields, t.data = ({ d with irRate := rate, irPoints, fields } : DataSet α).assembled
        (Load.ownedContent m d owner) (Load.ownedRow m r d owner) ∧
      ({ d with irRate := rate, irPoints, fields } : DataSet α).Stored (Load.ownedContent m d owner) ∧
      (∀ slot ∈ t.data.measuredSlots, ∃ measurement, owner slot.index = some measurement) ∧
      ∀ slot ∈ t.data.slots, ∃ other ∈ t.data.measuredSlots, slot.content = other.content := by
  obtain ⟨⟨fields, ht⟩, hsublist, hfull, hshared⟩ := Coverage.check_ok hcheck
  rw [hs] at ht
  have hmeasured :
    t.data.measuredSlots = ({ d with irRate := rate, irPoints, fields } : DataSet α).measuredSlots := by
    rw [ht]; rfl
  have hslots : s.data.slots = d.slots := by rw [hs]; rfl
  rw [hslots] at hsublist
  -- in a loaded grid the populated slots are the owned ones
  have howner : ∀ slot ∈ t.data.measuredSlots, ∃ measurement, owner slot.index = some measurement := by
    intro slot hslot
    have hpopulated : (Load.loaded m r d owner).populated slot = true := by
      have := hfull slot hslot
      rw [hs] at this
      exact this
    rw [Load.populated_loaded h (hsublist.subset hslot)] at hpopulated
    exact Option.isSome_iff_exists.1 hpopulated
  refine ⟨fields, ht, ⟨?_, ?_, ?_, ?_⟩, howner, hshared⟩
  · rw [← hmeasured]
    refine (hsublist.map Slot.index).nodup ?_
    rw [h.indices]
    exact List.nodup_range
  · intro slot hslot
    rw [← hmeasured] at hslot
    exact h.index_lt (hsublist.subset hslot)
  · intro slot hslot
    rw [← hmeasured] at hslot
    exact h.own slot (hsublist.subset hslot)
  · intro slot hslot channel hchannel
    rw [← hmeasured] at hslot
    obtain ⟨measurement, hk⟩ := howner slot hslot
    rw [Load.ownedContent_some hk]
    unfold Load.storedContent
    rw [List.getElem?_map, List.getElem?_range (show channel < d.channels from hchannel)]
    rfl

/-- What the last stages make of a loaded grid `d`: the grid `c` has other fields, rate and samples in
use, its measured slots are owned, and `t` has their delays with onsets added and their rows after
the work on them. -/
structure Finished (m : MeasurementSet α) (r : Option (Resampler α)) (owner : Nat → Option Nat) (d c : DataSet α)
    (content : Nat → Content α) (fine : Resampler α) (fftSize : Int) (t : DataSet α) : Prop where
  grid : ∃ fields, c = { d with irRate := c.irRate, irPoints := c.irPoints, fields }
  result : ∃ buffer, t = { c.assembled content (Load.ownedRow m r d owner) with buffer := some buffer }
  stored : c.Stored content
  transform : d.fftSize = .int fftSize
  inUse : 0 ≤ c.irPoints
  converter : Resampler.set (.number c.irRate) (.number (Onset.fineRate c.irRate)) = .ok fine
  owned : ∀ slot ∈ c.measuredSlots, ∃ measurement, owner slot.index = some measurement
  shared : ∀ slot ∈ c.slots, ∃ other ∈ c.measuredSlots, slot.content = other.content
  delays : ∀ slot ∈ c.measuredSlots, ∀ channel < c.channels, ∃ delay seconds,
    (Load.ownedContent m d owner slot.index).delays[channel]? = some delay ∧
    Onset.IsOnset fine c.irRate (Onset.multiple * c.irPoints.toNat)
      (Onset.inUse c (Load.ownedRow m r d owner ⟨channel, slot.index⟩)) seconds ∧
    (content slot.index).delays[channel]? = some (delay + seconds)
  rows : ∀ slot ∈ c.measuredSlots, ∀ channel < c.channels,
    (Magnitude.replaceHead c.irPoints (Array.replicate fftSize.toNat (Magnitude.ofReal 0.0))
      (Load.ownedRow m r d owner ⟨channel, slot.index⟩)).2 = .ok (t.row ⟨channel, slot.index⟩)

/-- The last stages begin with a check that ends well, and its fields stay. -/
theorem analyse_steps {threads : Setting α} (h : Grid.Allocated d)
    (hs : s.data = { Load.loaded m r d owner with irRate := rate, irPoints })
    (hanalyse : analyse threads s = .ok () t) :
    ∃ a c content fine fftSize, Coverage.check s = .ok () a ∧ c.fields = a.data.fields ∧
      Finished m r owner d c content fine fftSize t.data ∧ c.irRate = rate ∧ c.irPoints = irPoints := by
  unfold analyse at hanalyse
  obtain ⟨_, a, hcheck, hrest⟩ := Stage.bind_ok hanalyse
  obtain ⟨fields, ha, hstored, howner, hshared⟩ := check_loaded_ok h hs hcheck
  rw [Stage.data_bind] at hrest
  obtain ⟨_, b, honsets, hmagnitudes⟩ := Stage.bind_ok hrest
  obtain ⟨e, honsets, hb⟩ := Stage.withProgress_ok honsets
  obtain ⟨fine, content, hset, hpoints, he, htimes⟩ := Onset.addAll_ok (s := { a with count := 0 }) ha hstored honsets
  -- the views, and so the rows to work on, are those before the onsets
  have hstored' : ({ d with irRate := rate, irPoints, fields } : DataSet α).Stored content :=
    { hstored with
      views := fun slot hslot channel hchannel => by
        rw [(htimes slot hslot).1]
        exact hstored.views slot hslot channel hchannel }
  have hb' : b.data = e.data := by rw [hb]
  obtain ⟨fftSize, buffer, hfft, ht, hrows⟩ := Magnitude.all_ok (hb'.trans he) hstored' hmagnitudes
  have hmeasured :
    a.data.measuredSlots = ({ d with irRate := rate, irPoints, fields } : DataSet α).measuredSlots := by
    rw [ha]; rfl
  have hslots : a.data.slots = ({ d with irRate := rate, irPoints, fields } : DataSet α).slots := by rw [ha]; rfl
  rw [hmeasured] at howner hshared
  rw [hslots] at hshared
  have hfields : fields = a.data.fields := by rw [ha]; rfl
  exact ⟨a, { d with irRate := rate, irPoints, fields }, content, fine, fftSize, hcheck, hfields,
    ⟨⟨fields, rfl⟩, ⟨buffer, ht⟩, hstored', hfft, hpoints, hset, howner, hshared,
      fun slot hslot => (htimes slot hslot).2, hrows⟩, rfl, rfl⟩

theorem analyse_ok {threads : Setting α} (h : Grid.Allocated d)
    (hs : s.data = { Load.loaded m r d owner with irRate := rate, irPoints })
    (hanalyse : analyse threads s = .ok () t) :
    ∃ c content fine fftSize, Finished m r owner d c content fine fftSize t.data ∧ c.irRate = rate ∧
      c.irPoints = irPoints := by
  obtain ⟨a, c, content, fine, fftSize, -, -, hfinished⟩ := analyse_steps h hs hanalyse
  exact ⟨c, content, fine, fftSize, hfinished⟩

end Covered

/-! ## A full grid -/

section Finished

variable {m : MeasurementSet α} {r : Option (Resampler α)} {owner : Nat → Option Nat} {d c : DataSet α}
  {content : Nat → Content α} {fine : Resampler α} {fftSize : Int} {t : DataSet α}

theorem Finished.fields_eq (h : Finished m r owner d c content fine fftSize t) : t.fields = c.fields := by
  obtain ⟨buffer, ht⟩ := h.result
  rw [ht]
  rfl

theorem Finished.slots_eq (h : Finished m r owner d c content fine fftSize t) : t.slots = c.slots := by
  obtain ⟨buffer, ht⟩ := h.result
  rw [ht]
  rfl

theorem Finished.measuredSlots_eq (h : Finished m r owner d c content fine fftSize t) :
    t.measuredSlots = c.measuredSlots := by
  obtain ⟨buffer, ht⟩ := h.result
  rw [ht]
  rfl

theorem Finished.channels_eq (h : Finished m r owner d c content fine fftSize t) : t.channels = c.channels := by
  obtain ⟨buffer, ht⟩ := h.result
  rw [ht]
  rfl

/-- A slot that shares the content of a measured slot has the content at its storage index. -/
theorem Finished.contentOf_eq (h : Finished m r owner d c content fine fftSize t) {slot other : Slot α}
    (hother : other ∈ c.measuredSlots) (he : slot.content = other.content) :
    t.contentOf slot = content other.index := by
  obtain ⟨buffer, ht⟩ := h.result
  have hown := h.stored.own other hother
  have hcontent : (c.assembled content (Load.ownedRow m r d owner)).contentOf slot = content slot.content :=
    DataSet.contentOf_assembled (by rw [he, hown]; exact h.stored.bound other hother)
  rw [ht, ← hown, ← he]
  exact hcontent

theorem Finished.populated (h : Finished m r owner d c content fine fftSize t) :
    ∀ slot ∈ t.slots, t.populated slot = true := by
  intro slot hslot
  rw [h.slots_eq] at hslot
  obtain ⟨other, hother, hcontent⟩ := h.shared slot hslot
  unfold DataSet.populated
  rw [h.contentOf_eq hother hcontent]
  exact Content.populated_of_view (h.stored.views other hother 0 c.channels_pos)

theorem Finished.distinct (h : Finished m r owner d c content fine fftSize t) {fields : List (Field α)}
    {positions : List (Spherical α)} {placed : List Nat} (hassigned : Load.Assigned fields positions placed owner) :
    (t.measuredSlots.map fun slot => (owner slot.index).getD 0).Nodup := by
  rw [h.measuredSlots_eq]
  refine List.Nodup.map_on (fun slot hslot other hother he => ?_) h.stored.nodup.of_map
  -- measured slots have owners, and an owner has one slot
  obtain ⟨measurement, hmeasurement⟩ := h.owned slot hslot
  obtain ⟨measurement', hmeasurement'⟩ := h.owned other hother
  simp only [hmeasurement, hmeasurement', Option.getD_some] at he
  rw [← he] at hmeasurement'
  exact List.inj_on_of_nodup_map h.stored.nodup hslot hother (hassigned.inj hmeasurement hmeasurement')

end Finished

/-! ## What a measured slot holds -/

/-- The response of a measurement of a set with so many receivers and samples, brought from the rate of the
set to the final one, as many samples of it as are in use. -/
def finalResponse (m : MeasurementSet α) (receivers points source rate inUse measurement channel : Nat) : Array α :=
  Signal.fitted inUse (Resampler.atRate source rate (m.samplesAt receivers points measurement channel))

/-- That response at ten times the rate, as long as it lasts. -/
def fineResponse (m : MeasurementSet α) (receivers points source rate inUse measurement channel : Nat) : Array α :=
  Signal.fitted (10 * inUse)
    (Resampler.atRate rate (10 * rate) (finalResponse m receivers points source rate inUse measurement channel))

/-- What an import leaves in a slot with a measurement of its own, for a channel: the slot views its
own row, the head of the row holds the magnitudes of the spectrum of the response, continued by
silence, and the delay is the measured one, in seconds at the rate of the measurements, and the time
of the peak of the response at a finer rate. -/
structure Analysed (m : MeasurementSet α) (receivers points source rate fftSize : Nat) (d : DataSet α) (slot : Slot α)
    (measurement channel : Nat) : Prop where
  view : (d.contentOf slot).views[channel]? = some (some ⟨channel, slot.index⟩)
  magnitudes : Magnitude.IsSpectrum fftSize
    (finalResponse m receivers points source rate d.irPoints.toNat measurement channel)
    ((d.row ⟨channel, slot.index⟩).extract 0 (1 + fftSize / 2))
  delay : ∃ place,
    Onset.IsPeak
      ((fineResponse m receivers points source rate d.irPoints.toNat measurement channel).toList.map Scalar.abs) place ∧
    (d.contentOf slot).delays[channel]? =
      some (Load.inSeconds (Scalar.ofInt source) (m.delayAt receivers measurement channel) +
        Scalar.ofInt place / Scalar.ofInt (10 * rate))

section Slots

variable {m : MeasurementSet α} {r : Option (Resampler α)}
  {receivers points source rate length inUse measurement channel : Nat}

theorem storedRow_head (hm : m.Shaped receivers points) (hmeasurement : measurement < m.positions.length)
    (hreceiver : channel < receivers)
    (hr : ∀ signal, Load.converted r signal = Resampler.atRate source rate signal) (hle : inUse ≤ length) :
    (Load.storedRow m r length measurement channel).extract 0 inUse =
    finalResponse m receivers points source rate inUse measurement channel := by
  unfold Load.storedRow finalResponse
  rw [Signal.extract_fitted hle, hr, hm.samples_eq hmeasurement hreceiver]

/-- An onset found in a stored row is the time of the peak of the response. -/
theorem onset_stored (hα : Scalar.Comparable α) (hm : m.Shaped receivers points)
    (hmeasurement : measurement < m.positions.length) (hreceiver : channel < receivers) {fine : Resampler α}
    {c : DataSet α} (hinUse : c.irPoints = inUse) (hle : inUse ≤ length)
    (hr : ∀ signal, Load.converted r signal = Resampler.atRate source rate signal)
    (hset : Resampler.set (.int rate) (.number (Onset.fineRate (.int rate))) = .ok fine) {seconds : α}
    (h : Onset.IsOnset fine (.int rate) (Onset.multiple * inUse)
      (Onset.inUse c (Load.storedRow m r length measurement channel)) seconds) :
    ∃ place, Onset.IsPeak
        ((fineResponse m receivers points source rate inUse measurement channel).toList.map Scalar.abs) place ∧
      seconds = Scalar.ofInt place / Scalar.ofInt (10 * rate) := by
  obtain ⟨-, -, hfine⟩ := Resampler.resampled_of_set hset
  obtain ⟨place, hpeak, hseconds⟩ := h
  refine ⟨place, Onset.isPeak_of_peak hα ?_, hseconds⟩
  have hsize : (Load.storedRow m r length measurement channel).size = length := Signal.size_fitted ..
  have hfineRate : ((Onset.multiple : Int) * rate).toNat = 10 * rate := by
    unfold Onset.multiple
    omega
  rw [hfine, Int.toNat_natCast, hfineRate] at hpeak
  unfold Onset.inUse at hpeak
  unfold fineResponse
  rwa [hinUse, clampIndex_natCast, hsize, Nat.min_eq_left hle, storedRow_head hm hmeasurement hreceiver hr hle] at hpeak

/-- The work on a stored row takes the spectrum of the response. -/
theorem spectrum_stored (hm : m.Shaped receivers points) (hmeasurement : measurement < m.positions.length)
    (hreceiver : channel < receivers) {fftSize : Nat} (hle : inUse ≤ length) (hfft : inUse ≤ fftSize)
    (hroom : Signal.bins fftSize ≤ length)
    (hr : ∀ signal, Load.converted r signal = Resampler.atRate source rate signal) {row : Array α}
    (h : (Magnitude.replaceHead inUse (Array.replicate fftSize (Magnitude.ofReal 0.0))
      (Load.storedRow m r length measurement channel)).2 = .ok row) :
    Magnitude.IsSpectrum fftSize (finalResponse m receivers points source rate inUse measurement channel)
      (row.extract 0 (1 + fftSize / 2)) := by
  have hsize : (Load.storedRow m r length measurement channel).size = length := Signal.size_fitted ..
  have hspectrum := Magnitude.replaceHead_ok hfft (by rw [hsize]; exact hle) (by rw [hsize]; exact hroom) h
  rwa [storedRow_head hm hmeasurement hreceiver hr hle] at hspectrum

/-- A finished grid holds, in each measured slot, what an import is to leave there. -/
theorem Finished.analysed {owner : Nat → Option Nat} {d c t : DataSet α} {content : Nat → Content α}
    {fine : Resampler α} {fftSize : Nat} (hα : Scalar.Comparable α) (h : Finished m r owner d c content fine fftSize t)
    (hm : m.Shaped receivers points) (hsource : d.irRate = .int source) (hrate : c.irRate = .int rate)
    (hpoints : c.irPoints = inUse) (hlength : d.irSize.toNat = length) (hle : inUse ≤ length) (hfft : inUse ≤ fftSize)
    (hroom : Signal.bins fftSize ≤ length)
    (hr : ∀ signal, Load.converted r signal = Resampler.atRate source rate signal) {slot : Slot α}
    (hslot : slot ∈ c.measuredSlots) (hmeasured : owner slot.index = some measurement)
    (hmeasurement : measurement < m.positions.length) (hchannel : channel < c.channels) (hreceiver : channel < receivers) :
    Analysed m receivers points source rate fftSize t slot measurement channel := by
  have hinUse : t.irPoints.toNat = inUse := by
    obtain ⟨buffer, ht⟩ := h.result
    rw [ht, DataSet.assembled, hpoints, Int.toNat_natCast]
  have hchannels : c.channels = d.channels := by
    obtain ⟨fields, hc⟩ := h.grid
    rw [hc]
    rfl
  have hset := h.converter
  have hrow := h.rows slot hslot channel hchannel
  obtain ⟨delay, seconds, hdelay, honset, htime⟩ := h.delays slot hslot channel hchannel
  rw [Load.ownedRow_some hmeasured, hlength] at honset hrow
  rw [hpoints] at hrow
  rw [hrate, hpoints, Int.toNat_natCast] at honset
  rw [hrate] at hset
  obtain ⟨place, hpeak, rfl⟩ := onset_stored hα hm hmeasurement hreceiver hpoints hle hr hset honset
  rw [Load.ownedContent_some hmeasured, Load.storedContent, List.getElem?_map,
    List.getElem?_range (by rwa [← hchannels]), Option.map_some, hsource,
    Load.storedDelay_eq hm hmeasurement hreceiver] at hdelay
  obtain rfl := Option.some.inj hdelay
  refine ⟨?_, ?_, place, ?_, ?_⟩
  · rw [h.contentOf_eq hslot rfl]
    exact h.stored.views slot hslot channel hchannel
  · rw [hinUse]
    exact spectrum_stored hm hmeasurement hreceiver hle hfft hroom hr hrow
  · rw [hinUse]
    exact hpeak
  · rw [h.contentOf_eq hslot rfl]
    exact htime

end Slots

/-! ## The import -/

/-- What an import with a whole target rate leaves, for the rates before and after, the points of the
transform and the measurement of each slot: every slot is populated, and the slots from the start of
their field upward have measurements of their own. -/
structure Outcome (m : MeasurementSet α) (receivers points : Nat) (o : ImportOptions α) (target : Int)
    (source rate fftSize : Nat) (assigned : Slot α → Nat) (d : DataSet α) : Prop where
  measuredRate : Scalar.round m.sampleRate = .ok source
  irRate : d.irRate = .int rate ∧ Load.finalRate source target = rate
  transform : o.fftSize = .int fftSize ∧ d.fftSize = .int fftSize
  stereo : d.stereo = isStereo receivers o.channelMode
  inUse : 0 ≤ d.irPoints ∧ d.irPoints ≤ fftSize
  populated : ∀ slot ∈ d.slots, d.populated slot = true
  distinct : (d.measuredSlots.map assigned).Nodup
  measured : ∀ slot ∈ d.measuredSlots, assigned slot < m.positions.length
  analysed : ∀ slot ∈ d.measuredSlots, ∀ channel < d.channels,
    Analysed m receivers points source rate fftSize d slot (assigned slot) channel

/-- An import that ends well leaves a full grid: each measured slot stands for a measurement of its
own, with the magnitudes and the time of arrival of its responses at the final rate. -/
theorem run_outcome (hα : Scalar.Comparable α) {m : MeasurementSet α} {receivers points : Nat}
    (hm : m.WellShaped receivers points) (hpoints : 1 ≤ points) {o : ImportOptions α} {target : Int} (hout : o.outRate = .int target) {s t : Session α}
    (h : run m o s = .ok () t) :
    ∃ source rate fftSize assigned, Outcome m receivers points o target source rate fftSize assigned t.data := by
  rw [run_eq] at h
  obtain ⟨_, u, hsetUp, h⟩ := Stage.bind_ok h
  obtain ⟨_, v, hloading, h⟩ := Stage.bind_ok h
  have hready := ready_of_setUp hm hsetUp
  obtain ⟨sourceRate, fftNumber, n, hround, hrate, hfftOption, hfftData, hless, hrowSize, hirSize, hirPoints,
    hstereo⟩ := setUp_sizes hm hsetUp
  obtain ⟨w, hresponses, hv⟩ := loading_ok hm hloading
  rw [hout] at hresponses
  have hle : u.data.irPoints ≤ u.data.irSize := by
    rw [hirPoints, hirSize]; exact le_of_rowSize_eq hrowSize
  obtain ⟨r, owner, irPoints, hassigned, hirPointsLe, hw, hsource, hconverted⟩ :=
    Load.responses_ok (s := { u with count := 0 }) hready rfl hrate hle hresponses
  have hv' : v.data = w.data := by rw [hv]
  obtain ⟨c, content, fine, fftSize, hfinished, hcRate, hcPoints⟩ := analyse_ok hready.allocated (hv'.trans hw) h
  -- the rates and sizes are natural numbers
  have hset := hfinished.converter
  rw [hcRate] at hset
  have hpositive : 0 < Load.finalRate sourceRate target := (Resampler.resampled_of_set hset).1
  obtain ⟨source, rfl⟩ := Int.eq_ofNat_of_zero_le (hsource hpositive).le
  obtain ⟨rate, hfinal⟩ := Int.eq_ofNat_of_zero_le hpositive.le
  obtain rfl : fftNumber = .int fftSize := hfftData.symm.trans hfinished.transform
  rw [Number.less_int, decide_eq_false_iff_not, not_lt] at hless
  obtain ⟨fftSize, rfl⟩ := Int.eq_ofNat_of_zero_le (show 0 ≤ fftSize by omega)
  obtain ⟨inUse, rfl⟩ := Int.eq_ofNat_of_zero_le (show 0 ≤ irPoints by rw [← hcPoints]; exact hfinished.inUse)
  rw [rowSize_int] at hrowSize
  have hn := Number.int.inj hrowSize
  obtain ⟨length, rfl⟩ := Int.eq_ofNat_of_zero_le (show 0 ≤ n by omega)
  have hroom : Signal.bins fftSize ≤ length ∧ length ≤ fftSize := by
    unfold Signal.bins
    omega
  have hinUse : inUse ≤ length := by omega
  rw [hfinal] at hcRate hconverted
  simp only [Int.toNat_natCast] at hconverted
  have howned : ∀ slot ∈ t.data.measuredSlots, ∃ measurement, owner slot.index = some measurement ∧
      measurement < m.positions.length := by
    intro slot hslot
    rw [hfinished.measuredSlots_eq] at hslot
    obtain ⟨measurement, hmeasured⟩ := hfinished.owned slot hslot
    exact ⟨measurement, hmeasured, List.mem_range.1 (hassigned.owned _ _ hmeasured).1⟩
  obtain ⟨fields, hc⟩ := hfinished.grid
  obtain ⟨buffer, ht⟩ := hfinished.result
  have hframe : t.data.irRate = .int rate ∧ t.data.fftSize = .int fftSize ∧ t.data.irPoints = inUse ∧
      t.data.stereo = isStereo receivers o.channelMode := by
    rw [ht, hc, hcRate, hcPoints]
    exact ⟨rfl, hfftData, rfl, hstereo⟩
  refine ⟨source, rate, fftSize, fun slot => (owner slot.index).getD 0, hround, ⟨hframe.1, hfinal⟩,
    ⟨hfftOption, hframe.2.1⟩, hframe.2.2.2, ?_, hfinished.populated, hfinished.distinct hassigned,
    fun slot hslot => ?_, fun slot hslot channel hchannel => ?_⟩
  · rw [hframe.2.2.1]
    omega
  · obtain ⟨measurement, hmeasured, hmeasurement⟩ := howned slot hslot
    rw [hmeasured, Option.getD_some]
    exact hmeasurement
  · obtain ⟨measurement, hmeasured, hmeasurement⟩ := howned slot hslot
    rw [hfinished.measuredSlots_eq] at hslot
    rw [hfinished.channels_eq] at hchannel
    have hreceiver : channel < receivers := by
      have hears := hready.ears
      rw [hc] at hchannel
      exact lt_of_lt_of_le hchannel hears
    simp only [hmeasured, Option.getD_some]
    exact hfinished.analysed hα hm.shaped hrate hcRate hcPoints (by rw [hirSize, Int.toNat_natCast]) hinUse (by omega)
      hroom.1 hconverted hslot hmeasured hmeasurement hchannel hreceiver

/-- The positions of the measurements of an upper half, and the layout that they fit. -/
def upperPositions : List (Spherical ℚ) := [⟨0, 0, 1⟩, ⟨180, 0, 1⟩, ⟨0, 90, 1⟩]

def upperLayout : Layout ℚ := { distance := 1, evLimit := 90, evStart := 1, azCounts := [1, 2, 1] }

theorem upperLayout_isGrid : upperLayout.IsGrid := by
  constructor <;> decide +kernel

theorem detect_upperPositions : (Layout.detect upperPositions).2 = .ok [upperLayout] := by
  have hg : ∀ l ∈ [upperLayout], l.IsGrid := by
    intro l hl
    obtain rfl := List.mem_singleton.1 hl
    exact upperLayout_isGrid
  have hd : Layout.Apart [upperLayout] := List.pairwise_singleton ..
  have hs : Layout.Sampled [upperLayout] upperPositions := by constructor <;> decide +kernel
  have hshells := hs.ofShells_eq hg hd _ fun _ hl => hl
  rw [hs.detect_of_shells hg hd (by decide) (List.cons_ne_nil _ _) (Prod.ext rfl hshells)]

/-- Two workers, and twice the rate. -/
def doubled : ImportOptions ℚ := { threads := .int 2, fftSize := .int 4, outRate := .int 96000 }

theorem sphericals_upperHalf : MeasurementSet.upperHalf.positions.map Cartesian.toSpherical = upperPositions := by
  decide +kernel

/-- The import of an upper half ends well, with the row below the horizon mirrored. -/
theorem run_upperHalf : ∃ t, run MeasurementSet.upperHalf doubled { data := DataSet.fresh } = .ok () t := by
  have hok : (match run MeasurementSet.upperHalf doubled { data := DataSet.fresh } with
      | .ok .. => true | .error .. => false) = true := by
    -- the sort in the detection does not evaluate, so its result is put in its place
    unfold run prepare Grid.prepare Grid.survey
    rw [sphericals_upperHalf, show Layout.detect upperPositions = ((Layout.detect upperPositions).1, .ok [upperLayout]) from
      Prod.ext rfl detect_upperPositions]
    decide +kernel
  cases hrun : run MeasurementSet.upperHalf doubled { data := DataSet.fresh } with
  | ok u t => exact ⟨t, rfl⟩
  | error cause t => rw [hrun] at hok; cases hok

theorem run_outcome_upperHalf : Scalar.Comparable ℚ ∧ MeasurementSet.upperHalf.WellShaped 2 2 ∧ ∃ t,
    run MeasurementSet.upperHalf doubled { data := DataSet.fresh } = .ok () t ∧
    ∃ source rate fftSize assigned,
      Outcome MeasurementSet.upperHalf 2 2 doubled 96000 source rate fftSize assigned t.data := by
  obtain ⟨t, ht⟩ := run_upperHalf
  exact ⟨Exact.comparable, MeasurementSet.upperHalf_wellShaped, t, ht,
    run_outcome Exact.comparable MeasurementSet.upperHalf_wellShaped (by decide) rfl ht⟩

end HrirAtlas.Import
