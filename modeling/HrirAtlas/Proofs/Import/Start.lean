import HrirAtlas.Import
import HrirAtlas.Proofs.Grid.Storage
import HrirAtlas.Proofs.Load.Source
import HrirAtlas.Proofs.Load.Assignment
import HrirAtlas.Proofs.Number

/-
The data set before loading. The size checks leave a receiver for each channel and room for every
response in a row of the buffer, and the grid is allocated empty; so loading can begin.
-/

namespace HrirAtlas.Import

variable {α : Type} {m : MeasurementSet α} {o : ImportOptions α} {receivers points : Nat}

theorem channels_le (hears : 0 < receivers) {d : DataSet α} (hstereo : d.stereo = isStereo receivers o.channelMode) :
    d.channels ≤ receivers := by
  cases hb : d.stereo with
  | false =>
    unfold DataSet.channels
    rw [hb]
    exact hears
  | true =>
    -- only two receivers make two channels
    rw [hb] at hstereo
    have htwo : receivers = 2 := beq_iff_eq.1 (Bool.and_eq_true_iff.1 hstereo.symm).1
    rw [htwo]
    exact d.channels_le_two

variable [Signal α]

/-! ## Sizes -/

theorem checkFftSize_ok {fftSize : Setting α} {size : Number α} (h : checkFftSize points fftSize = .ok size) :
    fftSize = .number size ∧ size.less (.int points) = false := by
  unfold checkFftSize at h
  obtain ⟨size', hsize, hrest⟩ := except_bind_ok h
  have hsize := except_mapError_ok hsize
  cases hl : size'.less (.int points) with
  | true => rw [hl, if_pos rfl] at hrest; cases hrest
  | false =>
    rw [hl] at hrest
    cases hrest
    unfold Setting.comparedWithInt at hsize
    cases fftSize with
    | number n => cases hsize; exact ⟨rfl, hl⟩
    | _ => cases hsize

theorem start_ok (hm : m.Shaped receivers points) {d : DataSet α} {size : Number α}
    (h : start m o = .ok (d, size)) :
    ∃ fftSize rate, o.fftSize = .number fftSize ∧ fftSize.less (.int points) = false ∧
      Scalar.round m.sampleRate = .ok rate ∧ size = rowSize points fftSize ∧
      d = { DataSet.fresh with
        stereo := isStereo receivers o.channelMode, irRate := .int rate, irPoints := points, fftSize } := by
  unfold start at h
  rw [hm.receivers_eq, hm.points_eq] at h
  obtain ⟨fftSize, hfft, htrunc⟩ := except_bind_ok (x := checkFftSize points o.fftSize) h
  obtain ⟨_, -, hrest⟩ := except_bind_ok htrunc
  obtain ⟨rate, hrate, hrest⟩ := except_bind_ok hrest
  cases hrest
  obtain ⟨hfft, hless⟩ := checkFftSize_ok hfft
  exact ⟨fftSize, rate, hfft, hless, except_mapError_ok hrate, rfl, rfl⟩

/-- The size checks look at the shape and the rate of the measurements only. -/
theorem start_congr {m' : MeasurementSet α} (hreceivers : m'.receivers = m.receivers) (hpoints : m'.points = m.points)
    (hrate : m'.sampleRate = m.sampleRate) (o : ImportOptions α) : start m' o = start m o := by
  unfold start
  rw [hreceivers, hpoints, hrate]

theorem le_of_rowSize_eq {fftSize : Number α} {n : Int} (h : rowSize points fftSize = .int n) :
    (points : Int) ≤ n := by
  unfold rowSize at h
  cases hl : fftSize.halfAndOne.less (.int points) with
  | true =>
    simp only [hl, if_true] at h
    cases h
    exact le_rfl
  | false =>
    simp only [hl] at h
    have hbins : fftSize.halfAndOne = .int n := h
    rw [hbins, Number.less_int, decide_eq_false_iff_not] at hl
    omega

theorem rowSize_int (points : Nat) (n : Int) :
    rowSize points (.int n : Number α) = .int (max (1 + n / 2) points) := by
  have hbins : (Number.int n : Number α).halfAndOne = .int (1 + n / 2) := by
    rw [← Int.fdiv_eq_ediv_of_nonneg n (show (0 : Int) ≤ 2 by decide)]
    rfl
  unfold rowSize
  simp only [hbins, Number.less_int, decide_eq_true_eq]
  split
  · rw [max_eq_right (by omega)]
  · rw [max_eq_left (by omega)]

/-! ## The grid -/

theorem prepare_ok {size : Number α} {s t : Session α} (h : prepare m size s = .ok () t) :
    ∃ n layouts fields contents irCount buffer, size = .int n ∧
      (Layout.detect (m.positions.map Cartesian.toSpherical)).2 = .ok layouts ∧
      Grid.newFields 0 layouts = (fields, irCount, none) ∧ Grid.Allocated t.data ∧
      t.data = { s.data with irSize := n, fields, contents, irCount, buffer } := by
  unfold prepare at h
  cases size with
  | int n =>
    simp only at h
    rw [Stage.data_bind, Stage.setData_bind] at h
    obtain ⟨layouts, u, hsurvey, hallocate⟩ := Stage.bind_ok h
    obtain ⟨hallocated, fields, contents, irCount, buffer, hfields, ht⟩ := Grid.allocate_ok hallocate
    obtain ⟨hlayouts, hu⟩ := Grid.survey_ok hsurvey
    exact ⟨n, layouts, fields, contents, irCount, buffer, rfl, hlayouts, hfields, hallocated, by rw [ht, hu]⟩
  | real x =>
    obtain ⟨_, u, -, hfail⟩ := Stage.bind_ok h
    cases hfail
  | flag on =>
    obtain ⟨_, u, -, hfail⟩ := Stage.bind_ok h
    cases hfail

/-- When the grid is prepared, loading can begin. -/
theorem ready_of_prepare (hm : m.Shaped receivers points) (hears : 0 < receivers) {d : DataSet α} {size : Number α}
    (hstart : start m o = .ok (d, size)) {s t : Session α} (hs : s.data = d)
    (hprepare : prepare m size s = .ok () t) :
    Load.Ready m receivers points t.data := by
  obtain ⟨fftSize, rate, -, -, -, hsize, hd⟩ := start_ok hm hstart
  obtain ⟨n, -, fields, contents, irCount, buffer, hn, -, -, hallocated, ht⟩ := prepare_ok hprepare
  have hle := le_of_rowSize_eq (hsize.symm.trans hn)
  have hchannels : d.channels ≤ receivers := channels_le hears (by rw [hd])
  refine ⟨hm, hallocated, ?_, ?_⟩
  · rw [ht, hs]; exact hchannels
  · rw [ht]; show points ≤ n.toNat; omega

/-! ## Stages -/

/-- The stages up to the empty grid. -/
def setUp (m : MeasurementSet α) (o : ImportOptions α) : Stage α Unit := do
  let (d, size) ← Stage.ofExcept (start m o)
  Stage.setData d
  prepare m size

/-- The stage that fills the grid. -/
def loading (m : MeasurementSet α) (o : ImportOptions α) : Stage α Unit := do
  Stage.withProgress "Loading HRIRs" (← Stage.ofShape m.measurements) (Load.responses m o.outRate)

/-- The stages after loading, which no longer know the measurements. -/
def analyse (threads : Setting α) : Stage α Unit := do
  Coverage.check
  let d ← Stage.data
  Stage.withProgress "Calculating HRIR onsets" (d.measuredSlots.length * d.channels) Onset.addAll
  Magnitude.all threads

theorem run_eq (m : MeasurementSet α) (o : ImportOptions α) :
    run m o = (do setUp m o; loading m o; analyse o.threads) := by
  unfold run setUp loading analyse
  simp only [bind_assoc]

theorem setUp_ok {s u : Session α} (h : setUp m o s = .ok () u) :
    ∃ d size, start m o = .ok (d, size) ∧ prepare m size { s with data := d } = .ok () u := by
  obtain ⟨⟨d, size⟩, v, hstart, hprepare⟩ := Stage.bind_ok h
  obtain ⟨hstart, hv⟩ := Stage.ofExcept_ok hstart
  rw [hv] at hprepare
  exact ⟨d, size, hstart, hprepare⟩

/-- The rates and sizes of the data set before loading. -/
theorem setUp_sizes (hm : m.WellShaped receivers points) {s u : Session α} (h : setUp m o s = .ok () u) :
    ∃ rate fftSize n, Scalar.round m.sampleRate = .ok rate ∧ u.data.irRate = .int rate ∧
      o.fftSize = .number fftSize ∧ u.data.fftSize = fftSize ∧ fftSize.less (.int points) = false ∧
      rowSize points fftSize = .int n ∧ u.data.irSize = n ∧ u.data.irPoints = points ∧
      u.data.stereo = isStereo receivers o.channelMode := by
  obtain ⟨d, size, hstart, hprepare⟩ := setUp_ok h
  obtain ⟨fftSize, rate, hfft, hless, hrate, hsize, hd⟩ := start_ok hm.shaped hstart
  obtain ⟨n, -, fields, contents, irCount, buffer, hn, -, -, -, hu⟩ := prepare_ok hprepare
  rw [hd] at hu
  refine ⟨rate, fftSize, n, hrate, ?_, hfft, ?_, hless, hsize.symm.trans hn, ?_, ?_, ?_⟩ <;> rw [hu]

theorem ready_of_shaped (hm : m.Shaped receivers points) (hears : 0 < receivers) {s u : Session α}
    (h : setUp m o s = .ok () u) : Load.Ready m receivers points u.data := by
  obtain ⟨d, size, hstart, hprepare⟩ := setUp_ok h
  exact ready_of_prepare hm hears hstart rfl hprepare

theorem ready_of_setUp (hm : m.WellShaped receivers points) {s u : Session α} (h : setUp m o s = .ok () u) :
    Load.Ready m receivers points u.data :=
  ready_of_shaped hm.shaped hm.ears_pos h

theorem loading_of_shaped (hm : m.Shaped receivers points) {u v : Session α} (h : loading m o u = .ok () v) :
    ∃ w, Load.responses m o.outRate { u with count := 0 } = .ok () w ∧
      v = { w with printed := w.printed ++ progressLine "Loading HRIRs" w.count m.positions.length } := by
  unfold loading at h
  rw [Stage.bind_of_ok (Stage.ofShape_of_ok hm.measurements_eq)] at h
  exact Stage.withProgress_ok h

theorem loading_ok (hm : m.WellShaped receivers points) {u v : Session α} (h : loading m o u = .ok () v) :
    ∃ w, Load.responses m o.outRate { u with count := 0 } = .ok () w ∧
      v = { w with printed := w.printed ++ progressLine "Loading HRIRs" w.count m.positions.length } :=
  loading_of_shaped hm.shaped h

end HrirAtlas.Import
