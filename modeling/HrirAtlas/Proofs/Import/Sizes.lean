import HrirAtlas.Proofs.Exact.Rounding
import HrirAtlas.Proofs.Import.Faults
import HrirAtlas.Proofs.Import.Writes

/-
The sizes of an import. The size checks leave a row with room for a response and for the bins of the
transform, and a transform with room for a row. No write changes the length of a row, and the only
one that changes the samples in use cuts them to a row and leaves at least one. So at every moment
from the checks on, what is copied is as long as the place that it is copied to.
-/

namespace HrirAtlas

open Relation Stage Views

/-! ## Supported rates -/

/-- What scalars are asked for where rates change: a supported rate rounds to a supported one, and
samples do not vanish in the conversion from it. -/
structure Scalar.RateLaws (α : Type) [Scalar α] : Prop where
  rounds : ∀ {rate : α} {n : Int}, ofInt minRate ≤ rate → rate ≤ ofInt maxRate → round rate = .ok n →
    minRate ≤ n ∧ n ≤ maxRate
  lasts : ∀ {points target source n : Int}, 1 ≤ points → 1 ≤ target → minRate ≤ source → source ≤ maxRate →
    ceil (ofInt points * (ofInt target / ofInt source) : α) = .ok n → 1 ≤ n

theorem Exact.ceil_pos {x : ℚ} {n : ℤ} (hx : 0 < x) (h : Scalar.ceil x = .ok n) : 1 ≤ n := by
  have hnum : 0 < x.num.natAbs := Int.natAbs_pos.2 (Rat.num_pos.2 hx).ne'
  unfold Scalar.ceil at h
  change Reading.ceil (.finite (decide (x < 0)) x.num.natAbs x.den) = .ok n at h
  rw [decide_eq_false (not_lt.2 hx.le)] at h
  cases h
  have hquotient : 1 ≤ (x.num.natAbs + x.den - 1) / x.den := by
    rw [Nat.one_le_div_iff x.den_pos]
    omega
  exact_mod_cast hquotient

theorem Exact.rateLaws : Scalar.RateLaws ℚ where
  rounds hlow hhigh hround :=
    ⟨round_mono hlow (round_intCast minRate) hround, round_mono hhigh hround (round_intCast maxRate)⟩
  lasts hpoints htarget hlow _ hceil := by
    refine ceil_pos ?_ hceil
    have hsource := lt_of_lt_of_le (show (0 : ℤ) < minRate by decide) hlow
    have h1 : (0 : ℚ) < ((_ : ℤ) : ℚ) := Int.cast_pos.2 hpoints
    have h2 : (0 : ℚ) < ((_ : ℤ) : ℚ) := Int.cast_pos.2 htarget
    have h3 : (0 : ℚ) < ((_ : ℤ) : ℚ) := Int.cast_pos.2 hsource
    exact mul_pos h1 (div_pos h2 h3)

namespace Import

variable {α : Type}

/-! ## Sizes -/

/-- The sizes of a data set for responses of so many samples and a transform of so many points: at
least one sample is in use, a row has room for those in use, for a response and for the bins of the
transform, the transform has room for a row, and every row of the buffer is as long as it should be. -/
structure Sized (points : Nat) (fftSize : Int) (d : DataSet α) : Prop where
  transform : d.fftSize = .int fftSize
  used : 1 ≤ d.irPoints ∧ d.irPoints ≤ d.irSize
  fits : d.irSize ≤ fftSize
  bins : 1 + fftSize / 2 ≤ d.irSize
  response : (points : Int) ≤ d.irSize
  rows : ∀ b, d.buffer = some b → ∀ row ∈ b.rows, (row.size : Int) = d.irSize

variable {m : MeasurementSet α} {receivers points : Nat} {fftSize : Int} {d d' : DataSet α}

/-- The sizes hold of a data set that differs in nothing that they speak of. -/
theorem Sized.congr (hs : Sized points fftSize d) (hfft : d'.fftSize = d.fftSize) (hsize : d'.irSize = d.irSize)
    (hused : 1 ≤ d'.irPoints ∧ d'.irPoints ≤ d'.irSize)
    (hrows : ∀ b, d'.buffer = some b → ∀ row ∈ b.rows, (row.size : Int) = d.irSize) : Sized points fftSize d' where
  transform := hfft.trans hs.transform
  used := hused
  fits := by rw [hsize]; exact hs.fits
  bins := by rw [hsize]; exact hs.bins
  response := by rw [hsize]; exact hs.response
  rows := by rw [hsize]; exact hrows

/-- A row may give way to one of the same length. -/
theorem Sized.setRow (hs : Sized points fftSize d) {b : Buffer α} (hb : d.buffer = some b) {place : Nat}
    {samples : Array α} (h : samples.size = (b.rows.getD place #[]).size) :
    Sized points fftSize { d with buffer := some { b with rows := b.rows.setIfInBounds place samples } } := by
  refine hs.congr rfl rfl hs.used ?_
  rintro _ ⟨⟩ row hrow
  rcases Array.mem_or_eq_of_mem_setIfInBounds hrow with hold | rfl
  · exact hs.rows b hb row hold
  · by_cases hplace : place < b.rows.size
    · rw [Array.getD_eq_getD_getElem?, Array.getElem?_eq_getElem hplace, Option.getD_some] at h
      rw [h]
      exact hs.rows b hb _ (Array.getElem_mem hplace)
    · rw [Array.setIfInBounds_eq_of_size_le (not_lt.1 hplace)] at hrow
      exact hs.rows b hb _ hrow

theorem Sized.setRowOf (hs : Sized points fftSize d) {ref : RowRef} {samples : Array α}
    (h : samples.size = (d.row ref).size) : Sized points fftSize (d.setRow ref samples) := by
  unfold DataSet.row at h
  unfold DataSet.setRow
  cases hb : d.buffer with
  | none => exact hs.congr rfl rfl hs.used nofun
  | some b =>
    rw [hb] at h
    exact hs.setRow hb h

/-! ## Slices -/

/-- What is copied is as long as the place that it is copied to: a response and the head of the row
that takes it, the samples in use and the head of the scratch row, and the bins of the spectrum and the
head of the row that takes their magnitudes. -/
structure SlicesAgree (m : MeasurementSet α) (points : Nat) (fftSize : Int) (d : DataSet α) (row : Array α) : Prop where
  response : ∀ measurement receiver response, m.response measurement receiver = .ok response →
    response.data.size = points ∧ (row.extract 0 points).size = response.data.size
  used : ((Onset.inUse d row).size : Int) = d.irPoints
  scratch : ∀ scratch : Array (Complex α), (scratch.size : Int) = fftSize →
    (scratch.extract 0 (clampIndex scratch.size d.irPoints)).size = (Onset.inUse d row).size
  bins : ∀ spectrum : Array (Complex α), (spectrum.size : Int) = fftSize →
    (spectrum.extract 0 (Signal.bins spectrum.size)).size = (row.extract 0 (Signal.bins spectrum.size)).size

theorem Sized.slices (hm : m.Shaped receivers points) (hs : Sized points fftSize d) {b : Buffer α}
    (hb : d.buffer = some b) {row : Array α} (hrow : row ∈ b.rows) : SlicesAgree m points fftSize d row := by
  have hsize := hs.rows b hb row hrow
  have hresponse := hs.response
  have hfits := hs.fits
  have hbins := hs.bins
  obtain ⟨hone, hused⟩ := hs.used
  obtain ⟨inUse, hinUse⟩ := Int.eq_ofNat_of_zero_le (show 0 ≤ d.irPoints by omega)
  have hlength : (Onset.inUse d row).size = inUse := by
    unfold Onset.inUse
    rw [hinUse, clampIndex_natCast, Array.size_extract]
    omega
  constructor
  case response =>
    intro measurement receiver response h
    have hpoints := (hm.response_row h).2
    refine ⟨hpoints, ?_⟩
    rw [Array.size_extract]
    omega
  case used => rw [hlength, hinUse]
  case scratch =>
    intro scratch hscratch
    rw [hlength, hinUse, clampIndex_natCast, Array.size_extract]
    omega
  case bins =>
    intro spectrum hspectrum
    rw [Array.size_extract, Array.size_extract]
    unfold Signal.bins
    omega

variable [Signal α] {o : ImportOptions α} {outRate : Int}

/-! ## Writes -/

/-- Measurements of the shapes and with a sample rate that are supported, and whole sizes and rates. -/
structure Supported (m : MeasurementSet α) (o : ImportOptions α) (receivers points : Nat) (fftSize outRate : Int) :
    Prop where
  shaped : m.Shaped receivers points
  ears : 0 < receivers
  points : 1 ≤ points
  sampleRate : Scalar.ofInt minRate ≤ m.sampleRate ∧ m.sampleRate ≤ Scalar.ofInt maxRate
  fftSize : o.fftSize = .int fftSize
  outRate : o.outRate = .int outRate

/-- The samples in use after a conversion are at least one, and a row can hold them. -/
theorem used_of_conversion (hα : Scalar.RateLaws α) (h : Supported m o receivers points fftSize outRate)
    {source n : Int} {r : Resampler α} (hused : 1 ≤ d.irPoints ∧ d.irPoints ≤ d.irSize)
    (hsource : Scalar.round m.sampleRate = .ok source)
    (hset : Resampler.set (.int source) (.number d.irRate) = .ok r) (hrate : o.outRate = .number d.irRate)
    (hpoints : Scalar.ceil (Scalar.ofInt d.irPoints * (d.irRate.toScalar / Scalar.ofInt source)) = .ok n) :
    1 ≤ min n d.irSize ∧ min n d.irSize ≤ d.irSize := by
  obtain ⟨hmin, hmax⟩ := hα.rounds h.sampleRate.1 h.sampleRate.2 hsource
  have htarget : d.irRate = .int outRate := Setting.number.inj (hrate.symm.trans h.outRate)
  rw [htarget] at hset hpoints
  have hpositive := (Resampler.resampled_of_set hset).2.1
  have hlast := hα.lasts hused.1 hpositive hmin hmax hpoints
  omega

theorem Sized.deposit (hα : Scalar.RateLaws α) (h : Supported m o receivers points fftSize outRate)
    (hs : Sized points fftSize d) (hdeposit : Deposit (Retimes m o) d d') : Sized points fftSize d' := by
  cases hdeposit with
  | view hslot hview => exact hs.congr rfl rfl hs.used hs.rows
  | delay slot channel seconds => exact hs.congr rfl rfl hs.used hs.rows
  | samples hslot hview hsamples => exact hs.setRowOf hsamples.size
  | rate hretimes =>
    cases hretimes with
    | rate hrate => exact hs.congr rfl rfl hs.used hs.rows
    | points hsource hset hrate hpoints =>
      exact hs.congr rfl rfl (used_of_conversion hα h hs.used hsource hset hrate hpoints) hs.rows

/-- Every write keeps the sizes. -/
theorem Sized.write (hα : Scalar.RateLaws α) (h : Supported m o receivers points fftSize outRate)
    (hs : Sized points fftSize d) (hwrite : Write m o d d') : Sized points fftSize d' := by
  cases hwrite with
  | fields layouts => exact hs.congr rfl rfl hs.used hs.rows
  | irCount count => exact hs.congr rfl rfl hs.used hs.rows
  | buffer =>
    refine hs.congr rfl rfl hs.used ?_
    rintro _ ⟨⟩ row hrow
    obtain ⟨-, rfl⟩ := Array.mem_replicate.1 hrow
    have hpos := hs.used
    rw [Array.size_replicate]
    omega
  | change hchange =>
    cases hchange with
    | deposit hdeposit => exact hs.deposit hα h hdeposit
    | cover => exact hs.congr rfl rfl hs.used hs.rows

theorem Sized.writes (hα : Scalar.RateLaws α) (h : Supported m o receivers points fftSize outRate)
    (hs : Sized points fftSize d) (hwrites : ReflTransGen (Write m o) d d') : Sized points fftSize d' := by
  induction hwrites with
  | refl => exact hs
  | tail _ hlast ih => exact ih.write hα h hlast

/-- The size checks leave such sizes. -/
theorem sized_of_start (h : Supported m o receivers points fftSize outRate) {size : Number α}
    (hstart : start m o = .ok (d, size)) : ∃ n, size = .int n ∧ Sized points fftSize { d with irSize := n } := by
  have hpoints := h.points
  obtain ⟨fftNumber, rate, hfft, hless, -, hsize, hd⟩ := start_ok h.shaped hstart
  obtain rfl : fftNumber = .int fftSize := (Setting.number.inj (h.fftSize.symm.trans hfft)).symm
  rw [Number.less_int, decide_eq_false_iff_not, not_lt] at hless
  rw [rowSize_int] at hsize
  refine ⟨_, hsize, ?_⟩
  rw [hd]
  constructor
  case transform => rfl
  case used => exact ⟨by show (1 : Int) ≤ points; omega, le_max_right _ _⟩
  case fits => exact max_le (by omega) hless
  case bins => exact le_max_left _ _
  case response => exact le_max_right _ _
  case rows => nofun

/-! ## Faults -/

/-- After the size checks an import stops for no fault of shapes but a lack of memory or of workers,
unless its layout is not detected. -/
theorem staged_stops (hα : Scalar.RateLaws α) (h : Supported m o receivers points fftSize outRate) {n : Int}
    (hstart : start m o = .ok (d, .int n)) (hsized : Sized points fftSize { d with irSize := n }) (s : Session α) :
    StopsFor (fun fault => fault.Lacks ∨ (Layout.detect (m.positions.map Cartesian.toSpherical)).2 = .error fault)
      (staged m o) { s with data := { d with irSize := n } } := by
  obtain ⟨_, source, -, -, hsource, -, hd⟩ := start_ok h.shaped hstart
  have hn : 0 ≤ n := le_trans zero_le_one (hsized.used.1.trans hsized.used.2)
  refine StopsFor.bind (Grid.prepare_stops _ hn) fun _ u hu => ?_
  have hready : Load.Ready m receivers points u.data :=
    ready_of_shaped (s := s) h.shaped h.ears (by rw [setUp_of_start hstart]; exact hu)
  have hrate : u.data.irRate = .int source := by
    rw [irRate_of_gridPrepare hu, hd]
  have hsized' : Sized points fftSize u.data := hsized.writes hα h ((follows_gridPrepare _ _).of_ok hu)
  refine StopsFor.mono (StopsFor.bind ?_ fun _ v hv => ?_) fun _ => .inl
  · unfold loading
    rw [h.outRate]
    refine StopsFor.bind (stopsFor_ofShape fun cause hcause => ?_) fun count w hw => ?_
    · rw [h.shaped.measurements_eq] at hcause
      cases hcause
    · obtain ⟨-, rfl⟩ := ofShape_ok hw
      exact StopsFor.withProgress (Load.responses_stops hready hrate)
  · have hloaded := hsized'.writes hα h ((follows_loading h.shaped hsource hrate).of_ok hv)
    obtain ⟨w, hresponses, hv'⟩ := loading_of_shaped h.shaped hv
    rw [h.outRate] at hresponses
    obtain ⟨r, owner, irPoints, -, -, hw, -, -⟩ :=
      Load.responses_ok (s := { u with count := 0 }) hready rfl hrate hsized'.used.2 hresponses
    have hdata : v.data = { Load.loaded m r u.data owner with
        irRate := .int (Load.finalRate source outRate), irPoints } := by rw [hv', ← hw]
    rw [hdata] at hloaded
    obtain ⟨hone, hused⟩ := hloaded.used
    have hfits := hsized'.fits
    have hbins := hsized'.bins
    simp only at hone hused
    obtain ⟨inUse, rfl⟩ := Int.eq_ofNat_of_zero_le (show 0 ≤ irPoints by omega)
    obtain ⟨transform, rfl⟩ := Int.eq_ofNat_of_zero_le (show 0 ≤ fftSize by omega)
    have hsize : (Load.loaded m r u.data owner).irSize = u.data.irSize := rfl
    rw [hsize] at hused
    exact analyse_stops hready.allocated hdata (by omega) hsized'.transform (by omega) (by omega)
      (by unfold Signal.bins; omega)

/-! ## The import -/

/-- From its size checks on, an import is its stages in order, and what any first of them leave, whether
they end well or stop, is reached by a chain of writes. In a data set that is so reached the sizes hold:
at least one sample is in use, a row has room for those in use and for the bins of the transform, and the
transform for a row. So what is copied is always as long as its place, and the only faults of shapes are a
lack of memory or of workers, and an index beyond the list of azimuth counts that stops the detection of
the layout. -/
theorem run_sizes (hα : Scalar.RateLaws α) (h : Supported m o receivers points fftSize outRate) {size : Number α}
    (hstart : start m o = .ok (d, size)) (s : Session α) :
    ∃ n, size = .int n ∧ ReflTransGen (Write m o) { d with irSize := n } ((run m o).after s).data ∧
      run m o s = (stages m o).forM id { s with data := { d with irSize := n } } ∧
      (∀ done, done <+: stages m o → ReflTransGen (Write m o) { d with irSize := n }
        ((done.forM id).after { s with data := { d with irSize := n } }).data) ∧
      (∀ d', ReflTransGen (Write m o) { d with irSize := n } d' → Sized points fftSize d' ∧
        ∀ b, d'.buffer = some b → ∀ row ∈ b.rows, SlicesAgree m points fftSize d' row) ∧
      ∀ cause t, run m o s = .error (.shape cause) t → cause.isLack = true ∨
        (Layout.detect (m.positions.map Cartesian.toSpherical)).2 = .error (.shape cause) ∧
          (cause = .listTarget ∨ cause = .listIndex) := by
  obtain ⟨n, rfl, hsized⟩ := sized_of_start h hstart
  have hstages : run m o s = (stages m o).forM id { s with data := { d with irSize := n } } := by
    rw [run_of_start hstart, staged_eq]
  have hchain : ∀ done, done <+: stages m o → ReflTransGen (Write m o) { d with irSize := n }
      ((done.forM id).after { s with data := { d with irSize := n } }).data :=
    fun done => writes_of_run h.shaped hstart s
  have hrun : ReflTransGen (Write m o) { d with irSize := n } ((run m o).after s).data := by
    unfold after
    rw [hstages]
    exact hchain _ List.prefix_rfl
  refine ⟨n, rfl, hrun, hstages, hchain, fun d' hwrites => ?_, fun cause t ht => ?_⟩
  · have hsized' := hsized.writes hα h hwrites
    exact ⟨hsized', fun b hb row => hsized'.slices h.shaped hb⟩
  · rw [run_of_start hstart] at ht
    rcases staged_stops hα h hstart hsized s _ t ht with hlack | hdetect
    · exact .inl (hlack cause rfl)
    · exact .inr ⟨hdetect, Layout.detect_faults hdetect cause rfl⟩

theorem supported_upperHalf : Supported MeasurementSet.upperHalf doubled 2 2 4 96000 where
  shaped := MeasurementSet.upperHalf_wellShaped.shaped
  ears := by decide
  points := by decide
  sampleRate := by decide +kernel
  fftSize := rfl
  outRate := rfl

theorem run_sizes_upperHalf : Scalar.RateLaws ℚ ∧ Supported MeasurementSet.upperHalf doubled 2 2 4 96000 ∧
    ∃ d t, start MeasurementSet.upperHalf doubled = .ok (d, .int 3) ∧
      run MeasurementSet.upperHalf doubled { data := DataSet.fresh } = .ok () t ∧
      ReflTransGen (Write MeasurementSet.upperHalf doubled) { d with irSize := 3 } t.data ∧ Sized 2 4 t.data := by
  obtain ⟨t, ht⟩ := run_upperHalf
  have hsize : (start MeasurementSet.upperHalf doubled).map Prod.snd = .ok (.int 3) := by decide +kernel
  obtain ⟨⟨d, -⟩, hstart, rfl⟩ := except_map_ok hsize
  obtain ⟨n, hn, hwrites, -, -, hsized, -⟩ := run_sizes Exact.rateLaws supported_upperHalf hstart { data := DataSet.fresh }
  obtain rfl := Number.int.inj hn
  have hafter : (run MeasurementSet.upperHalf doubled).after { data := DataSet.fresh } = t := by
    unfold after
    rw [ht]
  rw [hafter] at hwrites
  exact ⟨Exact.rateLaws, supported_upperHalf, d, t, hstart, ht, hwrites, (hsized _ hwrites).1⟩

end Import

end HrirAtlas
