import HrirAtlas.Proofs.Exact.Signal
import HrirAtlas.Proofs.Load.Whole
import Mathlib.Algebra.Order.Floor.Div

/-
The count of samples after a change of rate. The data set takes it from the ratio of the rates,
rounded up and held to the row; the converter takes the length of what it returns from the factors in
lowest terms, and the row cuts that off or continues it by silence. With exact numbers the two agree:
the samples in use are those of the converted response that the row has kept, and silence follows.
The rows of a slot with a content are the converted responses of the measurement that has the slot.
-/

namespace HrirAtlas

/-- Scalars that compute like the rationals they stand for. -/
structure Scalar.Exactly {α : Type} [Scalar α] (value : α → ℚ) : Prop where
  ofInt : ∀ n : Int, value (ofInt n) = n
  mul : ∀ x y, value (x * y) = value x * value y
  div : ∀ x y, value (x / y) = value x / value y
  ceil : ∀ x, ceil x = .ok ⌈value x⌉

theorem Exact.exactly : Scalar.Exactly (id : ℚ → ℚ) := ⟨fun _ => rfl, fun _ _ => rfl, fun _ _ => rfl, Exact.ceil_eq⟩

/-- A signal is as long after its conversion as it lasts at the new rate, rounded up. -/
def Signal.ConvertsWhole (α : Type) [Signal α] : Prop :=
  ∀ (taps : Array α) (up down : Nat) (signal : Array α), 0 < up → 0 < down → 0 < signal.size →
    (Signal.convert taps up down signal).size = ⌈(signal.size * up : ℚ) / down⌉₊

theorem RateFilter.convertedLength_eq {up down : Nat} (hdown : 0 < down) (length : Nat) :
    convertedLength up down length = ⌈(length * up : ℚ) / down⌉₊ := by
  refine eq_of_forall_ge_iff fun bound => ?_
  unfold convertedLength
  rw [← Nat.ceilDiv_eq_add_pred_div, ceilDiv_le_iff_le_mul hdown, Nat.ceil_le, div_le_iff₀ (by exact_mod_cast hdown),
    mul_comm down bound]
  exact_mod_cast Iff.rfl

theorem Exact.convertsWhole : Signal.ConvertsWhole ℚ := by
  intro taps up down signal _ hdown _
  show ((Array.range (RateFilter.convertedLength up down signal.size)).map (sampleAt up down signal)).size = _
  rw [Array.size_map, Array.size_range, RateFilter.convertedLength_eq hdown]

/-! ## Lengths -/

namespace Resampler

variable {α : Type} [Signal α] {source target : Nat} {r : Resampler α}

/-- The factors give a signal the length that the rates give it. -/
theorem size_resampled (hconvert : Signal.ConvertsWhole α) (h : set (.int source) (.int target) = .ok r)
    {signal : Array α} (hpos : 0 < signal.size) :
    (r.resampled signal).size = ⌈(signal.size * r.up : ℚ) / r.down⌉₊ ∧
      (r.resampled signal).size = ⌈(signal.size * target : ℚ) / source⌉₊ := by
  obtain ⟨⟨hup, hdown⟩, hcoprime, hratio⟩ := factors_of_set h
  have hsource := (resampled_of_set h).1
  have hdown' : (r.down : ℚ) ≠ 0 := by exact_mod_cast hdown.ne'
  have hsource' : (source : ℚ) ≠ 0 := by exact_mod_cast (show source ≠ 0 by omega)
  have hratio' : (r.up : ℚ) * source = r.down * target := by exact_mod_cast hratio
  have hlength : (r.resampled signal).size = ⌈(signal.size * r.up : ℚ) / r.down⌉₊ := by
    unfold resampled
    split
    · rename_i hsame
      rw [hsame, mul_div_cancel_right₀ _ hdown', Nat.ceil_natCast]
    · exact hconvert _ _ _ _ hup hdown hpos
  refine ⟨hlength, ?_⟩
  rw [hlength]
  congr 1
  rw [div_eq_div_iff hdown' hsource']
  linear_combination (signal.size : ℚ) * hratio'

end Resampler

namespace Load

variable {α : Type} [Signal α]

/-! ## Rows -/

/-- The row holds what fits of a converted response of so many samples, and silence behind it, or silence
alone. -/
inductive Converted (m : MeasurementSet α) (r : Resampler α) (points size : Nat) : Array α → Prop
  | silent : Converted m r points size (Array.replicate size 0.0)
  | stored {measurement receiver : Nat} {response : Tensor α} {signal : Array α}
    (given : m.response measurement receiver = .ok response) (spread : response.spread points = .ok signal)
    (length : signal.size = points) : Converted m r points size (Signal.fitted size (r.resampled signal))

section Rows

variable {m : MeasurementSet α} {r : Resampler α} {points size : Nat} {row : Array α}

theorem Converted.size_eq (h : Converted m r points size row) : row.size = size := by
  cases h with
  | silent => exact Array.size_replicate
  | stored => exact Signal.size_fitted _ _

/-- What is stored over a row depends on its length only. -/
theorem Stores.fitted (hfull : m.responses.Full) (hpoints : m.points = .ok points) {measurement channel : Nat}
    {after : Array α} (hsize : row.size = size) (hstores : Stores m measurement channel (some r) row after) :
    ∃ response signal, m.response measurement channel = .ok response ∧ response.spread points = .ok signal ∧
      signal.size = points ∧ after = Signal.fitted size (r.resampled signal) := by
  cases hstores with
  | @converted _ _ response signal _ given count spread =>
    rw [hpoints] at count
    cases count
    exact ⟨response, signal, given, spread, (hfull.part given).size_spread spread, by rw [Resampler.process_eq, hsize]⟩

theorem Converted.store (hfull : m.responses.Full) (hpoints : m.points = .ok points) {measurement channel : Nat}
    {after : Array α} (h : Converted m r points size row) (hstores : Stores m measurement channel (some r) row after) :
    Converted m r points size after := by
  obtain ⟨response, signal, given, spread, length, rfl⟩ := hstores.fitted hfull hpoints h.size_eq
  exact .stored given spread length

/-- As many samples of a fitted signal as the row has kept are those of the signal. -/
theorem extract_fitted_kept (signal : Array α) (size : Nat) :
    (Signal.fitted size signal).extract 0 (min signal.size size) = signal.extract 0 size := by
  rw [Signal.extract_fitted (Nat.min_le_right _ _)]
  refine Array.ext (by rw [Signal.size_fitted, Array.size_extract]; omega) fun i h1 h2 => ?_
  rw [Array.size_extract] at h2
  rw [Signal.getElem_fitted, Array.getElem_extract, Array.getD_eq_getD_getElem?, Array.getElem?_eq_getElem (by omega),
    Option.getD_some]
  simp only [Nat.zero_add]

/-- The samples in use are those that the row has kept, and behind them there is silence. -/
theorem Converted.kept {used length : Int} (hlength : size = length.toNat)
    (hused : ∀ signal : Array α, signal.size = points → used = min ((r.resampled signal).size : Int) length)
    (h : Converted m r points size row) : row.size = size ∧
      (∀ place (h : place < row.size), used ≤ place → row[place] = 0.0) ∧
      (row = Array.replicate size 0.0 ∨
        ∃ measurement receiver response signal, m.response measurement receiver = .ok response ∧
          response.spread points = .ok signal ∧ signal.size = points ∧
          row.extract 0 used.toNat = (r.resampled signal).extract 0 size) := by
  have hsize := h.size_eq
  refine ⟨hsize, ?_, ?_⟩
  · intro place hlt hplace
    cases h with
    | silent => exact Array.getElem_replicate _
    | @stored _ _ _ signal _ _ hpoints =>
      have hcount := hused signal hpoints
      rw [Signal.getElem_fitted, Array.getD_eq_getD_getElem?, Array.getElem?_eq_none (by omega), Option.getD_none]
  · cases h with
    | silent => exact .inl rfl
    | @stored measurement receiver response signal given spread hpoints =>
      have hcount := hused signal hpoints
      refine .inr ⟨measurement, receiver, response, signal, given, spread, hpoints, ?_⟩
      rw [show used.toNat = min (r.resampled signal).size size by omega, extract_fitted_kept]

end Rows

/-! ## Samples in use -/

section Retimed

variable {m : MeasurementSet α} {s t : Session α}

/-- The samples in use become as many as last as long at the new rate, as far as a row can hold them. -/
theorem retime_points {rate : Number α} (h : retime (.number rate) s = .ok () t) :
    ∃ points, Scalar.ceil (Scalar.ofInt s.data.irPoints * (rate.toScalar / s.data.irRate.toScalar)) = .ok points ∧
      t = { s with data := { s.data with irRate := rate, irPoints := min points s.data.irSize } } := by
  unfold retime at h
  rw [Stage.data_bind] at h
  simp only at h
  rw [Stage.setData_bind] at h
  obtain ⟨points, u, hpoints, hrest⟩ := Stage.bind_ok h
  obtain ⟨hceil, hu⟩ := Stage.ofArithmetic_ok hpoints
  rw [hu] at hrest
  cases hrest
  exact ⟨points, hceil, rfl⟩

/-- With exact numbers they are so many samples by the ratio of the rates. -/
theorem retime_exact {value : α → ℚ} (hexact : Scalar.Exactly value) {source target points : Nat}
    (hrate : s.data.irRate = .int source) (hpoints : s.data.irPoints = points)
    (h : retime (.int target) s = .ok () t) :
    t = { s with
      data := { s.data with
        irRate := .int target
        irPoints := min ((⌈(points * target : ℚ) / source⌉₊ : Nat) : Int) s.data.irSize } } := by
  obtain ⟨found, hfound, ht⟩ := retime_points h
  rw [hexact.ceil, hexact.mul, hexact.ofInt, hexact.div, hrate, hpoints] at hfound
  have hsource : value (Number.toScalar (.int source)) = source := (hexact.ofInt source).trans (by push_cast; rfl)
  have htarget : value (Number.toScalar (.int target)) = target := (hexact.ofInt target).trans (by push_cast; rfl)
  rw [hsource, htarget, Int.cast_natCast, ← mul_div_assoc] at hfound
  rw [ht, ← Except.ok.inj hfound, Int.natCast_ceil_eq_ceil (by positivity)]

/-- The load is under way with a converter, and its rows are of the converter's making. -/
theorem Underway.converted {r : Resampler α} {points : Nat} (hd : Grid.Allocated s.data) (hfull : m.responses.Full)
    (hpoints : m.points = .ok points) {count : Nat} {u : Session α} (hu : u.data = s.data)
    (hloop : (List.range count).forM (Load.place m (sphericals m) (some r)) u = .ok () t) :
    Underway m (some r) s.data (Converted m r points s.data.irSize.toNat) t.data := by
  refine Underway.forM_place hd (fun _ _ _ _ hrow hstores => hrow.store hfull hpoints hstores) _ u t ?_ hloop
  rw [hu]
  exact underway_allocated hd .silent

/-- A load that changes the rate fills the grid with a converter between the two rates and counts the samples
in use anew. -/
theorem responses_converted (hd : Grid.Allocated s.data) {source target points : Nat}
    (htarget : 0 < target ∧ target ≠ source) (hrate : s.data.irRate = .int source) (hfull : m.responses.Full)
    (hpoints : m.points = .ok points) (hok : responses m (.int target) s = .ok () t) :
    ∃ r v, Resampler.set (.int source) (.int target) = .ok r ∧
      Underway m (some r) s.data (Converted m r points s.data.irSize.toNat) v.data ∧ retime (.int target) v = .ok () t := by
  obtain ⟨r?, u, v, count, hconverter, hloop, hfinish⟩ := responses_parts hok
  rw [hrate] at hconverter
  obtain ⟨hu, hsome, hset⟩ := converter?_ok hconverter
  have hconversion : isConversion (.int source : Number α) (.int target) = true := by
    rw [isConversion_int, decide_eq_true_eq]
    constructor <;> omega
  obtain ⟨r, rfl⟩ := Option.isSome_iff_exists.1 (hsome.2 hconversion)
  exact ⟨r, v, hset r rfl, Underway.converted hd hfull hpoints (by rw [hu]) hloop, hfinish⟩

/-- A load that changes the rate leaves the count of samples that its converter makes of a response, as
far as a row holds them. In every row these samples are those that are kept of a response, or silence, and
silence is behind them. The rows of a slot with a content have the responses of the measurement that takes
the slot, between the two rates. -/
theorem responses_retimed {value : α → ℚ} (hexact : Scalar.Exactly value) (hconvert : Signal.ConvertsWhole α)
    {layouts : List (Layout α)} {before : Session α} (hgrid : Grid.allocate layouts before = .ok () s)
    {source target points : Nat} (hrates : 0 < source ∧ 0 < target ∧ target ≠ source)
    (hrate : s.data.irRate = .int source) (hused : s.data.irPoints = points) (hpos : 1 ≤ points)
    (hfull : m.responses.Full) (hpoints : m.points = .ok points) (hok : responses m (.int target) s = .ok () t) :
    t.data.irRate = .int target ∧
    t.data.irPoints = min ⌈(points * target : ℚ) / source⌉ s.data.irSize ∧
    ∃ r, Resampler.set (.int source) (.int target) = .ok r ∧
      (r.up.Coprime r.down ∧ r.up * source = r.down * target) ∧
      (∀ signal : Array α, signal.size = points →
        (r.resampled signal).size = ⌈(points * r.up : ℚ) / r.down⌉₊ ∧
          t.data.irPoints = min ((r.resampled signal).size : Int) s.data.irSize) ∧
      (∃ b, t.data.buffer = some b ∧ ∀ row ∈ b.rows, row.size = s.data.irSize.toNat ∧
        (∀ place (h : place < row.size), t.data.irPoints ≤ place → row[place] = 0.0) ∧
        (row = Array.replicate s.data.irSize.toNat 0.0 ∨
          ∃ measurement receiver response signal, m.response measurement receiver = .ok response ∧
            response.spread points = .ok signal ∧ signal.size = points ∧
            row.extract 0 t.data.irPoints.toNat = (r.resampled signal).extract 0 s.data.irSize.toNat)) ∧
      ∀ slot ∈ s.data.slots, t.data.populated slot = true → ∃ measurement, Takes m s.data.fields measurement slot ∧
        ∀ channel < s.data.channels, ∃ response signal, m.response measurement channel = .ok response ∧
          response.spread points = .ok signal ∧ signal.size = points ∧
          t.data.row ⟨channel, slot.index⟩ =
            Signal.fitted s.data.irSize.toNat (Resampler.atRate source target signal) := by
  have hd := (Grid.allocate_ok hgrid).1
  obtain ⟨r, v, hset, hunderway, hfinish⟩ := responses_converted hd hrates.2 hrate hfull hpoints hok
  have hfilled : ∀ slot ∈ s.data.slots, v.data.populated slot = true → ∃ measurement,
      Takes m s.data.fields measurement slot ∧ FirstStored m (some r) (Converted m r points s.data.irSize.toNat)
        measurement slot.index s.data.channels v.data.row := fun slot hslot => hunderway.filled hd hslot
  obtain ⟨content, row, hv, -, hrows, -⟩ := hunderway
  have hirSize : v.data.irSize = s.data.irSize := by rw [hv]; rfl
  have hrate' : v.data.irRate = .int source := by
    rw [hv]
    exact hrate
  have hused' : v.data.irPoints = points := by
    rw [hv]
    exact hused
  have ht := retime_exact hexact hrate' hused' hfinish
  have hirPoints : t.data.irPoints = min ((⌈(points * target : ℚ) / source⌉₊ : Nat) : Int) s.data.irSize := by
    rw [ht, ← hirSize]
  -- the converter counts by its factors what the data set counts by the rates
  have hlength : ∀ signal : Array α, signal.size = points →
      (r.resampled signal).size = ⌈(points * r.up : ℚ) / r.down⌉₊ ∧
        t.data.irPoints = min ((r.resampled signal).size : Int) s.data.irSize := by
    intro signal hsignal
    have hlong : 0 < signal.size := by omega
    obtain ⟨hfactors, hsizes⟩ := Resampler.size_resampled hconvert hset hlong
    rw [hsignal] at hfactors hsizes
    exact ⟨hfactors, by rw [hirPoints, hsizes]⟩
  have hbuffer : t.data.buffer = (s.data.assembled content row).buffer := by
    rw [ht, ← hv]
  refine ⟨by rw [ht], ?_, r, hset, (Resampler.factors_of_set hset).2, hlength,
    ⟨_, hbuffer, fun samples hsamples => ?_⟩, fun slot hslot hpopulated => ?_⟩
  · rw [hirPoints, Int.natCast_ceil_eq_ceil (by positivity)]
  · obtain ⟨place, rfl⟩ := Array.mem_ofFn.1 hsamples
    exact (hrows _).kept rfl fun signal hsignal => (hlength signal hsignal).2
  · rw [ht] at hpopulated
    obtain ⟨measurement, htakes, hfirst⟩ := hfilled slot hslot hpopulated
    refine ⟨measurement, htakes, fun channel hchannel => ?_⟩
    obtain ⟨former, hformer, hstores⟩ := hfirst channel hchannel
    obtain ⟨response, signal, given, spread, length, hrow⟩ := hstores.fitted hfull hpoints hformer.size_eq
    refine ⟨response, signal, given, spread, length, ?_⟩
    have hconverted : r.resampled signal = Resampler.atRate source target signal :=
      (Resampler.resampled_of_set hset).2.2 signal
    rw [← hconverted, ← hrow, ht]
    rfl

/-- Responses of two samples that are brought from 48 to 96 kilohertz have four, of which a row of three
keeps three. -/
theorem responses_retimed_upperHalf : ∃ s t, Grid.allocate [smallSphere] roomForThree = .ok () s ∧
    (0 < 48000 ∧ 0 < 96000 ∧ 96000 ≠ 48000) ∧ s.data.irRate = .int (48000 : Nat) ∧ s.data.irPoints = (2 : Nat) ∧
    MeasurementSet.upperHalf.responses.Full ∧ MeasurementSet.upperHalf.points = .ok 2 ∧
    responses MeasurementSet.upperHalf (.int (96000 : Nat)) s = .ok () t ∧ t.data.irPoints = 3 := by
  obtain ⟨_, t, hboth⟩ := Stage.exists_ok (s := roomForThree)
    (x := do Grid.allocate [smallSphere]; responses MeasurementSet.upperHalf (.int 96000)) (by decide +kernel)
  obtain ⟨_, s, hs, ht⟩ := Stage.bind_ok hboth
  obtain ⟨-, fields, contents, irCount, buffer, -, hdata⟩ := Grid.allocate_ok hs
  have hrates : 0 < 48000 ∧ 0 < 96000 ∧ 96000 ≠ 48000 := by decide
  have hrate : s.data.irRate = .int (48000 : Nat) := by rw [hdata]; rfl
  have hused : s.data.irPoints = (2 : Nat) := by rw [hdata]; rfl
  have hsize : s.data.irSize = 3 := by rw [hdata]; rfl
  have hfull : MeasurementSet.upperHalf.responses.Full := rfl
  have hpoints : MeasurementSet.upperHalf.points = .ok 2 := rfl
  obtain ⟨-, hirPoints, -⟩ := responses_retimed Exact.exactly Exact.convertsWhole hs hrates hrate hused (by decide)
    hfull hpoints ht
  refine ⟨s, t, hs, hrates, hrate, hused, hfull, hpoints, ht, ?_⟩
  rw [hirPoints, hsize]
  decide +kernel

end Retimed

end Load

end HrirAtlas
