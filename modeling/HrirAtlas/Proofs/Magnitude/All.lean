import HrirAtlas.Magnitude.All
import HrirAtlas.Proofs.Grid.Storage
import HrirAtlas.Proofs.Signal.Rate
import HrirAtlas.Proofs.Magnitude.Workers
import HrirAtlas.Proofs.Number

/-
What the magnitude stage leaves: in the row of every measured slot and channel the magnitudes of the
spectrum of what was in use of it, continued by silence to the points of the transform.
-/

namespace HrirAtlas.Magnitude

variable {α : Type}

/-! ## The work -/

/-- The rows of the measured slots, in the order of the work. -/
def workRows (d : DataSet α) : List RowRef :=
  d.measuredSlots.flatMap fun slot => (List.range d.channels).map fun channel => ⟨channel, slot.index⟩

section Work

variable {d : DataSet α} {content : Nat → Content α} {row : RowRef → Array α}

theorem mem_workRows {ref : RowRef} : ref ∈ workRows d ↔
    ∃ slot ∈ d.measuredSlots, ref.channel < d.channels ∧ ref.index = slot.index := by
  unfold workRows
  simp only [List.mem_flatMap, List.mem_map, List.mem_range]
  constructor
  · rintro ⟨slot, hslot, channel, hlt, rfl⟩
    exact ⟨slot, hslot, hlt, rfl⟩
  · rintro ⟨slot, hslot, hlt, hindex⟩
    exact ⟨slot, hslot, ref.channel, hlt, by rw [← hindex]⟩

theorem nodup_workRows (h : d.Stored content) : (workRows d).Nodup := by
  unfold workRows
  rw [List.nodup_flatMap]
  refine ⟨fun slot _ => ?_, ?_⟩
  · exact List.nodup_range.map fun channel other he => (RowRef.mk.inj he).1
  · have hindex : d.measuredSlots.Pairwise fun slot other => slot.index ≠ other.index := List.pairwise_map.1 h.nodup
    refine hindex.imp fun {slot other} hne ref href href' => ?_
    obtain ⟨_, -, rfl⟩ := List.mem_map.1 href
    obtain ⟨_, -, he⟩ := List.mem_map.1 href'
    exact hne (RowRef.mk.inj he).2.symm

theorem holds_of_mem_workRows (h : d.Stored content) {size : Nat} {ref : RowRef} (href : ref ∈ workRows d) :
    (Buffer.ofRows d.channels d.irCount size row).Holds ref := by
  obtain ⟨slot, hslot, hchannel, hindex⟩ := mem_workRows.1 href
  exact ⟨hchannel, by rw [hindex]; exact h.bound slot hslot⟩

/-- The workers know rows by their places in the buffer, and different rows have different places. -/
theorem nodup_places (h : d.Stored content) (size : Nat) (row : RowRef → Array α) :
    ((workRows d).map (Buffer.ofRows d.channels d.irCount size row).place).Nodup :=
  (nodup_workRows h).map_on fun _ href _ hother he =>
    (holds_of_mem_workRows h href).place_inj (holds_of_mem_workRows h hother) he

theorem place_lt_of_mem (h : d.Stored content) {size place : Nat}
    (hplace : place ∈ (workRows d).map (Buffer.ofRows d.channels d.irCount size row).place) :
    place < (Buffer.ofRows d.channels d.irCount size row).rows.size := by
  obtain ⟨ref, href, rfl⟩ := List.mem_map.1 hplace
  rw [Buffer.size_ofRows]
  exact (holds_of_mem_workRows h href).place_lt

theorem workList_eq (h : d.Stored content) (buffer : Buffer α) :
    workList (d.assembled content row) buffer = .ok ((workRows d).map fun ref => some (buffer.place ref)) := by
  have hslot : ∀ slot ∈ d.measuredSlots, (List.range d.channels).mapM (workOf (d.assembled content row) buffer slot) =
      .ok ((List.range d.channels).map fun channel => some (buffer.place ⟨channel, slot.index⟩)) := by
    intro slot hslot
    refine except_mapM_of_ok fun channel hchannel => ?_
    have hcontent : (d.assembled content row).contentOf slot = content slot.content :=
      DataSet.contentOf_assembled (by rw [h.own slot hslot]; exact h.bound slot hslot)
    unfold workOf
    rw [hcontent, h.own slot hslot, h.views slot hslot channel (List.mem_range.1 hchannel)]
    rfl
  refine (except_flatMapM_of_ok hslot).trans ?_
  unfold workRows
  rw [List.map_flatMap]
  simp only [List.map_map, Function.comp_def]

end Work

/-! ## The magnitudes of one response -/

theorem size_bins {spectrum : Array (Complex α)} (hpos : 0 < spectrum.size) (f : Complex α → α) :
    ((spectrum.extract 0 (Signal.bins spectrum.size)).map f).size = Signal.bins spectrum.size := by
  rw [Array.size_map, Array.size_extract]
  unfold Signal.bins
  omega

variable [Signal α]

/-- The magnitudes of the lower half of the discrete Fourier transform of a signal, which is cut to so many
points or continued by silence: one for each bin, and the least of them a billionth. A magnitude that is no
number is kept. -/
structure IsSpectrum (fftSize : Nat) (signal magnitudes : Array α) : Prop where
  size : magnitudes.size = 1 + fftSize / 2
  magnitude : ∀ bin < 1 + fftSize / 2, ∀ z : Complex α,
    (Signal.transform ((Signal.fitted fftSize signal).map fun x => ⟨x, 0.0⟩))[bin]? = some z →
      let magnitude := Trig.hypot z.re z.im
      magnitudes[bin]? = some (if (1e-9 : α) ≤ magnitude ∨ ¬ magnitude ≤ magnitude then magnitude else 1e-9)

section Response

variable {fftSize points : Nat} {response : Array α}

theorem prepare_eq (hpoints : points ≤ fftSize) (hsize : points ≤ response.size) :
    prepare points (Array.replicate fftSize (ofReal 0.0)) response =
      .ok ((Signal.fitted fftSize (response.extract 0 points)).map ofReal) := by
  have hhead : ((response.extract 0 points).map ofReal).size = points := by
    rw [Array.size_map, Array.size_extract]; omega
  unfold prepare
  rw [clampIndex_natCast, clampIndex_natCast, Nat.min_eq_left hsize, Array.size_replicate, Nat.min_eq_left hpoints]
  have hspread : (Tensor.row ((response.extract 0 points).map ofReal)).spread points =
      .ok ((response.extract 0 points).map ofReal) := by
    unfold Tensor.row
    rw [hhead]
    exact Tensor.spread_self hhead
  simp only [hspread]
  refine congrArg Except.ok (Array.ext ?_ fun i h1 h2 => ?_)
  · rw [Array.size_append, hhead, Array.size_replicate, Array.size_map, Signal.size_fitted]; omega
  · rw [Array.getElem_append, Array.getElem_map, Signal.getElem_fitted]
    by_cases hi : i < ((response.extract 0 points).map ofReal).size
    · have hi' : i < (response.extract 0 points).size := by rwa [Array.size_map] at hi
      rw [dif_pos hi, Array.getElem_map, Array.getD_eq_getD_getElem?, Array.getElem?_eq_getElem hi', Option.getD_some]
    · have hi' : (response.extract 0 points).size ≤ i := by rw [Array.size_map] at hi; omega
      rw [dif_neg hi, Array.getElem_replicate, Array.getD_eq_getD_getElem?, Array.getElem?_eq_none hi',
        Option.getD_none]

theorem magnitudes_eq {spectrum : Array (Complex α)} (hpos : 0 < spectrum.size)
    (hroom : Signal.bins spectrum.size ≤ response.size) :
    Signal.magnitudes spectrum response =
      .ok (Signal.overwrite response ((spectrum.extract 0 (Signal.bins spectrum.size)).map fun z =>
        Scalar.atLeast Signal.magnitudeFloor (Trig.hypot z.re z.im))) := by
  have hsize := size_bins hpos fun z => Scalar.atLeast Signal.magnitudeFloor (Trig.hypot z.re z.im)
  unfold Signal.magnitudes Signal.writeHead Tensor.row
  rw [Nat.min_eq_left hroom]
  simp only [hsize, Tensor.spread_self hsize]
  rfl

theorem magnitudes_ok {spectrum : Array (Complex α)} {row : Array α} (hpos : 0 < spectrum.size)
    (hroom : Signal.bins spectrum.size ≤ response.size) (h : Signal.magnitudes spectrum response = .ok row) :
    row.extract 0 (Signal.bins spectrum.size) = (spectrum.extract 0 (Signal.bins spectrum.size)).map fun z =>
      Scalar.atLeast Signal.magnitudeFloor (Trig.hypot z.re z.im) := by
  have hsize := size_bins hpos fun z => Scalar.atLeast Signal.magnitudeFloor (Trig.hypot z.re z.im)
  rw [magnitudes_eq hpos hroom] at h
  cases h
  generalize ((spectrum.extract 0 (Signal.bins spectrum.size)).map fun z =>
    Scalar.atLeast Signal.magnitudeFloor (Trig.hypot z.re z.im)) = values at hsize ⊢
  unfold Signal.overwrite
  rw [← hsize, Array.extract_append_left]
  exact Array.extract_size

/-- The work ends well where there is room for the response in use and for the bins. -/
theorem replaceHead_answers (hpos : 0 < fftSize) (hpoints : points ≤ fftSize) (hsize : points ≤ response.size)
    (hroom : Signal.bins fftSize ≤ response.size) :
    ∃ row, (replaceHead points (Array.replicate fftSize (ofReal 0.0)) response).2 = .ok row := by
  have hfilled : ((Signal.fitted fftSize (response.extract 0 points)).map ofReal).size = fftSize := by
    rw [Array.size_map, Signal.size_fitted]
  obtain ⟨spectrum, htransform⟩ : ∃ spectrum,
      Signal.transformInPlace ((Signal.fitted fftSize (response.extract 0 points)).map ofReal) = .ok spectrum := by
    unfold Signal.transformInPlace
    rw [if_neg (by rw [Array.isEmpty_iff_size_eq_zero, hfilled]; omega)]
    exact ⟨_, rfl⟩
  have hspectrum : spectrum.size = fftSize := (transformInPlace_size htransform).trans hfilled
  unfold replaceHead
  rw [prepare_eq hpoints hsize]
  simp only [htransform]
  exact ⟨_, magnitudes_eq (by omega) (by rwa [hspectrum])⟩

/-- The work on a response keeps the length of its row. -/
theorem size_of_replaceHead {points : Int} {scratch : Array (Complex α)} {row : Array α}
    (h : (replaceHead points scratch response).2 = .ok row) : row.size = response.size := by
  unfold replaceHead at h
  split at h
  · cases h
  split at h
  · cases h
  · exact Signal.size_of_writeHead h

/-- What the work on a response writes over its head. -/
theorem replaceHead_ok (hpoints : points ≤ fftSize) (hsize : points ≤ response.size)
    (hroom : Signal.bins fftSize ≤ response.size) {row : Array α}
    (h : (replaceHead points (Array.replicate fftSize (ofReal 0.0)) response).2 = .ok row) :
    IsSpectrum fftSize (response.extract 0 points) (row.extract 0 (Signal.bins fftSize)) := by
  unfold replaceHead at h
  rw [prepare_eq hpoints hsize] at h
  simp only at h
  cases htransform : Signal.transformInPlace ((Signal.fitted fftSize (response.extract 0 points)).map ofReal) with
  | error cause => rw [htransform] at h; cases h
  | ok spectrum =>
    rw [htransform] at h
    have hspectrum : spectrum.size = fftSize := by
      rw [transformInPlace_size htransform, Array.size_map, Signal.size_fitted]
    have hpos : 0 < fftSize := by
      by_contra hzero
      obtain rfl : fftSize = 0 := by omega
      unfold Signal.transformInPlace at htransform
      rw [if_pos (by rw [Array.isEmpty_iff_size_eq_zero, Array.size_map, Signal.size_fitted])] at htransform
      cases htransform
    have hrow := magnitudes_ok (hspectrum ▸ hpos) (hspectrum ▸ hroom) h
    rw [hspectrum] at hrow
    refine ⟨?_, fun bin hbin z hz => ?_⟩
    · rw [hrow, ← hspectrum, size_bins (hspectrum ▸ hpos)]
      rfl
    · have hplace : bin < ((Signal.fitted fftSize (response.extract 0 points)).map ofReal).size := by
        rw [Array.size_map, Signal.size_fitted]
        omega
      rw [hrow, Array.getElem?_map, Array.getElem?_extract, if_pos, Nat.zero_add,
        getElem?_transformInPlace htransform hplace hz]
      · rfl
      · rw [hspectrum]
        unfold Signal.bins
        omega

end Response

/-! ## All responses -/

theorem workerCount_pos {threads : Setting α} {count : Nat} (h : workerCount threads = .ok count) : 1 ≤ count := by
  unfold workerCount at h
  split at h
  · rename_i n
    split at h
    · cases h
    · rename_i hless
      cases n with
      | real x => cases h
      | int c =>
        cases h
        rw [Number.less_int, decide_eq_true_eq] at hless
        omega
      | flag on =>
        cases h
        cases on with
        | true => exact le_rfl
        | false => exact absurd rfl hless
  · cases h
  · cases h

/-- A stage that ends well leaves the magnitudes of every measured row in its place, and changes
nothing else of the data set. -/
theorem all_ok {d : DataSet α} {content : Nat → Content α} {row : RowRef → Array α} {threads : Setting α}
    {s t : Session α} (hs : s.data = d.assembled content row) (hstored : d.Stored content)
    (h : all threads s = .ok () t) :
    ∃ fftSize buffer, d.fftSize = .int fftSize ∧ t.data = { d.assembled content row with buffer := some buffer } ∧
      ∀ slot ∈ d.measuredSlots, ∀ channel < d.channels,
        (replaceHead d.irPoints (Array.replicate fftSize.toNat (ofReal 0.0)) (row ⟨channel, slot.index⟩)).2 =
          .ok (t.data.row ⟨channel, slot.index⟩) := by
  let buffer := Buffer.ofRows d.channels d.irCount d.irSize.toNat row
  have hnodup := nodup_places hstored d.irSize.toNat row
  have hbound : ∀ place ∈ (workRows d).map buffer.place, place < buffer.rows.size := fun _ => place_lt_of_mem hstored
  unfold all at h
  rw [Stage.data_bind] at h
  have hget : s.data.buffer.getD ⟨0, 0, 0, #[]⟩ = buffer := by rw [hs]; rfl
  simp only [hget] at h
  rw [hs, Stage.bind_of_ok (Stage.ofShape_of_ok (workList_eq hstored buffer))] at h
  obtain ⟨count, u, hcount, hrest⟩ := Stage.bind_ok h
  obtain ⟨hcount, hu⟩ := Stage.ofExcept_ok hcount
  simp only [show (d.assembled content row).fftSize = d.fftSize from rfl] at hrest
  cases hsize : transformSize d.fftSize with
  | error cause =>
    rw [hsize] at hrest
    obtain ⟨_, v, -, hfail⟩ := Stage.bind_ok hrest
    cases hfail
  | ok fftSize =>
    have hfftSize : d.fftSize = .int fftSize := by
      unfold transformSize at hsize
      cases hd : d.fftSize with
      | int n => rw [hd] at hsize; cases hsize; rfl
      | real x => rw [hd] at hsize; cases hsize
      | flag on => rw [hd] at hsize; cases hsize
    rw [hsize] at hrest
    simp only at hrest
    let pool : Pool α := { rows := buffer.rows, work := (workRows d).map fun ref => some (buffer.place ref), fftSize,
                           points := d.irPoints }
    have hwork : pool.work = ((workRows d).map buffer.place).map some := by rw [List.map_map]; rfl
    rw [show (d.assembled content row).irPoints = d.irPoints from rfl, Stage.setData_bind] at hrest
    obtain ⟨_, v, hprint, hrest⟩ := Stage.bind_ok hrest
    cases hprint
    -- a worker that failed would have ended the stage
    have hnone : (Pool.runWorkers count pool).2 = none := by
      cases hcause : (Pool.runWorkers count pool).2 with
      | none => rfl
      | some cause => rw [hcause] at hrest; cases hrest
    rw [hnone] at hrest
    cases hrest
    obtain ⟨-, houtcome, -⟩ := Pool.runWorkers_outcomes hwork hnodup hbound rfl rfl (workerCount_pos hcount) hnone
    refine ⟨fftSize, { buffer with rows := (Pool.runWorkers count pool).1.rows }, hfftSize, rfl, ?_⟩
    intro slot hslot channel hchannel
    have href : ⟨channel, slot.index⟩ ∈ workRows d := mem_workRows.2 ⟨slot, hslot, hchannel, rfl⟩
    have hrow : buffer.rows.getD (buffer.place ⟨channel, slot.index⟩) #[] = row ⟨channel, slot.index⟩ :=
      Buffer.row_ofRows (holds_of_mem_workRows hstored href)
    have hdone := houtcome _ (List.mem_map_of_mem href)
    unfold Pool.outcome at hdone
    rw [show pool.rows = buffer.rows from rfl, hrow] at hdone
    exact hdone

end HrirAtlas.Magnitude
