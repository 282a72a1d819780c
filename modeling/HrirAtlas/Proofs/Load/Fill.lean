import HrirAtlas.Load
import HrirAtlas.Proofs.Grid.Storage
import HrirAtlas.Proofs.Load.Source
import HrirAtlas.Proofs.Signal.Rate

/-
Filling a slot. A measurement that fills an empty slot puts its responses, converted where a rate is
asked for, into the slot's own rows, and its delays in seconds into the slot's own content; every
other row and content stays as it is.
-/

namespace HrirAtlas.Load

variable {α : Type}

theorem map_range_set {β : Type} {count k : Nat} (f g : Nat → β) :
    ((List.range count).map fun c => if c < k then f c else g c).set k (f k) =
      (List.range count).map fun c => if c < k + 1 then f c else g c := by
  refine List.ext_getElem (by simp) fun i h1 h2 => ?_
  simp only [List.getElem_set, List.getElem_map, List.getElem_range]
  by_cases he : k = i
  · rw [if_pos he, if_pos (by omega), he]
  · rw [if_neg he]
    by_cases hlt : i < k
    · rw [if_pos hlt, if_pos (by omega)]
    · rw [if_neg hlt, if_neg (by omega)]

theorem assignView_eq {d : DataSet α} {slot : Slot α} {content : Nat → Content α} {row : RowRef → Array α}
    {s : Session α} {channel : Nat} (hs : s.data = d.assembled content row) (hindex : slot.index < d.irCount)
    (hcontent : slot.content < d.irCount) (hchannel : channel < d.channels)
    (hviews : (content slot.content).views.length = d.channels) :
    assignView slot channel s = .ok ⟨channel, slot.index⟩
      { s with
        data := d.assembled (Function.update content slot.content
          { content slot.content with
            views := (content slot.content).views.set channel (some ⟨channel, slot.index⟩) }) row } := by
  unfold assignView
  rw [Stage.data_bind, hs, Stage.bind_of_ok (Stage.ofShape_of_ok (DataSet.view_assembled hchannel hindex))]
  simp only [DataSet.contentOf_assembled hcontent, hviews, if_pos hchannel]
  rw [Stage.setData_bind, DataSet.setContent_assembled]
  rfl

theorem update_row_succ {row : RowRef → Array α} (f : Nat → Array α) (index k : Nat) :
    (Function.update (fun ref : RowRef => if ref.index = index ∧ ref.channel < k then f ref.channel else row ref)
      ⟨k, index⟩ (f k)) = fun ref => if ref.index = index ∧ ref.channel < k + 1 then f ref.channel else row ref := by
  funext ref
  by_cases he : ref = ⟨k, index⟩
  · rw [he, Function.update_self, if_pos ⟨rfl, Nat.lt_succ_self k⟩]
  · rw [Function.update_of_ne he]
    by_cases hlt : ref.index = index ∧ ref.channel < k
    · rw [if_pos hlt, if_pos ⟨hlt.1, by omega⟩]
    · rw [if_neg hlt, if_neg]
      rintro ⟨hi, hc⟩
      refine hlt ⟨hi, ?_⟩
      have hne : ref.channel ≠ k := fun hk => he (by rw [← hk, ← hi])
      omega

variable [Signal α]

/-! ## What a measurement stores -/

/-- The signal at the rate of the grid. -/
def converted (r : Option (Resampler α)) (signal : Array α) : Array α :=
  match r with
  | none => signal
  | some r => r.resampled signal

/-- The row that a measurement stores for a channel. -/
def storedRow (m : MeasurementSet α) (r : Option (Resampler α)) (length measurement channel : Nat) : Array α :=
  Signal.fitted length (converted r (m.samples measurement channel))

/-- The delay that a measurement stores for a channel: seconds at the rate before conversion, and zero
where the set has no delays. -/
def storedDelay (m : MeasurementSet α) (rate : α) (measurement channel : Nat) : α :=
  match m.measuredDelay measurement channel with
  | none => 0.0
  | some delay => delay / rate

/-- The content of a slot that has its first views and its first delays from a measurement. -/
def partialContent (m : MeasurementSet α) (rate : α) (channels index measurement views delays : Nat) : Content α where
  views := (List.range channels).map fun channel => if channel < views then some ⟨channel, index⟩ else none
  delays := (List.range channels).map fun channel =>
    if channel < delays then storedDelay m rate measurement channel else 0.0

/-- The content of a slot that a measurement has filled. -/
def storedContent (m : MeasurementSet α) (rate : α) (channels index measurement : Nat) : Content α where
  views := (List.range channels).map fun channel => some ⟨channel, index⟩
  delays := (List.range channels).map fun channel => storedDelay m rate measurement channel

section Partial

variable {m : MeasurementSet α} {rate : α} {channels index measurement views delays : Nat}

theorem partialContent_zero : partialContent m rate channels index measurement 0 0 = Content.empty channels := by
  unfold partialContent Content.empty
  simp only [Nat.not_lt_zero, if_false, List.map_const', List.length_range]

theorem partialContent_all :
    partialContent m rate channels index measurement channels channels =
    storedContent m rate channels index measurement := by
  unfold partialContent storedContent
  congr 1
  · exact List.map_congr_left fun channel h => if_pos (List.mem_range.1 h)
  · exact List.map_congr_left fun channel h => if_pos (List.mem_range.1 h)

end Partial

/-! ## One channel after another -/

section Channels

variable {m : MeasurementSet α} {receivers points : Nat} {r : Option (Resampler α)} {d : DataSet α}
  {measurement : Nat} {slot : Slot α} {content : Nat → Content α} {row : RowRef → Array α} {s : Session α}

theorem storeResponse_eq (hm : m.Shaped receivers points) (hmeas : measurement < m.positions.length)
    {channel : Nat} (hs : s.data = d.assembled content row) (hindex : slot.index < d.irCount)
    (hcontent : slot.content < d.irCount) (hchannel : channel < d.channels) (hears : d.channels ≤ receivers)
    (hpoints : points ≤ d.irSize.toNat) (hviews : (content slot.content).views.length = d.channels)
    (hsilent : row ⟨channel, slot.index⟩ = Array.replicate d.irSize.toNat 0.0) :
    storeResponse m r measurement slot channel s = .ok ()
      { s with
        data := d.assembled
          (Function.update content slot.content
            { content slot.content with
              views := (content slot.content).views.set channel (some ⟨channel, slot.index⟩) })
          (Function.update row ⟨channel, slot.index⟩ (storedRow m r d.irSize.toNat measurement channel)) } := by
  obtain ⟨hresponse, hsize⟩ := hm.response_eq hmeas (show channel < receivers by omega)
  unfold storeResponse
  rw [Stage.bind_of_ok (assignView_eq hs hindex hcontent hchannel hviews),
    Stage.bind_of_ok (Stage.ofShape_of_ok hresponse), Stage.bind_of_ok (Stage.ofShape_of_ok hm.points_eq),
    Stage.data_bind]
  simp only
  have hrow : ∀ content', (d.assembled content' row).row ⟨channel, slot.index⟩ = Array.replicate d.irSize.toNat 0.0 :=
    fun content' => (DataSet.row_assembled hchannel hindex).trans hsilent
  cases r with
  | none =>
    simp only
    rw [hrow, Stage.bind_of_ok (Stage.ofShape_of_ok (Signal.writeHead_silent hsize hpoints)),
      DataSet.setRow_assembled hchannel hindex]
    rfl
  | some r =>
    simp only
    rw [Stage.bind_of_ok (Stage.ofShape_of_ok (Tensor.spread_self hsize)), hrow, Resampler.process_eq,
      Array.size_replicate, DataSet.setRow_assembled hchannel hindex]
    rfl

theorem storeDelay_eq (hm : m.Shaped receivers points) (hmeas : measurement < m.positions.length)
    {channel : Nat} (hs : s.data = d.assembled content row) (hcontent : slot.content < d.irCount)
    (hchannel : channel < d.channels) (hears : d.channels ≤ receivers)
    (hdelays : (content slot.content).delays.length = d.channels)
    (hzero : (content slot.content).delays[channel]? = some 0.0) :
    storeDelay m measurement slot channel s = .ok ()
      { s with
        data := d.assembled (Function.update content slot.content
          { content slot.content with
            delays := (content slot.content).delays.set channel
              (storedDelay m d.irRate.toScalar measurement channel) })
          row } := by
  have hreceiver : channel < receivers := by omega
  obtain ⟨delay, hdelay, hvalue⟩ := hm.delay_eq hmeas hreceiver
  have hmeasured := (hm.measuredDelay_eq hmeas hreceiver).trans hvalue.symm
  unfold storeDelay
  rw [Stage.bind_of_ok (Stage.ofShape_of_ok hdelay)]
  cases delay with
  | none =>
    -- nothing is written, and the delay that would be stored is the zero already there
    have hsame : (content slot.content).delays.set channel (storedDelay m d.irRate.toScalar measurement channel) =
        (content slot.content).delays := by
      unfold storedDelay
      rw [hmeasured]
      obtain ⟨hlt, he⟩ := List.getElem?_eq_some_iff.1 hzero
      exact (congrArg ((content slot.content).delays.set channel) he.symm).trans (List.set_getElem_self hlt)
    rw [hsame, Function.update_eq_self, ← hs]
    rfl
  | some delay =>
    simp only
    have hstored : delay.data.getD 0 0.0 / d.irRate.toScalar =
      storedDelay m d.irRate.toScalar measurement channel := by
      unfold storedDelay
      rw [hmeasured]
      rfl
    rw [Stage.data_bind, hs, DataSet.contentOf_assembled hcontent, if_pos (by rw [hdelays]; exact hchannel),
      DataSet.setContent_assembled]
    rw [show (d.assembled content row).irRate = d.irRate from rfl, hstored]
    rfl

end Channels

/-! ## A whole slot -/

section Slot

variable {m : MeasurementSet α} {receivers points : Nat} {r : Option (Resampler α)} {d : DataSet α}
  {measurement : Nat} {slot : Slot α} {content : Nat → Content α} {row : RowRef → Array α} {s : Session α}

/-- The data set while a measurement fills a slot, with its first views and its first delays. -/
def filling (m : MeasurementSet α) (r : Option (Resampler α)) (d : DataSet α) (content : Nat → Content α)
    (row : RowRef → Array α) (measurement : Nat) (slot : Slot α) (views delays : Nat) : DataSet α :=
  d.assembled
    (Function.update content slot.content
      (partialContent m d.irRate.toScalar d.channels slot.index measurement views delays))
    fun ref =>
      if ref.index = slot.index ∧ ref.channel < views then storedRow m r d.irSize.toNat measurement ref.channel
      else row ref

theorem storeResponses_eq (hm : m.Shaped receivers points) (hmeas : measurement < m.positions.length)
    (hindex : slot.index < d.irCount) (hcontent : slot.content < d.irCount) (hears : d.channels ≤ receivers)
    (hpoints : points ≤ d.irSize.toNat)
    (hsilent : ∀ channel, row ⟨channel, slot.index⟩ = Array.replicate d.irSize.toNat 0.0) :
    ∀ (n k : Nat) (s : Session α), k + n = d.channels → s.data = filling m r d content row measurement slot k 0 →
      (List.range' k n).forM (storeResponse m r measurement slot) s =
        .ok () { s with data := filling m r d content row measurement slot d.channels 0 }
  | 0, k, s, hk, hs => by
    obtain rfl : k = d.channels := by omega
    show EStateM.Result.ok () s = _
    rw [← hs]
  | n + 1, k, s, hk, hs => by
    have hchannel : k < d.channels := by omega
    have hviews : (Function.update content slot.content
        (partialContent m d.irRate.toScalar d.channels slot.index measurement k 0) slot.content).views.length =
        d.channels := by
      rw [Function.update_self]
      unfold partialContent
      rw [List.length_map, List.length_range]
    -- the row of the next channel has not been written yet
    have hrow : (fun ref : RowRef => if ref.index = slot.index ∧ ref.channel < k then
        storedRow m r d.irSize.toNat measurement ref.channel else row ref) ⟨k, slot.index⟩ =
          Array.replicate d.irSize.toNat 0.0 := by
      show (if slot.index = slot.index ∧ k < k then _ else row ⟨k, slot.index⟩) = _
      rw [if_neg (by omega), hsilent]
    have hstep := storeResponse_eq (r := r) hm hmeas hs hindex hcontent hchannel hears hpoints hviews hrow
    show (do
      storeResponse m r measurement slot k
      (List.range' (k + 1) n).forM (storeResponse m r measurement slot)) s = _
    rw [Stage.bind_of_ok hstep]
    refine (storeResponses_eq hm hmeas hindex hcontent hears hpoints hsilent n (k + 1) _ (by omega) ?_).trans ?_
    · show d.assembled _ _ = d.assembled _ _
      rw [Function.update_idem, Function.update_self, update_row_succ]
      unfold partialContent
      rw [map_range_set]
    · rfl

theorem storeDelays_eq (hm : m.Shaped receivers points) (hmeas : measurement < m.positions.length)
    (hcontent : slot.content < d.irCount) (hears : d.channels ≤ receivers) :
    ∀ (n k : Nat) (s : Session α), k + n = d.channels →
    s.data = filling m r d content row measurement slot d.channels k →
      (List.range' k n).forM (storeDelay m measurement slot) s =
        .ok () { s with data := filling m r d content row measurement slot d.channels d.channels }
  | 0, k, s, hk, hs => by
    obtain rfl : k = d.channels := by omega
    show EStateM.Result.ok () s = _
    rw [← hs]
  | n + 1, k, s, hk, hs => by
    have hchannel : k < d.channels := by omega
    have hstep := storeDelay_eq hm hmeas hs hcontent hchannel hears
      (by rw [Function.update_self]; unfold partialContent; rw [List.length_map, List.length_range])
      (by
        rw [Function.update_self]
        unfold partialContent
        rw [List.getElem?_map, List.getElem?_range hchannel, Option.map_some, if_neg (by omega)])
    show (do storeDelay m measurement slot k; (List.range' (k + 1) n).forM (storeDelay m measurement slot)) s = _
    rw [Stage.bind_of_ok hstep]
    refine (storeDelays_eq hm hmeas hcontent hears n (k + 1) _ (by omega) ?_).trans ?_
    · show d.assembled _ _ = d.assembled _ _
      rw [Function.update_idem, Function.update_self]
      unfold partialContent
      rw [map_range_set (fun channel => storedDelay m d.irRate.toScalar measurement channel) fun _ => 0.0]
    · rfl

/-- A measurement fills an empty slot as a whole, and nothing else. -/
theorem fill_eq (hm : m.Shaped receivers points) (hmeas : measurement < m.positions.length)
    (hs : s.data = d.assembled content row) (hindex : slot.index < d.irCount) (hcontent : slot.content < d.irCount)
    (hears : d.channels ≤ receivers) (hpoints : points ≤ d.irSize.toNat)
    (hempty : content slot.content = Content.empty d.channels)
    (hsilent : ∀ channel, row ⟨channel, slot.index⟩ = Array.replicate d.irSize.toNat 0.0) :
    fill m r measurement slot s = .ok ()
      { s with
        data := d.assembled
          (Function.update content slot.content
            (storedContent m d.irRate.toScalar d.channels slot.index measurement))
          fun ref =>
            if ref.index = slot.index then storedRow m r d.irSize.toNat measurement ref.channel else row ref } := by
  have hstart : s.data = filling m r d content row measurement slot 0 0 := by
    unfold filling
    rw [partialContent_zero, ← hempty, Function.update_eq_self, hs]
    congr 1
    funext ref
    rw [if_neg (by omega)]
  have hend : filling m r d content row measurement slot d.channels d.channels = d.assembled
      (Function.update content slot.content (storedContent m d.irRate.toScalar d.channels slot.index measurement))
      fun ref =>
        if ref.index = slot.index then storedRow m r d.irSize.toNat measurement ref.channel else row ref := by
    unfold filling
    rw [partialContent_all]
    -- a row of the buffer belongs to one of the channels, so the bound on the channel says nothing
    refine DataSet.assembled_congr (fun _ _ => rfl) fun ref hc _ => ?_
    simp only [hc, and_true]
  have hchannels : s.data.channels = d.channels := by rw [hs]; rfl
  unfold fill
  rw [Stage.data_bind, hchannels]
  simp only [List.range_eq_range']
  have hresponses := storeResponses_eq hm hmeas hindex hcontent hears hpoints hsilent d.channels 0 s (by omega) hstart
  rw [Stage.bind_of_ok hresponses,
    storeDelays_eq hm hmeas hcontent hears d.channels 0 _ (by omega) rfl, hend]

end Slot

end HrirAtlas.Load
