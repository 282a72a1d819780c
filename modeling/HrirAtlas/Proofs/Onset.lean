import HrirAtlas.Onset
import HrirAtlas.Proofs.Grid.Storage
import HrirAtlas.Proofs.Signal.Rate

/-
What the onset stage adds. The row used to find onsets carries nothing from one response to the next
but its length, so the onset of a response is a function of the response. Each measured slot gets
the onset of its own row once for every channel; other contents and all rows stay as they are.
-/

namespace HrirAtlas.Onset

variable {α : Type} [Signal α]

/-! ## The onset of a response -/

/-- The time is that of the first greatest magnitude of the response at the finer rate, fitted to a
row of the given length. -/
def IsOnset (r : Resampler α) (rate : Number α) (length : Nat) (response : Array α) (seconds : α) : Prop :=
  ∃ place, peak ((Signal.fitted length (r.resampled response)).toList.map Scalar.abs) = .ok place ∧
    seconds = Scalar.ofInt place / (fineRate rate).toScalar

theorem ofResponse_ok {r : Resampler α} {rate : Number α} {fine fine' response : Array α} {seconds : α}
    (h : ofResponse r rate fine response = .ok (seconds, fine')) :
    fine'.size = fine.size ∧ IsOnset r rate fine.size response seconds := by
  unfold ofResponse at h
  obtain ⟨place, hpeak, hrest⟩ := except_bind_ok h
  obtain ⟨time, htime, hrest⟩ := except_bind_ok hrest
  cases hrest
  have hpeak := except_mapError_ok hpeak
  have htime := except_mapError_ok htime
  rw [Resampler.process_eq] at hpeak
  refine ⟨by rw [Resampler.process_eq, Signal.size_fitted], place, hpeak, ?_⟩
  unfold Scalar.divide at htime
  split at htime
  · cases htime
  · cases htime; rfl

/-! ## One channel -/

section Channel

variable {r : Resampler α} {d : DataSet α} {content : Nat → Content α} {row : RowRef → Array α} {slot : Slot α}
  {fine fine' : Array α} {s t : Session α}

/-- The part of a row that is in use. -/
def inUse (d : DataSet α) (samples : Array α) : Array α := samples.extract 0 (clampIndex samples.size d.irPoints)

theorem addTo_ok {channel : Nat} (hs : s.data = d.assembled content row) (hindex : slot.index < d.irCount)
    (hown : slot.content = slot.index) (hchannel : channel < d.channels)
    (hview : (content slot.index).views[channel]? = some (some ⟨channel, slot.index⟩))
    (h : addTo r fine slot channel s = .ok fine' t) :
    fine'.size = fine.size ∧ ∃ delay seconds, (content slot.index).delays[channel]? = some delay ∧
      IsOnset r d.irRate fine.size (inUse d (row ⟨channel, slot.index⟩)) seconds ∧
      t.data = d.assembled (Function.update content slot.index
        { content slot.index with delays := (content slot.index).delays.set channel (delay + seconds) }) row := by
  have hcontent : (d.assembled content row).contentOf slot = content slot.index := by
    rw [DataSet.contentOf_assembled (by rw [hown]; exact hindex), hown]
  have hheld : (d.assembled content row).heldView slot channel = .ok ⟨channel, slot.index⟩ := by
    unfold DataSet.heldView
    rw [hcontent, hview]
  unfold addTo at h
  rw [Stage.tick_bind, Stage.data_bind] at h
  simp only [hs, hcontent] at h
  cases hdelay : (content slot.index).delays[channel]? with
  | none => rw [hdelay] at h; cases h
  | some delay =>
    rw [hdelay] at h
    simp only at h
    rw [Stage.bind_of_ok (Stage.ofShape_of_ok hheld), DataSet.row_assembled hchannel hindex] at h
    obtain ⟨⟨seconds, fine₁⟩, u, hfound, hrest⟩ := Stage.bind_ok h
    obtain ⟨hfound, hu⟩ := Stage.ofExcept_ok hfound
    obtain ⟨hsize, honset⟩ := ofResponse_ok hfound
    simp only at hrest
    rw [Stage.setData_bind, DataSet.setContent_assembled, hown, hu] at hrest
    cases hrest
    exact ⟨hsize, delay, seconds, rfl, honset, rfl⟩

end Channel

/-! ## One slot -/

/-- The delays of a slot from a channel on have the onsets of its rows added; nothing else changed. -/
structure Timed (r : Resampler α) (d : DataSet α) (row : RowRef → Array α) (length : Nat) (slot : Slot α)
    (first : Nat) (content content' : Nat → Content α) : Prop where
  others : ∀ place, place ≠ slot.index → content' place = content place
  views : (content' slot.index).views = (content slot.index).views
  before : ∀ channel < first, (content' slot.index).delays[channel]? = (content slot.index).delays[channel]?
  onsets : ∀ channel, first ≤ channel → channel < d.channels → ∃ delay seconds,
    (content slot.index).delays[channel]? = some delay ∧
    IsOnset r d.irRate length (inUse d (row ⟨channel, slot.index⟩)) seconds ∧
    (content' slot.index).delays[channel]? = some (delay + seconds)

section Slots

variable {r : Resampler α} {d : DataSet α} {row : RowRef → Array α}

/-- The slot views a row of its own for every channel. -/
def ViewsOwn (d : DataSet α) (content : Nat → Content α) (slot : Slot α) : Prop :=
  ∀ channel < d.channels, (content slot.index).views[channel]? = some (some ⟨channel, slot.index⟩)

theorem addChannels_ok {slot : Slot α} (hindex : slot.index < d.irCount) (hown : slot.content = slot.index) :
    ∀ (n first : Nat) (content : Nat → Content α) (fine fine' : Array α) (s t : Session α), first + n = d.channels →
      s.data = d.assembled content row → ViewsOwn d content slot →
      (List.range' first n).foldlM (fun fine channel => addTo r fine slot channel) fine s = .ok fine' t →
      fine'.size = fine.size ∧ ∃ content', t.data = d.assembled content' row ∧
        Timed r d row fine.size slot first content content'
  | 0, first, content, fine, fine', s, t, hfirst, hs, hviews, h => by
    cases h
    exact ⟨rfl, content, hs, fun _ _ => rfl, rfl, fun _ _ => rfl, fun channel h1 h2 => by omega⟩
  | n + 1, first, content, fine, fine', s, t, hfirst, hs, hviews, h => by
    have hchannel : first < d.channels := by omega
    obtain ⟨fine₁, u, hadd, hrest⟩ := Stage.bind_ok (x := addTo r fine slot first) h
    obtain ⟨hsize, delay, seconds, hdelay, honset, hu⟩ :=
      addTo_ok hs hindex hown hchannel (hviews first hchannel) hadd
    -- only delays were written, so the slot still views its own rows
    have hviews₁ : ViewsOwn d (Function.update content slot.index
        { content slot.index with delays := (content slot.index).delays.set first (delay + seconds) }) slot := by
      intro channel hlt
      rw [Function.update_self]
      exact hviews channel hlt
    obtain ⟨hsize', content', ht, htimed⟩ :=
      addChannels_ok hindex hown n (first + 1) _ fine₁ fine' u t (by omega) hu hviews₁ hrest
    have hlen : first < (content slot.index).delays.length := (List.getElem?_eq_some_iff.1 hdelay).choose
    refine ⟨hsize'.trans hsize, content', ht, fun place hne => ?_, ?_, fun channel hlt => ?_, fun channel h1 h2 => ?_⟩
    · rw [htimed.others place hne, Function.update_of_ne hne]
    · rw [htimed.views, Function.update_self]
    · rw [htimed.before channel (by omega), Function.update_self, List.getElem?_set_ne (by omega)]
    · rcases Nat.eq_or_lt_of_le h1 with rfl | hlt
      · refine ⟨delay, seconds, hdelay, honset, ?_⟩
        rw [htimed.before _ (by omega), Function.update_self, List.getElem?_set_self hlen]
      · -- a later channel finds its delay as it was before this step
        obtain ⟨delay', seconds', hdelay', honset', hnew⟩ := htimed.onsets channel (by omega) h2
        rw [Function.update_self, List.getElem?_set_ne (by omega)] at hdelay'
        rw [hsize] at honset'
        exact ⟨delay', seconds', hdelay', honset', hnew⟩

/-- Slots one after another: each is timed as it was before, since they have contents of their own. -/
theorem addSlots_ok : ∀ (slots : List (Slot α)) (content : Nat → Content α) (fine fine' : Array α) (s t : Session α),
      (slots.map Slot.index).Nodup →
        (∀ slot ∈ slots, slot.index < d.irCount ∧ slot.content = slot.index ∧ ViewsOwn d content slot) →
      s.data = d.assembled content row →
      slots.foldlM (addToSlot r d.channels) fine s = .ok fine' t →
      ∃ content', t.data = d.assembled content' row ∧
        (∀ place, place ∉ slots.map Slot.index → content' place = content place) ∧
        ∀ slot ∈ slots, (content' slot.index).views = (content slot.index).views ∧
          ∀ channel < d.channels, ∃ delay seconds, (content slot.index).delays[channel]? = some delay ∧
            IsOnset r d.irRate fine.size (inUse d (row ⟨channel, slot.index⟩)) seconds ∧
            (content' slot.index).delays[channel]? = some (delay + seconds)
  | [], content, fine, fine', s, t, hnodup, hslots, hs, h => by
    cases h
    exact ⟨content, hs, fun _ _ => rfl, nofun⟩
  | first :: slots, content, fine, fine', s, t, hnodup, hslots, hs, h => by
    rw [List.map_cons, List.nodup_cons] at hnodup
    obtain ⟨hindex, hown, hviews⟩ := hslots first List.mem_cons_self
    obtain ⟨fine₁, u, hfirst, hrest⟩ := Stage.bind_ok (x := addToSlot r d.channels fine first) h
    unfold addToSlot at hfirst
    rw [List.range_eq_range'] at hfirst
    obtain ⟨hsize, content₁, hu, htimed⟩ :=
      addChannels_ok hindex hown d.channels 0 content fine fine₁ s u (by omega) hs hviews hfirst
    -- the contents are told apart by storage index, so the first slot's delays are not the others'
    have hother : ∀ slot ∈ slots, slot.index ≠ first.index := fun slot hslot he =>
      hnodup.1 (by rw [← he]; exact List.mem_map_of_mem hslot)
    obtain ⟨content', ht, hkept, htimes⟩ := addSlots_ok slots content₁ fine₁ fine' u t hnodup.2
      (fun slot hslot => by
        obtain ⟨h1, h2, h3⟩ := hslots slot (List.mem_cons_of_mem _ hslot)
        refine ⟨h1, h2, fun channel hlt => ?_⟩
        rw [htimed.others _ (hother slot hslot)]
        exact h3 channel hlt) hu hrest
    refine ⟨content', ht, fun place hplace => ?_, fun slot hslot => ?_⟩
    · rw [List.map_cons, List.mem_cons, not_or] at hplace
      rw [hkept place hplace.2, htimed.others place hplace.1]
    · rcases List.mem_cons.1 hslot with rfl | hslot
      · rw [hkept _ hnodup.1]
        exact ⟨htimed.views, fun channel hlt => htimed.onsets channel (Nat.zero_le _) hlt⟩
      · have htime := htimes slot hslot
        rw [htimed.others _ (hother slot hslot), hsize] at htime
        exact htime

end Slots

/-! ## All slots -/

/-- A stage that ends well has added its onset to the delay of every measured slot and channel. -/
theorem addAll_ok {d : DataSet α} {content : Nat → Content α} {row : RowRef → Array α} {s t : Session α}
    (hs : s.data = d.assembled content row) (hstored : d.Stored content) (h : addAll s = .ok () t) :
    ∃ r content', Resampler.set (.number d.irRate) (.number (fineRate d.irRate)) = .ok r ∧ 0 ≤ d.irPoints ∧
      t.data = d.assembled content' row ∧
      ∀ slot ∈ d.measuredSlots, (content' slot.index).views = (content slot.index).views ∧
        ∀ channel < d.channels, ∃ delay seconds, (content slot.index).delays[channel]? = some delay ∧
          IsOnset r d.irRate (multiple * d.irPoints.toNat) (inUse d (row ⟨channel, slot.index⟩)) seconds ∧
          (content' slot.index).delays[channel]? = some (delay + seconds) := by
  have hirPoints : s.data.irPoints = d.irPoints := by rw [hs]; rfl
  have hirRate : s.data.irRate = d.irRate := by rw [hs]; rfl
  have hmeasured : s.data.measuredSlots = d.measuredSlots := by rw [hs]; rfl
  have hchannels : s.data.channels = d.channels := by rw [hs]; rfl
  unfold addAll at h
  rw [Stage.data_bind] at h
  simp only [hirPoints, hirRate, hmeasured, hchannels] at h
  obtain ⟨_, u, hsize, hrest⟩ := Stage.bind_ok h
  obtain ⟨hsize, hu⟩ := Stage.ofShape_ok hsize
  obtain ⟨r, v, hset, hrest⟩ := Stage.bind_ok hrest
  obtain ⟨hset, hv⟩ := Stage.ofExcept_ok hset
  rw [Stage.reportAll_bind, Stage.discard_run, hv, hu] at hrest
  have hpoints : 0 ≤ d.irPoints := by
    have := nonneg_of_checkSize hsize
    unfold multiple at this
    omega
  obtain ⟨fine, w, hloop⟩ : ∃ fine w, d.measuredSlots.foldlM (addToSlot r d.channels)
      (Array.replicate (multiple * d.irPoints).toNat 0.0) { s with journal := s.journal ++ [r.entry] } =
        .ok fine w := by
    cases hloop : d.measuredSlots.foldlM (addToSlot r d.channels)
        (Array.replicate (multiple * d.irPoints).toNat 0.0) { s with journal := s.journal ++ [r.entry] } with
    | ok fine w => exact ⟨fine, w, rfl⟩
    | error cause w => rw [hloop] at hrest; cases hrest
  rw [hloop] at hrest
  cases hrest
  obtain ⟨content', ht, -, htimes⟩ := addSlots_ok d.measuredSlots content _ fine
    { s with journal := s.journal ++ [r.entry] } t hstored.nodup
    (fun slot hslot => ⟨hstored.bound slot hslot, hstored.own slot hslot, hstored.views slot hslot⟩) hs hloop
  rw [Array.size_replicate,
    show (multiple * d.irPoints).toNat = multiple * d.irPoints.toNat by unfold multiple; omega] at htimes
  exact ⟨r, content', hset, hpoints, ht, htimes⟩

end HrirAtlas.Onset
