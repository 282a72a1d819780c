import HrirAtlas.Proofs.Coverage.Mirrorable
import HrirAtlas.Proofs.Load.Mapping
import HrirAtlas.Proofs.Load.Whole
import HrirAtlas.Proofs.Onset
import HrirAtlas.Proofs.Onset.Peak

/-
Onsets are added once. What the stage does to a slot is a function of the slot's own rows, so the walk
over the measured slots can be written down as a whole: each content that a measured slot has of its own
gets its onsets, and the row used to find them leaves no trace. A mirrored slot refers to the content of
its source and has the new delays with it.
-/

namespace HrirAtlas

namespace Onset

variable {α : Type} [Signal α]

/-! ## The onset of a response -/

/-- The magnitudes of a response at ten times its rate, in so many places. -/
def magnitudes (length : Nat) (response : Array α) : List α :=
  (Signal.fitted length (Signal.convert (Signal.lowpass multiple 1) multiple 1 response)).toList.map Scalar.abs

/-- The place of the peak, where there is one. -/
def peakPlace (values : List α) : Nat :=
  match peak values with
  | .ok place => place
  | .error _ => 0

/-- The onset of a response in seconds. -/
def onset (rate : Int) (length : Nat) (response : Array α) : α :=
  Scalar.ofInt (peakPlace (magnitudes length response)) / Scalar.ofInt (multiple * rate)

/-- The converter raises a whole rate tenfold. -/
structure Tenfold (r : Resampler α) (rate : Int) : Prop where
  resampled : ∀ signal, r.resampled signal = Signal.convert (Signal.lowpass multiple 1) multiple 1 signal
  divides : Scalar.isZero (Scalar.ofInt (multiple * rate) : α) = false

theorem length_magnitudes (length : Nat) (response : Array α) : (magnitudes length response).length = length := by
  unfold magnitudes
  rw [List.length_map, Array.length_toList, Signal.size_fitted]

theorem magnitudes_ne_nil {length : Nat} (hlength : 0 < length) (response : Array α) :
    magnitudes length response ≠ [] := by
  refine List.ne_nil_of_length_pos ?_
  rw [length_magnitudes]
  exact hlength

theorem peak_eq_peakPlace {values : List α} (hne : values ≠ []) : peak values = .ok (peakPlace values) := by
  obtain ⟨first, rest, rfl⟩ := List.exists_cons_of_ne_nil hne
  rfl

theorem isPeak_peakPlace (hα : Scalar.Comparable α) {values : List α} (hne : values ≠ []) :
    IsPeak values (peakPlace values) := by
  obtain ⟨place, hplace, hpeak⟩ := exists_peak hα hne
  rw [peak_eq_peakPlace hne] at hplace
  rwa [Except.ok.inj hplace]

section Response

variable {r : Resampler α} {rate : Int} {fine : Array α}

/-- The row of samples matters for its length only. -/
theorem ofResponse_eq (hr : Tenfold r rate) (hfine : 0 < fine.size) (response : Array α) :
    ofResponse r (.int rate) fine response =
      .ok (onset rate fine.size response, Signal.fitted fine.size (r.resampled response)) := by
  have hpeak : peak ((Signal.fitted fine.size (r.resampled response)).toList.map Scalar.abs) =
      .ok (peakPlace (magnitudes fine.size response)) := by
    rw [hr.resampled]
    exact peak_eq_peakPlace (magnitudes_ne_nil hfine response)
  have hdivide : Scalar.divide (Scalar.ofInt (peakPlace (magnitudes fine.size response)))
      (fineRate (.int rate : Number α)).toScalar = .ok (onset rate fine.size response) := by
    unfold Scalar.divide
    rw [if_neg (by rw [Bool.not_eq_true]; exact hr.divides)]
    rfl
  unfold ofResponse
  simp only [Resampler.process_eq, hpeak, Except.mapError, bind, Except.bind, hdivide, pure, Except.pure]

/-- Raising a rate to ten times of it needs no lowering. -/
theorem atRate_tenfold {n : Nat} (hn : 0 < n) (signal : Array α) :
    Resampler.atRate n (multiple * n) signal = Signal.convert (Signal.lowpass multiple 1) multiple 1 signal := by
  have hgcd : n.gcd (multiple * n) = n := Nat.gcd_mul_left_right multiple n
  unfold Resampler.atRate
  rw [if_neg (by unfold multiple; omega)]
  simp only [hgcd, Nat.mul_div_cancel _ hn, Nat.div_self hn]

/-- A whole rate above zero has a converter to ten times of it. -/
theorem exists_tenfold (hnonzero : ∀ n : Int, 0 < n → Scalar.isZero (Scalar.ofInt n : α) = false) (hrate : 0 < rate) :
    ∃ r : Resampler α, Resampler.set (.int rate) (.number (fineRate (.int rate))) = .ok r ∧ Tenfold r rate := by
  have hfine : 0 < multiple * rate := by
    unfold multiple
    omega
  have hset : ∃ r : Resampler α, Resampler.set (.int rate) (.int (multiple * rate)) = .ok r := by
    rw [Resampler.set_int, if_neg (by omega)]
    exact ⟨_, rfl⟩
  obtain ⟨r, hr⟩ := hset
  refine ⟨r, hr, ?_, hnonzero _ hfine⟩
  intro signal
  rw [(Resampler.resampled_of_set hr).2.2, ← atRate_tenfold (show 0 < rate.toNat by omega)]
  congr 1
  unfold multiple
  omega

end Response

/-! ## One slot -/

section Slots

variable {r : Resampler α} {rate : Int} {d : DataSet α} {row : RowRef → Array α} {length : Nat}

/-- The content of a storage index whose delays before a channel have the onsets of its rows added. -/
def timed (d : DataSet α) (rate : Int) (row : RowRef → Array α) (length first index : Nat) (c : Content α) :
    Content α :=
  { c with
    delays := c.delays.mapIdx fun channel delay =>
      if channel < first then delay + onset rate length (inUse d (row ⟨channel, index⟩)) else delay }

theorem timed_zero (index : Nat) (c : Content α) : timed d rate row length 0 index c = c := by
  have hdelays : (c.delays.mapIdx fun channel delay =>
      if channel < 0 then delay + onset rate length (inUse d (row ⟨channel, index⟩)) else delay) = c.delays :=
    List.ext_getElem (List.length_mapIdx) fun i _ _ => by rw [List.getElem_mapIdx, if_neg (Nat.not_lt_zero i)]
  exact congrArg (Content.mk c.views) hdelays

theorem delays_timed_succ {first index : Nat} {c : Content α} {delay : α} (hdelay : c.delays[first]? = some delay) :
    (timed d rate row length first index c).delays.set first
        (delay + onset rate length (inUse d (row ⟨first, index⟩))) =
      (timed d rate row length (first + 1) index c).delays := by
  unfold timed
  refine List.ext_getElem (by simp) fun i h1 h2 => ?_
  rw [List.length_set, List.length_mapIdx] at h1
  rw [List.getElem_set]
  by_cases hsame : first = i
  · subst hsame
    rw [List.getElem?_eq_getElem h1] at hdelay
    rw [if_pos rfl, List.getElem_mapIdx, if_pos (Nat.lt_succ_self _), Option.some.inj hdelay]
  · rw [if_neg hsame, List.getElem_mapIdx, List.getElem_mapIdx]
    by_cases hlt : i < first
    · rw [if_pos hlt, if_pos (by omega)]
    · rw [if_neg hlt, if_neg (by omega)]

theorem getElem?_delays_timed {first index channel : Nat} (hle : first ≤ channel) (c : Content α) :
    (timed d rate row length first index c).delays[channel]? = c.delays[channel]? := by
  unfold timed
  rw [List.getElem?_mapIdx]
  cases c.delays[channel]? with
  | none => rfl
  | some delay => rw [Option.map_some, if_neg (by omega)]

/-- One channel of a slot. -/
theorem addTo_eq (hr : Tenfold r rate) (hrate : d.irRate = .int rate) {slot : Slot α} {content : Nat → Content α}
    {fine : Array α} {s : Session α} {channel : Nat} {delay : α} (hs : s.data = d.assembled content row)
    (hindex : slot.index < d.irCount) (hown : slot.content = slot.index) (hchannel : channel < d.channels)
    (hview : (content slot.index).views[channel]? = some (some ⟨channel, slot.index⟩))
    (hdelay : (content slot.index).delays[channel]? = some delay) (hfine : 0 < fine.size) :
    ∃ fine', fine'.size = fine.size ∧ addTo r fine slot channel s = .ok fine'
      { s with
        data := d.assembled (Function.update content slot.index
          { content slot.index with
            delays := (content slot.index).delays.set channel
              (delay + onset rate fine.size (inUse d (row ⟨channel, slot.index⟩))) }) row
        count := s.count + 1 } := by
  have hcontent : (d.assembled content row).contentOf slot = content slot.index := by
    rw [DataSet.contentOf_assembled (by rw [hown]; exact hindex), hown]
  have hheld : (d.assembled content row).heldView slot channel = .ok ⟨channel, slot.index⟩ := by
    unfold DataSet.heldView
    rw [hcontent, hview]
  have hrow : (d.assembled content row).row ⟨channel, slot.index⟩ = row ⟨channel, slot.index⟩ :=
    DataSet.row_assembled hchannel hindex
  have hrate' : (d.assembled content row).irRate = .int rate := hrate
  refine ⟨_, Signal.size_fitted fine.size (r.resampled (inUse d (row ⟨channel, slot.index⟩))), ?_⟩
  unfold addTo
  rw [Stage.tick_bind, Stage.data_bind]
  simp only [hs, hcontent, hdelay]
  rw [Stage.bind_of_ok (Stage.ofShape_of_ok hheld), hrow, hrate']
  have honset := ofResponse_eq hr hfine (inUse d (row ⟨channel, slot.index⟩))
  unfold inUse at honset ⊢
  rw [show (d.assembled content row).irPoints = d.irPoints from rfl, honset]
  simp only [DataSet.setContent_assembled, hown]
  rfl

/-- A slot that can be timed: it has a storage index of its own, where it views its rows and has a delay
for every channel. -/
structure Ready (d : DataSet α) (content : Nat → Content α) (slot : Slot α) : Prop where
  bound : slot.index < d.irCount
  own : slot.content = slot.index
  views : ViewsOwn d content slot
  delays : (content slot.index).delays.length = d.channels

/-- The channels of a slot from one on. -/
theorem addChannels_eq (hr : Tenfold r rate) (hrate : d.irRate = .int rate) {slot : Slot α} {content : Nat → Content α}
    (hslot : Ready d content slot) (hlength : 0 < length) :
    ∀ (n first : Nat) (fine : Array α) (s : Session α), first + n = d.channels → fine.size = length →
      s.data = d.assembled
        (Function.update content slot.index (timed d rate row length first slot.index (content slot.index))) row →
      ∃ fine', fine'.size = length ∧
        (List.range' first n).foldlM (fun fine channel => addTo r fine slot channel) fine s = .ok fine'
          { s with
            data := d.assembled (Function.update content slot.index
              (timed d rate row length d.channels slot.index (content slot.index))) row
            count := s.count + n }
  | 0, first, fine, s, hfirst, hfine, hs => by
    obtain rfl : first = d.channels := by omega
    exact ⟨fine, hfine, by rw [← hs]; rfl⟩
  | n + 1, first, fine, s, hfirst, hfine, hs => by
    have hchannel : first < d.channels := by omega
    have hdelay : first < (content slot.index).delays.length := by rw [hslot.delays]; exact hchannel
    have hpos : 0 < fine.size := by omega
    obtain ⟨fine₁, hfine₁, hadd⟩ := addTo_eq hr hrate hs hslot.bound hslot.own hchannel
      (by rw [Function.update_self]; exact hslot.views first hchannel)
      (by
        rw [Function.update_self, getElem?_delays_timed le_rfl]
        exact List.getElem?_eq_getElem hdelay)
      hpos
    rw [Function.update_idem, Function.update_self, hfine,
      delays_timed_succ (List.getElem?_eq_getElem hdelay)] at hadd
    obtain ⟨fine', hfine', hrest⟩ := addChannels_eq hr hrate hslot hlength n (first + 1) fine₁
      { s with
        data := d.assembled (Function.update content slot.index
          (timed d rate row length (first + 1) slot.index (content slot.index))) row
        count := s.count + 1 } (by omega) (hfine₁.trans hfine) rfl
    refine ⟨fine', hfine', ?_⟩
    rw [List.range'_succ, List.foldlM_cons, Stage.bind_of_ok hadd]
    refine hrest.trans ?_
    rw [Nat.add_assoc s.count, Nat.add_comm 1 n]

/-- The contents with those of the given slots timed. -/
def timedAll (d : DataSet α) (rate : Int) (row : RowRef → Array α) (length : Nat) (slots : List (Slot α))
    (content : Nat → Content α) (place : Nat) : Content α :=
  if place ∈ slots.map Slot.index then timed d rate row length d.channels place (content place) else content place

/-- Slots one after another; they have contents of their own, so that each is timed as it was before. -/
theorem addSlots_eq (hr : Tenfold r rate) (hrate : d.irRate = .int rate) (hlength : 0 < length) :
    ∀ (slots : List (Slot α)) (content : Nat → Content α) (fine : Array α) (s : Session α),
      (slots.map Slot.index).Nodup → (∀ slot ∈ slots, Ready d content slot) → fine.size = length →
      s.data = d.assembled content row →
      ∃ fine', slots.foldlM (addToSlot r d.channels) fine s = .ok fine'
        { s with
          data := d.assembled (timedAll d rate row length slots content) row
          count := s.count + d.channels * slots.length }
  | [], content, fine, s, hnodup, hslots, hfine, hs => by
    refine ⟨fine, ?_⟩
    show EStateM.Result.ok fine s = _
    have hnone : timedAll d rate row length [] content = content := funext fun place => if_neg List.not_mem_nil
    rw [hnone, ← hs]
    rfl
  | first :: slots, content, fine, s, hnodup, hslots, hfine, hs => by
    rw [List.map_cons, List.nodup_cons] at hnodup
    have hfirst := hslots first List.mem_cons_self
    have hstart : s.data = d.assembled (Function.update content first.index
        (timed d rate row length 0 first.index (content first.index))) row := by
      rw [timed_zero, Function.update_eq_self]
      exact hs
    obtain ⟨fine₁, hfine₁, hadd⟩ :=
      addChannels_eq hr hrate hfirst hlength d.channels 0 fine s (by omega) hfine hstart
    have hother : ∀ slot ∈ slots, slot.index ≠ first.index := fun slot hslot he =>
      hnodup.1 (by rw [← he]; exact List.mem_map_of_mem hslot)
    obtain ⟨fine', hrest⟩ := addSlots_eq hr hrate hlength slots _ fine₁
      { s with
        data := d.assembled (Function.update content first.index
          (timed d rate row length d.channels first.index (content first.index))) row
        count := s.count + d.channels } hnodup.2
      (fun slot hslot => by
        have hready := hslots slot (List.mem_cons_of_mem _ hslot)
        have hne := hother slot hslot
        refine ⟨hready.bound, hready.own, fun channel hchannel => ?_, ?_⟩
        · rw [Function.update_of_ne hne]
          exact hready.views channel hchannel
        · rw [Function.update_of_ne hne]
          exact hready.delays) hfine₁ rfl
    refine ⟨fine', ?_⟩
    have hsame : timedAll d rate row length slots (Function.update content first.index
        (timed d rate row length d.channels first.index (content first.index))) =
          timedAll d rate row length (first :: slots) content := by
      funext place
      unfold timedAll
      rw [List.map_cons]
      by_cases hplace : place = first.index
      · subst hplace
        rw [if_neg hnodup.1, if_pos List.mem_cons_self, Function.update_self]
      · rw [Function.update_of_ne hplace]
        simp only [List.mem_cons, hplace, false_or]
    rw [List.foldlM_cons]
    unfold addToSlot at hrest ⊢
    rw [List.range_eq_range', Stage.bind_of_ok hadd, ← List.range_eq_range', hrest, hsame, List.length_cons]
    have hcount : s.count + d.channels + d.channels * slots.length = s.count + d.channels * (slots.length + 1) := by
      ring
    rw [← hcount]

end Slots

/-! ## All slots -/

section All

variable {rate : Int} {d : DataSet α} {content : Nat → Content α} {row : RowRef → Array α} {s : Session α}

/-- Without memory for the row of samples nothing is done. -/
theorem addAll_of_noMemory {cause : ShapeFault} (h : checkSize [multiple * s.data.irPoints] = .error cause) :
    addAll s = .error (.shape cause) s := by
  unfold addAll
  rw [Stage.data_bind]
  simp only [h]
  rfl

/-- With it, every measured slot is timed. -/
theorem addAll_eq (hnonzero : ∀ n : Int, 0 < n → Scalar.isZero (Scalar.ofInt n : α) = false) (hpos : 0 < rate)
    (hs : s.data = d.assembled content row) (hrate : d.irRate = .int rate) (hpoints : 1 ≤ d.irPoints)
    (hnodup : (d.measuredSlots.map Slot.index).Nodup) (hslots : ∀ slot ∈ d.measuredSlots, Ready d content slot)
    (hsize : checkSize [multiple * d.irPoints] = .ok ()) :
    ∃ journal, addAll s = .ok ()
      { s with
        data := d.assembled
          (timedAll d rate row (multiple * d.irPoints).toNat d.measuredSlots content) row
        journal
        count := s.count + d.channels * d.measuredSlots.length } := by
  have hirPoints : s.data.irPoints = d.irPoints := by rw [hs]; rfl
  have hirRate : s.data.irRate = .int rate := by rw [hs]; exact hrate
  have hmeasured : s.data.measuredSlots = d.measuredSlots := by rw [hs]; rfl
  have hchannels : s.data.channels = d.channels := by rw [hs]; rfl
  obtain ⟨r, hset, hr⟩ := exists_tenfold hnonzero hpos
  have hlength : 0 < (multiple * d.irPoints).toNat := by
    unfold multiple
    omega
  obtain ⟨fine, hloop⟩ := addSlots_eq hr hrate hlength d.measuredSlots content
    (Array.replicate (multiple * d.irPoints).toNat 0.0) { s with journal := s.journal ++ [r.entry] } hnodup hslots
    Array.size_replicate hs
  refine ⟨s.journal ++ [r.entry], ?_⟩
  unfold addAll
  rw [Stage.data_bind]
  simp only [hirPoints, hirRate, hmeasured, hchannels]
  rw [Stage.bind_of_ok (Stage.ofShape_of_ok hsize),
    Stage.bind_of_ok (show Stage.ofExcept (Resampler.set (.int rate) (.number (fineRate (.int rate)))) s = .ok r s by
      rw [hset]; rfl),
    Stage.reportAll_bind, Stage.discard_run, hloop]

end All

/-! ## A covered grid -/

/-- What adding onsets once makes of a data set: its rows, views and grid are as they were; the delay of a
measured slot for a channel has the time of the peak of the slot's own response added, at ten times the
rate; and a mirrored slot has the content of its source, before and after. -/
structure AddedOnce (rate : Int) (d d' : DataSet α) : Prop where
  rest : d' = { d with contents := d'.contents }
  views : ∀ slot ∈ d.slots, (d'.contentOf slot).views = (d.contentOf slot).views
  channels : ∀ slot ∈ d.slots, (d.contentOf slot).delays.length = d.channels ∧
    (d'.contentOf slot).delays.length = d.channels
  measured : ∀ slot ∈ d.measuredSlots, ∀ channel < d.channels, ∃ (delay : α) (place : Nat),
    (d.contentOf slot).views[channel]? = some (some ⟨channel, slot.index⟩) ∧
    (d.contentOf slot).delays[channel]? = some delay ∧
    (place : Int) < multiple * d.irPoints ∧
    IsPeak (magnitudes (multiple * d.irPoints).toNat (inUse d (d.row ⟨channel, slot.index⟩))) place ∧
    (d'.contentOf slot).delays[channel]? = some (delay + Scalar.ofInt place / Scalar.ofInt (multiple * rate))
  mirrored : ∀ f ∈ d.fields, ∀ (row column : Nat) (slot : Slot α), row < f.evStart →
    f.slot? row column = some slot → ∃ r source, f.rows[row]? = some r ∧
      f.slot? (f.rows.length - 1 - row) (r.slots.length - 1 - column) = some source ∧ source ∈ d.measuredSlots ∧
      d.contentOf slot = d.contentOf source ∧ d'.contentOf slot = d'.contentOf source

omit [Signal α] in
/-- A slot of a mirrored row refers to the content of a measured slot in the mirror row. -/
theorem exists_source {d : DataSet α} {f f' : Field α} {start row column : Nat} {slot : Slot α}
    (hmirrorable : Coverage.Mirrorable d f start) (h : Coverage.MirroredFrom start f f') (hrow : row < start)
    (hslot : f'.slot? row column = some slot) :
    ∃ r source, f'.rows[row]? = some r ∧
      f'.slot? (f'.rows.length - 1 - row) (r.slots.length - 1 - column) = some source ∧
      source ∈ f'.measuredRows.flatMap Row.slots ∧ slot.content = source.content := by
  obtain ⟨r, r', hr, hr', -, hlength, hcells⟩ := h.mirrored row hrow
  obtain ⟨r'', hr'', hcell⟩ := Field.slot?_eq_some.1 hslot
  obtain rfl : r'' = r' := Option.some.inj (hr''.symm.trans hr')
  have hcolumn : column < r.slots.length := by
    rw [← hlength]
    exact (List.getElem?_eq_some_iff.1 hcell).choose
  obtain ⟨source, hsource, hshared⟩ := hcells column _ (List.getElem?_eq_getElem hcolumn)
  obtain ⟨_, _, _, hstart, _⟩ := hmirrorable.mirrors row hrow
  -- the mirror row is not below the start, where the rows are as they were
  have hkept : f'.slot? (f'.rows.length - 1 - row) (r''.slots.length - 1 - column) = some source := by
    rw [← hsource, h.length, hlength]
    unfold Field.slot?
    rw [h.kept _ hstart]
  refine ⟨r'', source, hr', hkept, ?_, ?_⟩
  · obtain ⟨found, hfound, hplace⟩ := Field.slot?_eq_some.1 hkept
    have hevStart : f'.evStart = start := by rw [h.rest]
    refine List.mem_flatMap.2 ⟨found, ?_, List.mem_of_getElem? hplace⟩
    unfold Field.measuredRows
    rw [hevStart, clampIndex_natCast]
    refine Coverage.mem_drop_of_getElem? ?_ hfound
    rw [h.length]
    omega
  · rw [hcell] at hshared
    rw [Option.some.inj hshared]

/-- Every slot refers to the content of a measured one, and those of the mirrored rows to their sources. -/
structure Sourced (d : DataSet α) : Prop where
  shared : ∀ slot ∈ d.slots, ∃ other ∈ d.measuredSlots, slot.content = other.content
  mirrored : ∀ f ∈ d.fields, ∀ (row column : Nat) (slot : Slot α), row < f.evStart →
    f.slot? row column = some slot → ∃ r source, f.rows[row]? = some r ∧
      f.slot? (f.rows.length - 1 - row) (r.slots.length - 1 - column) = some source ∧ source ∈ d.measuredSlots ∧
      slot.content = source.content

theorem sourced_of_check {s t : Session α} (h : Coverage.check s = .ok () t) : Sourced t.data := by
  constructor
  · exact (Coverage.check_ok h).2.2.2
  · intro f' hf' row column slot hrow hslot
    obtain ⟨f, -, start, hmirrorable, hmirrored⟩ := Coverage.exists_of_forall₂ (Coverage.check_covered h).fields f' hf'
    have hevStart : f'.evStart = start := by rw [hmirrored.rest]
    obtain ⟨r, source, hr, hsource, hmeasured, hshared⟩ :=
      exists_source hmirrorable hmirrored (show row < start by omega) hslot
    exact ⟨r, source, hr, hsource, List.mem_flatMap.2 ⟨f', hf', hmeasured⟩, hshared⟩

section Timed

variable {rate : Int} {d : DataSet α} {content : Nat → Content α} {row : RowRef → Array α} {length : Nat}

omit [Signal α] in
theorem Ready.contentOf_eq {slot : Slot α} (h : Ready d content slot) (other : Nat → Content α) :
    (d.assembled other row).contentOf slot = other slot.index := by
  have hcontent : slot.content < d.irCount := by
    rw [h.own]
    exact h.bound
  rw [DataSet.contentOf_assembled hcontent, h.own]

theorem timedAll_measured {slot : Slot α} (hslot : slot ∈ d.measuredSlots) :
    timedAll d rate row length d.measuredSlots content slot.index =
      timed d rate row length d.channels slot.index (content slot.index) :=
  if_pos (List.mem_map_of_mem hslot)

/-- Timing the measured slots adds the onsets once. -/
theorem addedOnce_timedAll (hα : Scalar.Comparable α) (hpoints : 1 ≤ d.irPoints) (hsourced : Sourced d)
    (hready : ∀ slot ∈ d.measuredSlots, Ready d content slot) :
    AddedOnce rate (d.assembled content row)
      (d.assembled (timedAll d rate row (multiple * d.irPoints).toNat d.measuredSlots content) row) := by
  have hcontentOf : ∀ slot ∈ d.slots, ∃ other ∈ d.measuredSlots, ∀ content',
      (d.assembled content' row).contentOf slot = content' other.index := by
    intro slot hslot
    obtain ⟨other, hother, hcontent⟩ := hsourced.shared slot hslot
    refine ⟨other, hother, fun content' => ?_⟩
    rw [← (hready other hother).contentOf_eq content']
    exact DataSet.contentOf_congr hcontent
  constructor
  case rest => rfl
  case views =>
    intro slot hslot
    obtain ⟨other, hother, hsame⟩ := hcontentOf slot hslot
    rw [hsame, hsame, timedAll_measured hother]
    rfl
  case channels =>
    intro slot hslot
    obtain ⟨other, hother, hsame⟩ := hcontentOf slot hslot
    have hlength := (hready other hother).delays
    rw [hsame, hsame, timedAll_measured hother]
    exact ⟨hlength, List.length_mapIdx.trans hlength⟩
  case measured =>
    intro slot hslot channel hchannel
    have hslotReady := hready slot hslot
    have hdelay : channel < (content slot.index).delays.length := by
      rw [hslotReady.delays]
      exact hchannel
    have hlength : 0 < (multiple * d.irPoints).toNat := by
      unfold multiple
      omega
    have hne := magnitudes_ne_nil hlength (inUse d (row ⟨channel, slot.index⟩))
    have hpeak := isPeak_peakPlace hα hne
    have hlt := hpeak.lt
    rw [length_magnitudes] at hlt
    rw [hslotReady.contentOf_eq, hslotReady.contentOf_eq, timedAll_measured (show slot ∈ d.measuredSlots from hslot)]
    refine ⟨_, peakPlace (magnitudes (multiple * d.irPoints).toNat (inUse d (row ⟨channel, slot.index⟩))),
      hslotReady.views channel hchannel, List.getElem?_eq_getElem hdelay, ?_, ?_, ?_⟩
    · show _ < (multiple : Int) * d.irPoints
      omega
    · rw [DataSet.row_assembled hchannel hslotReady.bound]
      exact hpeak
    · unfold timed
      rw [List.getElem?_mapIdx, List.getElem?_eq_getElem hdelay, Option.map_some]
      exact congrArg some (if_pos hchannel)
  case mirrored =>
    intro f hf row' column slot hlow hslot
    obtain ⟨r, source, hr, hsource, hmeasured, hcontent⟩ := hsourced.mirrored f hf row' column slot hlow hslot
    exact ⟨r, source, hr, hsource, hmeasured, DataSet.contentOf_congr hcontent, DataSet.contentOf_congr hcontent⟩

end Timed

section Covered

variable {a b s : Session α}

/-- After a load into a fresh grid and a check of its coverage, the measured slots can be timed. -/
theorem ready_of_check {m : MeasurementSet α} {target : Setting α} (hgrid : Grid.Allocated a.data)
    (hload : Load.responses m target a = .ok () b) (hcheck : Coverage.check b = .ok () s) :
    ∃ d content row, s.data = d.assembled content row ∧ (d.measuredSlots.map Slot.index).Nodup ∧
      ∀ slot ∈ d.measuredSlots, Ready d content slot := by
  obtain ⟨-, data, irRate, irPoints, ⟨content, row, hdata, hwhole, -⟩, hb⟩ := Load.underway_of_responses hgrid hload
  obtain ⟨⟨fields, hs⟩, hsublist, hfull, -⟩ := Coverage.check_ok hcheck
  have hs' : s.data = ({ a.data with irRate, irPoints, fields } : DataSet α).assembled content row := by
    rw [hs, hb, hdata]
    rfl
  have hslots : b.data.slots = a.data.slots := by rw [hb, hdata]; rfl
  have hmeasured : s.data.measuredSlots = ({ a.data with irRate, irPoints, fields } : DataSet α).measuredSlots := by
    rw [hs']; rfl
  rw [hslots] at hsublist
  refine ⟨{ a.data with irRate, irPoints, fields }, content, row, hs', ?_, ?_⟩
  · rw [← hmeasured]
    refine (hsublist.map Slot.index).nodup ?_
    rw [hgrid.indices]
    exact List.nodup_range
  · intro slot hslot
    rw [← hmeasured] at hslot
    have hindex := hgrid.index_lt (hsublist.subset hslot)
    have hown := hgrid.own slot (hsublist.subset hslot)
    have hcontent : b.data.contentOf slot = content slot.index := by
      rw [hb, hdata]
      have hplace : slot.content < a.data.irCount := by
        rw [hown]
        exact hindex
      have hsame : (a.data.assembled content row).contentOf slot = content slot.content :=
        DataSet.contentOf_assembled hplace
      exact hsame.trans (by rw [hown])
    have hpopulated : (content slot.index).populated = true := by
      rw [← hcontent]
      exact hfull slot hslot
    exact ⟨hindex, hown, (hwhole slot.index).views hpopulated, (hwhole slot.index).delays⟩

/-- Onsets are added exactly once. On a grid that was loaded afresh and whose coverage was accepted, the
stage ends well unless there is no memory for its row of samples, in which case nothing has changed; and
then every delay of a measured slot has its onset added, every mirrored slot has the delays of its
source, and each response was counted. -/
theorem addAll_once (hα : Scalar.Comparable α)
    (hnonzero : ∀ n : Int, 0 < n → Scalar.isZero (Scalar.ofInt n : α) = false) {m : MeasurementSet α}
    {layouts : List (Layout α)} {target : Setting α} {before c : Session α}
    (hgrid : Grid.allocate layouts before = .ok () a) (hload : Load.responses m target a = .ok () b)
    (hcheck : Coverage.check b = .ok () c) (hs : s.data = c.data) {rate : Int} (hrate : s.data.irRate = .int rate)
    (hpos : 0 < rate) (hpoints : 1 ≤ s.data.irPoints) :
    (∀ cause, checkSize [multiple * s.data.irPoints] = .error cause → addAll s = .error (.shape cause) s) ∧
    (checkSize [multiple * s.data.irPoints] = .ok () → ∃ t, addAll s = .ok () t ∧ AddedOnce rate s.data t.data ∧
      t.count = s.count + s.data.channels * s.data.measuredSlots.length) := by
  refine ⟨fun cause => addAll_of_noMemory, fun hsize => ?_⟩
  obtain ⟨d, content, row, hc, hnodup, hready⟩ := ready_of_check (Grid.allocate_ok hgrid).1 hload hcheck
  have hdata : s.data = d.assembled content row := hs.trans hc
  have hsourced : Sourced d := by
    have hsourced := sourced_of_check hcheck
    rw [hc] at hsourced
    exact ⟨hsourced.shared, hsourced.mirrored⟩
  rw [hdata] at hrate hpoints hsize ⊢
  obtain ⟨journal, hadd⟩ := addAll_eq hnonzero hpos hdata hrate hpoints hnodup hready hsize
  exact ⟨_, hadd, addedOnce_timedAll hα hpoints hsourced hready, rfl⟩

end Covered

/-- The three responses of the upper half of a small sphere have their onsets added, two channels each; the
lower pole shares the delays of the upper one. -/
theorem addAll_once_upperHalf : ∃ a b c t : Session ℚ,
    Grid.allocate [Load.smallSphere] Load.roomForThree = .ok () a ∧
    Load.responses MeasurementSet.upperHalf (.int 96000) a = .ok () b ∧ Coverage.check b = .ok () c ∧
    c.data.irRate = .int 96000 ∧ (0 : Int) < 96000 ∧ 1 ≤ c.data.irPoints ∧
    checkSize [multiple * c.data.irPoints] = .ok () ∧ addAll c = .ok () t ∧ AddedOnce 96000 c.data t.data ∧
    t.count = c.count + 6 := by
  obtain ⟨_, c, hrun, hfound⟩ := Stage.exists_ok_and (s := Load.roomForThree)
    (x := do
      Grid.allocate [Load.smallSphere]
      Load.responses MeasurementSet.upperHalf (.int 96000)
      Coverage.check)
    (p := fun c => decide (c.data.irRate = .int 96000 ∧ c.data.irPoints = 3 ∧ c.data.channels = 2 ∧
      c.data.measuredSlots.length = 3)) (by decide +kernel)
  obtain ⟨hrate, hpoints, hchannels, hmeasured⟩ := of_decide_eq_true hfound
  obtain ⟨_, a, hgrid, hrest⟩ := Stage.bind_ok hrun
  obtain ⟨_, b, hload, hcheck⟩ := Stage.bind_ok hrest
  have hpos : (0 : Int) < 96000 := by decide
  have hused : 1 ≤ c.data.irPoints := by
    rw [hpoints]
    decide
  have hsize : checkSize [multiple * c.data.irPoints] = .ok () := by
    rw [hpoints]
    decide +kernel
  have hnonzero : ∀ n : Int, 0 < n → Scalar.isZero (Scalar.ofInt n : ℚ) = false := by
    intro n hn
    rw [← Bool.not_eq_true, Exact.isZero_iff, Exact.ofInt_eq]
    exact_mod_cast hn.ne'
  obtain ⟨t, hadd, honce, hcount⟩ :=
    (addAll_once Exact.comparable hnonzero hgrid hload hcheck rfl hrate hpos hused).2 hsize
  rw [hchannels, hmeasured] at hcount
  exact ⟨a, b, c, t, hgrid, hload, hcheck, hrate, hpos, hused, hsize, hadd, honce, hcount⟩

end Onset

end HrirAtlas
