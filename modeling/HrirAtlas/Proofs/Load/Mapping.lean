import HrirAtlas.Proofs.Exact.Signal
import HrirAtlas.Proofs.Load.Responses
import HrirAtlas.Proofs.Signal.Reset

/-
Which measurement a slot gets, and what is stored for it. A measurement takes the slot that its
position has, and no slot is taken twice. Loading that ends well has put every measurement that takes
a slot into it, with views of the rows that belong to the slot, the samples in these rows and the
delays in seconds; rows and contents that no measurement takes are as silent as they were allocated.
-/

namespace HrirAtlas

namespace Load

variable {α : Type} [Signal α]

/-- The position of the measurement has the slot. -/
def Takes (m : MeasurementSet α) (fields : List (Field α)) (measurement : Nat) (slot : Slot α) : Prop :=
  ∃ p, (sphericals m)[measurement]? = some p ∧ Grid.resolve? fields p = .ok (some slot)

/-- A delay in seconds, at a rate; none is no delay. -/
def inSeconds (rate : α) : Option α → α
  | none => 0.0
  | some delay => delay / rate

/-- What a slot holds for a channel when it is filled with a measurement: a view of its own row of the
buffer, there the samples as they are or converted between two rates, cut to the row or continued by
silence, and the delay at the rate before. -/
structure Filled (m : MeasurementSet α) (receivers points : Nat) (rates : Option (Nat × Nat)) (d t : DataSet α)
    (measurement : Nat) (slot : Slot α) (channel : Nat) : Prop where
  view : (t.contentOf slot).views[channel]? = some (some ⟨channel, slot.index⟩)
  row : t.row ⟨channel, slot.index⟩ =
    Signal.fitted d.irSize.toNat (Resampler.atRates rates (m.samplesAt receivers points measurement channel))
  delay : (t.contentOf slot).delays[channel]? =
    some (inSeconds d.irRate.toScalar (m.delayAt receivers measurement channel))

/-- The data set `t` is the empty grid `d` with every measurement that takes a slot filled into it, once
each, and nothing else. -/
structure Mapped (m : MeasurementSet α) (receivers points : Nat) (rates : Option (Nat × Nat)) (d t : DataSet α) :
    Prop where
  known : ∀ p ∈ sphericals m, ∃ slot?, Grid.resolve? d.fields p = .ok slot?
  injective : ∀ {measurement measurement' slot slot'}, Takes m d.fields measurement slot →
    Takes m d.fields measurement' slot' → slot.index = slot'.index → measurement = measurement'
  populated : ∀ slot ∈ d.slots, t.populated slot = true ↔ ∃ measurement, Takes m d.fields measurement slot
  filled : ∀ {measurement slot}, Takes m d.fields measurement slot →
    ∀ channel < d.channels, Filled m receivers points rates d t measurement slot channel
  empty : ∀ slot ∈ d.slots, t.populated slot = false → t.contentOf slot = Content.empty d.channels
  silent : ∀ channel < d.channels, ∀ index < d.irCount,
    (∀ slot ∈ d.slots, slot.index = index → t.populated slot = false) →
    t.row ⟨channel, index⟩ = Array.replicate d.irSize.toNat 0.0
  rest : t = { d with irRate := t.irRate, irPoints := t.irPoints, contents := t.contents, buffer := t.buffer }
  shape : ∃ rows, t.buffer = some ⟨d.channels, d.irCount, d.irSize.toNat, rows⟩ ∧
    rows.size = d.channels * d.irCount

/-- The rates of the conversion that a target rate asks for: none when no rate is given, or the present
one. -/
def Conversion (rate : Number α) (target : Setting α) : Option (Nat × Nat) → Prop
  | none => target.isGiven = false ∨ ∃ n, target = .number n ∧ n.same rate = true
  | some rates => target.isGiven = true ∧ (∀ n, target = .number n → n.same rate = false) ∧
      Resampler.accepted? (.number rate, target) = some rates

/-! ## Owners and slots -/

section Owners

variable {m : MeasurementSet α} {receivers points : Nat} {r : Option (Resampler α)} {d t : DataSet α}
  {rates : Option (Nat × Nat)} {owner : Nat → Option Nat}

theorem Takes.lt {measurement : Nat} {slot : Slot α} (h : Takes m d.fields measurement slot) :
    measurement < m.positions.length := by
  obtain ⟨p, hp, -⟩ := h
  rw [← length_sphericals]
  exact (List.getElem?_eq_some_iff.1 hp).choose

theorem Takes.mem {measurement : Nat} {slot : Slot α} (h : Takes m d.fields measurement slot) : slot ∈ d.slots := by
  obtain ⟨p, -, hr⟩ := h
  exact Grid.resolve?_mem hr

theorem Assigned.owner_of_placed {placed : List Nat} (ha : Assigned d.fields (sphericals m) placed owner)
    {measurement : Nat} {slot : Slot α} (hplaced : measurement ∈ placed) (h : Takes m d.fields measurement slot) :
    owner slot.index = some measurement := by
  obtain ⟨p', slot?, hp', hr', hown⟩ := ha.found measurement hplaced
  obtain ⟨p, hp, hr⟩ := h
  rw [hp] at hp'
  cases hp'
  rw [hr] at hr'
  cases hr'
  exact hown slot rfl

theorem Assigned.owner_of_takes
    (ha : Assigned d.fields (sphericals m) (List.range m.positions.length) owner) {measurement : Nat} {slot : Slot α}
    (h : Takes m d.fields measurement slot) : owner slot.index = some measurement :=
  ha.owner_of_placed (List.mem_range.2 h.lt) h

/-- The owner of the index of a slot takes the slot. -/
theorem Assigned.takes_of_owner (h : Grid.Allocated d) {placed : List Nat}
    (ha : Assigned d.fields (sphericals m) placed owner) {measurement : Nat} {slot : Slot α}
    (hslot : slot ∈ d.slots) (ho : owner slot.index = some measurement) : Takes m d.fields measurement slot := by
  obtain ⟨-, p, slot', hp, hr, he⟩ := ha.owned slot.index measurement ho
  obtain rfl := h.eq_of_index_eq (Grid.resolve?_mem hr) hslot he
  exact ⟨p, hp, hr⟩

theorem storedDelay_eq (hm : m.Shaped receivers points) {measurement channel : Nat}
    (hmeas : measurement < m.positions.length) (hchannel : channel < receivers) (rate : α) :
    storedDelay m rate measurement channel = inSeconds rate (m.delayAt receivers measurement channel) := by
  unfold storedDelay
  rw [hm.measuredDelay_eq hmeas hchannel]
  cases m.delayAt receivers measurement channel <;> rfl

/-- The data set with owners stored is the grid with the measurements mapped, whatever rate it gets. -/
theorem mapped_of_assigned (h : Ready m receivers points d)
    (hr : ∀ signal, converted r signal = Resampler.atRates rates signal)
    (ha : Assigned d.fields (sphericals m) (List.range m.positions.length) owner)
    {irRate : Number α} {irPoints : Int} :
    Mapped m receivers points rates d { loaded m r d owner with irRate, irPoints } := by
  have hcontent : ∀ slot ∈ d.slots, (loaded m r d owner).contentOf slot = ownedContent m d owner slot.index := by
    intro slot hslot
    have hown := h.allocated.own slot hslot
    unfold loaded
    rw [DataSet.contentOf_assembled (by rw [hown]; exact h.allocated.index_lt hslot), hown]
  have hrow : ∀ channel < d.channels, ∀ index < d.irCount,
      (loaded m r d owner).row ⟨channel, index⟩ = ownedRow m r d owner ⟨channel, index⟩ :=
    fun channel hchannel index hindex => DataSet.row_assembled hchannel hindex
  have hpopulated : ∀ slot ∈ d.slots, (loaded m r d owner).populated slot = (owner slot.index).isSome :=
    fun slot hslot => populated_loaded h.allocated hslot
  constructor
  case known =>
    intro p hp
    obtain ⟨measurement, hp⟩ := List.mem_iff_getElem?.1 hp
    have hlt := (List.getElem?_eq_some_iff.1 hp).choose
    rw [length_sphericals] at hlt
    obtain ⟨p', slot?, hp', hr, -⟩ := ha.found measurement (List.mem_range.2 hlt)
    rw [hp] at hp'
    cases hp'
    exact ⟨slot?, hr⟩
  case injective =>
    intro measurement measurement' slot slot' ht ht' he
    have ho := ha.owner_of_takes ht
    rw [he, ha.owner_of_takes ht'] at ho
    exact (Option.some.inj ho).symm
  case populated =>
    intro slot hslot
    refine Iff.trans (b := (owner slot.index).isSome = true) (iff_of_eq (congrArg (· = true) (hpopulated slot hslot))) ?_
    rw [Option.isSome_iff_exists]
    exact exists_congr fun measurement => ⟨ha.takes_of_owner h.allocated hslot, ha.owner_of_takes⟩
  case filled =>
    intro measurement slot ht channel hchannel
    have hslot := ht.mem
    have ho := ha.owner_of_takes ht
    have hreceiver : channel < receivers := lt_of_lt_of_le hchannel h.ears
    have hc : (loaded m r d owner).contentOf slot = storedContent m d.irRate.toScalar d.channels slot.index measurement :=
      (hcontent slot hslot).trans (ownedContent_some ho)
    refine ⟨?_, ?_, ?_⟩
    · show ((loaded m r d owner).contentOf slot).views[channel]? = _
      rw [hc, storedContent, List.getElem?_map, List.getElem?_range hchannel, Option.map_some]
    · show (loaded m r d owner).row _ = _
      rw [hrow channel hchannel slot.index (h.allocated.index_lt hslot), ownedRow_some ho, storedRow, hr,
        h.shaped.samples_eq ht.lt hreceiver]
    · show ((loaded m r d owner).contentOf slot).delays[channel]? = _
      rw [hc, storedContent, List.getElem?_map, List.getElem?_range hchannel, Option.map_some,
        storedDelay_eq h.shaped ht.lt hreceiver]
  case empty =>
    intro slot hslot hfree
    have hnone : owner slot.index = none :=
      Option.isNone_iff_eq_none.1 (Option.isSome_eq_false_iff.1 ((hpopulated slot hslot).symm.trans hfree))
    exact (hcontent slot hslot).trans (ownedContent_none hnone)
  case silent =>
    intro channel hchannel index hindex hfree
    have hnone : owner index = none := by
      rw [Option.eq_none_iff_forall_ne_some]
      intro measurement ho
      -- an owned index is the index of a slot, and that slot is populated
      obtain ⟨-, p, slot, -, hr, rfl⟩ := ha.owned index measurement ho
      have hslot := Grid.resolve?_mem hr
      have hfalse := (hpopulated slot hslot).symm.trans (hfree slot hslot rfl)
      rw [ho] at hfalse
      cases hfalse
    exact (hrow channel hchannel index hindex).trans (ownedRow_none hnone)
  case rest => rfl
  case shape => exact ⟨_, rfl, Array.size_ofFn⟩

end Owners

/-! ## Loading -/

section Loading

variable {m : MeasurementSet α} {receivers points : Nat} {target : Setting α} {s t : Session α}

theorem isConversion_eq_false {rate : Number α} : isConversion rate target = false ↔
    target.isGiven = false ∨ ∃ n, target = .number n ∧ n.same rate = true := by
  unfold isConversion
  cases target with
  | number n => cases (Setting.number n).isGiven <;> simp
  | _ => simp

/-- A converter converts between the rates that are asked for. -/
theorem exists_conversion {rate : Number α} {r : Option (Resampler α)} (h : converter? rate target s = .ok r t) :
    ∃ rates, Conversion rate target rates ∧ ∀ signal, converted r signal = Resampler.atRates rates signal := by
  obtain ⟨-, hsome, hset⟩ := converter?_ok h
  cases r with
  | none =>
    refine ⟨none, isConversion_eq_false.1 ?_, fun _ => rfl⟩
    rw [← Bool.not_eq_true, ← hsome]
    nofun
  | some r =>
    have hasked : isConversion rate target = true := hsome.1 rfl
    obtain ⟨hgiven, hother⟩ := not_or.1 (mt isConversion_eq_false.2 (ne_false_of_eq_true hasked))
    cases hrates : Resampler.accepted? (.number rate, target) with
    | none =>
      obtain ⟨cause, hrefused⟩ := Resampler.set_refused hrates
      rw [hset r rfl] at hrefused
      cases hrefused
    | some rates =>
      refine ⟨some rates, ⟨eq_true_of_ne_false hgiven, fun n hn => ?_, hrates⟩, ?_⟩
      · exact Bool.eq_false_iff.2 fun hsame => hother ⟨n, hn, hsame⟩
      · have haccepted := Resampler.set_accepted hrates
        rw [hset r rfl] at haccepted
        cases haccepted
        exact Resampler.resampled_between rates.1 rates.2

/-- Loading into an allocated grid that ends well has put every measurement whose position has a slot
into that slot, one measurement to a slot, and has counted all measurements. -/
theorem responses_mapped {layouts : List (Layout α)} {s₀ : Session α} (hs : Grid.allocate layouts s₀ = .ok () s)
    (hm : m.Shaped receivers points) (hears : s.data.channels ≤ receivers) (hroom : (points : Int) ≤ s.data.irSize)
    (h : responses m target s = .ok () t) :
    ∃ rates, Conversion s.data.irRate target rates ∧ Mapped m receivers points rates s.data t.data ∧
      t.count = s.count + m.positions.length := by
  obtain ⟨hallocated, -⟩ := Grid.allocate_ok hs
  have hready : Ready m receivers points s.data := ⟨hm, hallocated, hears, by omega⟩
  obtain ⟨r, u, owner, hconverter, hassigned, hfinish⟩ := (responses_ok_iff hready rfl).1 h
  obtain ⟨irRate, irPoints, ht⟩ := finish_ok hfinish
  have hu : u.count = s.count := by rw [(converter?_ok hconverter).1]
  obtain ⟨rates, hconversion, hr⟩ := exists_conversion hconverter
  refine ⟨rates, hconversion, ?_, ?_⟩
  · rw [ht]
    exact mapped_of_assigned hready hr hassigned
  · rw [ht, ← hu]

end Loading

/-- A session without a grid, with room for three samples in a row. -/
def roomForThree : Session ℚ :=
  { data := { DataSet.fresh with stereo := true, irRate := .int 48000, irPoints := 2, irSize := 3 } }

/-- A sphere with a pole, two points of the horizon and a pole. -/
def smallSphere : Layout ℚ := { distance := 1, evLimit := 90, evStart := 1, azCounts := [1, 2, 1] }

theorem responses_mapped_upperHalf : ∃ s t, Grid.allocate [smallSphere] roomForThree = .ok () s ∧
    MeasurementSet.upperHalf.Shaped 2 2 ∧ s.data.channels ≤ 2 ∧ ((2 : Nat) : Int) ≤ s.data.irSize ∧
    responses MeasurementSet.upperHalf (.int 96000) s = .ok () t ∧
    ∃ rates, Conversion s.data.irRate (.int 96000) rates ∧ Mapped MeasurementSet.upperHalf 2 2 rates s.data t.data ∧
      t.count = s.count + 3 := by
  obtain ⟨_, t, hboth⟩ := Stage.exists_ok (s := roomForThree)
    (x := do Grid.allocate [smallSphere]; responses MeasurementSet.upperHalf (.int 96000)) (by decide +kernel)
  obtain ⟨_, s, hs, ht⟩ := Stage.bind_ok hboth
  obtain ⟨-, fields, contents, irCount, buffer, -, hdata⟩ := Grid.allocate_ok hs
  have hears := s.data.channels_le_two
  have hroom : ((2 : Nat) : Int) ≤ s.data.irSize := by rw [hdata]; exact Int.le_of_lt (show (2 : Int) < 3 by decide)
  have hm := MeasurementSet.upperHalf_wellShaped.shaped
  exact ⟨s, t, hs, hm, hears, hroom, ht, responses_mapped hs hm hears hroom ht⟩

end Load

end HrirAtlas
