import HrirAtlas.Proofs.Grid.Lookup
import HrirAtlas.Proofs.Load.Mapping
import HrirAtlas.Proofs.Load.Renumber

/-
Two measurements for one slot. Loading stops at the first measurement whose slot an earlier one has
taken, and only there, where the numbers of the load stay in range: every position can then be looked
up, and the samples in use can be counted at another rate. They always do in arithmetic that neither
overflows nor underflows. What is stored by then is what the measurements before it store alone, at the
rate before conversion.
-/

namespace HrirAtlas

/-! ## The first measurements -/

namespace MeasurementSet

variable {α : Type} {m : MeasurementSet α} {receivers points count : Nat}

/-- The first measurements of a set. -/
def first (m : MeasurementSet α) (count : Nat) : MeasurementSet α :=
  { m with
    positions := m.positions.take count
    responses := m.responses.first count
    delays := match m.delayKind with
      | .perMeasurement => m.delays.map (·.first count)
      | _ => m.delays }

theorem length_first (hcount : count ≤ m.positions.length) : (m.first count).positions.length = count :=
  List.length_take_of_le hcount

theorem Shaped.first (h : m.Shaped receivers points) (hcount : count ≤ m.positions.length) :
    (m.first count).Shaped receivers points := by
  have hlength := length_first hcount
  have hsize : count * receivers * points ≤ m.positions.length * receivers * points :=
    Nat.mul_le_mul_right _ (Nat.mul_le_mul_right _ hcount)
  constructor
  case shape =>
    rw [hlength]
    unfold MeasurementSet.first Tensor.first
    rw [h.shape]
  case size =>
    rw [hlength]
    unfold MeasurementSet.first Tensor.first
    simp only [h.shape, List.foldl_cons, List.foldl_nil, Array.size_extract, h.size, Nat.one_mul, Nat.sub_zero,
      ← Nat.mul_assoc]
    exact Nat.min_eq_left hsize
  case delays =>
    have hdelays := h.delays
    rw [hlength]
    unfold MeasurementSet.first
    cases hkind : m.delayKind with
    | absent => trivial
    | perReceiver =>
      rw [hkind] at hdelays
      exact hdelays
    | perMeasurement =>
      rw [hkind] at hdelays
      obtain ⟨t, ht, hshape, htsize⟩ := hdelays
      have hle : count * receivers ≤ m.positions.length * receivers := Nat.mul_le_mul_right _ hcount
      refine ⟨t.first count, by simp only [ht, Option.map_some], ?_, ?_⟩
      · unfold Tensor.first
        rw [hshape]
      · unfold Tensor.first
        simp only [hshape, List.foldl_cons, List.foldl_nil, Array.size_extract, htsize, Nat.one_mul, Nat.sub_zero]
        exact Nat.min_eq_left hle

/-- The first measurements keep their numbers. -/
theorem Shaped.renumbered_first (h : m.Shaped receivers points) (hcount : count ≤ m.positions.length) :
    Renumbered id (m.first count) m := by
  have hlength := length_first hcount
  constructor
  case positions =>
    intro i hi
    rw [hlength] at hi
    exact (List.getElem?_take_of_lt hi).symm
  case responses =>
    intro i hi receiver
    rw [hlength] at hi
    exact (Tensor.part_first h.shape hcount hi _).symm
  case delays =>
    intro i hi receiver
    rw [hlength] at hi
    have hdelays := h.delays
    unfold delay delay.given MeasurementSet.first
    cases hkind : m.delayKind with
    | absent => rfl
    | perReceiver => rfl
    | perMeasurement =>
      rw [hkind] at hdelays
      obtain ⟨t, ht, hshape, -⟩ := hdelays
      simp only [ht, Option.map_some, id]
      rw [Tensor.part_first hshape hcount hi]

end MeasurementSet

namespace Load

variable {α : Type} [Signal α]

theorem getElem?_sphericals_first (m : MeasurementSet α) {count i : Nat} (hi : i < count) :
    (sphericals (m.first count))[i]? = (sphericals m)[i]? := by
  unfold sphericals MeasurementSet.first
  simp only [List.getElem?_map, List.getElem?_take_of_lt hi]

/-- Owners among the first measurements are owners in the set of these alone. -/
theorem Assigned.first {m : MeasurementSet α} {fields : List (Field α)} {count : Nat} {owner : Nat → Option Nat}
    (ha : Assigned fields (sphericals m) (List.range count) owner) :
    Assigned fields (sphericals (m.first count)) (List.range count) owner := by
  constructor
  · intro i hi
    rw [getElem?_sphericals_first m (List.mem_range.1 hi)]
    exact ha.found i hi
  · intro index i hi
    obtain ⟨hplaced, hslot⟩ := ha.owned index i hi
    rw [getElem?_sphericals_first m (List.mem_range.1 hplaced)]
    exact ⟨hplaced, hslot⟩

/-! ## One measurement more -/

section Place

variable {m : MeasurementSet α} {receivers points : Nat} {r : Option (Resampler α)} {d : DataSet α}
  {owner : Nat → Option Nat} {s : Session α}

/-- A measurement whose slot is owned is refused, and nothing is stored for it. -/
theorem place_taken (h : Ready m receivers points d) {positions : List (Spherical α)} {measurement other : Nat}
    {p : Spherical α} {slot : Slot α} (hs : s.data = loaded m r d owner) (hp : positions[measurement]? = some p)
    (hr : Grid.resolve? d.fields p = .ok (some slot)) (howner : owner slot.index = some other) :
    place m positions r measurement s =
      .error (.duplicate (Grid.clockwise p) p.elevation p.distance) { s with count := s.count + 1 } := by
  have hr' : Grid.resolve? (loaded m r d owner).fields p = .ok (some slot) := hr
  have htaken : (loaded m r d owner).populated slot = true := by
    rw [populated_loaded h.allocated (Grid.resolve?_mem hr), howner]
    rfl
  unfold place
  rw [Stage.tick_bind, hp]
  simp only
  rw [Stage.data_bind, hs, Stage.bind_of_ok (Stage.ofArithmetic_of_ok hr')]
  simp only [htaken, if_true]
  rfl

/-- A position that cannot be looked up stops the loop. -/
theorem place_unresolved {positions : List (Spherical α)} {measurement : Nat} {p : Spherical α}
    {cause : ArithmeticFault} (hs : s.data = loaded m r d owner) (hp : positions[measurement]? = some p)
    (hr : Grid.resolve? d.fields p = .error cause) :
    place m positions r measurement s = .error (.arithmetic cause) { s with count := s.count + 1 } := by
  have hr' : Grid.resolve? (loaded m r d owner).fields p = .error cause := hr
  unfold place
  rw [Stage.tick_bind, hp]
  simp only
  rw [Stage.data_bind, hs, hr']
  rfl

/-- How the loop over the measurements ends: with all of them placed, at the first whose slot is owned
by one before it, or at a position that cannot be looked up. -/
inductive LoopEnd (m : MeasurementSet α) (r : Option (Resampler α)) (d : DataSet α) (s : Session α) :
    EStateM.Result (Fault α) (Session α) Unit → Prop
  | placed {owner : Nat → Option Nat}
    (assigned : Assigned d.fields (sphericals m) (List.range m.positions.length) owner) :
    LoopEnd m r d s (.ok () { s with data := loaded m r d owner, count := s.count + m.positions.length })
  | refused {last other : Nat} {owner : Nat → Option Nat} {p : Spherical α} {slot : Slot α}
    (assigned : Assigned d.fields (sphericals m) (List.range last) owner) (position : (sphericals m)[last]? = some p)
    (found : Grid.resolve? d.fields p = .ok (some slot)) (taken : owner slot.index = some other) :
    LoopEnd m r d s (.error (.duplicate (Grid.clockwise p) p.elevation p.distance)
      { s with data := loaded m r d owner, count := s.count + (last + 1) })
  | unresolved {p : Spherical α} {cause : ArithmeticFault} {t : Session α} (position : p ∈ sphericals m)
    (found : Grid.resolve? d.fields p = .error cause) : LoopEnd m r d s (.error (.arithmetic cause) t)

/-- Once the first measurements are placed, the rest of the loop ends in one of these ways. -/
theorem forM_place_rest (h : Ready m receivers points d) :
    ∀ (todo placed : Nat) (owner : Nat → Option Nat), placed + todo = m.positions.length →
      Assigned d.fields (sphericals m) (List.range placed) owner →
      LoopEnd m r d s ((List.range' placed todo).forM (place m (sphericals m) r)
        { s with data := loaded m r d owner, count := s.count + placed })
  | 0, placed, owner, hcount, hassigned => by
    rw [Nat.add_zero] at hcount
    subst hcount
    exact .placed hassigned
  | todo + 1, placed, owner, hcount, hassigned => by
    have hlt : placed < (sphericals m).length := by
      rw [length_sphericals]
      omega
    have hp := List.getElem?_eq_getElem hlt
    have hnext : placed + 1 + todo = m.positions.length := by omega
    show LoopEnd m r d s ((do
      place m (sphericals m) r placed
      (List.range' (placed + 1) todo).forM (place m (sphericals m) r)) _)
    cases hr : Grid.resolve? d.fields (sphericals m)[placed] with
    | error cause =>
      rw [Stage.bind_of_error (place_unresolved rfl hp hr)]
      exact .unresolved (List.getElem_mem hlt) hr
    | ok slot? =>
      cases slot? with
      | none =>
        have hassigned' := hassigned.push_none hp hr
        rw [← List.range_succ] at hassigned'
        rw [Stage.bind_of_ok (place_none rfl hp hr)]
        exact forM_place_rest h todo (placed + 1) owner hnext hassigned'
      | some slot =>
        cases howner : owner slot.index with
        | none =>
          have hassigned' := hassigned.push_some hp hr howner
          rw [← List.range_succ] at hassigned'
          rw [Stage.bind_of_ok (place_free h (length_sphericals m) rfl hp hr howner)]
          exact forM_place_rest h todo (placed + 1) _ hnext hassigned'
        | some other =>
          rw [Stage.bind_of_error (place_taken h rfl hp hr howner)]
          exact .refused hassigned hp hr howner

theorem forM_place_end (h : Ready m receivers points d) (hs : s.data = d) :
    LoopEnd m r d s ((List.range m.positions.length).forM (place m (sphericals m) r) s) := by
  have hstart : s.data = loaded m r d fun _ => none := by rw [loaded_nobody h.allocated, hs]
  have hend := forM_place_rest (r := r) (s := s) h m.positions.length 0 _ (Nat.zero_add _) .nobody
  rw [← hstart, ← List.range_eq_range'] at hend
  exact hend

end Place

/-! ## Conversion -/

section Conversion

/-- The numbers of a load stay in range: every position of the measurements is known to have a slot of the
grid or none, and the samples in use can be counted at the rate that is asked for. -/
structure InRange (m : MeasurementSet α) (out : Int) (d : DataSet α) : Prop where
  known : ∀ p ∈ sphericals m, ∃ slot?, Grid.resolve? d.fields p = .ok slot?
  counted : ∃ points,
    Scalar.ceil (Scalar.ofInt d.irPoints * ((Number.int out).toScalar / d.irRate.toScalar)) = .ok points

theorem ceil_answers (hα : Scalar.Unbounded α) (x : α) : ∃ n, Scalar.ceil x = .ok n := by
  obtain ⟨negative, num, den, hx⟩ := hα.finite x
  unfold Scalar.ceil
  rw [hx]
  cases negative <;> exact ⟨_, rfl⟩

/-- Where no number is too great or too small, all loads into the grid of layouts with steps stay in range. -/
theorem inRange_of_allocate (hα : Scalar.Unbounded α) {layouts : List (Layout α)} {s₀ s : Session α}
    (hspaced : ∀ l ∈ layouts, l.Spaced) (hs : Grid.allocate layouts s₀ = .ok () s) (m : MeasurementSet α) (out : Int) :
    InRange m out s.data :=
  ⟨fun p _ => Grid.resolve?_answers hα (Grid.regular_of_allocate hspaced hs) p, ceil_answers hα _⟩

variable {rate out : Int} {s : Session α}

/-- Positive rates have a converter, where one is needed. -/
theorem converter?_answers {irRate : Number α} (hrate : irRate.truncate = .ok rate) (hpos : 0 < rate) (hout : 0 ≤ out)
    (s : Session α) : ∃ r u, converter? irRate (.int out) s = .ok r u := by
  unfold converter?
  by_cases hconversion : isConversion irRate (.int out : Setting α) = true
  · have hne : out ≠ 0 := by
      rintro rfl
      unfold isConversion at hconversion
      rw [Bool.and_eq_true] at hconversion
      have hgiven : (Number.int 0 : Number α).isGiven = true := hconversion.1
      rw [Number.isGiven_int] at hgiven
      cases hgiven
    have hsource : (Setting.number irRate).toInt = .ok rate := by
      show irRate.truncate.mapError _ = _
      rw [hrate]
      rfl
    rw [if_pos hconversion, Resampler.set_eq hsource (Setting.toInt_int out), if_neg (by omega)]
    exact ⟨_, _, rfl⟩
  · rw [if_neg hconversion]
    exact ⟨_, _, rfl⟩

theorem finish_answers {m : MeasurementSet α} (h : InRange m out s.data) (r : Option (Resampler α)) :
    ∃ t, finish (.int out) r s = .ok () t := by
  obtain ⟨points, hpoints⟩ := h.counted
  unfold finish
  split
  · unfold retime
    rw [Stage.data_bind]
    simp only
    rw [Stage.setData_bind, Stage.bind_of_ok (Stage.ofArithmetic_of_ok hpoints)]
    exact ⟨_, rfl⟩
  · exact ⟨s, rfl⟩

end Conversion

/-! ## The first repeat -/

/-- An earlier measurement has the same slot. -/
def Repeats (m : MeasurementSet α) (fields : List (Field α)) (measurement : Nat) : Prop :=
  ∃ earlier < measurement, ∃ slot, Takes m fields earlier slot ∧ Takes m fields measurement slot

/-- Loading stopped at the first measurement that repeats the slot of an earlier one: it names its
position, and has counted it, and leaves what loading the measurements before it stores, at the rate
and with the count of samples before conversion. -/
structure StoppedAt (m : MeasurementSet α) (target : Setting α) (s : Session α) (last : Nat) (cause : Fault α)
    (t : Session α) : Prop where
  repeats : Repeats m s.data.fields last
  least : ∀ measurement < last, ¬ Repeats m s.data.fields measurement
  cause : ∃ p, (sphericals m)[last]? = some p ∧ cause = .duplicate (Grid.clockwise p) p.elevation p.distance
  count : t.count = s.count + (last + 1)
  unchanged : t.data.irRate = s.data.irRate ∧ t.data.irPoints = s.data.irPoints
  stored : ∃ u, responses (m.first last) target s = .ok () u ∧
    t.data = { u.data with irRate := s.data.irRate, irPoints := s.data.irPoints }

section Repeat

variable {m : MeasurementSet α} {receivers points : Nat} {d : DataSet α} {owner : Nat → Option Nat} {placed : Nat}

/-- Measurements that own their slots do not repeat one. -/
theorem Assigned.not_repeats (ha : Assigned d.fields (sphericals m) (List.range placed) owner) {measurement : Nat}
    (hlt : measurement < placed) : ¬ Repeats m d.fields measurement := by
  rintro ⟨earlier, hearlier, slot, hfirst, hagain⟩
  have howner := ha.owner_of_placed (List.mem_range.2 (hearlier.trans hlt)) hfirst
  rw [ha.owner_of_placed (List.mem_range.2 hlt) hagain] at howner
  exact hearlier.ne' (Option.some.inj howner)

theorem Assigned.repeats (hallocated : Grid.Allocated d)
    (ha : Assigned d.fields (sphericals m) (List.range placed) owner) {slot : Slot α} {other : Nat}
    (htaken : owner slot.index = some other) (htakes : Takes m d.fields placed slot) : Repeats m d.fields placed :=
  ⟨other, List.mem_range.1 (ha.owned slot.index other htaken).1, slot,
    ha.takes_of_owner hallocated htakes.mem htaken, htakes⟩

variable {rate out : Int} {s : Session α}

/-- Loading ends well with no slot repeated, or stops at the first repeat. -/
theorem responses_end (hrange : InRange m out s.data) (h : Ready m receivers points s.data)
    (hrate : s.data.irRate.truncate = .ok rate) (hpos : 0 < rate) (hout : 0 ≤ out) :
    (∃ t, responses m (.int out) s = .ok () t ∧
      ∀ measurement < m.positions.length, ¬ Repeats m s.data.fields measurement) ∨
    ∃ last cause t, responses m (.int out) s = .error cause t ∧ StoppedAt m (.int out) s last cause t := by
  obtain ⟨r, u, hconverter⟩ := converter?_answers hrate hpos hout s
  have hdata : u.data = s.data := by rw [(converter?_ok hconverter).1]
  have hcount : u.count = s.count := by rw [(converter?_ok hconverter).1]
  have hend := forM_place_end (r := r) h hdata
  rw [responses_eq h.shaped, Stage.bind_of_ok hconverter]
  cases hloop : (List.range m.positions.length).forM (place m (sphericals m) r) u with
  | ok b v =>
    rw [hloop] at hend
    cases hend with
    | placed hassigned =>
      obtain ⟨t, ht⟩ := finish_answers
        (s := { u with data := loaded m r s.data _, count := u.count + m.positions.length }) (m := m)
        ⟨hrange.known, hrange.counted⟩ r
      refine .inl ⟨t, ?_, fun measurement hlt => hassigned.not_repeats hlt⟩
      rw [Stage.bind_of_ok hloop]
      exact ht
  | error cause v =>
    rw [hloop] at hend
    cases hend with
    | unresolved hp hr =>
      obtain ⟨slot?, hknown⟩ := hrange.known _ hp
      rw [hr] at hknown
      cases hknown
    | @refused last other owner p slot hassigned hp hr htaken =>
      have hlast : last < m.positions.length := by
        rw [← length_sphericals]
        exact (List.getElem?_eq_some_iff.1 hp).1
      refine .inr ⟨last, _, _, Stage.bind_of_error hloop, ?_⟩
      constructor
      case repeats => exact hassigned.repeats h.allocated htaken ⟨p, hp, hr⟩
      case least => exact fun measurement hlt => hassigned.not_repeats hlt
      case cause => exact ⟨p, hp, rfl⟩
      case count => exact congrArg (· + (last + 1)) hcount
      case unchanged => exact ⟨rfl, rfl⟩
      case stored =>
        have hfirst : Ready (m.first last) receivers points s.data :=
          { h with shaped := h.shaped.first hlast.le }
        have hlength := MeasurementSet.length_first hlast.le
        have hsame : loaded (m.first last) r s.data owner = loaded m r s.data owner := by
          have hbelow : ∀ index i, owner index = some i → i < (m.first last).positions.length := by
            rw [hlength]
            exact hassigned.owner_lt
          have hrenumbered := loaded_renumbered (h.shaped.renumbered_first hlast.le) r s.data hbelow
          simp only [Option.map_id_fun, id] at hrenumbered
          exact hrenumbered.symm
        obtain ⟨w, hw⟩ := finish_answers
          (s := { u with
            data := loaded (m.first last) r s.data owner
            count := u.count + (m.first last).positions.length }) (m := m) ⟨hrange.known, hrange.counted⟩ r
        obtain ⟨irRate, irPoints, hwdata⟩ := finish_ok hw
        refine ⟨w, (responses_ok_iff hfirst rfl).2 ⟨r, u, owner, hconverter, ?_, hw⟩, ?_⟩
        · rw [hlength]
          exact hassigned.first
        · rw [hwdata, hsame]
          rfl

end Repeat

/-- Two measurements for one slot are always refused, and no other set is: loading stops at the first
measurement whose slot an earlier one has taken, with what the measurements before it store. The numbers of
the load are to stay in range, as they do by `inRange_of_allocate` where layouts have steps and arithmetic
neither overflows nor underflows. -/
theorem responses_duplicate_iff {layouts : List (Layout α)} {s₀ s : Session α}
    (hs : Grid.allocate layouts s₀ = .ok () s) {m : MeasurementSet α} {receivers points : Nat}
    (hm : m.Shaped receivers points) (hears : s.data.channels ≤ receivers) (hroom : (points : Int) ≤ s.data.irSize)
    {rate out : Int} (hrate : s.data.irRate.truncate = .ok rate) (hpos : 0 < rate) (hout : 0 ≤ out)
    (hrange : InRange m out s.data) :
    ((∃ azimuth elevation distance t,
        responses m (.int out) s = .error (.duplicate azimuth elevation distance) t) ↔
      ∃ i j slot, i ≠ j ∧ Takes m s.data.fields i slot ∧ Takes m s.data.fields j slot) ∧
    ∀ cause t, responses m (.int out) s = .error cause t → ∃ last, StoppedAt m (.int out) s last cause t := by
  have hready : Ready m receivers points s.data := ⟨hm, (Grid.allocate_ok hs).1, hears, by omega⟩
  rcases responses_end hrange hready hrate hpos hout with ⟨t, ht, hnone⟩ | ⟨last, cause, t, ht, hstopped⟩
  · refine ⟨⟨?_, ?_⟩, fun cause u hu => ?_⟩
    · rintro ⟨azimuth, elevation, distance, u, hu⟩
      rw [ht] at hu
      cases hu
    · rintro ⟨i, j, slot, hne, hi, hj⟩
      rcases lt_or_gt_of_ne hne with hlt | hgt
      · exact absurd ⟨i, hlt, slot, hi, hj⟩ (hnone j hj.lt)
      · exact absurd ⟨j, hgt, slot, hj, hi⟩ (hnone i hi.lt)
    · rw [ht] at hu
      cases hu
  · refine ⟨⟨fun _ => ?_, fun _ => ?_⟩, fun cause' u hu => ?_⟩
    · obtain ⟨earlier, hlt, slot, hfirst, hagain⟩ := hstopped.repeats
      exact ⟨earlier, last, slot, hlt.ne, hfirst, hagain⟩
    · obtain ⟨p, -, hcause⟩ := hstopped.cause
      rw [hcause] at ht
      exact ⟨_, _, _, t, ht⟩
    · rw [ht] at hu
      cases hu
      exact ⟨last, hstopped⟩

/-- Two points of the horizon, and the first of them again. -/
def sameAgain : MeasurementSet ℚ := { MeasurementSet.upperHalf with positions := [⟨1, 0, 0⟩, ⟨-1, 0, 0⟩, ⟨1, 0, 0⟩] }

theorem smallSphere_spaced : smallSphere.Spaced where
  limit := by unfold smallSphere; norm_num
  rows := by decide
  counts := by decide

theorem responses_duplicate_iff_sameAgain : ∃ s, Grid.allocate [smallSphere] roomForThree = .ok () s ∧
    sameAgain.Shaped 2 2 ∧ s.data.channels ≤ 2 ∧ ((2 : Nat) : Int) ≤ s.data.irSize ∧
    s.data.irRate.truncate = .ok 48000 ∧ InRange sameAgain 96000 s.data ∧
    ∃ cause t last, responses sameAgain (.int 96000) s = .error cause t ∧
      StoppedAt sameAgain (.int 96000) s last cause t := by
  have hspaced : ∀ l ∈ [smallSphere], l.Spaced := List.forall_mem_singleton.2 smallSphere_spaced
  obtain ⟨_, s, hs⟩ := Stage.exists_ok (s := roomForThree) (x := Grid.allocate [smallSphere]) (by decide +kernel)
  obtain ⟨-, fields, contents, irCount, buffer, hfields, hdata⟩ := Grid.allocate_ok hs
  have hears := s.data.channels_le_two
  have hroom : ((2 : Nat) : Int) ≤ s.data.irSize := by rw [hdata]; exact Int.le_of_lt (show (2 : Int) < 3 by decide)
  have hm : sameAgain.Shaped 2 2 := ⟨rfl, rfl, _, rfl, rfl, rfl⟩
  have hrate : s.data.irRate.truncate = .ok 48000 := by rw [hdata]; exact Number.truncate_int 48000
  have hfound : Grid.resolve? s.data.fields (Cartesian.toSpherical ⟨1, 0, 0⟩) = .ok (some ⟨0, 1, 1⟩) := by
    have hsame : s.data.fields = (Grid.newFields 0 [smallSphere]).1 := by rw [hdata, hfields]
    rw [hsame]
    decide +kernel
  have hrange : InRange sameAgain 96000 s.data :=
    inRange_of_allocate Exact.unbounded hspaced hs sameAgain 96000
  obtain ⟨hduplicate, hstopped⟩ :=
    responses_duplicate_iff hs hm hears hroom hrate (by decide) (by decide) hrange
  obtain ⟨azimuth, elevation, distance, t, ht⟩ :=
    hduplicate.2 ⟨0, 2, _, by decide, ⟨_, rfl, hfound⟩, ⟨_, rfl, hfound⟩⟩
  obtain ⟨last, hlast⟩ := hstopped _ t ht
  exact ⟨s, hs, hm, hears, hroom, hrate, hrange, _, t, last, ht, hlast⟩

end Load

end HrirAtlas
