import HrirAtlas.MeasurementFile
import HrirAtlas.Proofs.Exact.Signal
import HrirAtlas.Proofs.Import.Start
import HrirAtlas.Proofs.MeasurementFile.Nested

/-
What the reader accepts is of one piece: its attributes come apart, are given their shapes by
different checks, and agree with each other in the numbers of measurements and receivers. So the
loader finds a response, and a delay where there are delays, for every measurement and every channel
that a data set for the measurements has.
-/

namespace HrirAtlas

variable {α : Type}

/-! ## Consistent sets -/

/-- Delays for so many measurements and receivers have the shape that their kind says. -/
def DelayKind.Describes (kind : DelayKind) (delays : Option (Tensor α)) (measurements receivers : Nat) : Prop :=
  match kind with
  | .absent => delays = none
  | .perReceiver => ∃ t, delays = some t ∧ t.shape = [1, receivers]
  | .perMeasurement => ∃ t, delays = some t ∧ t.shape = [measurements, receivers]

namespace MeasurementSet

/-- One emitter, one or two receivers, a response for every position and receiver, and delays for the
receivers or for each response, or none. -/
structure Consistent (m : MeasurementSet α) (receivers points : Nat) : Prop where
  emitters : m.emitters = 1
  ears : receivers = 1 ∨ receivers = 2
  responses : m.responses.shape = [m.positions.length, receivers, points]
  delays : m.delayKind.Describes m.delays m.positions.length receivers

section Consistent

variable {m : MeasurementSet α} {receivers points : Nat}

theorem Consistent.response (h : m.Consistent receivers points) {measurement receiver : Nat}
    (hm : measurement < m.positions.length) (hr : receiver < receivers) :
    ∃ samples, m.response measurement receiver = .ok ⟨[points], samples⟩ :=
  ⟨_, Tensor.part_natCast_three h.responses hm hr⟩

theorem Consistent.delay (h : m.Consistent receivers points) {measurement receiver : Nat}
    (hm : measurement < m.positions.length) (hr : receiver < receivers) :
    ∃ delay, m.delay measurement receiver = .ok delay ∧ ∀ t, delay = some t → t.shape = [] := by
  have hdelays := h.delays
  unfold MeasurementSet.delay delay.given
  cases hkind : m.delayKind with
  | absent => exact ⟨none, rfl, nofun⟩
  | perReceiver =>
    rw [hkind] at hdelays
    obtain ⟨t, ht, hshape⟩ := hdelays
    have hpart := Tensor.part_natCast_two hshape Nat.zero_lt_one hr
    rw [Nat.cast_zero] at hpart
    simp only [ht, hpart]
    exact ⟨_, rfl, by rintro _ ⟨⟩; rfl⟩
  | perMeasurement =>
    rw [hkind] at hdelays
    obtain ⟨t, ht, hshape⟩ := hdelays
    simp only [ht, Tensor.part_natCast_two hshape hm hr]
    exact ⟨_, rfl, by rintro _ ⟨⟩; rfl⟩

/-- A consistent set whose arrays have a value for every place is as the loader expects it. -/
theorem Consistent.wellShaped (h : m.Consistent receivers points)
    (hresponses : m.responses.Full) (hdelays : ∀ t, m.delays = some t → t.Full) : m.WellShaped receivers points := by
  have hshapes := h.delays
  unfold Tensor.Full at hresponses hdelays
  refine ⟨⟨h.responses, ?_, ?_⟩, h.ears⟩
  · rw [hresponses, h.responses]
    simp [Nat.mul_assoc]
  · cases hkind : m.delayKind with
    | absent => trivial
    | perReceiver =>
      rw [hkind] at hshapes
      obtain ⟨t, ht, hshape⟩ := hshapes
      exact ⟨t, ht, hshape, by rw [hdelays t ht, hshape]; simp⟩
    | perMeasurement =>
      rw [hkind] at hshapes
      obtain ⟨t, ht, hshape⟩ := hshapes
      exact ⟨t, ht, hshape, by rw [hdelays t ht, hshape]; simp⟩

/-- A data set for the measurements has no channel without a receiver. -/
theorem Consistent.channels_le [Signal α] (h : m.Consistent receivers points) {options : ImportOptions α}
    {d : DataSet α} {size : Number α} (hstart : Import.start m options = .ok (d, size)) : d.channels ≤ receivers := by
  unfold Import.start at hstart
  obtain ⟨r, hr, hstart⟩ := except_bind_ok hstart
  obtain ⟨n, -, hstart⟩ := except_bind_ok hstart
  obtain ⟨fftSize, -, hstart⟩ := except_bind_ok hstart
  obtain ⟨_, -, hstart⟩ := except_bind_ok hstart
  obtain ⟨rate, -, hstart⟩ := except_bind_ok hstart
  cases hstart
  have hreceivers : m.receivers = .ok receivers := by
    unfold MeasurementSet.receivers Tensor.axisLength
    rw [h.responses]
    rfl
  rw [hreceivers] at hr
  cases hr
  exact Import.channels_le (by rcases h.ears with rfl | rfl <;> decide) rfl

end Consistent

end MeasurementSet

/-! ## Arrays of a file -/

/-- The array of an attribute is full. Nested lists that make an array make a full one. -/
def Attribute.Full : Attribute α → Prop
  | .given _ => True
  | .array values => values.Full

theorem Attribute.Full.tensor [Scalar α] {a : Attribute α} (h : a.Full) {t : Tensor α} (ht : a.tensor = .ok t) :
    t.Full := by
  cases a with
  | given value => exact Nested.full_of_tensor ht
  | array values =>
    cases ht
    exact h

theorem Tensor.length_rows : ∀ values : List α, (triples.rows values).length = values.length / 3
  | [] | [_] | [_, _] => by simp [triples.rows]
  | a :: b :: c :: rest => by
    rw [triples.rows, List.length_cons, length_rows rest]
    simp only [List.length_cons]
    omega

/-- Rows of three values use up all values. -/
theorem Tensor.size_of_triples {t : Tensor α} {rows : List (α × α × α)} (h : t.triples = .ok rows) :
    t.data.size = 3 * rows.length := by
  unfold triples at h
  split at h
  · cases h
    rw [length_rows, Array.length_toList]
    omega
  · cases h

namespace MeasurementFile

/-- All arrays of a file are full. -/
def Full (f : MeasurementFile α) : Prop := ∀ entry ∈ f.attributes, entry.2.Full

section Attributes

variable {f : MeasurementFile α} {name : String} {a : Attribute α}

theorem Full.of_find? (h : f.Full) (hfind : f.find? name = some a) : a.Full := by
  unfold find? at hfind
  obtain ⟨entry, hentry, rfl⟩ := Option.map_eq_some_iff.1 hfind
  exact h entry (List.mem_of_find?_eq_some hentry)

theorem Full.of_get (h : f.Full) (hget : f.get name = .ok a) : a.Full := by
  unfold get at hget
  split at hget
  · rename_i hfind
    cases hget
    exact h.of_find? hfind
  · cases hget

end Attributes

/-! ## What the checks say -/

section Checks

variable [Trig α] {f : MeasurementFile α} {measurements receivers : Nat}

/-- The positions are made of all values of their attribute, three for each. -/
theorem positions_ok {positions : List (Cartesian α)} (h : f.positions = .ok positions) :
    ∃ source, (f.get "SourcePosition" >>= Attribute.tensor) = .ok source ∧ source.data.size = 3 * positions.length := by
  unfold MeasurementFile.positions at h
  obtain ⟨a, ha, h⟩ := except_bind_ok h
  obtain ⟨source, hsource, h⟩ := except_bind_ok h
  obtain ⟨rows, hrows, h⟩ := except_bind_ok h
  refine ⟨source, by rw [ha]; exact hsource, ?_⟩
  rw [Tensor.size_of_triples (except_mapError_ok hrows)]
  split at h
  · cases h
    rw [List.length_map]
  · cases h
    rw [List.length_map]
  · cases h

/-- The responses are for all measurements and for one or two receivers. -/
theorem responses_ok {t : Tensor α} (h : f.responses measurements = .ok (t, receivers)) :
    (∃ points, t.shape = [measurements, receivers, points]) ∧ (receivers = 1 ∨ receivers = 2) ∧
      (f.Full → t.Full) := by
  unfold MeasurementFile.responses at h
  obtain ⟨a, ha, h⟩ := except_bind_ok h
  obtain ⟨responses, hresponses, h⟩ := except_bind_ok h
  split at h
  · rename_i count ears points hshape
    obtain ⟨hcount, h⟩ := except_guard_ok h
    obtain ⟨hears, h⟩ := except_guard_ok h
    cases h
    refine ⟨⟨points, ?_⟩, by omega, fun hf => (hf.of_get ha).tensor hresponses⟩
    rw [hshape, not_not.1 hcount]
  · cases h

/-- The delays are for all receivers, and once or for all measurements. -/
theorem delays_ok {kind : DelayKind} {delays : Option (Tensor α)}
    (h : f.delays measurements receivers = .ok (kind, delays)) :
    kind.Describes delays measurements receivers ∧
      (f.Full → ∀ t, delays = some t → t.Full) := by
  unfold MeasurementFile.delays at h
  split at h
  · cases h
    exact ⟨rfl, nofun⟩
  · cases h
    exact ⟨rfl, nofun⟩
  · rename_i a _ hfind
    obtain ⟨given, hgiven, h⟩ := except_bind_ok h
    have hfull : f.Full → given.Full := fun hf => (hf.of_find? hfind).tensor hgiven
    simp only at h
    split at h
    · cases h
      exact ⟨rfl, nofun⟩
    -- the shape may gain an axis of length one, and then has as many places as before
    generalize hrow : (if given.shape = [receivers] then { given with shape := [1, receivers] } else given) = row at h
    have hfull : f.Full → row.Full := by
      intro hf
      have hgiven := hfull hf
      rw [← hrow]
      split
      · rename_i hshape
        unfold Tensor.Full at hgiven ⊢
        rw [hgiven, hshape]
        simp
      · exact hgiven
    split at h
    · rename_i hshape
      cases h
      exact ⟨⟨row, rfl, hshape⟩, fun hf => by rintro _ ⟨⟩; exact hfull hf⟩
    split at h
    · rename_i hshape
      cases h
      exact ⟨⟨row, rfl, hshape⟩, fun hf => by rintro _ ⟨⟩; exact hfull hf⟩
    · cases h

theorem measurementSet_ok {m : MeasurementSet α} (h : f.measurementSet = .ok m) :
    ∃ receivers, f.positions = .ok m.positions ∧ m.emitters = 1 ∧
      f.responses m.positions.length = .ok (m.responses, receivers) ∧ f.sampleRate = .ok m.sampleRate ∧
      f.delays m.positions.length receivers = .ok (m.delayKind, m.delays) := by
  unfold measurementSet at h
  obtain ⟨positions, hpositions, h⟩ := except_bind_ok h
  obtain ⟨emitters, -, h⟩ := except_bind_ok h
  obtain ⟨hemitters, h⟩ := except_guard_ok h
  obtain ⟨⟨responses, receivers⟩, hresponses, h⟩ := except_bind_ok h
  obtain ⟨rate, hrate, h⟩ := except_bind_ok h
  obtain ⟨⟨kind, delays⟩, hdelays, h⟩ := except_bind_ok h
  cases h
  exact ⟨receivers, hpositions, not_not.1 hemitters, hresponses, hrate, hdelays⟩

theorem accept_ok {m : MeasurementSet α} (h : f.accept.2 = .ok m) : f.measurementSet = .ok m := by
  unfold accept at h
  split at h
  · cases h
  · rename_i hm
    rw [hm]
    exact h

end Checks

/-! ## What is accepted -/

/-- A set that the reader accepts is consistent: it has a position for each three values of their
attribute, a response for each position and each of one or two receivers, and delays of the shape that
they are said to have. In a data set for it the loader finds the response, and the delay if there are
delays, of every measurement at every channel. If the arrays of the file are full, so are those of the
set. -/
theorem accept_consistent [Signal α] {f : MeasurementFile α} {m : MeasurementSet α} (h : f.accept.2 = .ok m) :
    ∃ receivers points, m.Consistent receivers points ∧
      (∃ source, (f.get "SourcePosition" >>= Attribute.tensor) = .ok source ∧
        source.data.size = 3 * m.positions.length) ∧
      (∀ options d size, Import.start m options = .ok (d, size) →
        ∀ measurement < m.positions.length, ∀ channel < d.channels,
          (∃ samples, m.response measurement channel = .ok ⟨[points], samples⟩) ∧
          ∃ delay, m.delay measurement channel = .ok delay ∧ ∀ t, delay = some t → t.shape = []) ∧
      (f.Full → m.WellShaped receivers points) := by
  obtain ⟨receivers, hpositions, hemitters, hresponses, -, hdelays⟩ := measurementSet_ok (accept_ok h)
  obtain ⟨⟨points, hshape⟩, hears, hresponsesFull⟩ := responses_ok hresponses
  obtain ⟨hdelayShape, hdelaysFull⟩ := delays_ok hdelays
  have hm : m.Consistent receivers points := ⟨hemitters, hears, hshape, hdelayShape⟩
  refine ⟨receivers, points, hm, positions_ok hpositions, ?_, fun hf =>
    hm.wellShaped (hresponsesFull hf) (hdelaysFull hf)⟩
  intro options d size hstart measurement hmeasurement channel hchannel
  have hreceiver : channel < receivers := hchannel.trans_le (hm.channels_le hstart)
  exact ⟨hm.response hmeasurement hreceiver, hm.delay hmeasurement hreceiver⟩

/-- Two measurements at one receiver, with positions and delays in fewer brackets than they could have. -/
def twoFlat : MeasurementFile ℚ where
  attributes := [
    ("SourcePosition", .given (.list [.int 1, .int 0, .int 0, .int (-1), .int 0, .int 0])),
    ("EmitterPosition", .array ⟨[3], #[0, 0, 0]⟩),
    ("Data_IR", .given (.list [.list [.list [.int 1, .int 2]], .list [.list [.int 3, .int 4]]])),
    ("Data_SamplingRate", .given (.int 48000)),
    ("Data_SamplingRate_Units", .given (.text "hertz")),
    ("Data_Delay", .array ⟨[1], #[5]⟩)]

theorem accept_consistent_twoFlat :
    ∃ m, twoFlat.accept.2 = .ok m ∧ m.positions = [⟨1, 0, 0⟩, ⟨-1, 0, 0⟩] ∧ m.delays = some ⟨[1, 1], #[5]⟩ ∧
      ∃ receivers points, m.WellShaped receivers points := by
  have hok : twoFlat.accept.2.isOk = true := by decide +kernel
  have hpositions : (twoFlat.accept.2.toOption.map MeasurementSet.positions) = some [⟨1, 0, 0⟩, ⟨-1, 0, 0⟩] := by
    decide +kernel
  have hdelays : (twoFlat.accept.2.toOption.map MeasurementSet.delays) = some (some ⟨[1, 1], #[5]⟩) := by decide +kernel
  cases hm : twoFlat.accept.2 with
  | error cause => rw [hm] at hok; cases hok
  | ok m =>
    rw [hm] at hpositions hdelays
    obtain ⟨receivers, points, -, -, -, hwell⟩ := accept_consistent hm
    refine ⟨m, rfl, Option.some.inj hpositions, Option.some.inj hdelays, receivers, points, hwell ?_⟩
    intro entry hentry
    simp only [twoFlat, List.mem_cons, List.not_mem_nil, or_false] at hentry
    rcases hentry with rfl | rfl | rfl | rfl | rfl | rfl <;> trivial

end MeasurementFile

end HrirAtlas
