import HrirAtlas.Proofs.MeasurementFile.Accepted
import HrirAtlas.Scalar.Binary64

/-
How reading a measurement file ends. What the checks find is a fault of formats, but an attribute is
converted before it is checked, and a conversion stops with a fault of its own. The rate is held
against its bounds by two comparisons, which a value that is no number passes.
-/

namespace HrirAtlas

variable {α : Type}

/-! ## Conversions -/

/-- The kinds of faults with which the conversion of an attribute can stop. -/
def conversionKinds : List FaultKind := [.attribute, .value, .type, .overflow]

theorem Fault.kind_setting (cause : SettingFault) : (.setting cause : Fault α).kind ∈ conversionKinds := by
  show (if cause.isValueFault then FaultKind.value else .type) ∈ conversionKinds
  split <;> decide

namespace Nested

theorem shape?_kind {s : Setting α} {cause : ShapeFault} (h : shape? s = .error cause) :
    (.shape cause : Fault α).kind ∈ conversionKinds := by
  have hvalue : FaultKind.value ∈ conversionKinds := by decide
  unfold shape? at h
  simp only at h
  split at h
  · cases h
  split at h
  · cases h
    exact hvalue
  · cases h
    exact hvalue

variable [Scalar α] {fault : Fault α}

theorem element_kind {s : Setting α} (h : element s = .error fault) : fault.kind ∈ conversionKinds := by
  have hoverflow : FaultKind.overflow ∈ conversionKinds := by decide
  unfold element at h
  split at h
  · cases h
  · simp only at h
    split at h
    · cases h
      exact hoverflow
    · cases h
  · split at h
    · cases h
    · cases h
      exact Fault.kind_setting _
  · cases h
    exact Fault.kind_setting _

mutual

theorem elements_kind : ∀ {s : Setting α}, elements s = .error fault → fault.kind ∈ conversionKinds
  | .list items, h => by
    unfold elements at h
    exact elementsOfAll_kind h
  | .null, h | .number _, h | .text _, h | .map _, h | .date _, h | .instant _, h | .bytes _, h | .set _, h
  | .pair _ _, h => by
    rw [elements_of_no_list (by nofun)] at h
    exact element_kind (except_map_error h)

theorem elementsOfAll_kind : ∀ {items : List (Setting α)}, elementsOfAll items = .error fault →
    fault.kind ∈ conversionKinds
  | [], h => by
    unfold elementsOfAll at h
    cases h
  | item :: rest, h => by
    unfold elementsOfAll at h
    rcases except_bind_error h with h | ⟨first, -, h⟩
    · exact elements_kind h
    rcases except_bind_error h with h | ⟨later, -, h⟩
    · exact elementsOfAll_kind h
    · cases h

end

theorem tensor_kind {s : Setting α} (h : tensor s = .error fault) : fault.kind ∈ conversionKinds := by
  unfold tensor at h
  rcases except_bind_error h with h | ⟨shape, -, h⟩
  · obtain ⟨cause, hcause, rfl⟩ := except_mapError_error h
    exact shape?_kind hcause
  rcases except_bind_error h with h | ⟨values, -, h⟩
  · exact elements_kind h
  · cases h

end Nested

namespace MeasurementFile

variable {f : MeasurementFile α} {fault : Fault α}

/-- The fault tells what is not supported. -/
def Unsupported (fault : Fault α) : Prop := ∃ cause, fault = .format cause

theorem get_error {name : String} (h : f.get name = .error fault) :
    f.find? name = none ∧ fault = .missingAttribute name := by
  unfold get at h
  split at h
  · cases h
  · rename_i hnone
    cases h
    exact ⟨hnone, rfl⟩

theorem find?_of_get {name : String} {a : Attribute α} (h : f.get name = .ok a) : f.find? name = some a := by
  unfold get at h
  split at h
  · rename_i hfind
    cases h
    exact hfind
  · cases h

variable [Trig α]

/-- The conversions of attributes that no check comes before. -/
inductive Unconverted (f : MeasurementFile α) : Fault α → Prop where
  /-- An attribute is not there. -/
  | missing {name : String} (needed : name ∈ ["SourcePosition", "EmitterPosition", "Data_IR", "Data_SamplingRate"])
    (h : f.find? name = none) : Unconverted f (.missingAttribute name)
  /-- An attribute makes no array of numbers. -/
  | array {name : String} {a : Attribute α} {fault : Fault α}
    (numbers : name ∈ ["SourcePosition", "Data_IR", "Data_SamplingRate", "Data_Delay"]) (h : f.find? name = some a)
    (herror : a.tensor = .error fault) : Unconverted f fault
  /-- The coordinates do not come in threes. -/
  | triples {a : Attribute α} {coordinates : Tensor α} {cause : ShapeFault} (h : f.find? "SourcePosition" = some a)
    (hcoordinates : a.tensor = .ok coordinates) (herror : coordinates.triples = .error cause) :
    Unconverted f (.shape cause)
  /-- The emitters make no array. -/
  | emitters {a : Attribute α} {fault : Fault α} (h : f.find? "EmitterPosition" = some a)
    (herror : a.shape = .error fault) : Unconverted f fault
  /-- Whether a unit is given cannot be told. -/
  | unit {a : Attribute α} {fault : Fault α} (h : f.find? "Data_SamplingRate_Units" = some a)
    (herror : a.textIfGiven = .error fault) : Unconverted f fault

/-- Conversions stop for wrong values and kinds of values, and for what is not there or too large. -/
theorem Unconverted.kind_mem (h : f.Unconverted fault) : fault.kind ∈ conversionKinds := by
  have hvalue : FaultKind.value ∈ conversionKinds := by decide
  have hattribute : FaultKind.attribute ∈ conversionKinds := by decide
  cases h with
  | missing => exact hattribute
  | @array _ a _ _ _ herror =>
    cases a with
    | given value => exact Nested.tensor_kind herror
    | array values => cases herror
  | triples _ _ herror =>
    unfold Tensor.triples at herror
    split at herror
    · cases herror
    · cases herror
      exact hvalue
  | @emitters a _ _ herror =>
    cases a with
    | given value =>
      obtain ⟨cause, hcause, rfl⟩ := except_mapError_error herror
      exact Nested.shape?_kind hcause
    | array values => cases herror
  | @unit a _ _ herror =>
    cases a with
    | given value => cases herror
    | array values =>
      unfold Attribute.textIfGiven at herror
      simp only at herror
      split at herror
      · cases herror
      · cases herror
        exact hvalue

/-! ## Checks -/

theorem positions_error (h : f.positions = .error fault) : Unsupported fault ∨ f.Unconverted fault := by
  unfold positions at h
  rcases except_bind_error h with h | ⟨a, ha, h⟩
  · obtain ⟨hnone, rfl⟩ := get_error h
    exact .inr (.missing (by decide) hnone)
  rcases except_bind_error h with h | ⟨coordinates, hcoordinates, h⟩
  · exact .inr (.array (by decide) (find?_of_get ha) h)
  rcases except_bind_error h with h | ⟨rows, -, h⟩
  · obtain ⟨cause, hcause, rfl⟩ := except_mapError_error h
    exact .inr (.triples (find?_of_get ha) hcoordinates hcause)
  split at h
  · cases h
  · cases h
  · cases h
    exact .inl ⟨_, rfl⟩

theorem emitters_error (h : f.emitters = .error fault) : f.Unconverted fault := by
  unfold emitters at h
  rcases except_bind_error h with h | ⟨a, ha, h⟩
  · obtain ⟨hnone, rfl⟩ := get_error h
    exact .missing (by decide) hnone
  rcases except_bind_error h with h | ⟨shape, -, h⟩
  · exact .emitters (find?_of_get ha) h
  split at h
  · cases h
  · cases h

theorem responses_error {measurements : Nat} (h : f.responses measurements = .error fault) :
    Unsupported fault ∨ f.Unconverted fault := by
  unfold responses at h
  rcases except_bind_error h with h | ⟨a, ha, h⟩
  · obtain ⟨hnone, rfl⟩ := get_error h
    exact .inr (.missing (by decide) hnone)
  rcases except_bind_error h with h | ⟨responses, -, h⟩
  · exact .inr (.array (by decide) (find?_of_get ha) h)
  split at h
  · rcases except_guard_error h with rfl | h
    · exact .inl ⟨_, rfl⟩
    rcases except_guard_error h with rfl | h
    · exact .inl ⟨_, rfl⟩
    · cases h
  · cases h
    exact .inl ⟨_, rfl⟩

theorem sampleRate_error (h : f.sampleRate = .error fault) : Unsupported fault ∨ f.Unconverted fault := by
  unfold sampleRate at h
  rcases except_bind_error h with h | ⟨unit, -, h⟩
  · cases hunit : f.find? "Data_SamplingRate_Units" with
    | none => rw [hunit] at h; cases h
    | some a => rw [hunit] at h; exact .inr (.unit hunit h)
  rcases except_guard_error h with rfl | h
  · exact .inl ⟨_, rfl⟩
  rcases except_guard_error h with rfl | h
  · exact .inl ⟨_, rfl⟩
  rcases except_bind_error h with h | ⟨a, ha, h⟩
  · obtain ⟨hnone, rfl⟩ := get_error h
    exact .inr (.missing (by decide) hnone)
  rcases except_bind_error h with h | ⟨rates, -, h⟩
  · exact .inr (.array (by decide) (find?_of_get ha) h)
  split at h
  · rcases except_guard_error h with rfl | h
    · exact .inl ⟨_, rfl⟩
    · cases h
  · cases h
    exact .inl ⟨_, rfl⟩

/-- An accepted rate is the only value of its attribute, and neither below the least rate nor above the
greatest. -/
theorem sampleRate_ok {rate : α} (h : f.sampleRate = .ok rate) :
    (∃ rates, (f.get "Data_SamplingRate" >>= Attribute.tensor) = .ok rates ∧ rates.data.toList = [rate]) ∧
      ¬ rate < Scalar.ofInt minRate ∧ ¬ rate > Scalar.ofInt maxRate := by
  unfold sampleRate at h
  obtain ⟨unit, -, h⟩ := except_bind_ok h
  obtain ⟨-, h⟩ := except_guard_ok h
  obtain ⟨-, h⟩ := except_guard_ok h
  obtain ⟨a, ha, h⟩ := except_bind_ok h
  obtain ⟨rates, hrates, h⟩ := except_bind_ok h
  split at h
  · rename_i value hvalue
    obtain ⟨hrange, h⟩ := except_guard_ok h
    cases h
    exact ⟨⟨rates, by rw [ha]; exact hrates, hvalue⟩, not_or.1 hrange⟩
  · cases h

theorem delays_error {measurements receivers : Nat} (h : f.delays measurements receivers = .error fault) :
    Unsupported fault ∨ f.Unconverted fault := by
  unfold delays at h
  split at h
  · cases h
  · cases h
  rename_i a _ hfind
  rcases except_bind_error h with h | ⟨given, -, h⟩
  · exact .inr (.array (by decide) hfind h)
  simp only at h
  split at h
  · cases h
  generalize (if given.shape = [receivers] then { given with shape := [1, receivers] } else given) = row at h
  split at h
  · cases h
  split at h
  · cases h
  · cases h
    exact .inl ⟨_, rfl⟩

theorem measurementSet_error (h : f.measurementSet = .error fault) : Unsupported fault ∨ f.Unconverted fault := by
  unfold measurementSet at h
  rcases except_bind_error h with h | ⟨positions, -, h⟩
  · exact positions_error h
  rcases except_bind_error h with h | ⟨emitters, -, h⟩
  · exact .inr (emitters_error h)
  rcases except_guard_error h with rfl | h
  · exact .inl ⟨_, rfl⟩
  rcases except_bind_error h with h | ⟨⟨responses, receivers⟩, -, h⟩
  · exact responses_error h
  rcases except_bind_error h with h | ⟨rate, -, h⟩
  · exact sampleRate_error h
  rcases except_bind_error h with h | ⟨⟨kind, delays⟩, -, h⟩
  · exact delays_error h
  · cases h

/-! ## How reading ends -/

/-- Unless the check of the conventions stops, it changes the report only. -/
theorem read_eq_accept (name : String) (h : ∀ cause, f.verdict ≠ .stopped cause) : (read name (.ok f)).2 = f.accept.2 := by
  unfold read
  cases hverdict : f.verdict with
  | passed => simp only [hverdict]
  | complaint reason => simp only [hverdict]
  | stopped cause => exact absurd hverdict (h cause)

theorem read_stopped (name : String) {cause : ContainerFault} (h : f.verdict = .stopped cause) :
    (read name (.ok f)).2 = .error (.container cause) := by
  unfold read
  simp only [h]

/-- Where a file that cannot be opened is the only other thing to be found under a name, reading ends in
one of four ways. A set is accepted, with the only value of its attribute as the rate, which is neither
below the least rate nor above the greatest; or the file is not supported; or an attribute is not
converted, which is no fault of formats; or the check of the conventions stops, and reading with it. -/
theorem read_outcome (name : String) {found : Except ContainerFault (MeasurementFile α)}
    (hfound : ∀ cause, found = .error cause → ∃ reason, cause = .unreadable reason) :
    (∃ f m, found = .ok f ∧ (read name found).2 = .ok m ∧
      (∃ rates, (f.get "Data_SamplingRate" >>= Attribute.tensor) = .ok rates ∧ rates.data.toList = [m.sampleRate]) ∧
      ¬ m.sampleRate < Scalar.ofInt minRate ∧ ¬ m.sampleRate > Scalar.ofInt maxRate) ∨
    (∃ cause, (read name found).2 = .error (.format cause)) ∨
    (∃ f fault, found = .ok f ∧ (read name found).2 = .error fault ∧ f.Unconverted fault ∧
      fault.kind ∈ conversionKinds) ∨
    ∃ f cause, found = .ok f ∧ f.verdict = .stopped cause ∧ (read name found).2 = .error (.container cause) := by
  cases found with
  | error cause =>
    obtain ⟨reason, rfl⟩ := hfound cause rfl
    exact .inr (.inl ⟨_, rfl⟩)
  | ok f =>
    by_cases hstopped : ∃ cause, f.verdict = .stopped cause
    · obtain ⟨cause, hverdict⟩ := hstopped
      exact .inr (.inr (.inr ⟨f, cause, rfl, hverdict, read_stopped name hverdict⟩))
    rw [read_eq_accept name (not_exists.1 hstopped)]
    cases hset : f.measurementSet with
    | error fault =>
      have haccept : f.accept.2 = .error fault := by unfold accept; rw [hset]
      rcases measurementSet_error hset with ⟨cause, rfl⟩ | hunconverted
      · exact .inr (.inl ⟨cause, haccept⟩)
      · exact .inr (.inr (.inl ⟨f, fault, rfl, haccept, hunconverted, hunconverted.kind_mem⟩))
    | ok m =>
      have haccept : f.accept.2 = .ok m := by unfold accept; rw [hset]
      obtain ⟨receivers, -, -, -, hrate, -⟩ := measurementSet_ok hset
      obtain ⟨honly, hlower, hupper⟩ := sampleRate_ok hrate
      exact .inl ⟨f, m, rfl, haccept, honly, hlower, hupper⟩

theorem read_outcome_twoFlat : ∃ m, (read "two.sofa" (.ok twoFlat)).2 = .ok m ∧
    ¬ m.sampleRate < Scalar.ofInt minRate ∧ ¬ m.sampleRate > Scalar.ofInt maxRate := by
  have hok : (read "two.sofa" (.ok twoFlat)).2.isOk = true := by decide +kernel
  have hfound : ∀ cause, (.ok twoFlat : Except ContainerFault (MeasurementFile ℚ)) = .error cause →
      ∃ reason, cause = .unreadable reason := nofun
  rcases read_outcome "two.sofa" hfound with
    ⟨f, m, -, hm, -, hrange⟩ | ⟨cause, hfault⟩ | ⟨f, fault, -, hfault, -⟩ | ⟨f, cause, -, -, hfault⟩
  · exact ⟨m, hm, hrange⟩
  all_goals
    rw [hfault] at hok
    cases hok

/-- One measurement, with a text for the rate that spells no number. -/
def nanRate : MeasurementFile Float where
  attributes := [
    ("SourcePosition", .given (.list [.list [.int 0, .int 0, .int 1]])),
    ("SourcePosition_Type", .given (.text "spherical")),
    ("EmitterPosition", .given (.list [.list [.int 0, .int 0, .int 0]])),
    ("Data_IR", .given (.list [.list [.list [.int 1, .int 0]]])),
    ("Data_SamplingRate", .given (.list [.text "nan"])),
    ("Data_SamplingRate_Units", .given (.text "hertz")),
    ("Data_Delay", .given .null)]

/-- A rate that is no number passes both comparisons, and the set is accepted with it. -/
theorem read_nanRate : ∃ m, (read "nan.sofa" (.ok nanRate)).2 = .ok m ∧ Scalar.isNumber m.sampleRate = false := by
  have hok : (read "nan.sofa" (.ok nanRate)).2.isOk = true := by decide +kernel
  have hrate : ((read "nan.sofa" (.ok nanRate)).2.toOption.map fun m => Scalar.isNumber m.sampleRate) = some false := by
    decide +kernel
  cases hm : (read "nan.sofa" (.ok nanRate)).2 with
  | error cause => rw [hm] at hok; cases hok
  | ok m =>
    rw [hm] at hrate
    exact ⟨m, rfl, Option.some.inj hrate⟩

end MeasurementFile

end HrirAtlas
