import HrirAtlas.Proofs.Parameters.Sources
import HrirAtlas.Signal.Binary64

/-
How the import command ends on parameters that are refused, whatever reads the parameter file. It leaves
with a message on files that do not open, on values of a wrong kind and on values out of their bounds. What
gets past it comes from the parameter file alone: a document that cannot be read for another reason than a
wrong value, and an infinite number where an integer is meant.
-/

namespace HrirAtlas

/-- A fault of a document that is a wrong value, and none of its form. -/
def Yaml.Fault.isWrongValue : Yaml.Fault → Bool
  | codePoint | setting _ | calendar _ => true
  | character | token | structural | reference | value | flag _ | noDigits | noInstant => false

namespace Setting

variable {α : Type} [Scalar α] {value : Setting α} {fault : IntegerFault}

/-- A value that stands for no integer: one of a wrong kind, a text without one, or a number that is none
or infinite. -/
inductive NoInteger : Setting α → IntegerFault → Prop
  | kind (value : Setting α) : NoInteger value (.setting (.noInteger value.kind))
  | text (value : Setting α) (shown : String) : NoInteger value (.setting (.noIntegerText 10 shown))
  | nan (x : α) : NoInteger (.real x) (.arithmetic .nanToInteger)
  | infinite (x : α) : NoInteger (.real x) (.arithmetic .infinityToInteger)

theorem noInteger_of_error (h : value.toInt = .error fault) : NoInteger value fault := by
  unfold toInt at h
  split at h
  · rename_i n
    obtain ⟨cause, hcause, rfl⟩ := except_mapError_error h
    cases n with
    | int n =>
      rw [Number.truncate_int] at hcause
      cases hcause
    | flag on =>
      have hwhole : (Number.flag on : Number α).truncate = .ok on.toNat := Number.truncate_int (α := α) on.toNat
      rw [hwhole] at hcause
      cases hcause
    | real x =>
      unfold Number.truncate Reading.truncate at hcause
      split at hcause
      · cases hcause
        exact .nan x
      · cases hcause
        exact .infinite x
      · cases hcause
  · split at h
    · cases h
    · cases h
      exact .text _ _
  · split at h
    · cases h
    · cases h
      exact .text _ _
  · cases h
    exact .kind _

/-- No plain value is infinite. -/
theorem not_infinite_of_plain (h : CommandLine.Plain value) : value.toInt ≠ .error (.arithmetic .infinityToInteger) := by
  intro hfault
  cases noInteger_of_error hfault
  cases h

end Setting

namespace Parameters

open Setting

section Faults

variable {α : Type} [Scalar α] {file p : Parameters α} {console : List (String × Setting α)} {name : String} {cause : Fault α}

/-- The parameters that an import needs as integers. -/
def wholeNames : List String := ["fft_size", "trunc_size", "threads", "out_rate"]

theorem integer_error (h : p.integer name = .error cause) :
    (p.find? name = none ∧ cause = .missingParameter name) ∨
      ∃ value fault, p.find? name = some value ∧ value.toInt = .error fault ∧ cause = fault.toFault := by
  unfold integer at h
  rcases except_bind_error h with h | ⟨value, hget, h⟩
  · unfold get at h
    cases hfind : p.find? name with
    | none =>
      rw [hfind] at h
      cases h
      exact .inl ⟨rfl, rfl⟩
    | some value =>
      rw [hfind] at h
      cases h
  · rcases except_bind_error h with h | ⟨n, -, h⟩
    · obtain ⟨fault, hint, rfl⟩ := except_mapError_error h
      exact .inr ⟨value, fault, get_eq_ok.1 hget, hint, rfl⟩
    · cases h

/-- A check that fails refuses a value that is out of its bounds, or meets one that stands for no integer,
or lacks one. -/
theorem check_error (h : p.check = .error cause) :
    (∃ refused, cause = .parameter refused) ∨ (∃ name ∈ wholeNames, p.integer name = .error cause) ∨
      p.get "channel_mode" = .error cause := by
  unfold check at h
  rcases except_bind_error h with h | ⟨_, -, h⟩
  · exact .inr (.inl ⟨_, by simp [wholeNames], h⟩)
  rcases except_guard_error h with rfl | h
  · exact .inl ⟨_, rfl⟩
  rcases except_bind_error h with h | ⟨_, -, h⟩
  · exact .inr (.inl ⟨_, by simp [wholeNames], h⟩)
  rcases except_guard_error h with rfl | h
  · exact .inl ⟨_, rfl⟩
  rcases except_bind_error h with h | ⟨_, -, h⟩
  · exact .inr (.inl ⟨_, by simp [wholeNames], h⟩)
  rcases except_guard_error h with rfl | h
  · exact .inl ⟨_, rfl⟩
  rcases except_bind_error h with h | ⟨_, -, h⟩
  · exact .inr (.inl ⟨_, by simp [wholeNames], h⟩)
  rcases except_guard_error h with rfl | h
  · exact .inl ⟨_, rfl⟩
  rcases except_bind_error h with h | ⟨_, -, h⟩
  · exact .inr (.inr h)
  split at h
  · cases h
    exact .inl ⟨_, rfl⟩
  · cases h

/-- A load that fails refuses a value that is out of its bounds, or meets one that stands for no integer. -/
theorem load_error (h : load file console = .error cause) :
    (∃ refused, cause = .parameter refused) ∨ ∃ name ∈ wholeNames, ∃ value fault,
      (merged file console).find? name = some value ∧ value.toInt = .error fault ∧ cause = fault.toFault := by
  obtain ⟨mode, hmode⟩ := exists_mode file console
  rw [load_of_mode hmode] at h
  rcases check_error (except_map_error h) with hrefused | ⟨name, hname, hinteger⟩ | hget
  · exact .inl hrefused
  · right
    have hother : "channel_mode" ≠ name := by
      rintro rfl
      revert hname
      decide
    rw [integer_set _ _ hother] at hinteger
    have hknown : known (defaults : Parameters α).entries (.text name) = true := by
      simp only [wholeNames, List.mem_cons, List.not_mem_nil, or_false] at hname
      rcases hname with rfl | rfl | rfl | rfl <;> simp [known, defaults]
    rcases integer_error hinteger with ⟨hnone, -⟩ | ⟨value, fault, hfault⟩
    · obtain ⟨value, hvalue⟩ := exists_find?_merged file console hknown
      rw [hvalue] at hnone
      cases hnone
    · exact ⟨name, hname, value, fault, hfault⟩
  · rw [get_eq_ok.2 find?_set_self] at hget
    cases hget

/-- An infinite number among the merged parameters stands in the file. -/
theorem infinite_of_file (hfile : Distinct file.entries) (hconsole : (console.map Prod.fst).Nodup)
    (hplain : ∀ e ∈ console, CommandLine.Plain e.2) {value : Setting α} (hvalue : (merged file console).find? name = some value)
    (hinfinite : value.toInt = .error (.arithmetic .infinityToInteger)) : (.text name, value) ∈ file.entries := by
  cases chosen_of_mem hfile hconsole (mem_of_valueOf? hvalue) with
  | console _ hgiven _ => exact absurd hinfinite (not_infinite_of_plain (hplain _ hgiven))
  | file _ hgiven => exact hgiven
  | default _ _ hgiven =>
    cases noInteger_of_error hinfinite
    simp [defaults] at hgiven

end Faults

end Parameters

/-! ## The command -/

namespace ImportCommand

open Setting Parameters

variable {α : Type} [Signal α] {read : Reader α} {look : String → Except FileFault String} {request : Request α}
  {arguments : List String} {cause : Fault α} {file : Parameters α}

/-- The parameters that a command line asks for, from what is found under the name of a file. -/
def parameters (read : Reader α) (look : String → Except FileFault String) (request : Request α) :
    Except (Fault α) (Parameters α) :=
  gather read (request.parameterFile.map fun name => (name, look name)) request.console

/-- The faults of parameters that the command does not leave with a message for: all come from a parameter
file, whose document cannot be read, or which has an infinite number where an integer is meant. -/
inductive Escapes (read : Reader α) (look : String → Except FileFault String) (request : Request α) : Fault α → Prop
  | document {name text : String} {fault : Yaml.Fault} (hfile : request.parameterFile = some name)
      (hfound : look name = .ok text) (hread : read text = .error fault)
      (hfault : fault.isWrongValue = false) : Escapes read look request (.document fault)
  | infinity {name text key : String} {entries : List (Setting α × Setting α)} {value : Setting α}
      (hfile : request.parameterFile = some name) (hfound : look name = .ok text)
      (hread : read text = .ok (.map entries)) (hkey : key ∈ wholeNames) (hgiven : (.text key, value) ∈ entries)
      (hvalue : value.toInt = .error (.arithmetic .infinityToInteger)) :
      Escapes read look request (.arithmetic .infinityToInteger)

/-- Of the faults of a parameter file, those escape that the command does not handle. -/
theorem escapes_iff_of_file {name : String} (hfile : request.parameterFile = some name)
    (h : ofFile read name (look name) = .error cause) : Escapes read look request cause ↔ cause.isParameterFault = false := by
  unfold ofFile at h
  rcases except_bind_error h with h | ⟨text, hfound, h⟩
  · obtain ⟨fault, -, rfl⟩ := except_mapError_error h
    cases fault <;> exact ⟨nofun, nofun⟩
  have hfound := except_mapError_ok hfound
  rcases except_bind_error h with h | ⟨document, -, h⟩
  · obtain ⟨fault, hread, rfl⟩ := except_mapError_error h
    have hsame : (Fault.document fault : Fault α).isParameterFault = fault.isWrongValue := by
      cases fault <;> rfl
    rw [hsame]
    constructor
    · rintro (⟨-, -, -, hfault⟩ | _)
      exact hfault
    · exact .document hfile hfound hread
  · unfold ofDocument at h
    split at h
    · cases h
    · cases h
    · cases h
      exact ⟨nofun, nofun⟩

/-- The same of the faults of the parameters of all sources, once the file is read. -/
theorem escapes_iff_of_load (hparse : parse arguments = .ok request) (hdistinct : Distinct file.entries)
    (hfile : file.entries = [] ∨ ∃ name text, request.parameterFile = some name ∧ look name = .ok text ∧
      read text = .ok (.map file.entries))
    (h : load file request.console = .error cause) : Escapes read look request cause ↔ cause.isParameterFault = false := by
  obtain ⟨hconsole, hplain⟩ := console_of_parse hparse
  obtain ⟨refused, rfl⟩ | ⟨key, hkey, value, fault, hvalue, hfault, rfl⟩ := load_error h
  · exact ⟨nofun, nofun⟩
  cases noInteger_of_error hfault with
  | kind => exact ⟨nofun, nofun⟩
  | text => exact ⟨nofun, nofun⟩
  | nan => exact ⟨nofun, nofun⟩
  | infinite x =>
    refine ⟨fun _ => rfl, fun _ => ?_⟩
    -- an argument is never read as an infinite number, so the file has it
    have hgiven := infinite_of_file hdistinct hconsole hplain hvalue hfault
    rcases hfile with hempty | ⟨name, text, hname, hfound, hread⟩
    · rw [hempty] at hgiven
      cases hgiven
    · exact .infinity hname hfound hread hkey hgiven hfault

/-- Of the faults of parameters, those escape that the command does not handle. -/
theorem escapes_iff (hread : read.KeysOnce) (hparse : parse arguments = .ok request)
    (h : parameters read look request = .error cause) :
    Escapes read look request cause ↔ cause.isParameterFault = false := by
  unfold parameters gather at h
  rcases hname : request.parameterFile with _ | name <;> rw [hname] at h
  · have hempty : Distinct (⟨[]⟩ : Parameters α).entries := List.Pairwise.nil
    exact escapes_iff_of_load hparse hempty (.inl rfl) h
  · rcases except_bind_error h with h | ⟨file, hfile, h⟩
    · exact escapes_iff_of_file hname h
    · refine escapes_iff_of_load hparse (distinct_ofFile hread hfile) ?_ h
      obtain ⟨text, hfound, ⟨-, rfl⟩ | hentries⟩ := ofFile_ok hfile
      · exact .inl rfl
      · exact .inr ⟨name, text, hname, hfound, hentries⟩

/-- A command whose parameters are refused imports nothing, whatever files it may find: it leaves with
the message of the fault, unless the fault escapes, with which it stops. -/
theorem run_of_refused (hread : read.KeysOnce) (hparse : parse arguments = .ok request)
    (h : parameters read look request = .error cause)
    (found : Setting α → Except ContainerFault (MeasurementFile α)) :
    (¬ Escapes read look request cause →
      run (parameters read look request) found = { ending := .exit ("\n[ERROR] invalid params: " ++ cause.message) }) ∧
    (Escapes read look request cause → run (parameters read look request) found = { ending := .stopped cause }) := by
  rw [escapes_iff hread hparse h, h, Bool.not_eq_false]
  unfold run
  constructor
  · intro hhandled
    simp only [hhandled, if_true]
  · intro hhandled
    simp only [hhandled, Bool.false_eq_true, if_false]

/-- Where no file is found. -/
def nowhere (name : String) : Except FileFault String := .error (.missing name)

/-- Where no measurements are found. -/
def unmeasured (name : Setting ℚ) : Except ContainerFault (MeasurementFile ℚ) := .error (.unreadable name.shown)

theorem run_of_refused_roundSize : ∃ request, parse ["-f", "1000"] = .ok request ∧
    run (parameters Yaml.read nowhere request) unmeasured =
      { ending := .exit "\n[ERROR] invalid params: FFT size must be a power of two: 1000" } := by
  obtain ⟨request, hparse⟩ : ∃ request : Request ℚ, parse ["-f", "1000"] = .ok request := ⟨_, rfl⟩
  have hrefused : parameters Yaml.read nowhere request = .error (.parameter (.fftSize 1000)) := by
    cases hparse
    rfl
  exact ⟨request, hparse, (run_of_refused keysOnce_yaml hparse hrefused unmeasured).1 nofun⟩

/-- What a reader makes of `fft_size: .inf`, the only document here. -/
def infiniteSize (_ : String) : Except Yaml.Fault (Setting Float) := .ok (.map [(.text "fft_size", .real (1.0 / 0.0))])

/-- An infinite size of the transform stops the command, without a message. -/
theorem run_infiniteSize : ∃ request, parse ["-yp", "p.yaml"] = .ok request ∧
    parameters infiniteSize (fun _ => .ok "fft_size: .inf\n") request = .error (.arithmetic .infinityToInteger) ∧
    run (parameters infiniteSize (fun _ => .ok "fft_size: .inf\n") request) (fun _ => .error (.unreadable "")) =
      { ending := .stopped (.arithmetic .infinityToInteger) } := by
  obtain ⟨request, hparse⟩ : ∃ request : Request Float, parse ["-yp", "p.yaml"] = .ok request := ⟨_, rfl⟩
  have hrefused : parameters infiniteSize (fun _ => .ok "fft_size: .inf\n") request = .error (.arithmetic .infinityToInteger) := by
    cases hparse
    rfl
  refine ⟨request, hparse, hrefused, ?_⟩
  rw [hrefused]
  rfl

end ImportCommand

end HrirAtlas
