import HrirAtlas.Fault
import HrirAtlas.Text.LowerCase

/-
Parameters of an import. They come from three sources: the defaults, a parameter file, which may
replace and add parameters, and the command line, which may only replace what is known. Their
values are checked before use, and kept as they were given.
-/

namespace HrirAtlas

/-- Named settings in order. A name is a setting too, since a parameter file may use any key. -/
structure Parameters (α : Type) where
  entries : List (Setting α × Setting α)

namespace Parameters

variable {α : Type} [Scalar α]

/-! ## Entries -/

/-- Replaces and adds parameters one after another. -/
def update (p : Parameters α) (changes : List (Setting α × Setting α)) : Parameters α :=
  ⟨changes.foldl (fun entries (key, value) => Setting.put key value entries) p.entries⟩

def find? (p : Parameters α) (name : String) : Option (Setting α) :=
  (p.entries.find? fun entry => entry.1.sameKey (.text name)).map Prod.snd

/-- A parameter that must be there. -/
def get (p : Parameters α) (name : String) : Except (Fault α) (Setting α) :=
  match p.find? name with
  | some value => .ok value
  | none => .error (.missingParameter name)

def set (p : Parameters α) (name : String) (value : Setting α) : Parameters α :=
  ⟨Setting.put (.text name) value p.entries⟩

/-! ## Sources -/

/-- What is assumed where nothing is given. -/
def defaults : Parameters α := ⟨[
  (.text "input_file", .null),
  (.text "threads", .int 2),
  (.text "fft_size", .int 65536),
  (.text "trunc_size", .int 32),
  (.text "out_rate", .int 0),
  (.text "channel_mode", .text "stereo"),
  (.text "verbose", .flag false),
  (.text "logfile", .null)]⟩

/-- The parameters in the document of a file: a mapping, or nothing. -/
def ofDocument (file : String) : Setting α → Except (Fault α) (Parameters α)
  | .null => .ok ⟨[]⟩
  | .map entries => .ok ⟨entries⟩
  | _ => .error (.parameter (.noMapping file))

/-- Replaces a known parameter by a value of the command line that is given. -/
def override (p : Parameters α) (option : String × Setting α) : Parameters α :=
  match option.2, p.find? option.1 with
  | .null, _ | _, none => p
  | value, some _ => p.set option.1 value

/-- A channel mode is known by its lower case. -/
def lowerMode (p : Parameters α) : Except (Fault α) (Parameters α) := do
  return p.set "channel_mode" (.text (Text.lower (← p.get "channel_mode").shown))

/-! ## Checks -/

/-- Whether an integer is a power of two: none of its bits is left after the lowest is removed. -/
def isPowerOfTwo (n : Int) : Bool := decide (0 < n) && n.toNat &&& (n.toNat - 1) == 0

/-- The integer that a parameter stands for, and the text of the parameter. -/
def integer (p : Parameters α) (name : String) : Except (Fault α) (Int × String) := do
  let value ← p.get name
  let n ← value.toInt.mapError Setting.IntegerFault.toFault
  return (n, value.shown)

def channelModes : List String := ["stereo", "mono"]

/-- Checks the values that an import uses. -/
def check (p : Parameters α) : Except (Fault α) Unit := do
  let (fftSize, _) ← p.integer "fft_size"
  if !isPowerOfTwo fftSize then throw (.parameter (.fftSize fftSize))
  let (truncSize, shown) ← p.integer "trunc_size"
  if truncSize ≤ 0 then throw (.parameter (.truncSize shown))
  let (threads, shown) ← p.integer "threads"
  if threads < 1 then throw (.parameter (.threads shown))
  let (outRate, shown) ← p.integer "out_rate"
  if outRate < 0 then throw (.parameter (.outRate shown))
  let mode ← p.get "channel_mode"
  if !channelModes.contains (Text.lower mode.shown) then throw (.parameter (.channelMode mode.shown))

/-- The parameters from the entries of a file and from the command line, checked. -/
def load (file : Parameters α) (console : List (String × Setting α)) : Except (Fault α) (Parameters α) := do
  let merged ← (console.foldl override (defaults.update file.entries)).lowerMode
  merged.check
  return merged

end Parameters

end HrirAtlas
