import HrirAtlas.Setting

/-
Where the reading of a document stops. Faults of form have no wording of their own; a value that
its tag promises and its text does not hold is named.
-/

namespace HrirAtlas.Yaml

/-- Why a document cannot be read. -/
inductive Fault where
  /-- A character that a document may not hold. -/
  | character
  /-- Characters that form no token. -/
  | token
  /-- Tokens that form no document. -/
  | structural
  /-- References that lead nowhere, or more than one document. -/
  | reference
  /-- A node that its tag does not allow. -/
  | value
  /-- An escape for a number that no character has. -/
  | codePoint
  /-- A text that spells no number. -/
  | setting (cause : SettingFault)
  /-- A date or an instant that does not exist. -/
  | calendar (cause : CalendarFault)
  /-- A text that names no truth value. -/
  | flag (word : String)
  /-- An empty text where digits are meant. -/
  | noDigits
  /-- A text that is no date where one is meant. -/
  | noInstant
deriving Repr, DecidableEq

def Fault.message : Fault → String
  | codePoint => "chr() arg not in range(0x110000)"
  | setting cause => cause.message
  | calendar cause => cause.message
  | flag word => Text.quoted word
  | noDigits => "string index out of range"
  | noInstant => "'NoneType' object has no attribute 'groupdict'"
  | character | token | structural | reference | value => ""

/-- What was read, or the fault that no token is there. -/
def orNoToken {β : Type} : Option β → Except Fault β
  | some x => .ok x
  | none => .error .token

end HrirAtlas.Yaml
