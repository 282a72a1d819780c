import HrirAtlas.Calendar
import HrirAtlas.Number
import HrirAtlas.Decimal.Read
import HrirAtlas.Text.Quoted

/-
Values of parameters. A parameter file may give any value where a number is meant, so a setting
keeps what was given, and each use asks for the kind of value it needs. What is missing then is a
`SettingFault`.
-/

namespace HrirAtlas

/-- A parameter value. -/
inductive Setting (α : Type) where
  | null
  | number (n : Number α)
  | text (s : String)
  | list (items : List (Setting α))
  | map (entries : List (Setting α × Setting α))
  | date (d : CalendarDate)
  | instant (t : Instant)
  | bytes (data : List UInt8)
  | set (members : List (Setting α))
  | pair (first second : Setting α)

instance {α : Type} : Inhabited (Setting α) := ⟨.null⟩

/-- The kinds of values. -/
inductive SettingKind where
  | null | int | real | flag | text | list | map | date | instant | bytes | set | pair
deriving Repr, DecidableEq

/-- How messages name a kind of value. -/
def SettingKind.name : SettingKind → String
  | null => "NoneType"
  | int => "int"
  | real => "float"
  | flag => "bool"
  | text => "str"
  | list => "list"
  | map => "dict"
  | date => "datetime.date"
  | instant => "datetime.datetime"
  | bytes => "bytes"
  | set => "set"
  | pair => "tuple"

/-- Why a value cannot be used where a number is meant. -/
inductive SettingFault where
  /-- A text that spells no integer in digits of the base. -/
  | noIntegerText (base : Nat) (shown : String)
  /-- A text that spells no floating-point number. -/
  | noNumberText (shown : String)
  /-- A value that no integer is made of. -/
  | noInteger (kind : SettingKind)
  /-- A value that no floating-point number is made of. -/
  | noNumber (kind : SettingKind)
  /-- An order was asked for between values that have none. -/
  | incomparable (relation : String) (left right : SettingKind)
  /-- An operation that the two kinds of values do not have. -/
  | operands (operation : String) (left right : SettingKind)
  /-- A count was meant. -/
  | noCount (kind : SettingKind)
  /-- The size of an array was meant. -/
  | noSize (shown : String)
  /-- The name of a file was meant. -/
  | noFileName (kind : SettingKind)
deriving Repr, DecidableEq

/-- Whether the fault lies in the value of a text and not in the kind of a value. -/
def SettingFault.isValueFault : SettingFault → Bool
  | noIntegerText .. | noNumberText _ => true
  | _ => false

/-- The part of a text that a message about integers shows. -/
def excerpt (text : String) : String := String.ofList (text.toList.take 200)

def SettingFault.message : SettingFault → String
  | noIntegerText base shown => "invalid literal for int() with base " ++ toString base ++ ": " ++ shown
  | noNumberText shown => "could not convert string to float: " ++ shown
  | noInteger kind =>
    "int() argument must be a string, a bytes-like object or a real number, not '" ++ kind.name ++ "'"
  | noNumber kind => "float() argument must be a string or a real number, not '" ++ kind.name ++ "'"
  | incomparable relation left right =>
    "'" ++ relation ++ "' not supported between instances of '" ++ left.name ++ "' and '" ++ right.name ++ "'"
  | operands operation left right =>
    "unsupported operand type(s) for " ++ operation ++ ": '" ++ left.name ++ "' and '" ++ right.name ++ "'"
  | noCount kind => "'" ++ kind.name ++ "' object cannot be interpreted as an integer"
  | noSize shown => "expected a sequence of integers or a single integer, got '" ++ shown ++ "'"
  | noFileName kind => "expected str, bytes or os.PathLike object, not " ++ kind.name

/-! ## Texts of bytes -/

/-- One byte inside quotes. -/
def byteLiteral (quote : Char) (byte : UInt8) : List Char :=
  let c := Char.ofNat byte.toNat
  if c = quote ∨ c = '\\' then ['\\', c]
  else if c = '\n' then ['\\', 'n']
  else if c = '\r' then ['\\', 'r']
  else if c = '\t' then ['\\', 't']
  else if 0x20 ≤ byte.toNat ∧ byte.toNat < 0x7f then [c]
  else '\\' :: 'x' :: Text.hexadecimal 2 byte.toNat

def bytesLiteral (data : List UInt8) : String :=
  let quote := if data.contains 39 && !data.contains 34 then '"' else '\''
  String.ofList ('b' :: quote :: data.flatMap (byteLiteral quote) ++ [quote])

namespace Setting

variable {α : Type}

/-! ## Kinds and numbers -/

/-- A whole number as a setting. -/
abbrev int (n : Int) : Setting α := .number (.int n)

/-- A truth value as a setting. -/
abbrev flag (on : Bool) : Setting α := .number (.flag on)

/-- A scalar as a setting. -/
abbrev real (x : α) : Setting α := .number (.real x)

def kind : Setting α → SettingKind
  | null => .null
  | number (.int _) => .int
  | number (.real _) => .real
  | number (.flag _) => .flag
  | text _ => .text
  | list _ => .list
  | map _ => .map
  | date _ => .date
  | instant _ => .instant
  | bytes _ => .bytes
  | set _ => .set
  | pair .. => .pair

variable [Scalar α]

/-- Whether the value counts as given: not null, nor zero, nor empty. -/
def isGiven : Setting α → Bool
  | null => false
  | number n => n.isGiven
  | text s => !s.isEmpty
  | list items => !items.isEmpty
  | map entries => !entries.isEmpty
  | bytes data => !data.isEmpty
  | set members => !members.isEmpty
  | date _ | instant _ | pair .. => true

/-! ## Texts -/

mutual

/-- The value as it stands inside a list: texts between quotes. -/
def literal : Setting α → String
  | null => "None"
  | number n => n.shown
  | text s => Text.quoted s
  | list items => "[" ++ ", ".intercalate (literals items) ++ "]"
  | map entries => "\x7b" ++ ", ".intercalate (entryLiterals entries) ++ "\x7d"
  | date d => d.literal
  | instant t => t.literal
  | bytes data => bytesLiteral data
  | set members =>
    if members.isEmpty then "set()" else "\x7b" ++ ", ".intercalate (literals members) ++ "\x7d"
  | pair first second => "(" ++ literal first ++ ", " ++ literal second ++ ")"

def literals : List (Setting α) → List String
  | [] => []
  | item :: rest => literal item :: literals rest

def entryLiterals : List (Setting α × Setting α) → List String
  | [] => []
  | (key, value) :: rest => (literal key ++ ": " ++ literal value) :: entryLiterals rest

end

/-- The value as text on its own. -/
def shown : Setting α → String
  | text s => s
  | date d => d.shown
  | instant t => t.shown
  | setting => literal setting

/-! ## Use as a number -/

/-- Why no integer comes out of a value. -/
inductive IntegerFault where
  | arithmetic (fault : ArithmeticFault)
  | setting (fault : SettingFault)
deriving Repr, DecidableEq

/-- The integer that a value stands for: the integer part of a number, or what a text spells. -/
def toInt (setting : Setting α) : Except IntegerFault Int :=
  match setting with
  | number n => n.truncate.mapError .arithmetic
  | text s =>
    match Decimal.readInt? s with
    | some n => .ok n
    | none => .error (.setting (.noIntegerText 10 (excerpt (Text.quoted s))))
  | bytes data =>
    match Decimal.readInt? (String.ofList (data.map fun byte => Char.ofNat byte.toNat)) with
    | some n => .ok n
    | none => .error (.setting (.noIntegerText 10 (excerpt (bytesLiteral data))))
  | other => .error (.setting (.noInteger other.kind))

/-- The number that a value is, for a comparison with a whole number on the left of it. -/
def comparedWithInt (relation : String) (setting : Setting α) : Except SettingFault (Number α) :=
  match setting with
  | number n => .ok n
  | other => .error (.incomparable relation .int other.kind)

/-! ## Equality of keys -/

mutual

/-- Whether two values are the same key: numbers by their value, whatever their kind. -/
def sameKey : Setting α → Setting α → Bool
  | null, null => true
  | number m, number n => m.same n
  | text s, text t => s == t
  | date d, date e => d == e
  | instant t, instant u => t == u
  | bytes a, bytes b => a == b
  | list xs, list ys => sameKeys xs ys
  | set xs, set ys => sameKeys xs ys
  | pair a b, pair c d => sameKey a c && sameKey b d
  | _, _ => false

def sameKeys : List (Setting α) → List (Setting α) → Bool
  | [], [] => true
  | x :: xs, y :: ys => sameKey x y && sameKeys xs ys
  | _, _ => false

end

/-- Gives a key a value among the entries of a mapping: in its old place, or at the end for a new
key. -/
def put (key value : Setting α) : List (Setting α × Setting α) → List (Setting α × Setting α)
  | [] => [(key, value)]
  | (known, old) :: rest =>
    if known.sameKey key then (known, value) :: rest else (known, old) :: put key value rest

end Setting

end HrirAtlas
