import HrirAtlas.Decimal.Read
import HrirAtlas.Yaml.Moment

/-
What kind of value a node stands for: by the name of its tag, or, for a plain scalar without one,
by the form of its text. A text of no special form is a text.
-/

namespace HrirAtlas.Yaml

/-- The kinds of values that a tag can ask for. -/
inductive Tag where
  | null
  | flag
  | integer
  | real
  | binary
  | instant
  | text
  | sequence
  | mapping
  | set
  /-- A sequence of single entries, each a key with a value. -/
  | pairs
  /-- The key of entries that are taken over from other mappings. -/
  | merge
  /-- The key of the value that a mapping has where a scalar is meant. -/
  | default
  | unknown
deriving Repr, DecidableEq

/-- What the names of the common tags begin with. -/
def commonPrefix : String := "tag:yaml.org,2002:"

/-- The common tags. -/
def commonTags : List (String × Tag) := [
  ("null", .null), ("bool", .flag), ("int", .integer), ("float", .real), ("binary", .binary),
  ("timestamp", .instant), ("str", .text), ("seq", .sequence), ("map", .mapping), ("set", .set),
  ("omap", .pairs), ("pairs", .pairs), ("merge", .merge), ("value", .default)]

/-- The tag with a name. -/
def Tag.ofName (name : String) : Tag :=
  ((commonTags.find? fun (ending, _) => commonPrefix ++ ending == name).map Prod.snd).getD .unknown

/-! ## Forms of plain scalars -/

/-- Digits and underscores. -/
def isDigitOrGap (c : Char) : Bool := c.isDigit || c == '_'

/-- The text without a sign in front. -/
def dropSign (chars : List Char) : List Char := (Decimal.splitSign chars).2

/-- The parts of a text between separators. -/
def parts (separator : Char) : List Char → List (List Char)
  | [] => [[]]
  | c :: rest =>
    match parts separator rest with
    | [] => [[c]]
    | part :: more => if c == separator then [] :: part :: more else (c :: part) :: more

/-- A number below sixty, in one or two digits. -/
def isSixtieth : List Char → Bool
  | [d] => d.isDigit
  | [t, d] => ('0' ≤ t && t ≤ '5') && d.isDigit
  | _ => false

/-- A number in base sixty: the parts after the first are below sixty. -/
def isSexagesimal (isFirst : List Char → Bool) (chars : List Char) : Bool :=
  match parts ':' chars with
  | first :: more => isFirst first && !more.isEmpty && more.all isSixtieth
  | [] => false

/-- Digits and underscores, the first of them a digit. -/
def isDigitRow (chars : List Char) : Bool := chars.head?.any Char.isDigit && chars.all isDigitOrGap

/-- Digits and underscores, the first of them a digit other than zero. -/
def isDecimalRow (chars : List Char) : Bool := isDigitRow chars && chars.head? ≠ some '0'

/-- Whole numbers: binary, octal after a zero, decimal, in base sixteen or in base sixty. -/
def isInteger (chars : List Char) : Bool :=
  match dropSign chars with
  | ['0'] => true
  | '0' :: 'b' :: rest => !rest.isEmpty && rest.all fun c => c == '0' || c == '1' || c == '_'
  | '0' :: 'x' :: rest => !rest.isEmpty && rest.all fun c => isHexDigit c || c == '_'
  | '0' :: rest => rest.all fun c => ('0' ≤ c && c ≤ '7') || c == '_'
  | rest => isDecimalRow rest || isSexagesimal isDecimalRow rest

/-- Nothing, or an exponent with a sign. -/
def isExponent : List Char → Bool
  | [] => true
  | mark :: sign :: digits =>
    (mark == 'e' || mark == 'E') && (sign == '+' || sign == '-') && !digits.isEmpty && digits.all Char.isDigit
  | _ => false

/-- Decimals and an exponent. -/
def isFraction (chars : List Char) : Bool := isExponent (chars.dropWhile isDigitOrGap)

/-- Numbers with a point; the special values have one too. A sign may not stand directly before the
point, but before infinity. -/
def isReal (chars : List Char) : Bool :=
  let unsigned := dropSign chars
  let whole := unsigned.takeWhile (· ≠ '.')
  match unsigned.dropWhile (· ≠ '.') with
  | [] => false
  | _ :: rest =>
    if whole.isEmpty then
      rest ∈ ["inf".toList, "Inf".toList, "INF".toList]
        || (chars.head? == some '.'
          && (rest ∈ ["nan".toList, "NaN".toList, "NAN".toList]
            || (rest.head?.any Char.isDigit && isFraction rest)))
    else (isDigitRow whole && isFraction rest) || (isSexagesimal isDigitRow whole && rest.all isDigitOrGap)

/-- The words for truth values. -/
def flagWords : List (String × Bool) :=
  [("yes", true), ("no", false), ("true", true), ("false", false), ("on", true), ("off", false)]

/-- A word in small letters, with a capital, or in capitals. -/
def isCased (word : String) (chars : List Char) : Bool :=
  match word.toList with
  | [] => chars.isEmpty
  | first :: rest =>
    chars == first :: rest || chars == first.toUpper :: rest || chars == (first :: rest).map Char.toUpper

/-- The tag of a plain scalar. -/
def Tag.ofPlain (text : String) : Tag :=
  let chars := text.toList
  if flagWords.any fun (word, _) => isCased word chars then .flag
  else if isReal chars then .real
  else if isInteger chars then .integer
  else if text = "<<" then .merge
  else if text = "" ∨ text = "~" ∨ isCased "null" chars then .null
  else if isMoment chars then .instant
  else if text = "=" then .default
  else .text

end HrirAtlas.Yaml
