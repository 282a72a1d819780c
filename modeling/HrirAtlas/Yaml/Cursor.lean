/-
A place in a document, with its line and column. Besides the line feed, which ends every line once
a text has been read, the next-line character and the separators of Unicode end a line; a mark of
byte order takes no column.
-/

namespace HrirAtlas.Yaml

/-! ## Characters -/

/-- Whether a character may stand in a document at all. -/
def isAllowed (c : Char) : Bool :=
  c == '\t' || c == '\n' || (' ' ≤ c && c ≤ '~') || c == '\u0085'
    || ('\u00a0' ≤ c && c ≤ '\ufffd') || 0x10000 ≤ c.toNat

/-- Whether a character ends a line. -/
def isBreak (c : Char) : Bool := c == '\n' || c == '\u0085' || c == '\u2028' || c == '\u2029'

/-- Whether nothing, or a break, comes next. -/
def endsLine (next : Option Char) : Bool := next.all isBreak

/-- Whether nothing, a break or a space comes next. -/
def endsField (next : Option Char) : Bool := endsLine next || next == some ' '

/-- Whether nothing, a break, a space or a tab comes next. -/
def endsWord (next : Option Char) : Bool := endsField next || next == some '\t'

/-- Whether a character may stand in a name. -/
def isNameChar (c : Char) : Bool := c.isAlphanum || c == '-' || c == '_'

/-- Whether a character is a digit of base sixteen. -/
def isHexDigit (c : Char) : Bool := c.isDigit || ('a' ≤ c && c ≤ 'f') || ('A' ≤ c && c ≤ 'F')

/-- The value of a digit of base sixteen. -/
def hexValue (c : Char) : Nat :=
  if c.isDigit then c.toNat - '0'.toNat else c.toLower.toNat - 'a'.toNat + 10

/-- The number that a row of digits of a base stands for. -/
def numberOf (base : Nat) (digits : List Char) : Nat := digits.foldl (fun n c => base * n + hexValue c) 0

/-! ## Places -/

/-- A place in a text: what is still to come, and where it is. -/
structure Cursor where
  rest : List Char
  index : Nat := 0
  line : Nat := 0
  column : Nat := 0
deriving Repr, DecidableEq

namespace Cursor

/-- The next character. -/
def next (c : Cursor) : Option Char := c.rest.head?

/-- The character after the next one. -/
def afterNext (c : Cursor) : Option Char := c.rest[1]?

/-- The place after the next character. -/
def step (c : Cursor) : Cursor :=
  match c.rest with
  | [] => c
  | x :: rest =>
    let column := if isBreak x then 0 else if x == '\ufeff' then c.column else c.column + 1
    { rest, index := c.index + 1, line := if isBreak x then c.line + 1 else c.line, column }

/-- The place so many characters ahead. -/
def forward : Nat → Cursor → Cursor
  | 0, c => c
  | n + 1, c => forward n c.step

/-- The characters ahead that satisfy a test, and the place after them. -/
def takeWhile (c : Cursor) (test : Char → Bool) : List Char × Cursor :=
  let taken := c.rest.takeWhile test
  (taken, c.forward taken.length)

/-- The place after the characters ahead that satisfy a test. -/
def dropWhile (c : Cursor) (test : Char → Bool) : Cursor := (c.takeWhile test).2

/-- The rest of the line, its break apart. -/
def restOfLine (c : Cursor) : List Char × Cursor := c.takeWhile (!isBreak ·)

/-- The break that comes next, and the place after it; a next-line character reads as a line feed. -/
def lineBreak? (c : Cursor) : Option (Char × Cursor) :=
  match c.next with
  | some x => if isBreak x then some (if x == '\u0085' then '\n' else x, c.step) else none
  | none => none

/-- The place after a break, if one comes next. -/
def skipBreak (c : Cursor) : Cursor := if c.next.any isBreak then c.step else c

/-- Whether a mark of three such characters comes next, with the end of a word after it. -/
def atMark (c : Cursor) (mark : Char) : Bool :=
  c.rest.take 3 == [mark, mark, mark] && endsWord c.rest[3]?

/-- Whether a mark that separates documents comes next. -/
def atSeparator (c : Cursor) : Bool := c.atMark '-' || c.atMark '.'

/-- The place after spaces, a comment if there is one, and the break of the line; nothing else may
stand there. -/
def restIgnored? (c : Cursor) : Option Cursor :=
  let c := c.dropWhile (· == ' ')
  let c := if c.next == some '#' then c.restOfLine.2 else c
  if endsLine c.next then some c.skipBreak else none

end Cursor

end HrirAtlas.Yaml
