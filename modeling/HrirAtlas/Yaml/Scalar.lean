import HrirAtlas.Yaml.Cursor
import HrirAtlas.Yaml.Fault

/-
The three ways to write a scalar: plain, between quotes, and as a block of lines. Lines are folded:
a single break between two lines is a space, and of several breaks the first one goes. Each reader
begins at its scalar and gives the text with the place after it, or tells that no scalar stands
there. Fuel bounds the number of lines or pieces and never runs out when it is the length of the
text.
-/

namespace HrirAtlas.Yaml

/-- The fold of a break and the further breaks after it. -/
def fold (first : Char) (more : List Char) : List Char :=
  if first ≠ '\n' then first :: more else if more.isEmpty then [' '] else more

/-! ## Plain scalars -/

/-- How many characters ahead belong to a word of a plain scalar. -/
def plainLength (inFlow : Bool) : List Char → Nat
  | [] => 0
  | c :: rest =>
    let ends := endsWord (some c)
      || (c == ':' && (endsWord rest.head? || (inFlow && rest.head?.any fun d => ",[]\x7b\x7d".contains d)))
      || (inFlow && ",?[]\x7b\x7d".contains c)
    if ends then 0 else plainLength inFlow rest + 1

/-- The breaks at the ends of lines that hold no word, and the place after them and the spaces of the
next line; no breaks where a mark between documents comes in. Begins at the start of a line. -/
def plainBreaks : Nat → Cursor → Option (List Char) × Cursor
  | 0, c => (some [], c)
  | fuel + 1, c =>
    if c.atSeparator then (none, c)
    else
      let c := c.dropWhile (· == ' ')
      match c.lineBreak? with
      | none => (some [], c)
      | some (x, c) =>
        let (more, c) := plainBreaks fuel c
        (more.map (x :: ·), c)

/-- What stands between two words of a plain scalar, whether it holds a break, and the place after
it; nothing where the scalar ends. -/
def plainGap (c : Cursor) : List Char × Bool × Cursor :=
  let (spaces, c) := c.takeWhile (· == ' ')
  match c.lineBreak? with
  | none => (spaces, false, c)
  | some (x, c) =>
    match plainBreaks (c.rest.length + 1) c with
    | (none, c) => ([], true, c)
    | (some more, c) => (fold x more, true, c)

/-- The words of a plain scalar that begins after the given gap: its text, whether it ends after a
break, and the place after it. -/
def plainWords (inFlow : Bool) (indent : Int) : Nat → List Char → Bool → Cursor → List Char × Bool × Cursor
  | 0, _, broken, c => ([], broken, c)
  | fuel + 1, gap, broken, c =>
    let length := if c.next == some '#' then 0 else plainLength inFlow c.rest
    if length = 0 then ([], broken, c)
    else
      let word := gap ++ c.rest.take length
      let (gap, broken, c) := plainGap (c.forward length)
      if gap.isEmpty || c.next == some '#' || (!inFlow && decide ((c.column : Int) < indent)) then (word, broken, c)
      else
        let (rest, broken, c) := plainWords inFlow indent fuel gap broken c
        (word ++ rest, broken, c)

/-- A plain scalar: its text, whether it ends after a break, and the place after it. -/
def plain (inFlow : Bool) (indent : Int) (c : Cursor) : List Char × Bool × Cursor :=
  plainWords inFlow indent (c.rest.length + 1) [] false c

/-! ## Quoted scalars -/

/-- The characters that an escape of one letter stands for. -/
def escapes : List (Char × Char) := [
  ('0', '\x00'), ('a', '\x07'), ('b', '\x08'), ('t', '\t'), ('\t', '\t'), ('n', '\n'), ('v', '\x0b'),
  ('f', '\x0c'), ('r', '\r'), ('e', '\x1b'), (' ', ' '), ('"', '"'), ('\\', '\\'), ('/', '/'),
  ('N', '\u0085'), ('_', '\u00a0'), ('L', '\u2028'), ('P', '\u2029')]

/-- How many digits follow the letter of a numeric escape. -/
def escapeDigits : List (Char × Nat) := [('x', 2), ('u', 4), ('U', 8)]

/-- The breaks at the ends of lines between quotes that hold blanks only, and the place after them
and the blanks of the next line. Begins at the start of a line. -/
def quotedBreaks : Nat → Cursor → Except Fault (List Char × Cursor)
  | 0, c => .ok ([], c)
  | fuel + 1, c =>
    if c.atSeparator then .error .token
    else
      let c := c.dropWhile fun x => x == ' ' || x == '\t'
      match c.lineBreak? with
      | none => .ok ([], c)
      | some (x, c) => do
        let (more, c) ← quotedBreaks fuel c
        return (x :: more, c)

/-- The character with a number; what has a number and is no character of its own is replaced. -/
def characterOf (code : Nat) : Except Fault Char :=
  if 0x10ffff < code then .error .codePoint
  else if 0xd800 ≤ code ∧ code ≤ 0xdfff then .ok '\ufffd'
  else .ok (Char.ofNat code)

/-- What an escape after its backslash stands for, and the place after it. -/
def escaped (c : Cursor) : Except Fault (List Char × Cursor) := do
  let some letter := c.next | .error .token
  match escapes.lookup letter, escapeDigits.lookup letter with
  | some x, _ => return ([x], c.step)
  | none, some count =>
    let digits := c.step.rest.take count
    if digits.length < count || !digits.all isHexDigit then .error .token
    else return ([← characterOf (numberOf 16 digits)], c.step.forward count)
  | none, none =>
    match c.lineBreak? with
    | some (_, c) => quotedBreaks (c.rest.length + 1) c
    | none => .error .token

/-- One piece of a quoted scalar: a run of characters, an escape, or a gap with its breaks. -/
def quotedPiece (double : Bool) (c : Cursor) : Except Fault (List Char × Cursor) :=
  match c.next with
  | none => .error .token
  | some x =>
    if double && x == '\\' then escaped c.step
    else if x == ' ' || x == '\t' || isBreak x then
      let (blanks, c) := c.takeWhile fun x => x == ' ' || x == '\t'
      match c.lineBreak? with
      | some (x, c) => do
        let (more, c) ← quotedBreaks (c.rest.length + 1) c
        return (fold x more, c)
      | none => .ok (blanks, c)
    else .ok ([x], c.step)

/-- The text up to the closing quote, and the place after that. -/
def quotedPieces (double : Bool) : Nat → Cursor → Except Fault (List Char × Cursor)
  | 0, _ => .error .token
  | fuel + 1, c => do
    let quote := if double then '"' else '\''
    if c.next == some quote && (double || c.afterNext ≠ some quote) then return ([], c.step)
    let (piece, c) ← if c.next == some quote then pure ([quote], c.forward 2) else quotedPiece double c
    let (rest, c) ← quotedPieces double fuel c
    return (piece ++ rest, c)

/-- A scalar between quotes, which begins at the opening quote. -/
def quoted (double : Bool) (c : Cursor) : Except Fault (List Char × Cursor) :=
  quotedPieces double (c.rest.length + 1) c.step

/-! ## Block scalars -/

/-- What becomes of the breaks at the end of a block: all go but one, all go, or all stay. -/
inductive Chomping where
  | clip | strip | keep
deriving Repr, DecidableEq

/-- The chomping that a character asks for. -/
def Chomping.ofChar? (c : Option Char) : Option Chomping :=
  if c == some '+' then some .keep else if c == some '-' then some .strip else none

/-- The depth that a digit asks for; zero is none. -/
def depthOf? (c : Option Char) : Option (Option Nat) :=
  match c with
  | some d => if d.isDigit then some (if d == '0' then none else some (d.toNat - '0'.toNat)) else none
  | none => none

/-- The header of a block, in either order: its chomping and its depth, if it is given. -/
def blockHeader (c : Cursor) : Option (Chomping × Option Nat × Cursor) := do
  let (chomping, depth, c) ← match Chomping.ofChar? c.next with
    | some chomping =>
      match depthOf? c.step.next with
      | some none => none
      | some (some depth) => some (chomping, some depth, c.forward 2)
      | none => some (chomping, none, c.step)
    | none =>
      match depthOf? c.next with
      | some none => none
      | some (some depth) =>
        match Chomping.ofChar? c.step.next with
        | some chomping => some (chomping, some depth, c.forward 2)
        | none => some (.clip, some depth, c.step)
      | none => some (.clip, none, c)
  if endsField c.next then return (chomping, depth, ← c.restIgnored?) else none

/-- The breaks of the empty lines ahead, the greatest column among their spaces, and the place after
them. -/
def leadingBreaks : Nat → Nat → Cursor → List Char × Nat × Cursor
  | 0, deepest, c => ([], deepest, c)
  | fuel + 1, deepest, c =>
    let c := c.dropWhile (· == ' ')
    let deepest := max deepest c.column
    match c.lineBreak? with
    | none => ([], deepest, c)
    | some (x, c) =>
      let (more, deepest, c) := leadingBreaks fuel deepest c
      (x :: more, deepest, c)

/-- The place after the spaces ahead, as far as a column. -/
def indentTo (indent : Nat) (c : Cursor) : Cursor :=
  c.forward ((c.rest.takeWhile (· == ' ')).take (indent - c.column)).length

/-- The breaks of the lines ahead that hold nothing beyond their indentation. -/
def blockBreaks (indent : Nat) : Nat → Cursor → List Char × Cursor
  | 0, c => ([], c)
  | fuel + 1, c =>
    let c := indentTo indent c
    match c.lineBreak? with
    | none => ([], c)
    | some (x, c) =>
      let (more, c) := blockBreaks indent fuel c
      (x :: more, c)

/-- Whether a line of a block begins here. -/
def atBlockLine (indent : Nat) (c : Cursor) : Bool := c.column == indent && c.next.isSome

/-- Whether a line begins with a blank, which keeps it from being folded. -/
def isIndented (c : Cursor) : Bool := c.next == some ' ' || c.next == some '\t'

/-- The lines of a block from here on, the break after the last of them, and the empty lines after
that. -/
def blockLines (folded : Bool) (indent : Nat) : Nat → Cursor → List Char × List Char × List Char × Cursor
  | 0, c => ([], [], [], c)
  | fuel + 1, c =>
    let indented := isIndented c
    let (text, c) := c.restOfLine
    let lineBreak := c.lineBreak?.map Prod.fst
    let (breaks, c) := blockBreaks indent (c.rest.length + 1) c.skipBreak
    if atBlockLine indent c then
      let joint := match lineBreak with
        | none => []
        | some x =>
          if folded && x == '\n' && !indented && !isIndented c then
            if breaks.isEmpty then [' '] else []
          else [x]
      let (rest, last, trailing, c) := blockLines folded indent fuel c
      (text ++ joint ++ breaks ++ rest, last, trailing, c)
    else (text, lineBreak.toList, breaks, c)

/-- A block of lines, which begins at its indicator, inside lines of the given indentation. -/
def block (folded : Bool) (outer : Int) (c : Cursor) : Option (List Char × Cursor) := do
  let (chomping, depth, c) ← blockHeader c.step
  let least := max (outer + 1) 1
  let (indent, breaks, c) := match depth with
    | some depth =>
      let indent := (least + depth - 1).toNat
      let (breaks, c) := blockBreaks indent (c.rest.length + 1) c
      (indent, breaks, c)
    | none =>
      let (breaks, deepest, c) := leadingBreaks (c.rest.length + 1) 0 c
      (max least.toNat deepest, breaks, c)
  let (text, last, trailing, c) :=
    if atBlockLine indent c then
      let (text, last, trailing, c) := blockLines folded indent (c.rest.length + 1) c
      (breaks ++ text, last, trailing, c)
    else ([], [], breaks, c)
  match chomping with
  | .strip => return (text, c)
  | .clip => return (text ++ last, c)
  | .keep => return (text ++ last ++ trailing, c)

end HrirAtlas.Yaml
