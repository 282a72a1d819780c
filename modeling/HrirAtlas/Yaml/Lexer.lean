import HrirAtlas.Yaml.Scalar
import HrirAtlas.Yaml.Token

/-
From the characters of a document to its tokens. Indentation opens and closes blocks; a colon after
a scalar makes it a key, which is known only when the colon comes. So a place where a key may have
begun is kept until a colon, another line or too long a distance decides it, and the tokens from
there on cannot be had before that.
-/

namespace HrirAtlas.Yaml

/-- A place where a key may have begun: how many tokens stand before it, and whether nothing but a
key can stand there. -/
structure PossibleKey where
  number : Nat
  isRequired : Bool
  place : Cursor
deriving Repr, DecidableEq

/-- A key begins and ends on one line, within so many characters. -/
def longestKey : Nat := 1024

/-- Whether the key can no longer be completed at a place. -/
def PossibleKey.isStale (key : PossibleKey) (place : Cursor) : Bool :=
  key.place.line ≠ place.line || decide (key.place.index + longestKey < place.index)

/-- A place in a document with the tokens before it. -/
structure Lexer where
  cursor : Cursor
  tokens : Array Token := #[]
  /-- The columns of the open blocks, innermost first. -/
  blocks : List Nat := []
  /-- The possible key at the innermost level of brackets. -/
  key : Option PossibleKey := none
  /-- The possible keys at the levels around it. -/
  outerKeys : List (Option PossibleKey) := []
  /-- Whether a key may begin at this place. -/
  mayBeginKey : Bool := true
  isDone : Bool := false
deriving Repr

namespace Lexer

/-- The column of the innermost block; the document itself lies to the left of all columns. -/
def indent (l : Lexer) : Int :=
  match l.blocks with
  | [] => -1
  | column :: _ => column

/-- Whether the place lies between brackets. -/
def inFlow (l : Lexer) : Bool := !l.outerKeys.isEmpty

/-- Adds a token. -/
def emit (l : Lexer) (t : Token) : Lexer := { l with tokens := l.tokens.push t }

/-- Adds a token that ends at a place. -/
def emitTo (l : Lexer) (t : Token) (c : Cursor) : Lexer := { l.emit t with cursor := c }

/-! ## Possible keys -/

/-- Gives up the possible key at this level. -/
def dropKey (l : Lexer) : Except Fault Lexer :=
  if l.key.any (·.isRequired) then .error .token else .ok { l with key := none }

/-- Keeps this place as the beginning of a possible key; whatever comes next may not begin one. -/
def keepKey (l : Lexer) : Except Fault Lexer := do
  if l.mayBeginKey then
    let isRequired := !l.inFlow && l.indent == (l.cursor.column : Int)
    let l ← l.dropKey
    return { l with key := some ⟨l.tokens.size, isRequired, l.cursor⟩, mayBeginKey := false }
  else return l

/-- Gives up the possible keys that can no longer be completed. -/
def dropStale (l : Lexer) : Except Fault Lexer :=
  let isStale (key : Option PossibleKey) := key.any (·.isStale l.cursor)
  let keys := l.key :: l.outerKeys
  if keys.any fun key => isStale key && key.any (·.isRequired) then .error .token
  else
    let kept (key : Option PossibleKey) := if isStale key then none else key
    .ok { l with key := kept l.key, outerKeys := l.outerKeys.map kept }

/-- How many tokens can be had. -/
def available (l : Lexer) : Nat :=
  (l.key :: l.outerKeys).foldl (fun least key => min least ((key.map (·.number)).getD least)) l.tokens.size

/-! ## Blocks -/

/-- Closes the blocks to the right of a column. -/
def closeBlocks (l : Lexer) (column : Int) : Lexer :=
  if l.inFlow then l
  else
    let closed := l.blocks.takeWhile fun (block : Nat) => decide (column < (block : Int))
    { l with
      blocks := l.blocks.drop closed.length
      tokens := closed.foldl (fun tokens _ => tokens.push .blockEnd) l.tokens }

/-- Opens a block at a column, unless one is open there; its token goes before the given number. -/
def openBlock (l : Lexer) (column number : Nat) (t : Token) : Lexer :=
  if !l.inFlow && decide (l.indent < (column : Int)) then
    { l with blocks := column :: l.blocks, tokens := l.tokens.insertIdxIfInBounds number t }
  else l

/-- Opens a block at this place for a token that may begin one. -/
def beginBlock (l : Lexer) (t : Token) : Except Fault Lexer :=
  if !l.inFlow && !l.mayBeginKey then .error .token
  else .ok (l.openBlock l.cursor.column l.tokens.size t)

/-! ## Tokens -/

/-- The place after spaces, comments and breaks, and whether there was a break. -/
def skipBlank : Nat → Cursor → Bool × Cursor
  | 0, c => (false, c)
  | fuel + 1, c =>
    let c := c.dropWhile (· == ' ')
    let c := if c.next == some '#' then c.restOfLine.2 else c
    if c.next.any isBreak then (true, (skipBlank fuel c.step).2) else (false, c)

/-- Goes to the next token; a mark of byte order may stand in front of the first one. -/
def toToken (l : Lexer) : Lexer :=
  let c := l.cursor
  let c := if c.index == 0 && c.next == some '\ufeff' then c.step else c
  let (broken, c) := skipBlank (c.rest.length + 1) c
  { l with cursor := c, mayBeginKey := l.mayBeginKey || (broken && !l.inFlow) }

/-- The end of the text, which closes all blocks. -/
def endOfStream (l : Lexer) : Except Fault Lexer := do
  let l ← (l.closeBlocks (-1)).dropKey
  return { l.emit .streamEnd with isDone := true }

/-- A directive or a separator of documents, which closes all blocks. -/
def separator (l : Lexer) (read : Cursor → Except Fault (Token × Cursor)) : Except Fault Lexer := do
  let l ← (l.closeBlocks (-1)).dropKey
  let (t, c) ← read l.cursor
  return { l.emitTo t c with mayBeginKey := false }

/-- An opening bracket or brace. -/
def openFlow (l : Lexer) (t : Token) : Except Fault Lexer := do
  let l ← l.keepKey
  return { l.emitTo t l.cursor.step with key := none, outerKeys := l.key :: l.outerKeys, mayBeginKey := true }

/-- A closing bracket or brace. -/
def closeFlow (l : Lexer) (t : Token) : Except Fault Lexer := do
  let l ← l.dropKey
  return { l.emitTo t l.cursor.step with
    key := l.outerKeys.head?.join, outerKeys := l.outerKeys.tail, mayBeginKey := false }

/-- The mark between entries in brackets or braces. -/
def flowEntry (l : Lexer) : Except Fault Lexer := do
  let l ← l.dropKey
  return { l.emitTo .flowEntry l.cursor.step with mayBeginKey := true }

/-- The mark of an item of a block. -/
def blockEntry (l : Lexer) : Except Fault Lexer := do
  let l ← (← l.beginBlock .blockSequence).dropKey
  return { l.emitTo .blockEntry l.cursor.step with mayBeginKey := true }

/-- A key with a mark of its own. -/
def markedKey (l : Lexer) : Except Fault Lexer := do
  let l ← (← l.beginBlock .blockMapping).dropKey
  return { l.emitTo .key l.cursor.step with mayBeginKey := !l.inFlow }

/-- The mark of a value: what may have been a key is one. -/
def valueMark (l : Lexer) : Except Fault Lexer := do
  match l.key with
  | some key =>
    let l := { l with tokens := l.tokens.insertIdxIfInBounds key.number .key, key := none }
    let l := l.openBlock key.place.column key.number .blockMapping
    return { l.emitTo .value l.cursor.step with mayBeginKey := false }
  | none =>
    let l ← l.beginBlock .blockMapping
    return { l.emitTo .value l.cursor.step with mayBeginKey := !l.inFlow }

/-- A token that may begin a key. -/
def keyed (l : Lexer) (read : Cursor → Except Fault (Token × Cursor)) : Except Fault Lexer := do
  let l ← l.keepKey
  let (t, c) ← read l.cursor
  return { l.emitTo t c with mayBeginKey := false }

/-- A scalar between quotes as a token. -/
def quotedScalar (double : Bool) (c : Cursor) : Except Fault (Token × Cursor) := do
  let (text, c) ← quoted double c
  return (.scalar (String.ofList text) false, c)

/-- A scalar as a block of lines, after which a key may begin. -/
def blockScalar (l : Lexer) (folded : Bool) : Except Fault Lexer := do
  let l ← l.dropKey
  let (text, c) ← orNoToken (block folded l.indent l.cursor)
  return { l.emitTo (.scalar (String.ofList text) false) c with mayBeginKey := true }

/-- A plain scalar; a key may begin after it only on another line. -/
def plainScalar (l : Lexer) : Except Fault Lexer := do
  let l ← l.keepKey
  let (text, broken, c) := plain l.inFlow (l.indent + 1) l.cursor
  return { l.emitTo (.scalar (String.ofList text) true) c with mayBeginKey := broken }

/-- Whether a plain scalar may begin with a character before another. -/
def beginsPlain (inFlow : Bool) (x : Char) (following : Option Char) : Bool :=
  if x == '-' then !endsWord following
  else if x == '?' || x == ':' then !inFlow && !endsWord following
  else !(endsWord (some x) || ",[]\x7b\x7d#&*!|>'\"%@\x60".contains x)

/-- The token that comes next. -/
def nextToken (l : Lexer) (x : Char) : Except Fault Lexer :=
  let c := l.cursor
  let endsMark := endsWord c.afterNext
  if x == '%' && c.column == 0 then
    l.separator fun c => do
      let (d, c) ← c.directive
      return (.directive d, c)
  else if c.column == 0 && c.atMark '-' then l.separator fun c => .ok (.documentStart, c.forward 3)
  else if c.column == 0 && c.atMark '.' then l.separator fun c => .ok (.documentEnd, c.forward 3)
  else if x == '[' then l.openFlow .flowSequence
  else if x == '\x7b' then l.openFlow .flowMapping
  else if x == ']' then l.closeFlow .flowSequenceEnd
  else if x == '\x7d' then l.closeFlow .flowMappingEnd
  else if x == ',' then l.flowEntry
  else if x == '-' && endsMark then l.blockEntry
  else if x == '?' && (l.inFlow || endsMark) then l.markedKey
  else if x == ':' && (l.inFlow || endsMark) then l.valueMark
  else if x == '*' then
    l.keyed fun c => do
      let (name, c) ← c.reference
      return (.alias name, c)
  else if x == '&' then
    l.keyed fun c => do
      let (name, c) ← c.reference
      return (.anchor name, c)
  else if x == '!' then
    l.keyed fun c => do
      let (t, c) ← c.tag
      return (.tag t, c)
  else if x == '|' && !l.inFlow then l.blockScalar false
  else if x == '>' && !l.inFlow then l.blockScalar true
  else if x == '\'' then l.keyed (quotedScalar false)
  else if x == '"' then l.keyed (quotedScalar true)
  else if beginsPlain l.inFlow x c.afterNext then l.plainScalar
  else .error .token

/-- Adds the next token, with the ends of the blocks before it. -/
def advance (l : Lexer) : Except Fault Lexer := do
  let l ← l.toToken.dropStale
  let l := l.closeBlocks l.cursor.column
  let l ← match l.cursor.next with
    | none => l.endOfStream
    | some x => l.nextToken x
  l.dropStale

/-- The tokens that can be had, and what stands in the way of further ones. -/
def run : Nat → Lexer → List Token × Option Fault
  | 0, l => (l.tokens.toList, none)
  | fuel + 1, l =>
    match l.advance with
    | .error fault => (l.tokens.toList.take l.available, some fault)
    | .ok l => if l.isDone then (l.tokens.toList, none) else run fuel l

end Lexer

/-- The tokens of a text, as far as they can be had, and what stands in the way of the others. -/
def tokens (text : String) : List Token × Option Fault :=
  let chars := text.toList
  Lexer.run (chars.length + 2) { cursor := { rest := chars } }

end HrirAtlas.Yaml
