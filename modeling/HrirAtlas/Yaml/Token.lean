import HrirAtlas.Yaml.Cursor
import HrirAtlas.Yaml.Fault

/-
Tokens of a document, and those of them that are made of names: anchors and aliases, tags and
directives.
-/

namespace HrirAtlas.Yaml

/-- A tag as it is written: an abbreviation, unless the tag is given in full, and the rest. -/
structure WrittenTag where
  handle : Option String
  suffix : String
deriving Repr, DecidableEq

/-- What a line before a document may settle. -/
inductive Directive where
  | version (major : Nat)
  /-- What a handle abbreviates in tags. -/
  | abbreviation (handle expansion : String)
  | other
deriving Repr, DecidableEq

/-- A token: a mark, a boundary that indentation implies, or a name or text with its kind. -/
inductive Token where
  | directive (d : Directive)
  | documentStart
  | documentEnd
  | streamEnd
  | blockSequence
  | blockMapping
  | blockEnd
  | flowSequence
  | flowSequenceEnd
  | flowMapping
  | flowMappingEnd
  | blockEntry
  | flowEntry
  | key
  | value
  | alias (name : String)
  | anchor (name : String)
  | tag (t : WrittenTag)
  | scalar (text : String) (isPlain : Bool)
deriving Repr, DecidableEq

namespace Cursor

/-- The place after a character that must come next. -/
def expect (c : Cursor) (x : Char) : Except Fault Cursor :=
  if c.next == some x then .ok c.step else .error .token

/-- Checks what comes next. -/
def ensure (c : Cursor) (test : Option Char → Bool) : Except Fault Unit :=
  if test c.next then .ok () else .error .token

/-- A name of at least one character. -/
def name (c : Cursor) : Except Fault (String × Cursor) :=
  let (chars, c) := c.takeWhile isNameChar
  if chars.isEmpty then .error .token else .ok (String.ofList chars, c)

/-- The name of an anchor or an alias, after its mark. -/
def reference (c : Cursor) : Except Fault (String × Cursor) := do
  let (name, c) ← c.step.name
  c.ensure fun next => endsWord next || next.any ("?:,]\x7d%@\x60".contains ·)
  return (name, c)

/-! ## Tags -/

/-- A handle: a mark alone, or a name between two marks. -/
def handle (c : Cursor) : Except Fault (String × Cursor) := do
  let c ← c.expect '!'
  if c.next == some ' ' then return ("!", c)
  let (chars, c) := c.takeWhile isNameChar
  let c ← c.expect '!'
  return ("!" ++ String.ofList chars ++ "!", c)

/-- The bytes of the escapes that come next. -/
def escapedBytes : Nat → Cursor → Except Fault (List UInt8 × Cursor)
  | 0, c => .ok ([], c)
  | fuel + 1, c =>
    if c.next == some '%' then do
      let digits := c.step.rest.take 2
      if digits.length < 2 || !digits.all isHexDigit then .error .token
      else
        let (bytes, c) ← escapedBytes fuel (c.step.forward 2)
        return (UInt8.ofNat (numberOf 16 digits) :: bytes, c)
    else .ok ([], c)

/-- Whether a character may stand in an identifier as it is. -/
def isIdentifierChar (c : Char) : Bool := c.isAlphanum || "-;/?:@&=+$,_.!~*'()[]".contains c

/-- The characters of an identifier; escapes are the bytes of characters. -/
def identifierChars : Nat → Cursor → Except Fault (List Char × Cursor)
  | 0, c => .ok ([], c)
  | fuel + 1, c => do
    if c.next == some '%' then
      let (bytes, c) ← escapedBytes (c.rest.length + 1) c
      let text ← orNoToken (String.fromUTF8? ⟨bytes.toArray⟩)
      let (more, c) ← identifierChars fuel c
      return (text.toList ++ more, c)
    else
      let (chars, c) := c.takeWhile isIdentifierChar
      if chars.isEmpty then return ([], c)
      let (more, c) ← identifierChars fuel c
      return (chars ++ more, c)

/-- An identifier of at least one character. -/
def identifier (c : Cursor) : Except Fault (String × Cursor) := do
  let (chars, c) ← identifierChars (c.rest.length + 1) c
  if chars.isEmpty then .error .token else return (String.ofList chars, c)

/-- A tag: in full between angle brackets, a mark alone, or a handle with an identifier. -/
def tag (c : Cursor) : Except Fault (WrittenTag × Cursor) := do
  let (tag, c) ←
    if c.afterNext == some '<' then do
      let (suffix, c) ← (c.forward 2).identifier
      pure (⟨none, suffix⟩, ← c.expect '>')
    else if endsWord c.afterNext then pure (⟨none, "!"⟩, c.step)
    else do
      let field := c.step.rest.takeWhile fun x => !endsField (some x)
      let (handle, c) ← if field.contains '!' then c.handle else pure ("!", c.step)
      let (suffix, c) ← c.identifier
      pure (WrittenTag.mk (some handle) suffix, c)
  c.ensure endsField
  return (tag, c)

/-! ## Directives -/

/-- A row of digits. -/
def digits (c : Cursor) : Except Fault (Nat × Cursor) :=
  let (chars, c) := c.takeWhile Char.isDigit
  if chars.isEmpty then .error .token else .ok (numberOf 10 chars, c)

/-- What stands after the name of a directive. -/
def directiveValue (name : String) (c : Cursor) : Except Fault (Directive × Cursor) := do
  if name = "YAML" then
    let (major, c) ← (c.dropWhile (· == ' ')).digits
    let (_, c) ← (← c.expect '.').digits
    c.ensure endsField
    return (.version major, c)
  else if name = "TAG" then
    let (handle, c) ← (c.dropWhile (· == ' ')).handle
    c.ensure (· == some ' ')
    let (expansion, c) ← (c.dropWhile (· == ' ')).identifier
    c.ensure endsField
    return (.abbreviation handle expansion, c)
  else return (.other, c.restOfLine.2)

/-- A directive, which begins at its mark and takes the whole line. -/
def directive (c : Cursor) : Except Fault (Directive × Cursor) := do
  let (name, c) ← c.step.name
  c.ensure endsField
  let (directive, c) ← directiveValue name c
  return (directive, ← orNoToken c.restIgnored?)

end Cursor

end HrirAtlas.Yaml
