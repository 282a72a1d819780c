import HrirAtlas.Setting

/-
Command lines. A program has switches, which begin with one or two dashes, and operands. A switch
may be cut short as long as it stays unambiguous; its value follows it as the next argument, after
an equals sign, or, for a switch of one letter, at once. Switches of one letter without a value may
be written together. A negative number is a value and no switch, and after two dashes all arguments
are operands.
-/

namespace HrirAtlas.CommandLine

/-- What a switch does. -/
inductive SwitchKind where
  /-- Asks for help, which ends the program. -/
  | help
  /-- Sets a flag. -/
  | flag
  /-- Gives a text. -/
  | text
  /-- Gives a whole number. -/
  | whole
deriving Repr, DecidableEq

/-- Whether the switch needs a value. -/
def SwitchKind.takesValue : SwitchKind → Bool
  | help | flag => false
  | text | whole => true

/-- A switch: its spellings, the name under which it is stored, and its value if it is not used. -/
structure Switch (α : Type) where
  spellings : List String
  key : String
  kind : SwitchKind
  unused : Setting α := .null

/-- The switch that asks for help. -/
def Switch.help {α : Type} : Switch α := { spellings := ["-h", "--help"], key := "help", kind := .help }

/-- What a program understands. -/
structure Grammar (α : Type) where
  operands : List String := []
  switches : List (Switch α)

/-- How a command line is wrong. -/
inductive Misuse where
  | ambiguous (given : String) (candidates : List String)
  | missingValue (spellings : List String)
  | needlessValue (spellings : List String) (value : String)
  | notWhole (spellings : List String) (value : String)
  | missingOperands (keys : List String)
  | unrecognized (arguments : List String)
deriving Repr, DecidableEq

/-- The message for a switch. -/
private def about (spellings : List String) (text : String) : String :=
  "argument " ++ "/".intercalate spellings ++ ": " ++ text

def Misuse.message : Misuse → String
  | ambiguous given candidates =>
    "ambiguous option: " ++ given ++ " could match " ++ ", ".intercalate candidates
  | missingValue spellings => about spellings "expected one argument"
  | needlessValue spellings value => about spellings ("ignored explicit argument " ++ Text.quoted value)
  | notWhole spellings value => about spellings ("invalid int value: " ++ Text.quoted value)
  | missingOperands keys => "the following arguments are required: " ++ ", ".intercalate keys
  | unrecognized arguments => "unrecognized arguments: " ++ " ".intercalate arguments

/-- Why a program ends before it starts. -/
inductive Halt where
  | help
  | misuse (cause : Misuse)
deriving Repr, DecidableEq

/-! ## Kinds of arguments -/

/-- A value written in one argument with its switch, after an equals sign or at once. -/
structure Attached where
  marked : Bool
  text : List Char
deriving Repr, DecidableEq

/-- What an argument is. -/
inductive Word (α : Type) where
  /-- The two dashes after which there are only operands. -/
  | separator
  | operand
  | switch (s : Switch α) (spelling : List Char) (attached : Option Attached)
  /-- Like a switch, but unknown. -/
  | unknown

/-- Whether an argument is neither an operand nor the separator. -/
def Word.isSwitchLike {α : Type} : Word α → Bool
  | separator | operand => false
  | switch .. | unknown => true

/-- Whether an argument looks like a negative number. -/
def isNegativeNumber (argument : List Char) : Bool :=
  let isDigit (c : Char) := (Text.digitValue? c).isSome
  let plain := match argument.reverse with
    | '\n' :: rest => rest.reverse
    | _ => argument
  match plain with
  | '-' :: digits =>
    match digits.dropWhile isDigit with
    | [] => !digits.isEmpty
    | '.' :: places => !places.isEmpty && places.all isDigit
    | _ => false
  | _ => false

namespace Grammar

variable {α : Type}

/-- All spellings of all switches with their switches. -/
def spellings (g : Grammar α) : List (List Char × Switch α) :=
  g.switches.flatMap fun s => s.spellings.map fun spelling => (spelling.toList, s)

/-- The switch with exactly this spelling. -/
def find? (g : Grammar α) (spelling : List Char) : Option (Switch α) :=
  (g.spellings.find? fun entry => entry.1 == spelling).map Prod.snd

/-- The part before the first equals sign, and the part after it, if there is one. -/
def splitValue (argument : List Char) : List Char × Option Attached :=
  match argument.dropWhile (· != '=') with
  | '=' :: value => (argument.takeWhile (· != '='), some ⟨true, value⟩)
  | _ => (argument, none)

/-- The switches that an argument without an exact spelling may mean. -/
def candidates (g : Grammar α) : List Char → List (List Char × Switch α × Option Attached)
  | '-' :: '-' :: name =>
    let (start, value) := splitValue ('-' :: '-' :: name)
    (g.spellings.filter fun entry => start.isPrefixOf entry.1).map fun (spelling, s) => (spelling, s, value)
  | '-' :: letter :: rest =>
    g.spellings.filterMap fun (spelling, s) =>
      if spelling = ['-', letter] then some (spelling, s, some ⟨false, rest⟩)
      else if ('-' :: letter :: rest).isPrefixOf spelling then some (spelling, s, none)
      else none
  | _ => []

/-- What an argument without an exact spelling is. -/
def guess (g : Grammar α) (argument : List Char) : Except Misuse (Word α) :=
  match g.candidates argument with
  | [(spelling, s, attached)] => .ok (.switch s spelling attached)
  | [] =>
    if isNegativeNumber argument || argument.contains ' ' then .ok .operand else .ok .unknown
  | several =>
    .error (.ambiguous (String.ofList argument) (several.map fun entry => String.ofList entry.1))

/-- What an argument is, the separator apart. -/
def classify (g : Grammar α) (argument : List Char) : Except Misuse (Word α) :=
  match argument with
  | '-' :: _ :: _ =>
    match g.find? argument with
    | some s => .ok (.switch s argument none)
    | none =>
      let (name, value) := splitValue argument
      match value, g.find? name with
      | some _, some s => .ok (.switch s name value)
      | _, _ => g.guess argument
  | _ => .ok .operand

/-- What each argument is. -/
def classifyAll (g : Grammar α) : List String → Except Misuse (List (String × Word α))
  | [] => .ok []
  | argument :: rest =>
    if argument = "--" then .ok ((argument, .separator) :: rest.map fun later => (later, .operand))
    else do
      let word ← g.classify argument.toList
      return (argument, word) :: (← g.classifyAll rest)

end Grammar

/-! ## Switches written together -/

/-- What one argument comes to: switches with their values, a last switch whose value, if it needs
one, is the next argument, and a rest that is not understood. -/
structure Chain (α : Type) where
  taken : List (Switch α × Option String) := []
  pending : Option (Switch α) := none
  rest : Option String := none

/-- Splits the text attached to a switch: it is the value of the switch, or more switches. -/
def unfold {α : Type} (g : Grammar α) (s : Switch α) (isLong marked : Bool) (text : List Char) :
    Except Misuse (Chain α) :=
  if s.kind.takesValue then .ok { taken := [(s, some (String.ofList text))] }
  else
    match text with
    | [] => .error (.needlessValue s.spellings "")
    | letter :: more =>
      if isLong || marked || letter == '-' then .error (.needlessValue s.spellings (String.ofList text))
      else
        match g.find? ['-', letter], more with
        | none, _ => .ok { taken := [(s, none)], rest := some (String.ofList ('-' :: text)) }
        | some next, [] => .ok { taken := [(s, none)], pending := some next }
        | some next, '=' :: value =>
          (unfold g next false true value).map fun chain => { chain with taken := (s, none) :: chain.taken }
        | some next, more =>
          (unfold g next false false more).map fun chain => { chain with taken := (s, none) :: chain.taken }
termination_by text.length

/-- What a switch with its attached text comes to. -/
def chainOf {α : Type} (g : Grammar α) (s : Switch α) (spelling : List Char) :
    Option Attached → Except Misuse (Chain α)
  | none => .ok { pending := some s }
  | some attached => unfold g s ("--".toList.isPrefixOf spelling) attached.marked attached.text

/-! ## Parsing -/

/-- What is known so far: values by key, operands not seen yet, and arguments not understood. -/
structure Parsed (α : Type) where
  values : List (String × Setting α)
  waiting : List String
  extras : List String := []

namespace Parsed

variable {α : Type}

/-- Before any argument: every switch has its value for not being used. -/
def start (g : Grammar α) : Parsed α where
  values := g.operands.map (·, .null)
    ++ (g.switches.filter (·.kind != .help)).map fun s => (s.key, s.unused)
  waiting := g.operands

def store (p : Parsed α) (key : String) (value : Setting α) : Parsed α :=
  { p with values := p.values.map fun entry => if entry.1 = key then (key, value) else entry }

/-- Adds arguments that are not understood. -/
def leave (p : Parsed α) (arguments : List String) : Parsed α :=
  { p with extras := p.extras ++ arguments }

/-- Takes a switch with its value. -/
def take (p : Parsed α) (s : Switch α) (value : Option String) : Except Halt (Parsed α) :=
  match s.kind with
  | .help => .error .help
  | .flag => .ok (p.store s.key (.flag true))
  | .text => .ok (p.store s.key (.text (value.getD "")))
  | .whole =>
    match Decimal.readInt? (value.getD "") with
    | some n => .ok (p.store s.key (.int n))
    | none => .error (.misuse (.notWhole s.spellings (value.getD "")))

/-- Takes switches one after another. -/
def takeAll (p : Parsed α) (taken : List (Switch α × Option String)) : Except Halt (Parsed α) :=
  taken.foldlM (fun p (s, value) => p.take s value) p

/-- Takes the arguments after the last switch: operands while any are waiting, among them at most
one separator. -/
def finish (p : Parsed α) : List (String × Word α) → Parsed α
  | [] => p
  | (argument, word) :: rest =>
    match p.waiting, word, rest with
    | key :: more, .operand, (_, .separator) :: rest => finish { p.store key (.text argument) with waiting := more } rest
    | key :: more, .operand, rest => finish { p.store key (.text argument) with waiting := more } rest
    | key :: more, .separator, (operand, _) :: rest => finish { p.store key (.text operand) with waiting := more } rest
    | _, _, rest => p.leave (argument :: rest.map Prod.fst)

/-- The chain of one argument with the argument after it, which may be its value; the flag tells
whether it is. -/
def takeChain (p : Parsed α) (chain : Chain α) (next : Option (String × Word α)) :
    Except Halt (Parsed α × Bool) :=
  match chain.pending with
  | none => do
    let p ← p.takeAll chain.taken
    return (p.leave chain.rest.toList, false)
  | some s =>
    if s.kind.takesValue then
      match next with
      | some (value, .operand) => do return (← p.takeAll (chain.taken ++ [(s, some value)]), true)
      | _ => throw (.misuse (.missingValue s.spellings))
    else do return (← p.takeAll (chain.taken ++ [(s, none)]), false)

/-- Takes all arguments in order. -/
def run (g : Grammar α) (p : Parsed α) : List (String × Word α) → Except Halt (Parsed α)
  | [] => .ok p
  | (argument, word) :: rest =>
    if (word :: rest.map Prod.snd).any Word.isSwitchLike then
      match word with
      | .switch s spelling attached => do
        let chain ← (chainOf g s spelling attached).mapError .misuse
        match rest with
        | [] => return (← p.takeChain chain none).1
        | next :: later =>
          let (p, used) ← p.takeChain chain (some next)
          if used then run g p later else run g p (next :: later)
      | .unknown => run g (p.leave [argument]) rest
      | .separator | .operand =>
        match p.waiting with
        | [] => run g (p.leave [argument]) rest
        | key :: more => run g { p.store key (.text argument) with waiting := more } rest
    else .ok (p.finish ((argument, word) :: rest))

end Parsed

/-- The values of a command line by key, and the arguments that are not understood. -/
def parseKnown {α : Type} (g : Grammar α) (arguments : List String) :
    Except Halt (List (String × Setting α) × List String) := do
  let words ← (g.classifyAll arguments).mapError .misuse
  let p ← (Parsed.start g).run g words
  if !p.waiting.isEmpty then throw (.misuse (.missingOperands p.waiting))
  return (p.values, p.extras)

/-- The values of a command line by key; all arguments must be understood. -/
def parse {α : Type} (g : Grammar α) (arguments : List String) : Except Halt (List (String × Setting α)) := do
  let (values, extras) ← parseKnown g arguments
  if !extras.isEmpty then throw (.misuse (.unrecognized extras))
  return values

end HrirAtlas.CommandLine
