import HrirAtlas.Parameters

/-
Parameter files: a document with a mapping of parameters. How a document is read is not told here:
the reader is an argument.
-/

namespace HrirAtlas.Parameters

variable {α : Type} [Scalar α]

/-- What tells the value of the document in a text. -/
abbrev Reader (α : Type) := String → Except Yaml.Fault (Setting α)

/-- The parameters in a file, from what was found under its name. -/
def ofFile (read : Reader α) (name : String) (found : Except FileFault String) : Except (Fault α) (Parameters α) := do
  let text ← found.mapError .file
  ofDocument name (← (read text).mapError .document)

/-- The parameters from a file, where one is named, and from the command line, checked. -/
def gather (read : Reader α) (file : Option (String × Except FileFault String))
    (console : List (String × Setting α)) : Except (Fault α) (Parameters α) := do
  let entries ← match file with
    | none => pure ⟨[]⟩
    | some (name, found) => ofFile read name found
  load entries console

end HrirAtlas.Parameters
