import HrirAtlas.Yaml.Lexer
import HrirAtlas.Yaml.Value

/-
Documents of version 1.1 of YAML with the common tags: a text holds one document or none, and its
value is a setting. A text without a document has the value null.
-/

namespace HrirAtlas.Yaml

/-- The text with a line feed at the end of every line. -/
def withLineFeeds : List Char → List Char
  | [] => []
  | '\r' :: '\n' :: rest => '\n' :: withLineFeeds rest
  | '\r' :: rest => '\n' :: withLineFeeds rest
  | c :: rest => c :: withLineFeeds rest

/-- Checks that every character may stand in a document. -/
def checkCharacters (chars : List Char) : Except Fault Unit :=
  if chars.all isAllowed then .ok () else .error .character

/-- The value of the document in a text. -/
def read {α : Type} [Scalar α] (text : String) : Except Fault (Setting α) := do
  let chars := withLineFeeds text.toList
  checkCharacters chars
  let (tokens, fault) := tokens (String.ofList chars)
  match ← Node.ofTokens tokens fault with
  | none => return .null
  | some root => (root.value 0).mapError Prod.snd

end HrirAtlas.Yaml
