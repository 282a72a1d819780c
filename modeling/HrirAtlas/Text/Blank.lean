import HrirAtlas.Text.CharRange

/-
Blank characters: the separators and the white space of Unicode 14. They are cut off both ends of a
text before a number is read from it.
-/

namespace HrirAtlas.Text

/-- Where the set of blank characters changes. -/
def blankChanges : List Nat := [
  9, 14, 32, 33, 133, 134, 160, 161, 5760, 5761, 8192, 8203, 8232, 8234, 8239, 8240, 8287, 8288,
  12288, 12289]

/-- Whether a character is blank. -/
def isBlank (c : Char) : Bool := inRanges blankChanges c

/-- The text without the blank characters at its ends. -/
def trim (text : List Char) : List Char :=
  ((text.dropWhile isBlank).reverse.dropWhile isBlank).reverse

end HrirAtlas.Text
