/-
Sets of characters given by the code points at which membership changes, in ascending order: the
first is where the set begins, the second where it pauses, and so on.
-/

namespace HrirAtlas.Text

/-- Whether a code point lies in the set, by the parity of the changes up to it. -/
def changedAt (point : Nat) : List Nat → Bool
  | [] => false
  | change :: rest => if point < change then false else !changedAt point rest

/-- Whether a character lies in the set that changes at the given code points. -/
def inRanges (changes : List Nat) (c : Char) : Bool := changedAt c.toNat changes

end HrirAtlas.Text
