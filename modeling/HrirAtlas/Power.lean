/-
The powers of two and of ten that units, significands and decimal places are counted in.
-/

namespace HrirAtlas

/-- Two to a power. -/
def powerOfTwo (n : Nat) : Nat := Nat.pow 2 n

/-- Ten to a power. -/
def powerOfTen (n : Nat) : Nat := Nat.pow 10 n

end HrirAtlas
