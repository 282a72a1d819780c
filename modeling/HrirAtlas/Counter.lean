/-
A counter shared by workers. Each operation is one atomic step; it gives back what the caller
learns, and the counter after it.
-/

namespace HrirAtlas

/-- A shared counter. -/
structure Counter where
  value : Int := 0
deriving Repr, DecidableEq

namespace Counter

/-- The present value. -/
def load (c : Counter) : Int := c.value

/-- Adds to the counter; the caller learns the value before. -/
def fetchAdd (c : Counter) (n : Int) : Int × Counter := (c.value, ⟨c.value + n⟩)

/-- Replaces the value if it is the expected one; the caller learns whether it was, and the value
found. -/
def compareExchange (c : Counter) (expected desired : Int) : Bool × Int × Counter :=
  if c.value = expected then (true, expected, ⟨desired⟩) else (false, c.value, c)

end Counter

end HrirAtlas
