import HrirAtlas.Scalar

/-
Numbers as a parameter gives them: whole, with a fraction, or a truth value standing for one or
zero. Comparisons are exact: they go through the readings of both sides, so a whole number of any
size compares with a scalar without rounding.
-/

namespace HrirAtlas

namespace Reading

/-- The reading of an integer. -/
def ofInt (n : Int) : Reading := .finite (n < 0) n.natAbs 1

/-- Whether the first value is less than the second; a value that is no number never is. -/
def less : Reading → Reading → Bool
  | .nan, _ | _, .nan => false
  | .infinite negative, .infinite other => negative && !other
  | .infinite negative, .finite .. => negative
  | .finite .., .infinite negative => !negative
  | .finite s m d, .finite t n e => signed s (m * e) < signed t (n * d)

/-- Whether both values are numbers and the same one. -/
def same : Reading → Reading → Bool
  | .nan, _ | _, .nan => false
  | .infinite negative, .infinite other => negative == other
  | .infinite _, .finite .. | .finite .., .infinite _ => false
  | .finite s m d, .finite t n e => signed s (m * e) == signed t (n * d)

end Reading

/-- A number as a parameter gives it. -/
inductive Number (α : Type) where
  | int (n : Int)
  | real (x : α)
  | flag (on : Bool)
deriving Repr, DecidableEq

namespace Number

variable {α : Type} [Scalar α]

/-- The exact value. -/
def reading : Number α → Reading
  | int n => .ofInt n
  | real x => Scalar.reading x
  | flag on => .ofInt on.toNat

/-- The nearest scalar. -/
def toScalar : Number α → α
  | int n => Scalar.ofInt n
  | real x => x
  | flag on => Scalar.ofInt on.toNat

/-- The integer part. -/
def truncate (n : Number α) : Except ArithmeticFault Int := n.reading.truncate

def less (m n : Number α) : Bool := m.reading.less n.reading

def same (m n : Number α) : Bool := m.reading.same n.reading

/-- Whether the number counts as a value given, which zero does not. -/
def isGiven (n : Number α) : Bool := !n.same (.int 0)

/-- Half of the number, rounded down, and one more. -/
def halfAndOne : Number α → Number α
  | int n => .int (1 + n.fdiv 2)
  | flag on => .int (1 + (on.toNat : Int).fdiv 2)
  | real x =>
    match (Scalar.reading (x / 2.0)).floor with
    | .ok n => .real (Scalar.ofInt (1 + n))
    | .error _ => .real (x / x - x / x)

/-- Whole numbers in decimal digits, others in their own shortest text. -/
def shown : Number α → String
  | int n => toString n
  | real x => Scalar.text x
  | flag on => if on then "True" else "False"

end Number

end HrirAtlas
