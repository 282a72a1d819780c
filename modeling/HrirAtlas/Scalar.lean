/-
Numbers as the import computes with them. `Scalar` asks for ordered arithmetic and for an exact
reading of every value; each rounding and each printed decimal of the library goes through that
reading. So one definition of an algorithm serves the binary floating point of a run and the exact
rationals of a proof.
-/

namespace HrirAtlas

/-! ## Exact readings -/

/-- What a scalar denotes: a sign with an exact quotient `num / den`, or a special value. -/
inductive Reading where
  | nan
  | infinite (negative : Bool)
  | finite (negative : Bool) (num den : Nat)
deriving Repr, DecidableEq

/-- The causes for which arithmetic has no answer. -/
inductive ArithmeticFault where
  | divisionByZero
  | nanToInteger
  | infinityToInteger
deriving Repr, DecidableEq

/-- The whole number nearest to `num / den`, a half going to the even neighbour. -/
def Nat.divHalfEven (num den : Nat) : Nat :=
  let quotient := num / den
  let twice := 2 * (num % den)
  if twice < den then quotient
  else if den < twice then quotient + 1
  else quotient + quotient % 2

namespace Reading

/-- The integer with the given sign and magnitude. -/
def signed (negative : Bool) (magnitude : Nat) : Int :=
  if negative then -(magnitude : Int) else magnitude

/-- Rounds to the nearest integer, halves to even. -/
def round : Reading → Except ArithmeticFault Int
  | nan => .error .nanToInteger
  | infinite _ => .error .infinityToInteger
  | finite negative num den => .ok (signed negative (Nat.divHalfEven num den))

/-- Rounds toward zero. -/
def truncate : Reading → Except ArithmeticFault Int
  | nan => .error .nanToInteger
  | infinite _ => .error .infinityToInteger
  | finite negative num den => .ok (signed negative (num / den))

/-- Rounds up. -/
def ceil : Reading → Except ArithmeticFault Int
  | nan => .error .nanToInteger
  | infinite _ => .error .infinityToInteger
  | finite true num den => .ok (-((num / den : Nat) : Int))
  | finite false num den => .ok (((num + den - 1) / den : Nat) : Int)

/-- Rounds down. -/
def floor : Reading → Except ArithmeticFault Int
  | nan => .error .nanToInteger
  | infinite _ => .error .infinityToInteger
  | finite true num den => .ok (-(((num + den - 1) / den : Nat) : Int))
  | finite false num den => .ok ((num / den : Nat) : Int)

end Reading

/-! ## Ordered arithmetic -/

/-- Ordered arithmetic whose values can be read exactly. `a ≤ a` fails for a value that is no
number, and only for such a value. -/
class Scalar (α : Type) extends Add α, Sub α, Mul α, Div α, Neg α, LT α, LE α, OfScientific α where
  decideLT : DecidableLT α
  decideLE : DecidableLE α
  /-- The nearest value to an integer. -/
  ofInt : Int → α
  /-- The exact value. -/
  reading : α → Reading
  /-- The remainder of division toward zero; it has the sign of the dividend. -/
  rem : α → α → α
  /-- The shortest text that reads back as the value. -/
  text : α → String
  /-- The value nearest to the number that a text spells, if it spells one. -/
  ofText? : String → Option α

instance Scalar.instDecidableLT {α : Type} [Scalar α] : DecidableLT α := Scalar.decideLT

instance Scalar.instDecidableLE {α : Type} [Scalar α] : DecidableLE α := Scalar.decideLE

namespace Scalar

variable {α : Type} [Scalar α]

/-- Whether the value is a number at all. -/
def isNumber (x : α) : Bool := decide (x ≤ x)

/-- Whether the value is zero, of either sign. -/
def isZero (x : α) : Bool := decide (x ≤ 0.0) && decide ((0.0 : α) ≤ x)

/-- The magnitude. -/
def abs (x : α) : α := if x < 0.0 then -x else x

/-- A quotient whose divisor must not be zero. -/
def divide (x y : α) : Except ArithmeticFault α :=
  if isZero y then .error .divisionByZero else .ok (x / y)

/-- The nearest integer, halves to even. -/
def round (x : α) : Except ArithmeticFault Int := (reading x).round

/-- The integer part. -/
def truncate (x : α) : Except ArithmeticFault Int := (reading x).truncate

/-- The least integer that is not below the value. -/
def ceil (x : α) : Except ArithmeticFault Int := (reading x).ceil

/-- The larger of a value and a bound; a value that is no number stays as it is. -/
def atLeast (bound x : α) : α := if bound ≤ x ∨ ¬ x ≤ x then x else bound

/-- The ascending order of sorted lists: a value that is no number comes last. -/
def sortsBefore (x y : α) : Bool := decide (x ≤ y) || !isNumber y

/-- The least element of a list that is not empty; a value that is no number wins. -/
def least (first : α) (rest : List α) : α :=
  rest.foldl (fun best x => if best ≤ x ∨ ¬ best ≤ best then best else x) first

/-- The remainder that has the sign of a positive divisor. -/
def floorMod (x y : α) : α :=
  let remainder := rem x y
  if remainder < 0.0 then remainder + y else remainder

end Scalar

end HrirAtlas
