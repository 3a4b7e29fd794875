/-!
# Double-precision numbers

A double is its 64-bit pattern: a sign, eleven exponent bits and fifty-two fraction bits. A finite
double is `mantissa · 2 ^ (scale - 1074)` up to its sign.

* `Double.same` is numeric equality: the two zeros agree and a pattern that is no number agrees
  with nothing.
* `Double.ofInt` rounds an integer to the nearest double, a tie to the even mantissa.
-/

namespace ScriptAnalysis.Number

/-- A double-precision number by its bit pattern. -/
structure Double where
  bits : UInt64
  deriving DecidableEq, Repr

namespace Double

/-- The weight of the sign bit. -/
def signBit : Nat := 0x8000000000000000

/-- The weight of the lowest exponent bit, which is also the leading bit of a normal mantissa. -/
def exponentBit : Nat := 0x10000000000000

/-- The magnitude of infinity; what lies above it is no number. -/
def infinite : Nat := 0x7ff0000000000000

def isNegative (x : Double) : Bool := decide (signBit ≤ x.bits.toNat)

/-- The pattern without its sign bit, as a natural number; it orders the absolute values. -/
def magnitude (x : Double) : Nat := x.bits.toNat % signBit

def exponent (x : Double) : Nat := x.magnitude / exponentBit

def fraction (x : Double) : Nat := x.magnitude % exponentBit

/-- The integer mantissa, with the leading bit that a normal number leaves out. -/
def mantissa (x : Double) : Nat :=
  if x.exponent = 0 then x.fraction else exponentBit + x.fraction

/-- The power of two the mantissa counts, from the least one, `2 ^ -1074`. -/
def scale (x : Double) : Nat := x.exponent - 1

/-- Whether the pattern stands for no number. -/
def isNaN (x : Double) : Bool := decide (infinite < x.magnitude)

def same (x y : Double) : Bool :=
  !x.isNaN && !y.isNaN && (decide (x = y) || decide (x.magnitude = 0 ∧ y.magnitude = 0))

/-- `n` divided by the power of two and rounded to the nearest integer, a tie to the even one. -/
def roundShift (n shift : Nat) : Nat :=
  let unit := 1 <<< shift
  let quotient := n / unit
  let remainder := n % unit
  if unit < 2 * remainder ∨ (unit = 2 * remainder ∧ quotient % 2 = 1) then quotient + 1
  else quotient

/-- The magnitude nearest to a natural number. Rounding up past the greatest mantissa carries into
the exponent, and past the greatest exponent gives infinity. -/
def magnitudeOfNat (n : Nat) : Nat :=
  if n = 0 then 0
  else
    let top := n.log2
    let rounded := if top ≤ 52 then n <<< (52 - top) else roundShift n (top - 52)
    min ((top + 1022) * exponentBit + rounded) infinite

/-- The double nearest to an integer, a tie to the even mantissa. -/
def ofInt (n : Int) : Double :=
  ⟨UInt64.ofNat ((if n < 0 then signBit else 0) + magnitudeOfNat n.natAbs)⟩

example : ofInt 1 = ⟨0x3ff0000000000000⟩ := by decide
example : ofInt (-2) = ⟨0xc000000000000000⟩ := by decide
example : ofInt 9007199254740993 = ofInt 9007199254740992 := by decide
example : ofInt 9007199254740995 = ofInt 9007199254740996 := by decide
example : ofInt 18446744073709551615 = ⟨0x43f0000000000000⟩ := by decide

end Double

end ScriptAnalysis.Number
