import ScriptAnalysis.Number.Double

/-!
# The shortest decimal of a double

Of the decimals that read back as a given double, the one written has the fewest digits, and of
those the one nearest to it. All arithmetic is exact: the value and the ends of the interval of
reals that round to it are taken as multiples of `2 ^ -1076`, and a grid of step `10 ^ e` meets the
interval only if one of the value's two neighbours on the grid does. The coarsest such grid gives
the digits.

Numbers from a hundred-thousandth up to, but not including, ten quadrillion are written positionally,
with a point and at least one digit after it; smaller and greater ones with an exponent and its sign.
-/

namespace ScriptAnalysis.Number

/-- A natural number of decimal units: `digits · 10 ^ (tens - 324)`. -/
structure Decimal where
  digits : Nat
  tens : Nat
  deriving DecidableEq, Repr

namespace Double

/-- The double's absolute value, counted in units of `2 ^ -1076`. -/
def quarters (x : Double) : Nat := (4 * x.mantissa) <<< x.scale

/-- The distance down to the end of the rounding interval: half the gap to the next lower double,
which is narrower below a power of two. -/
def slackBelow (x : Double) : Nat :=
  (if x.fraction = 0 ∧ 1 < x.exponent then 1 else 2) <<< x.scale

/-- The distance up to the end of the rounding interval. -/
def slackAbove (x : Double) : Nat := 2 <<< x.scale

/-- Whether `count / unit`, in units of `2 ^ -1076`, rounds to the double. The ends of the interval
do so exactly when the mantissa is even. -/
def roundsBack (x : Double) (count unit : Nat) : Bool :=
  let low := (x.quarters - x.slackBelow) * unit
  let high := (x.quarters + x.slackAbove) * unit
  if x.mantissa % 2 = 0 then decide (low ≤ count ∧ count ≤ high)
  else decide (low < count ∧ count < high)

/-- The multiple of `10 ^ (tens - 324)` nearest to the double, if it reads back as the double; of two
that are as near, the even one. -/
def onGrid? (x : Double) (tens : Nat) : Option Decimal :=
  -- The step and the value over the common denominator `10 ^ 324`, in units of `2 ^ -1076`.
  let unit := Nat.pow 10 324
  let step := Nat.pow 10 tens <<< 1076
  let value := x.quarters * unit
  let lower := value / step
  let upper := lower + 1
  let lowerFits := decide (0 < lower) && x.roundsBack (lower * step) unit
  let upperFits := x.roundsBack (upper * step) unit
  let below := value - lower * step
  let above := upper * step - value
  let lowerNearer := decide (below < above ∨ (below = above ∧ lower % 2 = 0))
  if lowerFits && (lowerNearer || !upperFits) then some ⟨lower, tens⟩
  else if upperFits then some ⟨upper, tens⟩
  else none

/-- The shortest decimal of a positive finite double. The grids are tried from the coarsest. -/
def shortest (x : Double) : Decimal :=
  ((List.range 634).reverse.findSome? x.onGrid?).getD ⟨0, 324⟩

end Double

namespace Decimal

/-- The decimal digits of a natural number. -/
def digitText (n : Nat) : List Char := Nat.toDigits 10 n

/-- The power of ten of the first digit. -/
def leading (d : Decimal) : Int := (d.tens + (digitText d.digits).length : Int) - 325

/-- Positional notation with a point and at least one digit on either side of it. -/
def positional (d : Decimal) : List Char :=
  let digits := digitText d.digits
  if 324 ≤ d.tens then digits ++ List.replicate (d.tens - 324) '0' ++ ['.', '0']
  else
    let places := 324 - d.tens
    let padded := List.replicate (places + 1 - digits.length) '0' ++ digits
    padded.take (padded.length - places) ++ '.' :: padded.drop (padded.length - places)

/-- One digit, the others after a point, and the exponent with its sign. -/
def scientific (d : Decimal) : List Char :=
  let sign := if d.leading < 0 then '-' else '+'
  let exponent := 'e' :: sign :: digitText d.leading.natAbs
  match digitText d.digits with
  | [] => exponent
  | [digit] => digit :: exponent
  | digit :: others => digit :: '.' :: others ++ exponent

/-- The text of a decimal: positional while the first digit stands no lower than the fifth place
after the point and no higher than the sixteenth before it. -/
def text (d : Decimal) : List Char :=
  if -5 ≤ d.leading ∧ d.leading < 16 then d.positional else d.scientific

end Decimal

/-- The decimal text of a finite double. -/
def Double.text (x : Double) : String :=
  let sign := if x.isNegative then ['-'] else []
  String.ofList (sign ++ if x.magnitude = 0 then ['0', '.', '0'] else x.shortest.text)

example : Double.text ⟨0x3ff8000000000000⟩ = "1.5" := by decide +kernel
example : Double.text ⟨0x408f400000000000⟩ = "1000.0" := by decide +kernel
example : Double.text ⟨0x3ee4f8b588e368f1⟩ = "0.00001" := by decide +kernel
example : Double.text ⟨0x3e7ad7f29abcaf48⟩ = "1e-7" := by decide +kernel
example : Double.text ⟨0x4341c37937e07fff⟩ = "9999999999999998.0" := by decide +kernel
example : Double.text ⟨0x434aa535d3d0c000⟩ = "1.5e+16" := by decide +kernel
example : Double.text ⟨0xbfd0000000000000⟩ = "-0.25" := by decide +kernel
example : Double.text ⟨0x8000000000000000⟩ = "-0.0" := by decide +kernel

end ScriptAnalysis.Number
