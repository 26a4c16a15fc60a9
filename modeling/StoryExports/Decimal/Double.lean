/-!
# Double precision

Non-negative numbers in double precision, and rounding to the nearest of them.
-/
namespace StoryExports.Decimal

/-- A non-negative double: `mantissa · 2 ^ exponent`, or infinity. A finite double has a mantissa
below `2 ^ 53`; the exponent is at least `-1074`, and above that the mantissa is at least
`2 ^ 52`. -/
inductive Double
  | finite (mantissa : Nat) (exponent : Int)
  | infinite
deriving DecidableEq, Repr, Inhabited

/-- The fraction `num / den` in units of `2 ^ e`. -/
def scaled (num den : Nat) (e : Int) : Nat × Nat :=
  if 0 ≤ e then (num, den * Nat.pow 2 e.toNat) else (num * Nat.pow 2 (-e).toNat, den)

/-- Round a fraction to the nearest natural number, a half to the even one. -/
def roundHalfEven (num den : Nat) : Nat :=
  let q := num / den
  let r := num % den
  if 2 * r < den then q
  else if den < 2 * r then q + 1
  else if q % 2 = 0 then q else q + 1

/-- The power of two at or below `num / den`, for positive `num` and `den`. -/
def floorLog2 (num den : Nat) : Int :=
  let k : Int := (Nat.log2 num : Int) - (Nat.log2 den : Int)
  let (a, b) := scaled num den k
  if a < b then k - 1 else k

/-- The double nearest to `num / den`, ties to the even mantissa. -/
def Double.ofFraction (num den : Nat) : Double :=
  if num = 0 then .finite 0 (-1074)
  else
    let e := max (floorLog2 num den - 52) (-1074)
    let (a, b) := scaled num den e
    let m := roundHalfEven a b
    let (m, e) := if m = Nat.pow 2 53 then (Nat.pow 2 52, e + 1) else (m, e)
    if 971 < e then .infinite else .finite m e

/-- The double nearest to `digits · 10 ^ exponent`. Exponents far outside the range of doubles
need no powers of ten. -/
def Double.ofDecimal (digits : Nat) (exponent : Int) : Double :=
  let size : Int := (Nat.log2 digits : Int) / 4 + exponent
  if digits = 0 then .finite 0 (-1074)
  else if 400 < size then .infinite
  else if size < -400 - (Nat.log2 digits : Int) then .finite 0 (-1074)
  else if 0 ≤ exponent then .ofFraction (digits * Nat.pow 10 exponent.toNat) 1
  else .ofFraction digits (Nat.pow 10 (-exponent).toNat)

/-- Multiply by a base and add a digit, with one rounding. -/
def Double.shift (base digit : Nat) : Double → Double
  | .infinite => .infinite
  | .finite m e =>
    if 0 ≤ e then .ofFraction (m * Nat.pow 2 e.toNat * base + digit) 1
    else .ofFraction (m * base + digit * Nat.pow 2 (-e).toNat) (Nat.pow 2 (-e).toNat)

end StoryExports.Decimal
