import StoryExports.Decimal.Double
import StoryExports.Text.Basic

/-!
# Shortest decimals

The shortest decimal that rounds to a double, written without an exponent.
-/
namespace StoryExports

/-- A decimal `digits · 10 ^ exponent`. -/
structure Decimal where
  digits : Nat
  exponent : Int
deriving DecidableEq, Repr

namespace Decimal

def toDouble (d : Decimal) : Double := .ofDecimal d.digits d.exponent

/-- The fraction that a finite double stands for. -/
def fraction (m : Nat) (e : Int) : Nat × Nat :=
  if 0 ≤ e then (m * Nat.pow 2 e.toNat, 1) else (m, Nat.pow 2 (-e).toNat)

/-- `num / den` in units of `10 ^ k`. -/
def decimalUnits (num den : Nat) (k : Int) : Nat × Nat :=
  if 0 ≤ k then (num, den * Nat.pow 10 k.toNat) else (num * Nat.pow 10 (-k).toNat, den)

/-- The number of digits before the point of `num / den`; zero or negative below one tenth. It
starts from a number that is too small by at most `fuel`. -/
def magnitude (num den : Nat) : Nat → Int → Int
  | 0, k => k
  | fuel + 1, k =>
    let (a, b) := decimalUnits num den k
    if a < b then k else magnitude num den fuel (k + 1)

/-- The neighbour of `num / den` on the grid of multiples of `10 ^ k` that rounds to `d`, the
nearer one if both do, and the upper one if they are equally near. -/
def neighbour? (d : Double) (num den : Nat) (k : Int) : Option Decimal :=
  let (a, b) := decimalUnits num den k
  let low := a / b
  let below := if toDouble ⟨low, k⟩ = d then some ⟨low, k⟩ else none
  let above := if toDouble ⟨low + 1, k⟩ = d then some ⟨low + 1, k⟩ else none
  match below, above with
  | some x, some y => if 2 * (a % b) < b then some x else some y
  | some x, none => some x
  | none, y => y

/-- Try grids from coarse to fine. -/
def search (d : Double) (num den : Nat) : Nat → Int → Decimal
  | 0, k => ⟨let (a, b) := decimalUnits num den k; a / b, k⟩
  | fuel + 1, k =>
    match neighbour? d num den k with
    | some found => found
    | none => search d num den fuel (k - 1)

/-- The decimal with the fewest digits that rounds to a finite double; of several, the nearest. -/
def shortest (m : Nat) (e : Int) : Decimal :=
  if m = 0 then ⟨0, 0⟩
  else
    let (num, den) := fraction m e
    let start : Int := (floorLog2 num den) * 3 / 10 - 2
    let size := magnitude num den 120 start
    search (.finite m e) num den 17 (size - 1)

def digitChars (n : Nat) : Text := Nat.toDigits 10 n

/-- Write a decimal without an exponent and without zeros at the end of the fraction. -/
def plain (d : Decimal) : Text :=
  let digits := digitChars d.digits
  if 0 ≤ d.exponent then
    if d.digits = 0 then ['0'] else digits ++ List.replicate d.exponent.toNat '0'
  else
    let places := (-d.exponent).toNat
    let padded := List.replicate (places + 1 - digits.length) '0' ++ digits
    let whole := padded.take (padded.length - places)
    let part := ((padded.drop (padded.length - places)).reverse.dropWhile (· == '0')).reverse
    if part.isEmpty then whole else whole ++ '.' :: part

/-- The text of a double: plain decimal notation, the fewest digits that read back, and `inf`. -/
def Double.plain : Double → Text
  | .infinite => "inf".toList
  | .finite m e => (shortest m e).plain

end Decimal

end StoryExports
