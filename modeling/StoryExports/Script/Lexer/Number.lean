import StoryExports.Script.Lexer.Scan
import StoryExports.Script.Token

/-!
# Numeric literals

Underscores may stand anywhere between the digits.
-/
namespace StoryExports.Script

open Decimal (Double)

/-- Digits of a base, with underscores, from the left. -/
def scanDigits (base : Nat) (cs : Text) : Scan (List Nat) :=
  (scanWhile (fun c => c == '_' || (digitBelow? base c).isSome) cs).map
    (·.filterMap (digitBelow? base))

/-- The value of digits from the left, exactly. -/
def ofDigits (base : Nat) (digits : List Nat) : Nat :=
  digits.foldl (fun n d => n * base + d) 0

/-- The value of digits from the left, rounded after each digit. -/
def roundedDigits (base : Nat) (digits : List Nat) : Double :=
  digits.foldl (fun d n => d.shift base n) (.finite 0 (-1074))

/-- No name and no digit may follow a number directly. -/
def endsNumber : Text → Bool
  | [] => true
  | c :: _ => !isNameStart c && c != '\\' && !isDigit c

/-- Finish a number of digits only, which may be a big integer. -/
def finishInteger (value : Double) (size : Nat) : Text → Option (Scan Tok)
  | 'n' :: cs => if endsNumber cs then some ⟨.bigint, size + 1, cs⟩ else none
  | cs => if endsNumber cs then some ⟨.number value, size, cs⟩ else none

/-- A literal after `0x`, `0o` or `0b`. -/
def scanRadix (base : Nat) (cs : Text) : Option (Scan Tok) :=
  let s := scanDigits base cs
  if s.value.isEmpty then none
  else finishInteger (roundedDigits base s.value) (2 + s.size) s.rest

/-- Whether there is a minus sign, the size of the sign, and the text after it. -/
def splitSign : Text → Bool × Nat × Text
  | '+' :: cs => (false, 1, cs)
  | '-' :: cs => (true, 1, cs)
  | cs => (false, 0, cs)

/-- The exponent part: the exponent, which is zero if there is none. -/
def scanExponent : Text → Option (Scan Int)
  | c :: cs =>
    if c == 'e' || c == 'E' then
      let (negative, sign, cs) := splitSign cs
      let s := scanDigits 10 cs
      if s.value.isEmpty then none
      else
        let n : Int := ofDigits 10 s.value
        some ⟨if negative then -n else n, 1 + sign + s.size, s.rest⟩
    else some ⟨0, 0, c :: cs⟩
  | [] => some ⟨0, 0, []⟩

/-- The digits after a point, if there is one. -/
def scanFraction : Text → Scan (List Nat)
  | '.' :: cs => (scanDigits 10 cs).after 1
  | cs => ⟨[], 0, cs⟩

/-- A decimal literal: digits, a fraction, an exponent. -/
def scanDecimal (cs : Text) : Option (Scan Tok) := do
  let whole := scanDigits 10 cs
  match whole.rest with
  | 'n' :: _ =>
    guard (!whole.value.isEmpty)
    finishInteger (.finite 0 (-1074)) whole.size whole.rest
  | _ =>
    let part := scanFraction whole.rest
    guard (!(whole.value.isEmpty && part.value.isEmpty))
    let exponent ← scanExponent part.rest
    guard (endsNumber exponent.rest)
    let value := Double.ofDecimal (ofDigits 10 (whole.value ++ part.value))
      (exponent.value - part.value.length)
    return ⟨.number value, whole.size + part.size + exponent.size, exponent.rest⟩

/-- A numeric literal. A leading zero before octal digits only makes it octal. -/
def scanNumber : Text → Option (Scan Tok)
  | '0' :: c :: cs =>
    if c == 'x' || c == 'X' then scanRadix 16 cs
    else if c == 'o' || c == 'O' then scanRadix 8 cs
    else if c == 'b' || c == 'B' then scanRadix 2 cs
    else if isDigit c && ((c :: cs).takeWhile isDigit).all fun d => (digitBelow? 8 d).isSome then
      let s := scanDigits 8 (c :: cs)
      if endsNumber s.rest then some ⟨.number (roundedDigits 8 s.value), 1 + s.size, s.rest⟩
      else none
    else scanDecimal ('0' :: c :: cs)
  | cs => scanDecimal cs

end StoryExports.Script
