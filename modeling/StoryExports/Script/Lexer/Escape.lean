import StoryExports.Script.Lexer.Scan

/-!
# Escape sequences

A code point in the surrogate range stands for no character, so its escape stays as it is written.
-/
namespace StoryExports.Script

/-- Exactly `n` hexadecimal digits. -/
def scanHex : Nat → Text → Option (Scan Text)
  | 0, cs => some ⟨[], 0, cs⟩
  | _ + 1, [] => none
  | n + 1, c :: cs =>
    if (digitBelow? 16 c).isSome then
      (scanHex n cs).map fun s => ⟨c :: s.value, c.utf8Size + s.size, s.rest⟩
    else none

def hexValue (digits : Text) : Nat :=
  digits.foldl (fun n c => n * 16 + (digitBelow? 16 c).getD 0) 0

/-- The characters of a `\u` escape, given the text after `\u`. -/
def scanUnicode : Text → Option (Scan Text)
  | '\x7b' :: cs =>
    let s := scanWhile (fun c => (digitBelow? 16 c).isSome) cs
    match s.rest with
    | '\x7d' :: rest =>
      if s.value.isEmpty || 0x10FFFF < hexValue s.value then none
      else
        let cooked := match scalar? (hexValue s.value) with
          | some c => [c]
          | none => '\\' :: 'u' :: '\x7b' :: s.value ++ ['\x7d']
        some ⟨cooked, s.size + 2, rest⟩
    | _ => none
  | cs =>
    (scanHex 4 cs).map fun s =>
      s.map fun digits => match scalar? (hexValue digits) with
        | some c => [c]
        | none => '\\' :: 'u' :: digits

/-- Up to three octal digits with a value below 256. -/
def scanOctal (cs : Text) : Scan Nat :=
  let digits := cs.takeWhile fun c => (digitBelow? 8 c).isSome
  let three := digits.take 3
  let value (ds : Text) := ds.foldl (fun n c => n * 8 + (digitBelow? 8 c).getD 0) 0
  let taken := if value three < 256 then three else three.take 2
  ⟨value taken, taken.length, cs.drop taken.length⟩

/-- The characters of an escape sequence, given the text after the backslash. A line break after
the backslash joins two lines. -/
def scanEscape : Text → Option (Scan Text)
  | [] => none
  | c :: cs =>
    let single (d : Char) : Option (Scan Text) := some ⟨[d], c.utf8Size, cs⟩
    match c with
    | 'n' => single '\n'
    | 't' => single '\t'
    | 'r' => single '\r'
    | 'b' => single '\x08'
    | 'v' => single '\x0b'
    | 'f' => single '\x0c'
    | 'x' => (scanHex 2 cs).map fun s => (s.map fun ds => [Char.ofNat (hexValue ds)]).after 1
    | 'u' => (scanUnicode cs).map (·.after 1)
    | '\r' =>
      match cs with
      | '\n' :: cs => some ⟨[], 2, cs⟩
      | cs => some ⟨[], 1, cs⟩
    | c =>
      if isLineBreak c then some ⟨[], c.utf8Size, cs⟩
      else if (digitBelow? 8 c).isSome then
        let s := scanOctal (c :: cs)
        some (s.map fun n => [Char.ofNat n])
      else single c

end StoryExports.Script
