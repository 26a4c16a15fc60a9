import StoryExports.Text.Basic

/-!
# UTF-16 units

Offsets that count UTF-16 code units, and the byte offsets they stand for.
-/
namespace StoryExports.Text

/-- Code units of a character in UTF-16. -/
def unitSize (c : Char) : Nat := if c.toNat < 0x10000 then 1 else 2

/-- Code units of a text in UTF-16. -/
def units : Text → Nat
  | [] => 0
  | c :: cs => unitSize c + units cs

/-- The byte offset of a code unit offset. There is none past the end or inside a character. -/
def byteOffset? : Nat → Text → Option Nat
  | 0, _ => some 0
  | _ + 1, [] => none
  | n + 1, c :: cs =>
    if unitSize c ≤ n + 1 then (byteOffset? (n + 1 - unitSize c) cs).map (c.utf8Size + ·)
    else none

def isAscii (t : Text) : Bool := t.all fun c => c.toNat < 128

end StoryExports.Text
