import StoryExports.Text.Basic

/-!
# Blanks and lines

Blank means the Unicode property `White_Space`.
-/
namespace StoryExports

/-- The Unicode property `White_Space`. -/
def isBlank (c : Char) : Bool :=
  let n := c.toNat
  (9 ≤ n && n ≤ 13) || n == 0x20 || n == 0x85 || n == 0xA0 || n == 0x1680 ||
    (0x2000 ≤ n && n ≤ 0x200A) || n == 0x2028 || n == 0x2029 || n == 0x202F || n == 0x205F ||
    n == 0x3000

namespace Text

def trimStart (t : Text) : Text := t.dropWhile isBlank

def trimEnd (t : Text) : Text := (t.reverse.dropWhile isBlank).reverse

def trim (t : Text) : Text := trimEnd (trimStart t)

def isAllBlank (t : Text) : Bool := t.all isBlank

/-- The lines of a text. A line ends at `\n`, together with one `\r` before it; text after the
last `\n` is a line if it is not empty. -/
def lines (t : Text) : List Text := go [] t
where
  /-- `current` holds the line being read, last character first. -/
  go (current : Text) : Text → List Text
    | [] => if current.isEmpty then [] else [current.reverse]
    | c :: cs =>
      if c = '\n' then
        (match current with | '\r' :: rest => rest | _ => current).reverse :: go [] cs
      else go (c :: current) cs

end Text

end StoryExports
