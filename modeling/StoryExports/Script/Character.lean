import StoryExports.Name.Identifier
import StoryExports.Script.IdentifierTable

/-!
# Characters of scripts

The classes of characters of JavaScript and TypeScript.
-/
namespace StoryExports.Script

def isLineBreak (c : Char) : Bool :=
  c == '\n' || c == '\r' || c.toNat == 0x2028 || c.toNat == 0x2029

/-- White space other than line breaks. -/
def isSpace (c : Char) : Bool :=
  let n := c.toNat
  n == 0x20 || n == 9 || n == 11 || n == 12 || n == 0xA0 || n == 0xFEFF || n == 0x1680 ||
    (0x2000 ≤ n && n ≤ 0x200A) || n == 0x202F || n == 0x205F || n == 0x3000

def isNameStart (c : Char) : Bool :=
  if c.toNat < 128 then Name.isNameStart c else inRanges c.toNat nameStartRanges

def isNamePart (c : Char) : Bool :=
  if c.toNat < 128 then Name.isNamePart c
  else inRanges c.toNat nameStartRanges || inRanges c.toNat namePartRanges

def isDigit (c : Char) : Bool := Name.isAsciiDigit c

/-- The value of a digit in bases up to sixteen. -/
def digitValue? (c : Char) : Option Nat :=
  if '0' ≤ c && c ≤ '9' then some (c.toNat - '0'.toNat)
  else if 'a' ≤ c && c ≤ 'f' then some (c.toNat - 'a'.toNat + 10)
  else if 'A' ≤ c && c ≤ 'F' then some (c.toNat - 'A'.toNat + 10)
  else none

/-- The value of a digit that is below the base. -/
def digitBelow? (base : Nat) (c : Char) : Option Nat :=
  (digitValue? c).filter (· < base)

/-- The character of a code point, if there is one: surrogates and large numbers have none. -/
def scalar? (n : Nat) : Option Char :=
  if h : n.isValidChar then some (Char.ofNatAux n h) else none

end StoryExports.Script
