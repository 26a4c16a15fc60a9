import StoryExports.Pattern.Basic
import StoryExports.Text.Blank

/-!
# The text of a pattern

Flags, blanks and numbers.
-/
namespace StoryExports.Pattern

/-- How a part of a pattern is read. -/
structure Flags where
  ignoreCase : Bool
  multiLine : Bool
  /-- A dot stands for a line feed as well. -/
  dotAll : Bool
  /-- Lines may end at a carriage return. -/
  crlf : Bool
  /-- Sets hold all of Unicode, not just ASCII. -/
  unicode : Bool
  /-- Blanks and comments do not count. -/
  verbose : Bool

def Flags.standard : Flags := ⟨false, false, false, false, true, false⟩

/-- A reader takes characters from the front of a text. -/
abbrev Read := StateT Text Option

namespace Read

def peek : Read (Option Char) := return (← get).head?

def next : Read Char := do
  match ← get with
  | c :: cs => set cs; return c
  | [] => failure

/-- Take a character, if it comes next. -/
def eat (c : Char) : Read Bool := do
  match ← get with
  | d :: ds => if d = c then set ds; return true else return false
  | [] => return false

/-- Take a word, if it comes next. -/
def eatWord (w : String) : Read Bool := do
  match (← get).stripStart? w.toList with
  | some rest => set rest; return true
  | none => return false

/-- The text behind blanks and comments. A comment runs from `#` to the end of its line. -/
def withoutBlanks (inComment : Bool) : Text → Text
  | [] => []
  | c :: cs =>
    if inComment then withoutBlanks (c != '\n') cs
    else if isBlank c then withoutBlanks false cs
    else if c = '#' then withoutBlanks true cs
    else c :: cs

/-- Pass over blanks and comments, where they do not count. -/
def blanks (f : Flags) : Read Unit :=
  modify fun t => if f.verbose then withoutBlanks false t else t

/-- The characters that count before `stop`, and the text behind it. -/
def splitAtStop (f : Flags) (stop : Char) (inComment : Bool) : Text → Option (Text × Text)
  | [] => none
  | c :: cs =>
    if inComment then splitAtStop f stop (c != '\n') cs
    else if f.verbose && isBlank c then splitAtStop f stop false cs
    else if f.verbose && c == '#' then splitAtStop f stop true cs
    else if c = stop then some ([], cs)
    else (splitAtStop f stop false cs).map fun (a, rest) => (c :: a, rest)

/-- Take the characters that count up to `stop`, and `stop`. -/
def upTo (f : Flags) (stop : Char) : Read Text := do
  let (before, rest) ← (splitAtStop f stop false (← get) : Option _)
  set rest
  return before

/-- Take the characters from the front that satisfy `p`; blanks between them do not count. -/
def takeWhile (f : Flags) (p : Char → Bool) : Read Text := do
  let t ← get
  let (taken, rest) := go t.length t
  set rest
  return taken
where
  go : Nat → Text → Text × Text
    | n + 1, c :: cs =>
      if p c then
        let (taken, rest) := go n (if f.verbose then withoutBlanks false cs else cs)
        (c :: taken, rest)
      else ([], c :: cs)
    | _, t => ([], t)

/-- A decimal number; blanks around it never count. -/
def decimal (f : Flags) : Read Nat := do
  modify (·.dropWhile isBlank)
  let digits ← takeWhile f fun c => '0' ≤ c && c ≤ '9'
  modify (·.dropWhile isBlank)
  blanks f
  guard !digits.isEmpty
  let n := digits.foldl (fun n c => n * 10 + (c.toNat - '0'.toNat)) 0
  guard (n < Nat.pow 2 32)
  return n

def hexDigit? (c : Char) : Option Nat :=
  if '0' ≤ c && c ≤ '9' then some (c.toNat - '0'.toNat)
  else if 'a' ≤ c && c ≤ 'f' then some (c.toNat - 'a'.toNat + 10)
  else if 'A' ≤ c && c ≤ 'F' then some (c.toNat - 'A'.toNat + 10)
  else none

/-- The code point that hexadecimal digits stand for. -/
def codePoint (digits : Text) : Read Nat := do
  guard !digits.isEmpty
  let n ← digits.foldlM (fun n c => return n * 16 + (← (hexDigit? c : Option Nat))) 0
  guard n.isValidChar
  return n

/-- Take a number of characters; blanks before each do not count. -/
def take (f : Flags) : Nat → Read Text
  | 0 => return []
  | n + 1 => do
    blanks f
    let c ← next
    return c :: (← take f n)

end Read

end StoryExports.Pattern
