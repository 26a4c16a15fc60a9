import StoryExports.Character.Fold
import StoryExports.Character.Property

/-! # Sets of characters -/
namespace StoryExports.Pattern

/-- A set of code points. -/
abbrev CharSet := Nat → Bool

namespace CharSet

def empty : CharSet := fun _ => false

def single (n : Nat) : CharSet := fun m => m == n

def span (first last : Nat) : CharSet := fun n => first ≤ n && n ≤ last

def ofRanges (rs : List (Nat × Nat)) : CharSet := fun n => Character.inRanges n rs

def union (a b : CharSet) : CharSet := fun n => a n || b n

def inter (a b : CharSet) : CharSet := fun n => a n && b n

def diff (a b : CharSet) : CharSet := fun n => a n && !b n

def symmDiff (a b : CharSet) : CharSet := fun n => a n != b n

def compl (a : CharSet) : CharSet := fun n => !a n

/-- The set with all code points that differ in case only. -/
def folded (a : CharSet) : CharSet := fun n => a n || (Character.foldClass n).any a

/-- The other case of an ASCII letter. -/
def otherCase (n : Nat) : Nat :=
  if 0x41 ≤ n && n ≤ 0x5A then n + 0x20 else if 0x61 ≤ n && n ≤ 0x7A then n - 0x20 else n

/-- The set with both cases of its ASCII letters. -/
def asciiFolded (a : CharSet) : CharSet := fun n => a n || a (otherCase n)

def asciiDigit : CharSet := span 0x30 0x39

def asciiSpace : CharSet := ofRanges [(9, 13), (0x20, 0x20)]

def asciiWord : CharSet := ofRanges [(0x30, 0x39), (0x41, 0x5A), (0x5F, 0x5F), (0x61, 0x7A)]

/-- The sets of ASCII characters with a name. -/
def asciiClasses : List (String × List (Nat × Nat)) := [
  ("alnum", [(0x30, 0x39), (0x41, 0x5A), (0x61, 0x7A)]), ("alpha", [(0x41, 0x5A), (0x61, 0x7A)]),
  ("ascii", [(0, 0x7F)]), ("blank", [(9, 9), (0x20, 0x20)]), ("cntrl", [(0, 0x1F), (0x7F, 0x7F)]),
  ("digit", [(0x30, 0x39)]), ("graph", [(0x21, 0x7E)]), ("lower", [(0x61, 0x7A)]),
  ("print", [(0x20, 0x7E)]),
  ("punct", [(0x21, 0x2F), (0x3A, 0x40), (0x5B, 0x60), (0x7B, 0x7E)]),
  ("space", [(9, 13), (0x20, 0x20)]), ("upper", [(0x41, 0x5A)]),
  ("word", [(0x30, 0x39), (0x41, 0x5A), (0x5F, 0x5F), (0x61, 0x7A)]),
  ("xdigit", [(0x30, 0x39), (0x41, 0x46), (0x61, 0x66)])]

def asciiClass? (name : Text) : Option CharSet :=
  (asciiClasses.find? fun (n, _) => n.toList == name).map fun (_, rs) => ofRanges rs

end CharSet

end StoryExports.Pattern
