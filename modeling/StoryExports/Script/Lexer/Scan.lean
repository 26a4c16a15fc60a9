import StoryExports.Script.Character

/-!
# Lexical elements

One lexical element is read off the front of a text.
-/
namespace StoryExports.Script

/-- What was read: its value, its size in bytes, and the text after it. -/
structure Scan (α : Type) where
  value : α
  size : Nat
  rest : Text
deriving Repr

namespace Scan

variable {α β : Type}

def map (f : α → β) (s : Scan α) : Scan β := ⟨f s.value, s.size, s.rest⟩

/-- Account for bytes that stand before what was read. -/
def after (bytes : Nat) (s : Scan α) : Scan α := { s with size := bytes + s.size }

end Scan

/-- The longest beginning whose characters satisfy `p`. -/
def scanWhile (p : Char → Bool) : Text → Scan Text
  | [] => ⟨[], 0, []⟩
  | c :: cs =>
    if p c then
      let s := scanWhile p cs
      ⟨c :: s.value, c.utf8Size + s.size, s.rest⟩
    else ⟨[], 0, c :: cs⟩

end StoryExports.Script
