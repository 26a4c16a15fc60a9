import StoryExports.Error

/-!
# Pairing stories

The stories of a template and of the compiled module are paired by position.
-/
namespace StoryExports.Story

variable {α β : Type}

/-- Pair two lists from the last position to the first. `position` counts the pairs before the
lists; names that are known on both sides have to agree. -/
def pairBackward (nameA : α → Option Text) (nameB : β → Option Text) (position : Nat) :
    List (α × β) → Except Mismatch (List (α × β))
  | [] => .ok []
  | (a, b) :: rest => do
    let after ← pairBackward nameA nameB (position + 1) rest
    match nameA a, nameB b with
    | some x, some y =>
      if x = y then return after ++ [(a, b)] else .error (.name (position + 1) x y)
    | _, _ => return after ++ [(a, b)]

/-- Pair the stories of both sides, the last story first. -/
def correlate (nameA : α → Option Text) (nameB : β → Option Text) (as : List α) (bs : List β) :
    Except Mismatch (List (α × β)) :=
  if as.length = bs.length then pairBackward nameA nameB 0 (as.zip bs)
  else .error (.count as.length bs.length)

end StoryExports.Story
