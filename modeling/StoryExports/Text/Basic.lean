/-!
# Texts and offsets

Texts are lists of characters, and every offset into a text counts bytes of its UTF-8 encoding. An
offset inside a character is no place to cut.
-/
namespace StoryExports

abbrev Text := List Char

/-- A half-open range of byte offsets. -/
structure Span where
  start : Nat
  stop : Nat
deriving DecidableEq, Repr, Inhabited

namespace Text

/-- Length of the UTF-8 encoding. -/
def bytes : Text → Nat
  | [] => 0
  | c :: cs => c.utf8Size + bytes cs

/-- Cut a text at a byte offset. There is no cut past the end or inside a character. -/
def cut? : Nat → Text → Option (Text × Text)
  | 0, cs => some ([], cs)
  | _ + 1, [] => none
  | n + 1, c :: cs =>
    if c.utf8Size ≤ n + 1 then
      (cut? (n + 1 - c.utf8Size) cs).map fun (before, after) => (c :: before, after)
    else none

/-- Whether a byte offset lies between two characters, or at either end. -/
def isBoundary (n : Nat) (t : Text) : Bool := (cut? n t).isSome

/-- The part of a text that a span covers, when both ends are boundaries in order. -/
def slice? (s : Span) (t : Text) : Option Text := do
  guard (s.start ≤ s.stop)
  let (_, rest) ← cut? s.start t
  let (part, _) ← cut? (s.stop - s.start) rest
  return part

/-- Put `new` in place of the part that a span covers. A span that covers no part changes
nothing. -/
def replace (t : Text) (s : Span) (new : Text) : Text :=
  match cut? s.start t, cut? s.stop t with
  | some (before, _), some (_, after) => before ++ new ++ after
  | _, _ => t

/-- The text after a given beginning. -/
def stripStart? : (t beginning : Text) → Option Text
  | t, [] => some t
  | [], _ :: _ => none
  | c :: cs, p :: ps => if c = p then stripStart? cs ps else none

/-- The text before a given ending. -/
def stripEnd? (t ending : Text) : Option Text :=
  (stripStart? t.reverse ending.reverse).map List.reverse

def startsWith (t beginning : Text) : Bool := (stripStart? t beginning).isSome

def endsWith (t ending : Text) : Bool := (stripEnd? t ending).isSome

/-- Whether `part` occurs in a text without a gap. -/
def contains (t part : Text) : Bool :=
  match t with
  | [] => part.isEmpty
  | c :: cs => startsWith (c :: cs) part || contains cs part

/-- Join texts with a separator. -/
def join (separator : Text) : List Text → Text
  | [] => []
  | [t] => t
  | t :: ts => t ++ separator ++ join separator ts

/-- The parts of a text between the characters that satisfy `p`; there is at least one part. -/
def splitOn (p : Char → Bool) : Text → List Text
  | [] => [[]]
  | c :: cs =>
    if p c then [] :: splitOn p cs
    else match splitOn p cs with
      | [] => [[c]]
      | part :: parts => (c :: part) :: parts

/-- Replace every occurrence of `old`, from the left and without overlap. An empty `old` occurs at
every boundary. -/
def replaceAll (t old new : Text) : Text :=
  if old.isEmpty then new ++ t.flatMap (fun c => c :: new)
  else go t.length t
where
  go : Nat → Text → Text
    | 0, t => t
    | _ + 1, [] => []
    | n + 1, c :: cs =>
      match stripStart? (c :: cs) old with
      | some rest => new ++ go n rest
      | none => c :: go n cs

end Text

end StoryExports
