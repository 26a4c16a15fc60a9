import StoryExports.Pattern.CharSet

/-!
# Patterns of texts

A pattern is only asked whether a text holds a match, so it does not matter which of several
matches is preferred.
-/
namespace StoryExports

/-- What a position in a text can be asked for. -/
inductive Pattern.Look
  | start
  | stop
  /-- The start of a line. With `crlf` a line ends at a carriage return as well, and one pair of
  carriage return and line feed ends one line. -/
  | lineStart (crlf : Bool)
  | lineStop (crlf : Bool)
  /-- Between a word character and another one. -/
  | wordBoundary (word : Pattern.CharSet)
  | noWordBoundary (word : Pattern.CharSet)
  | wordStart (word : Pattern.CharSet)
  | wordStop (word : Pattern.CharSet)
  /-- No word character before. -/
  | noWordBefore (word : Pattern.CharSet)
  /-- No word character behind. -/
  | noWordAfter (word : Pattern.CharSet)

inductive Pattern
  | empty
  /-- One character of a set. -/
  | char (set : Pattern.CharSet)
  | look (l : Pattern.Look)
  | seq (a b : Pattern)
  | alt (a b : Pattern)
  /-- From `least` to `most` times; any number of times if there is no `most`. -/
  | times (least : Nat) (most : Option Nat) (p : Pattern)

namespace Pattern

def Look.holds (before after : Option Char) : Look → Bool
  | .start => before.isNone
  | .stop => after.isNone
  | .lineStart false => before.isNone || before == some '\n'
  | .lineStart true =>
    before.isNone || before == some '\n' || (before == some '\r' && after != some '\n')
  | .lineStop false => after.isNone || after == some '\n'
  | .lineStop true =>
    after.isNone || after == some '\r' || (after == some '\n' && before != some '\r')
  | .wordBoundary word => isIn word before != isIn word after
  | .noWordBoundary word => isIn word before == isIn word after
  | .wordStart word => !isIn word before && isIn word after
  | .wordStop word => isIn word before && !isIn word after
  | .noWordBefore word => !isIn word before
  | .noWordAfter word => !isIn word after
where
  isIn (word : CharSet) (c : Option Char) : Bool := c.any fun c => word c.toNat

/-- For each position of a text, from its start to its end, whether it is marked. -/
abbrev Marks := List Bool

/-- The positions where a look holds. -/
def Look.marks (l : Look) (before : Option Char) : Text → Marks
  | [] => [l.holds before none]
  | c :: cs => l.holds before (some c) :: l.marks (some c) cs

/-- The positions behind a character of a set that stands at a marked position. -/
def step (set : CharSet) (t : Text) (m : Marks) : Marks :=
  false :: t.zipWith (fun c marked => marked && set c.toNat) m

/-- Apply `f` at most `n` times, until nothing changes. -/
def iterate (f : Marks → Marks) : Nat → Marks → Marks
  | 0, m => m
  | n + 1, m => let next := f m; if next = m then m else iterate f n next

/-- The positions where a match ends that starts at a marked position. -/
def ends (t : Text) : Pattern → Marks → Marks
  | .empty, m => m
  | .char set, m => step set t m
  | .look l, m => (l.marks none t).zipWith and m
  | .seq a b, m => b.ends t (a.ends t m)
  | .alt a b, m => (a.ends t m).zipWith or (b.ends t m)
  | .times least most p, m =>
    let more := match most with
      | some n => min (n - least) (t.length + 1)
      | none => t.length + 1
    iterate (fun m => m.zipWith or (p.ends t m)) more (iterate (p.ends t) least m)

/-- Whether a text holds a match. -/
def occursIn (p : Pattern) (t : Text) : Bool :=
  (p.ends t (true :: t.map fun _ => true)).any id

/-- Whether every match is empty. -/
def isEmptyOnly : Pattern → Bool
  | .empty | .look _ => true
  | .char _ => false
  | .seq a b | .alt a b => a.isEmptyOnly && b.isEmptyOnly
  | .times _ _ p => p.isEmptyOnly

/-- How often a pattern is written out. -/
def copies (least : Nat) (most : Option Nat) (p : Pattern) : Nat :=
  let n := max least (most.getD (least + 1))
  if p.isEmptyOnly then min n 1 else n

/-- The size of a pattern with its repetitions written out. -/
def size : Pattern → Nat
  | .empty | .char _ | .look _ => 1
  | .seq a b | .alt a b => a.size + b.size
  | .times least most p => copies least most p * p.size

/-- Patterns of a larger size are refused. -/
def sizeLimit : Nat := 327680

end Pattern

end StoryExports
