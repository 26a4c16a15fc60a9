import StoryExports.Text.Basic

/-!
# Tables of code points

Numbers are hexadecimal, and blanks part the entries.
-/
namespace StoryExports.Character

def hexDigit (c : Char) : Nat :=
  if '0' ≤ c && c ≤ '9' then c.toNat - '0'.toNat else c.toNat - 'A'.toNat + 10

def hexNumber (t : Text) : Nat := t.foldl (fun n c => n * 16 + hexDigit c) 0

/-- The entries of a table. -/
def entries (table : List String) : List Text :=
  table.flatMap fun line => Text.splitOn (· == ' ') line.toList

/-- An entry `first-last` or `only`. -/
def range (entry : Text) : Nat × Nat :=
  match Text.splitOn (· == '-') entry with
  | [first, last] => (hexNumber first, hexNumber last)
  | _ => (hexNumber entry, hexNumber entry)

/-- A table of ranges. -/
def ranges (table : List String) : List (Nat × Nat) := (entries table).map range

/-- Entries in twos. -/
def pairs : List Text → List (Text × Text)
  | a :: b :: rest => (a, b) :: pairs rest
  | _ => []

/-- A table of runs: where each starts, and what it is. -/
def runs (table : List String) : List (Nat × Text) :=
  (pairs (entries table)).map fun (start, value) => (hexNumber start, value)

/-- The run that a number belongs to: the last one that does not start behind it. -/
def runOf (n : Nat) (current : Nat × Text) : List (Nat × Text) → Nat × Text
  | [] => current
  | r :: rs => if n < r.1 then current else runOf n r rs

def inRanges (n : Nat) (rs : List (Nat × Nat)) : Bool := rs.any fun (a, b) => a ≤ n && n ≤ b

end StoryExports.Character
