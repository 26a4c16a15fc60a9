import StoryExports.Pattern.Escape

/-!
# Sets in brackets

Sets in brackets nest, and can be combined by `&&`, `--` and `~~`.
-/
namespace StoryExports.Pattern

open Read

/-- A character, an escape or a range. -/
inductive ClassItem
  | literal (n : Nat)
  | set (s : CharSet)

/-- One item, which is a character or an escape. -/
def classItem (f : Flags) : Read ClassItem := do
  match ← next with
  | '\\' =>
    match ← escape f with
    | .literal n _ =>
      guard (f.unicode || n < 128)
      return .literal n
    | .set s => return .set s
    | .look _ => failure
  | c =>
    guard (f.unicode || c.toNat < 128)
    return .literal c.toNat

def ClassItem.toSet : ClassItem → CharSet
  | .literal n => CharSet.single n
  | .set s => s

/-- Whether a hyphen comes next that makes a range: before a bracket it stands for itself, and two
hyphens take a difference. -/
def atRange (f : Flags) : Read Bool := do
  match ← get with
  | '-' :: rest =>
    let behind := if f.verbose then withoutBlanks false rest else rest
    return behind.head? != some ']' && behind.head? != some '-'
  | _ => return false

/-- An item, or the range between two items. -/
def classRange (f : Flags) : Read CharSet := do
  let first ← classItem f
  blanks f
  guard !(← get).isEmpty
  if ← atRange f then
    let _ ← next
    blanks f
    match first, ← classItem f with
    | .literal a, .literal b =>
      guard (a ≤ b)
      return CharSet.span a b
    | _, _ => failure
  else return first.toSet

/-- A named set of ASCII characters, `[:name:]` or `[:^name:]`: whether it is negated, the set, and
the text behind it. -/
def asciiSet? (t : Text) : Option (Bool × CharSet × Text) := do
  let t ← t.stripStart? "[:".toList
  let (negated, t) := match t with
    | '^' :: rest => (true, rest)
    | t => (false, t)
  let s ← CharSet.asciiClass? (t.takeWhile (· != ':'))
  let rest ← Text.stripStart? (t.dropWhile (· != ':')) ":]".toList
  return (negated, s, rest)

/-- Hyphens at the front stand for themselves. -/
def leadingHyphens (f : Flags) : Nat → Read Bool
  | 0 => return false
  | n + 1 => do
    if ← eat '-' then
      blanks f
      let _ ← leadingHyphens f n
      return true
    else return false

/-- What stands behind the opening bracket before the items: a negation, and characters that only
here stand for themselves. -/
def classStart (f : Flags) : Read (Bool × CharSet) := do
  blanks f
  let negated ← eat '^'
  blanks f
  let hyphens ← leadingHyphens f (← get).length
  if hyphens then return (negated, CharSet.single '-'.toNat)
  else if ← eat ']' then
    blanks f
    return (negated, CharSet.single ']'.toNat)
  else return (negated, CharSet.empty)

mutual

/-- A set, behind its opening bracket. -/
def bracketed : Nat → Flags → Read CharSet
  | 0, _ => failure
  | n + 1, f => do
    let (negated, start) ← classStart f
    let s ← classItems n f id start
    (f.negate negated (f.fold s) : Option _)

/-- The items up to the closing bracket. `whole` says what the set makes of the items since the
last operator, and `items` are those read so far. -/
def classItems : Nat → Flags → (CharSet → CharSet) → CharSet → Read CharSet
  | 0, _, _, _ => failure
  | n + 1, f, whole, items => do
    blanks f
    let combined (op : CharSet → CharSet → CharSet) : CharSet → CharSet :=
      let left := f.fold (whole items)
      fun right => op left (f.fold right)
    if ← eatWord "&&" then classItems n f (combined .inter) CharSet.empty
    else if ← eatWord "--" then classItems n f (combined .diff) CharSet.empty
    else if ← eatWord "~~" then classItems n f (combined .symmDiff) CharSet.empty
    else if ← eat ']' then return whole items
    else
      match asciiSet? (← get) with
      | some (negated, s, rest) =>
        set rest
        let s ← (f.negate negated (f.fold s) : Option _)
        classItems n f whole (items.union s)
      | none =>
        if ← eat '[' then
          let s ← bracketed n f
          classItems n f whole (items.union s)
        else
          let s ← classRange f
          classItems n f whole (items.union s)

end

end StoryExports.Pattern
