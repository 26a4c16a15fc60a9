import StoryExports.Pattern.Class

/-!
# Reading patterns

Groups may set flags, which hold to the end of the group.
-/
namespace StoryExports.Pattern

open Read

/-- A pattern, and how deep its parts nest. -/
structure Part where
  pattern : Pattern
  depth : Nat

namespace Part

def single (p : Pattern) : Part := ⟨p, 0⟩

/-- Parts one after the other, given from the last to the first. A setting of flags, `none`, counts
as a part but matches nothing of the text. -/
def sequence : List (Option Part) → Part
  | [] => single .empty
  | [part] => part.getD (single .empty)
  | parts =>
    let given := parts.filterMap id
    ⟨given.foldl (fun p q => .seq q.pattern p) .empty, 1 + (given.map (·.depth)).foldl max 0⟩

/-- Parts to choose from. -/
def choice : List Part → Part
  | [] => single .empty
  | [part] => part
  | part :: parts =>
    ⟨parts.foldl (fun p q => .alt p q.pattern) part.pattern,
      1 + ((part :: parts).map (·.depth)).foldl max 0⟩

def nested (p : Part) : Part := ⟨p.pattern, 1 + p.depth⟩

end Part

/-- What a group outside holds while a group is read. -/
structure Frame where
  flags : Flags
  branches : List Part
  parts : List (Option Part)

/-- How far a pattern is read: the groups around, the alternatives before, the parts of this one
from the last to the first, and the names of groups. -/
structure Progress where
  flags : Flags
  frames : List Frame
  branches : List Part
  parts : List (Option Part)
  names : List Text

namespace Progress

def start : Progress := ⟨.standard, [], [], [], []⟩

def push (s : Progress) (part : Part) : Progress := { s with parts := some part :: s.parts }

/-- The choice between the alternatives. -/
def whole (s : Progress) : Part := Part.choice (s.branches ++ [Part.sequence s.parts])

def branch (s : Progress) : Progress :=
  { s with branches := s.branches ++ [Part.sequence s.parts], parts := [] }

def enter (s : Progress) (flags : Flags) : Progress :=
  { s with flags := flags, frames := ⟨s.flags, s.branches, s.parts⟩ :: s.frames, branches := [],
           parts := [] }

def leave (s : Progress) : Option Progress :=
  match s.frames with
  | [] => none
  | f :: fs => some ⟨f.flags, fs, f.branches, some s.whole.nested :: f.parts, s.names⟩

/-- Repeat the last part. -/
def repeatLast (s : Progress) (least : Nat) (most : Option Nat) : Option Progress :=
  match s.parts with
  | some part :: rest =>
    some { s with parts := some ⟨.times least most part.pattern, 1 + part.depth⟩ :: rest }
  | _ => none

end Progress

/-- Set the flag of a letter. -/
def setFlag (f : Flags) (c : Char) (value : Bool) : Option Flags :=
  match c with
  | 'i' => some { f with ignoreCase := value }
  | 'm' => some { f with multiLine := value }
  | 's' => some { f with dotAll := value }
  | 'R' => some { f with crlf := value }
  | 'u' => some { f with unicode := value }
  | 'x' => some { f with verbose := value }
  | 'U' => some f
  | _ => none

/-- Flags before a colon or a closing parenthesis. `seen` holds the letters before, and a hyphen
once the flags behind it are taken back. The result tells whether any was given, and whether a
group opens. -/
def flagItems (f : Flags) (seen : Text) : Text → Option ((Flags × Bool × Bool) × Text)
  | [] => none
  | c :: cs =>
    if c = ':' || c = ')' then
      if seen.head? = some '-' then none else some ((f, !seen.isEmpty, c == ':'), cs)
    else if c ∈ seen then none
    else if c = '-' then flagItems f (c :: seen) cs
    else match setFlag f c ('-' ∉ seen) with
      | some f => flagItems f (c :: seen) cs
      | none => none

def isGroupNamePart (first : Bool) (c : Char) : Bool :=
  c == '_' || (if first then Character.isAlphabetic c.toNat
    else c == '.' || c == '[' || c == ']' || Character.isAlphanumeric c.toNat)

/-- The name of a group, up to its closing bracket. -/
def groupName (taken : List Text) : Read Text := do
  let t ← get
  let name := t.takeWhile (· != '>')
  match t.dropWhile (· != '>') with
  | [] => failure
  | _ :: rest => set rest
  match name with
  | [] => failure
  | c :: cs => guard (isGroupNamePart true c && cs.all (isGroupNamePart false))
  guard !(taken.contains name)
  return name

/-- What follows an opening parenthesis: a group, or flags alone. -/
def openGroup (s : Progress) : Read Progress := do
  blanks s.flags
  if (← get).startsWith "?=".toList || (← get).startsWith "?!".toList ||
      (← get).startsWith "?<=".toList || (← get).startsWith "?<!".toList then failure
  if (← eatWord "?P<") then named
  else if (← eatWord "?<") then named
  else if ← eat '?' then
    let ((flags, any, opens), rest) ← (flagItems s.flags [] (← get) : Option _)
    set rest
    if opens then return s.enter flags
    else
      guard any
      return { s with flags := flags, parts := none :: s.parts }
  else return s.enter s.flags
where
  named : Read Progress := do
    let name ← groupName s.names
    return { s with names := name :: s.names }.enter s.flags

/-- How often the last part occurs, behind the opening brace. -/
def counts (f : Flags) : Read (Nat × Option Nat) := do
  blanks f
  let least ← decimal f
  if ← eat ',' then
    blanks f
    if ← eat '}' then return (least, none)
    else
      let most ← decimal f
      guard (← eat '}')
      guard (least ≤ most)
      return (least, some most)
  else
    guard (← eat '}')
    return (least, some least)

/-- Repeat the last part. A question mark behind the sign changes only which match is preferred. -/
def repetition (s : Progress) (least : Nat) (most : Option Nat) : Read Progress := do
  let s ← (s.repeatLast least most : Option _)
  let _ ← eat '?'
  return s

def literal (f : Flags) (n : Nat) : Pattern := .char (f.fold (CharSet.single n))

def dot (f : Flags) : Option Pattern :=
  if !f.unicode then none
  else if f.dotAll then some (.char fun _ => true)
  else if f.crlf then some (.char fun n => n != 10 && n != 13)
  else some (.char fun n => n != 10)

/-- A part that is read by itself. -/
def single (f : Flags) (c : Char) : Read Part := do
  match c with
  | '[' =>
    let s ← bracketed (2 * (← get).length + 2) f
    return ⟨.char s, 1⟩
  | '.' => return Part.single (← (dot f : Option _))
  | '^' => return Part.single (.look (if f.multiLine then .lineStart f.crlf else .start))
  | '$' => return Part.single (.look (if f.multiLine then .lineStop f.crlf else .stop))
  | '\\' =>
    match ← escape f with
    | .literal n asByte =>
      guard (f.unicode || !asByte || n < 128)
      return Part.single (literal f n)
    | .set s => return Part.single (.char s)
    | .look l => return Part.single (.look l)
  | c => return Part.single (literal f c.toNat)

/-- One sign of a pattern. -/
def sign (s : Progress) (c : Char) : Read Progress := do
  match c with
  | '(' => openGroup s
  | ')' => (s.leave : Option _)
  | '|' => return s.branch
  | '?' => repetition s 0 (some 1)
  | '*' => repetition s 0 none
  | '+' => repetition s 1 none
  | '{' =>
    guard (s.parts.head?.join).isSome
    let (least, most) ← counts s.flags
    blanks s.flags
    repetition s least most
  | c => return s.push (← single s.flags c)

/-- Read signs to the end of the text. -/
def signs : Nat → Progress → Read Progress
  | 0, s => return s
  | n + 1, s => do
    blanks s.flags
    match ← get with
    | [] => return s
    | c :: cs =>
      set cs
      signs n (← sign s c)

/-- Patterns that nest deeper are refused. -/
def depthLimit : Nat := 250

/-- Read a pattern. -/
def read? (t : Text) : Option Pattern := do
  let (s, _) ← (signs (t.length + 1) Progress.start).run t
  guard s.frames.isEmpty
  let part := s.whole
  guard (part.depth ≤ depthLimit && part.pattern.size ≤ sizeLimit)
  return part.pattern

end StoryExports.Pattern
