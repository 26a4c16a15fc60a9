import StoryExports.Pattern.Reader

/-!
# Escapes in patterns

A backslash gives the character behind it another meaning.
-/
namespace StoryExports.Pattern

open Read

/-- The smallest parts of a pattern. -/
inductive Atom
  /-- A character. `asByte` tells that it is written with two hexadecimal digits. -/
  | literal (n : Nat) (asByte : Bool)
  | set (s : CharSet)
  | look (l : Look)

/-- A set that ignores case if the flags say so. -/
def Flags.fold (f : Flags) (s : CharSet) : CharSet :=
  if f.ignoreCase then (if f.unicode then s.folded else s.asciiFolded) else s

/-- The complement of a set. Without Unicode it would hold bytes that are no characters. -/
def Flags.negate (f : Flags) (negated : Bool) (s : CharSet) : Option CharSet :=
  if negated then (if f.unicode then some s.compl else none) else some s

def Flags.word (f : Flags) : CharSet := if f.unicode then Character.isWord else CharSet.asciiWord

/-- The text before and behind the first occurrence of `sep`. -/
def splitAround (sep : Text) : Text → Option (Text × Text)
  | [] => none
  | c :: cs =>
    match Text.stripStart? (c :: cs) sep with
    | some rest => some ([], rest)
    | none => (splitAround sep cs).map fun (a, b) => (c :: a, b)

/-- The set that a property stands for, and whether the sign between the property and its value
negates it. -/
def propertySet? (name : Text) : Option (CharSet × Bool) :=
  match splitAround "!=".toList name with
  | some (property, value) => (Character.valued? property value).map fun s => (s, true)
  | none =>
    match splitAround [':'] name <|> splitAround ['='] name with
    | some (property, value) => (Character.valued? property value).map fun s => (s, false)
    | none => (Character.named? name).map fun s => (s, false)

/-- A property, after `\p` or `\P`. -/
def property (f : Flags) (negated : Bool) : Read Atom := do
  blanks f
  let name ← if ← eat '{' then upTo f '}' else do
    let c ← next
    guard (c != '\\')
    pure [c]
  guard f.unicode
  let (s, unequal) ← (propertySet? name : Option _)
  return .set (← (f.negate (negated != unequal) (f.fold s) : Option _))

/-- The sets with a letter of their own. -/
def letterSet? (f : Flags) (c : Char) : Option CharSet :=
  match c with
  | 'd' => some (if f.unicode then Character.isDecimalDigit else CharSet.asciiDigit)
  | 's' => some (if f.unicode then Character.isWhiteSpace else CharSet.asciiSpace)
  | 'w' => some f.word
  | _ => none

/-- A character by its number, after the letter of the escape. -/
def hexCharacter (f : Flags) (digits : Nat) : Read Atom := do
  blanks f
  if ← eat '{' then return .literal (← codePoint (← upTo f '}')) false
  else return .literal (← codePoint (← take f digits)) (digits == 2)

/-- What stands in braces after `\b`. Other braces tell how often the boundary occurs. -/
def boundary (f : Flags) : Read Look := do
  let isNamePart (c : Char) : Bool := ('a' ≤ c && c ≤ 'z') || ('A' ≤ c && c ≤ 'Z') || c == '-'
  let here ← get
  if !(← eat '{') then return .wordBoundary f.word
  blanks f
  match ← peek with
  | none => failure
  | some c =>
    if !isNamePart c then
      set here
      return .wordBoundary f.word
    let name ← takeWhile f isNamePart
    guard (← eat '}')
    match String.ofList name with
    | "start" => return .wordStart f.word
    | "end" => return .wordStop f.word
    | "start-half" => return .noWordBefore f.word
    | "end-half" => return .noWordAfter f.word
    | _ => failure

/-- The control characters with a letter. -/
def control? (c : Char) : Option Nat :=
  match c with
  | 'a' => some 7
  | 'f' => some 12
  | 't' => some 9
  | 'n' => some 10
  | 'r' => some 13
  | 'v' => some 11
  | _ => none

/-- Whether a backslash before a character leaves its meaning. -/
def isEscapable (c : Char) : Bool :=
  c.toNat < 128 && !c.isAlphanum && c != '<' && c != '>'

/-- What follows a backslash. -/
def escape (f : Flags) : Read Atom := do
  let c ← next
  match c with
  | 'x' => hexCharacter f 2
  | 'u' => hexCharacter f 4
  | 'U' => hexCharacter f 8
  | 'p' => property f false
  | 'P' => property f true
  | 'A' => return .look .start
  | 'z' => return .look .stop
  | 'b' => return .look (← boundary f)
  | 'B' => return .look (.noWordBoundary f.word)
  | '<' => return .look (.wordStart f.word)
  | '>' => return .look (.wordStop f.word)
  | c =>
    match letterSet? f c, letterSet? f c.toLower, control? c with
    | some s, _, _ => return .set s
    | none, some s, _ => return .set (← (f.negate true s : Option _))
    | none, none, some n => return .literal n false
    | none, none, none =>
      guard (isEscapable c)
      return .literal c.toNat false

end StoryExports.Pattern
