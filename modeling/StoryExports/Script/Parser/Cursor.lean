import StoryExports.Script.Token
import StoryExports.Script.Node

/-!
# Reading tokens

A parser takes tokens off the front of a list, or fails.
-/
namespace StoryExports.Script

/-- The tokens to come, and the offset at which the last token taken ends. -/
structure Cursor where
  tokens : List Token
  lastEnd : Nat
deriving Repr

abbrev Parse := StateT Cursor Option

namespace Parse

variable {α β : Type}

def eofToken (pos : Nat) : Token := ⟨.eof, ⟨pos, pos⟩, false, []⟩

/-- The next token. -/
def peek : Parse Token := fun c =>
  match c.tokens with
  | t :: _ => some (t, c)
  | [] => some (eofToken c.lastEnd, c)

def peekTok : Parse Tok := return (← peek).tok

/-- The token after the next one. -/
def peekSecond : Parse Token := fun c =>
  match c.tokens with
  | _ :: t :: _ => some (t, c)
  | _ => some (eofToken c.lastEnd, c)

def peekThird : Parse Token := fun c =>
  match c.tokens with
  | _ :: _ :: t :: _ => some (t, c)
  | _ => some (eofToken c.lastEnd, c)

def peekFourth : Parse Token := fun c =>
  match c.tokens with
  | _ :: _ :: _ :: t :: _ => some (t, c)
  | _ => some (eofToken c.lastEnd, c)

/-- Take the next token. The end of the text cannot be taken. -/
def advance : Parse Token := fun c =>
  match c.tokens with
  | t :: ts =>
    match t.tok with
    | .eof | .invalid => none
    | _ => some (t, ⟨ts, t.span.stop⟩)
  | [] => none

/-- Take the next token if `p` holds of it. -/
def takeIf (p : Tok → Bool) : Parse Token := do
  let t ← peek
  if p t.tok then advance else failure

def tok (t : Tok) : Parse Unit := do let _ ← takeIf (· == t)

def eatTok (t : Tok) : Parse Bool := do
  if (← peekTok) == t then
    let _ ← advance
    return true
  else return false

def punct (p : Punct) : Parse Unit := tok (.punct p)

def eatPunct (p : Punct) : Parse Bool := eatTok (.punct p)

def keyword (k : Keyword) : Parse Unit := tok (.keyword k)

def eatKeyword (k : Keyword) : Parse Bool := eatTok (.keyword k)

def isPunct (p : Punct) : Parse Bool := return (← peekTok) == .punct p

def isKeyword (k : Keyword) : Parse Bool := return (← peekTok) == .keyword k

/-- Whether the next token is a word that has a meaning only in some places. -/
def isWord (w : String) : Parse Bool := return (← peekTok) == .name w.toList

def eatWord (w : String) : Parse Bool := eatTok (.name w.toList)

def word (w : String) : Parse Unit := tok (.name w.toList)

def startPos : Parse Nat := return (← peek).span.start

/-- From an offset to the end of the last token taken. -/
def spanFrom (start : Nat) : Parse Span := fun c => some (⟨start, c.lastEnd⟩, c)

/-- Whether a line break stands before the next token. -/
def onFreshLine : Parse Bool := return (← peek).freshLine

/-- Whether a statement may end here: at a semicolon, a right brace, the end of the text, or a
line break. -/
def atStatementEnd : Parse Bool := do
  let t ← peek
  return t.freshLine || t.tok == .punct .semicolon || t.tok == .punct .rbrace || t.tok == .eof

/-- End a statement, and take its semicolon if it has one. -/
def eatSemicolon : Parse Bool := do
  if ← eatPunct .semicolon then return true else atStatementEnd

def semicolon : Parse Unit := do guard (← eatSemicolon)

/-- Run a parser; if it fails, stay in place. -/
def attempt (p : Parse α) : Parse (Option α) := fun c =>
  match p c with
  | some (a, next) => some (some a, next)
  | none => some (none, c)

/-- Whether a parser succeeds here. Nothing is taken. -/
def ahead (p : Parse α) : Parse Bool := fun c => some ((p c).isSome, c)

/-- Repeat a step until it yields a result. Each repetition has to take a token. -/
def iterate (step : α → Parse (α ⊕ β)) : Nat → α → Parse β
  | 0, _ => failure
  | fuel + 1, a => do
    match ← step a with
    | .inl a => iterate step fuel a
    | .inr b => return b

/-- As many repetitions as there are tokens. -/
def repeating (step : α → Parse (α ⊕ β)) (a : α) : Parse β := fun c =>
  iterate step (c.tokens.length + 1) a c

/-- Items until a closing punctuator, which is taken. -/
def itemsTo (close : Punct) (item : Parse α) : Parse (List α) := do
  let items ← repeating (fun acc => do
    if ← eatPunct close then return .inr acc
    return .inl ((← item) :: acc)) []
  return items.reverse

/-- Items with commas between them, and perhaps after them, until a closing punctuator. -/
def commaList (close : Punct) (item : Parse α) : Parse (List α) := do
  let items ← repeating (fun acc => do
    if ← eatPunct close then return .inr acc
    let x ← item
    if !(← isPunct close) then punct .comma
    return .inl (x :: acc)) []
  return items.reverse

/-- One or more items with commas between them. -/
def commaSeparated (item : Parse α) : Parse (List α) := do
  let first ← item
  let items ← repeating (fun acc => do
    if ← eatPunct .comma then return .inl ((← item) :: acc)
    return .inr acc) [first]
  return items.reverse

/-- Take one `>` off the front of the next token. -/
def closeAngle : Parse Unit := fun c =>
  let shrunk (t : Token) (p : Punct) (ts : List Token) : Option (Unit × Cursor) :=
    some ((), ⟨⟨.punct p, ⟨t.span.start + 1, t.span.stop⟩, false, []⟩ :: ts, t.span.start + 1⟩)
  match c.tokens with
  | t :: ts =>
    match t.tok with
    | .punct .gt => some ((), ⟨ts, t.span.stop⟩)
    | .punct .ge => shrunk t .eq ts
    | .punct .shr => shrunk t .gt ts
    | .punct .ushr => shrunk t .shr ts
    | .punct .shrEq => shrunk t .ge ts
    | .punct .ushrEq => shrunk t .shrEq ts
    | _ => none
  | [] => none

/-- Whether the next token starts with `>`. -/
def atCloseAngle : Parse Bool := ahead closeAngle

/-- The tokens after the bracket that closes the one at the front. -/
def afterMatching : Nat → List Token → Option (List Token)
  | _, [] => none
  | depth, t :: ts =>
    match t.tok with
    | .punct .lparen | .punct .lbracket | .punct .lbrace | .punct .dollarBrace =>
      afterMatching (depth + 1) ts
    | .punct .rparen | .punct .rbracket | .punct .rbrace =>
      if depth ≤ 1 then some ts else afterMatching (depth - 1) ts
    | _ => afterMatching depth ts

/-- The token after the bracketed part that starts after `skip` tokens. -/
def peekAfterMatching (skip : Nat) : Parse Token := fun c =>
  match afterMatching 0 (c.tokens.drop skip) with
  | some (t :: _) => some (t, c)
  | _ => some (eofToken c.lastEnd, c)

/-- A word used as a name: any name, and `let` or `yield`, which only strict code reserves. -/
def nameOf? : Tok → Option Text
  | .name id => some id
  | .keyword .kwLet => some Keyword.kwLet.text
  | .keyword .kwYield => some Keyword.kwYield.text
  | _ => none

/-- Any word, as the name of a property. -/
def wordOf? : Tok → Option Text
  | .name id => some id
  | .keyword k => some k.text
  | _ => none

def name : Parse Text := do
  match nameOf? (← peekTok) with
  | some id => let _ ← advance; return id
  | none => failure

def anyWord : Parse Text := do
  match wordOf? (← peekTok) with
  | some id => let _ ← advance; return id
  | none => failure

def isName : Parse Bool := return (nameOf? (← peekTok)).isSome

end Parse

end StoryExports.Script
