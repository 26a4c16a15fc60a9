import StoryExports.Script.Lexer.Number
import StoryExports.Script.Lexer.Punctuator
import StoryExports.Script.Lexer.Quoted
import StoryExports.Script.Lexer.Trivia
import StoryExports.Script.Lexer.Word

/-!
# Splitting a script into tokens

A slash starts a regular expression where an operand can stand and is a division elsewhere, so the
lexer keeps track of the brackets and declarations that are open. A closing bracket then tells
what may follow it: an operand after a block, an operator after an object.
-/
namespace StoryExports.Script

/-- What is open around a token: brackets, and what is not complete inside of them. -/
inductive Nest
  | block
  | object
  /-- The hole `${…}` of a template. -/
  | hole
  /-- The parentheses after `if`, `for`, `while` or `with`. -/
  | condition
  | paren
  | template
  /-- A function or class whose body has not ended, as a declaration or as an operand. -/
  | definition (operand : Bool)
  /-- A conditional expression before its `:`. -/
  | choice
  /-- `for await` before its parentheses. -/
  | loop
  /-- An expression that goes on where a declaration could stand as well: after the `:` of a
  conditional expression, or after `async`. -/
  | continued
deriving DecidableEq, Repr

def Nest.isBracket : Nest → Bool
  | .block | .object | .hole | .condition | .paren | .template => true
  | .definition _ | .choice | .loop | .continued => false

/-- Whether it says something about the next token only. -/
def Nest.isMark : Nest → Bool
  | .loop | .continued => true
  | _ => false

/-- Whether an operand may follow the bracket that closes. -/
def Nest.operandAfter : Nest → Bool
  | .block | .condition => true
  | _ => false

structure LexState where
  pos : Nat
  rest : Text
  before : Option Tok
  /-- Whether an operand may stand next. -/
  operand : Bool
  nest : List Nest

namespace LexState

/-- The innermost bracket that is open. -/
def bracket? (s : LexState) : Option Nest := s.nest.find? Nest.isBracket

/-- What is open, without the marks for the next token. -/
def unmarked (s : LexState) : List Nest := s.nest.dropWhile Nest.isMark

/-- Whether the next token is the first of a statement, if an operand may stand there. -/
def startsStatement (s : LexState) (freshLine : Bool) : Bool :=
  match s.before with
  | none => true
  | some (.keyword k) =>
    match k with
    | .kwElse | .kwDo | .kwBreak | .kwContinue | .kwDebugger => true
    | .kwReturn | .kwYield => freshLine
    | _ => false
  | some (.punct p) =>
    match p with
    | .semicolon => s.bracket? != some .condition
    | .lbrace => s.bracket? == some .block
    | .colon =>
      s.nest.head? != some .continued && (s.bracket? == none || s.bracket? == some .block)
    | .rbrace | .rparen => true
    | _ => false
  | _ => false

/-- Whether a left brace opens a block rather than an object. -/
def opensBlock (s : LexState) (freshLine : Bool) : Bool :=
  match s.unmarked, s.before with
  -- the body of a function or class; before it a type or a parent may hold braces of its own
  | .definition _ :: _, some (.punct .gt) | .definition _ :: _, some (.punct .shr)
  | .definition _ :: _, some (.punct .ushr) => true
  | .definition _ :: _, _ => !s.operand
  | _, some (.punct .arrow) => true
  | _, some (.keyword .kwLet) => false
  | _, some (.name id) =>
    !s.operand && (freshLine || !(id == "as".toList || id == "satisfies".toList))
  | _, _ => !s.operand || s.startsStatement freshLine

/-- Whether a left parenthesis opens the head of a statement that another one follows. -/
def opensCondition (s : LexState) : Bool :=
  match s.before with
  | some (.keyword .kwIf) | some (.keyword .kwFor) | some (.keyword .kwWhile)
  | some (.keyword .kwWith) => s.operand
  | some (.keyword .kwAwait) => s.nest.head? == some .loop
  | _ => false

/-- Whether `function` or `class` starts an operand rather than a declaration. -/
def startsOperand (s : LexState) (freshLine : Bool) : Bool :=
  if s.before == some (.name "async".toList) then
    !freshLine && s.nest.head? == some .continued
  else s.operand && !s.startsStatement freshLine && s.before != some (.keyword .kwDefault)

/-- Whether a word is the name of a property behind a dot. -/
def namesProperty (s : LexState) : Bool :=
  s.before == some (.punct .dot) || s.before == some (.punct .questionDot)

end LexState

/-- Punctuators that end the name of a property. The head of a function or class has none of them
right after its keyword. -/
def Punct.endsPropertyName : Punct → Bool
  | .colon | .comma | .eq | .semicolon | .question | .bang => true
  | _ => false

/-- What is open where a punctuator stands. The word `function` or `class` before it opens nothing
if it was the name of a property. -/
def LexState.openAt (s : LexState) (p : Punct) : List Nest :=
  match s.before, s.unmarked with
  | some (.keyword .kwFunction), .definition operand :: nest
  | some (.keyword .kwClass), .definition operand :: nest =>
    if p.endsPropertyName then nest else .definition operand :: nest
  | _, nest => nest

/-- Close the innermost bracket. A block that ends a function or class ends that as well. -/
def closeNest (nest : List Nest) : Bool × List Nest :=
  match nest.dropWhile (!·.isBracket) with
  | [] => (true, [])
  | .block :: .definition operand :: nest => (!operand, nest)
  | n :: nest => (n.operandAfter, nest)

/-- Whether an operand may follow a word that is no keyword, and what is open after it. -/
def trackName (s : LexState) (freshLine : Bool) (id : Text) : Bool × List Nest :=
  if id == "async".toList then
    (false, if s.startsOperand freshLine then .continued :: s.unmarked else s.unmarked)
  else
    (id == "of".toList && !s.operand && s.bracket? == some .condition &&
      s.before != some (.keyword .kwLet), s.nest)

/-- Whether an operand may follow a keyword, and what is open after it. -/
def trackKeyword (s : LexState) (freshLine : Bool) (k : Keyword) : Bool × List Nest :=
  if s.namesProperty then (false, s.nest)
  else if k == .kwFunction || k == .kwClass then
    (false, .definition (s.startsOperand freshLine) :: s.nest)
  else if k == .kwAwait && s.before == some (.keyword .kwFor) then (true, .loop :: s.nest)
  else (k.beforeOperand, s.nest)

/-- Whether an operand may follow a punctuator, and what is open after it. -/
def trackPunct (s : LexState) (freshLine : Bool) (p : Punct) : Bool × List Nest :=
  let nest := s.openAt p
  match p with
  | .lbrace => (true, (if s.opensBlock freshLine then .block else .object) :: nest)
  | .dollarBrace => (true, .hole :: nest)
  | .lparen => (true, (if s.opensCondition then .condition else .paren) :: nest)
  | .rparen | .rbrace => closeNest nest
  | .backtick =>
    match nest with
    | .template :: nest => (false, nest)
    | nest => (false, .template :: nest)
  | .question => (true, .choice :: nest)
  | .colon =>
    match nest with
    | .choice :: nest => (true, .continued :: nest)
    | nest => (true, nest)
  | .semicolon => (true, nest.dropWhile (!·.isBracket))
  | .plusPlus | .minusMinus | .bang => (s.operand || freshLine, nest)
  | .rbracket => (false, nest)
  | _ => (true, nest)

/-- Whether an operand may follow a token, and what is open after it. -/
def track (s : LexState) (freshLine : Bool) : Tok → Bool × List Nest
  | .name id => trackName s freshLine id
  | .keyword k => trackKeyword s freshLine k
  | .punct p => trackPunct s freshLine p
  | _ => (false, s.nest)

/-- Read the token at the front of a text that starts with no trivia. -/
def scanToken (operand : Bool) : Text → Option (Scan Tok)
  | [] => some ⟨.eof, 0, []⟩
  | c :: cs =>
    if isNameStart c || c == '\\' then scanName (c :: cs)
    else if isDigit c || (c == '.' && cs.head?.any isDigit) then scanNumber (c :: cs)
    else if c == '"' || c == '\x27' then scanString c cs
    else if c == '#' then (scanWord cs).map fun s => (s.map fun (id, _) => .privateName id).after 1
    else if c == '/' && operand then scanRegex cs
    else scanPunct (c :: cs)

/-- Read the next piece of a template. -/
def scanTemplate : Text → Option (Scan Tok)
  | '\x60' :: cs => some ⟨.punct .backtick, 1, cs⟩
  | '$' :: '\x7b' :: cs => some ⟨.punct .dollarBrace, 2, cs⟩
  | cs => scanChunk cs

/-- The next token and the state after it. -/
def lexToken (s : LexState) : Token × LexState :=
  let inTemplate := s.nest.head? == some .template
  let trivia := if inTemplate then ⟨[], false, false, 0, s.rest⟩ else scanTrivia s.pos s.rest
  let start := s.pos + trivia.size
  let found := if trivia.unclosed then none
    else if inTemplate then scanTemplate trivia.rest
    else scanToken s.operand trivia.rest
  match found with
  | none =>
    (⟨.invalid, ⟨start, start⟩, trivia.freshLine, trivia.leading s.before⟩,
      { s with pos := start, rest := [] })
  | some found =>
    let (operand, nest) := track s trivia.freshLine found.value
    (⟨found.value, ⟨start, start + found.size⟩, trivia.freshLine, trivia.leading s.before⟩,
      ⟨start + found.size, found.rest, some found.value, operand, nest⟩)

/-- The tokens of a script, up to the end or the first piece that is no token. -/
def lexFrom : Nat → LexState → List Token
  | 0, _ => []
  | fuel + 1, s =>
    let (token, next) := lexToken s
    match token.tok with
    | .eof | .invalid => [token]
    | _ => token :: lexFrom fuel next

/-- Drop a first line that starts with `#!`. -/
def skipHashbang : Text → Scan Unit
  | '#' :: '!' :: cs =>
    let line := scanWhile (fun c => !isLineBreak c) cs
    ⟨(), 2 + line.size, line.rest⟩
  | cs => ⟨(), 0, cs⟩

/-- The tokens of a script. The last one is the end of the text, or a piece that is no token. -/
def lex (t : Text) : List Token :=
  let start := skipHashbang t
  lexFrom (t.length + 1) ⟨start.size, start.rest, none, true, []⟩

end StoryExports.Script
