import StoryExports.Script.Parser.Expression

/-! # Statements -/
namespace StoryExports.Script

open Parse

/-- Whether `let` before a token starts a declaration rather than being a name. -/
def followsLet (t : Tok) : Bool :=
  (nameOf? t).isSome || t == .punct .lbrace || t == .punct .lbracket || t == .keyword .kwAwait

/-- One name or pattern of a declaration, and its value. In the head of a loop, or where values
are only declared, a pattern needs no value. -/
def declarator (g : Grammar) (s : Scope) (inHead : Bool) : Parse Node := do
  let start ← startPos
  let pattern ← g.binding s
  let isName := match pattern with
    | .name _ _ => true
    | _ => false
  if s.typed then
    if isName then let _ ← eatPunct .bang
  annotation g s
  match ← initializer? g s with
  | some value => return .other (← spanFrom start) .declarator [pattern, value]
  | none =>
    guard (isName || inHead || s.ambient)
    return .other (← spanFrom start) .declarator [pattern]

/-- Read over what stands where a declaration should end, up to the end of the statement. -/
def skipToEnd (g : Grammar) (s : Scope) : Parse Unit := do
  let _ ← attempt (expression g s)
  repeating (fun _ => do
    if ← eatSemicolon then return .inr ()
    let _ ← advance
    return .inl ()) ()

/-- The declarators after `var`, `let` or `const`, to the end of the statement. -/
def variableStatement (g : Grammar) (s : Scope) (start : Nat) : Parse Node := do
  let _ ← advance
  let declarators ← commaSeparated (declarator g s false)
  if !(← eatSemicolon) then
    guard g.lenient
    skipToEnd g s
  return .other (← spanFrom start) (.variables false) declarators

/-- `using` declarations. -/
def usingStatement (g : Grammar) (s : Scope) (start : Nat) : Parse Node := do
  word "using"
  let declarators ← commaSeparated (declarator g s false)
  return .other (← spanFrom start) (.variables true) declarators

/-- An expression in parentheses. -/
def condition (g : Grammar) (s : Scope) : Parse Node := do
  punct .lparen
  let e ← expression g s.inner
  punct .rparen
  return e

/-- A statement in the place of a body, where `let` and `const` declare nothing. -/
def bodyStatement (g : Grammar) (s : Scope) : Parse Node := do
  let second ← peekSecond
  match ← peekTok with
  | .keyword .kwConst => failure
  | .keyword .kwLet => guard !(followsLet second.tok)
  | .name id => guard !(id = "using".toList && (nameOf? second.tok).isSome && !second.freshLine)
  | _ => pure ()
  g.statement s

def ifStatement (g : Grammar) (s : Scope) (start : Nat) : Parse Node := do
  keyword .kwIf
  let test ← condition g s
  let yes ← bodyStatement g s
  let no ← (do
    if ← eatKeyword .kwElse then return [← bodyStatement g s] else return [])
  return .other (← spanFrom start) .branch ([test, yes] ++ no)

def whileStatement (g : Grammar) (s : Scope) (start : Nat) : Parse Node := do
  let _ ← advance
  let test ← condition g s
  let body ← bodyStatement g s
  return .other (← spanFrom start) .loop [test, body]

/-- The semicolon after the test may be missing anywhere. -/
def doStatement (g : Grammar) (s : Scope) (start : Nat) : Parse Node := do
  keyword .kwDo
  let body ← bodyStatement g s
  keyword .kwWhile
  let test ← condition g s
  let _ ← eatPunct .semicolon
  return .other (← spanFrom start) .doWhile [body, test]

/-- Whether a `for` loop declares a value that ends with each round. Only TypeScript has them. -/
def atDisposingLoop (s : Scope) : Parse Bool := do
  let isUsing (t : Tok) : Bool := t == .name "using".toList
  let isBound (t : Tok) : Bool := (nameOf? t).isSome && t != .name "of".toList
  let second := (← peekSecond).tok
  let plain := isUsing (← peekTok) && isBound second
  let awaited := (← isKeyword .kwAwait) && isUsing second && isBound (← peekThird).tok
  return s.typed && (plain || awaited)

/-- The first part of the head of a `for` loop, if it is not empty. -/
def forStart (g : Grammar) (s : Scope) : Parse (List Node) := do
  let start ← startPos
  let first ← peekTok
  let declares := first == .keyword .kwVar || first == .keyword .kwConst ||
    (first == .keyword .kwLet && followsLet (← peekSecond).tok)
  if declares then
    let _ ← advance
    let declarators ← commaSeparated (declarator g { s.inner with noIn := true } true)
    return [.other (← spanFrom start) (.variables false) declarators]
  else if ← atDisposingLoop s then
    let _ ← eatKeyword .kwAwait
    word "using"
    let bound ← declarator g { s.inner with noIn := true } true
    guard ((← isWord "of") || (← isKeyword .kwIn))
    return [.other (← spanFrom start) (.variables true) [bound]]
  else if first == .punct .semicolon then return []
  else return [← expression g { s.inner with noIn := true }]

/-- Whether a loop can go through the values of a list or the keys of an object in this way. -/
def isLoopTarget : Node → Bool
  | .other _ (.variables _) _ => true
  | node => isTarget node

/-- The rest of the head of a `for` loop, after its first part. -/
def forRest (g : Grammar) (s : Scope) (first : List Node) : Parse (List Node) := do
  let t ← peekTok
  if t == .name "of".toList then
    let _ ← advance
    guard (first.all isLoopTarget && !first.isEmpty)
    return [← g.assign s.inner]
  else if t == .keyword .kwIn then
    let _ ← advance
    guard (first.all isLoopTarget && !first.isEmpty)
    return [← expression g s.inner]
  else
    punct .semicolon
    let test ← (do
      if ← isPunct .semicolon then return [] else return [← expression g s.inner])
    punct .semicolon
    let step ← (do
      if ← isPunct .rparen then return [] else return [← expression g s.inner])
    return test ++ step

def forStatement (g : Grammar) (s : Scope) (start : Nat) : Parse Node := do
  keyword .kwFor
  let _ ← eatKeyword .kwAwait
  punct .lparen
  let first ← forStart g s
  let rest ← forRest g s first
  punct .rparen
  let body ← bodyStatement g s
  return .other (← spanFrom start) .loop (first ++ rest ++ [body])

/-- A case of a `switch` statement: its test and its statements. -/
def switchCase (g : Grammar) (s : Scope) : Parse Node := do
  let start ← startPos
  let test ← (do
    if ← eatKeyword .kwDefault then return []
    else
      keyword .kwCase
      return [← expression g s.inner])
  punct .colon
  let body ← repeating (fun acc => do
    match ← peekTok with
    | .keyword .kwCase | .keyword .kwDefault | .punct .rbrace => return .inr acc
    | _ => return .inl ((← g.statement s) :: acc)) []
  return .other (← spanFrom start) .case (test ++ body.reverse)

def switchStatement (g : Grammar) (s : Scope) (start : Nat) : Parse Node := do
  keyword .kwSwitch
  let subject ← condition g s
  punct .lbrace
  let cases ← itemsTo .rbrace (switchCase g s)
  return .other (← spanFrom start) .switch (subject :: cases)

def blockNode (g : Grammar) (s : Scope) : Parse Node := do
  let start ← startPos
  let body ← block g s
  return .other (← spanFrom start) .block body

/-- The name that a `catch` clause gives to what was thrown. -/
def catchBinding (g : Grammar) (s : Scope) : Parse (List Node) := do
  if ← eatPunct .lparen then
    let pattern ← g.binding s
    annotation g s
    punct .rparen
    return [pattern]
  else return []

/-- A `try` statement. Its block may stand alone. -/
def tryStatement (g : Grammar) (s : Scope) (start : Nat) : Parse Node := do
  keyword .kwTry
  let body ← blockNode g s
  let handler ← (do
    if ← eatKeyword .kwCatch then
      let pattern ← catchBinding g s
      return pattern ++ [← blockNode g s]
    else return [])
  let finalizer ← (do
    if ← eatKeyword .kwFinally then return [← blockNode g s] else return [])
  return .other (← spanFrom start) .tryCatch (body :: handler ++ finalizer)

/-- `break` or `continue`, perhaps with a label on the same line. -/
def jumpStatement (start : Nat) : Parse Node := do
  let _ ← advance
  if !(← eatSemicolon) then
    let _ ← name
    semicolon
  return .other (← spanFrom start) .jump []

def returnStatement (g : Grammar) (s : Scope) (start : Nat) : Parse Node := do
  keyword .kwReturn
  let value ← (do
    if ← atStatementEnd then return [] else return [← expression g s.inner])
  semicolon
  return .other (← spanFrom start) .value value

/-- What is thrown stands on the line of `throw`. -/
def throwStatement (g : Grammar) (s : Scope) (start : Nat) : Parse Node := do
  keyword .kwThrow
  guard (!(← onFreshLine))
  let value ← expression g s.inner
  semicolon
  return .other (← spanFrom start) .value [value]

def expressionStatement (g : Grammar) (s : Scope) (start : Nat) : Parse Node := do
  let e ← expression g s.inner
  semicolon
  return .other (← spanFrom start) .expression [e]

def labelledStatement (g : Grammar) (s : Scope) (start : Nat) : Parse Node := do
  let _ ← name
  punct .colon
  let body ← bodyStatement g s
  return .other (← spanFrom start) .labelled [body]

end StoryExports.Script
