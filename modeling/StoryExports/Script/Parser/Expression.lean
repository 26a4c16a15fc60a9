import StoryExports.Script.Parser.Function

/-! # Expressions -/
namespace StoryExports.Script

open Parse

/-- An argument or an element: an expression, perhaps spread. -/
def spreadable (g : Grammar) (s : Scope) : Parse Node := do
  let start ← startPos
  if ← eatPunct .ellipsis then
    let value ← g.assign s
    return .other (← spanFrom start) .spread [value]
  else g.assign s

def arguments (g : Grammar) (s : Scope) : Parse (List Node) := do
  punct .lparen
  commaList .rparen (spreadable g s.inner)

/-- The holes of a template from its first backtick on. A tagged template may hold any escape. -/
def templateHoles (g : Grammar) (s : Scope) (tagged : Bool) : Parse (List Node) := do
  punct .backtick
  let holes ← repeating (fun acc => do
    match ← peekTok with
    | .punct .backtick => let _ ← advance; return .inr acc
    | .punct .dollarBrace =>
      let _ ← advance
      let e ← expression g s.inner
      punct .rbrace
      return .inl (e :: acc)
    | .chunk valid =>
      guard (valid || tagged)
      let _ ← advance
      return .inl acc
    | _ => failure) []
  return holes.reverse

def arrayLiteral (g : Grammar) (s : Scope) : Parse Node := do
  let start ← startPos
  punct .lbracket
  let items ← repeating (fun acc => do
    if ← eatPunct .rbracket then return .inr acc
    if ← eatPunct .comma then return .inl acc
    let item ← spreadable g s.inner
    if !(← isPunct .rbracket) then punct .comma
    return .inl (item :: acc)) []
  return .other (← spanFrom start) .array items.reverse

/-- `import(…)` or `import.meta` -/
def importExpression (g : Grammar) (s : Scope) : Parse Node := do
  let start ← startPos
  keyword .kwImport
  if ← eatPunct .dot then
    word "meta"
    return .other (← spanFrom start) .metaProperty []
  else
    let args ← arguments g s
    guard (!args.isEmpty)
    return .other (← spanFrom start) .importCall args

def parenthesized (g : Grammar) (s : Scope) : Parse Node := do
  let start ← startPos
  punct .lparen
  let inner ← expression g s.inner
  punct .rparen
  return .other (← spanFrom start) .paren [inner]

/-- An operand without accesses and calls. -/
def primary (g : Grammar) (s : Scope) : Parse Node := do
  let start ← startPos
  match ← peekTok with
  | .string value => let _ ← advance; return .string (← spanFrom start) value
  | .number _ | .bigint | .regex | .keyword .kwNull | .keyword .kwTrue | .keyword .kwFalse =>
    let _ ← advance
    return .other (← spanFrom start) .literal []
  | .keyword .kwThis => let _ ← advance; return .other (← spanFrom start) .thisRef []
  | .keyword .kwSuper =>
    let _ ← advance
    let t ← peekTok
    guard (t == .punct .lparen || t == .punct .dot || t == .punct .lbracket)
    return .other (← spanFrom start) .superRef []
  | .privateName _ =>
    let _ ← advance
    guard (← isKeyword .kwIn)
    return .other (← spanFrom start) .privateRef []
  | .punct .backtick =>
    let holes ← templateHoles g s false
    return .other (← spanFrom start) .template holes
  | .punct .lbracket => arrayLiteral g s
  | .punct .lbrace => objectLiteral g s
  | .punct .lparen => parenthesized g s
  | .keyword .kwFunction => functionDefinition g s start false
  | .keyword .kwClass => classDefinition g s start false
  | .keyword .kwImport => importExpression g s
  | _ =>
    let second ← peekSecond
    if (← isWord "async") && second.tok == .keyword .kwFunction && !second.freshLine then
      let _ ← advance
      functionDefinition g s start false
    else
      let id ← name
      return .name (← spanFrom start) id

/-- The name after a dot. -/
def accessName : Parse Unit := do
  match ← peekTok with
  | .privateName _ => let _ ← advance
  | _ => let _ ← anyWord

/-- Whether type arguments in an expression may end before a token: a call, a template, or what
cannot start an operand. -/
def followsTypeArguments (t : Token) : Bool :=
  t.freshLine || match t.tok with
    | .punct p => match p with
      | .lparen | .backtick | .rparen | .rbracket | .rbrace | .colon | .semicolon | .comma | .dot
      | .questionDot | .question | .eqEq | .notEq | .eqEqEq | .notEqEq | .ampAmp | .barBar
      | .questionQuestion | .eq | .caret | .amp | .bar => true
      | _ => false
    | .eof => true
    | _ => false

/-- The type arguments of a call. -/
def callTypeArguments (g : Grammar) : Parse Unit := do
  typeArguments g
  guard (followsTypeArguments (← peek))

/-- What is constructed by `new`: an operand with its accesses but without calls. -/
def constructed (g : Grammar) (s : Scope) : Parse Node := do
  let start ← startPos
  let base ← (do if ← isKeyword .kwNew then g.construct s else primary g s)
  repeating (fun node => do
    match ← peekTok with
    | .punct .dot =>
      let _ ← advance
      accessName
      return .inl (.other (← spanFrom start) .access [node])
    | .punct .lbracket =>
      let _ ← advance
      let index ← expression g s.inner
      punct .rbracket
      return .inl (.other (← spanFrom start) .access [node, index])
    | .punct .backtick =>
      let holes ← templateHoles g s true
      return .inl (.other (← spanFrom start) .tagged (node :: holes))
    | .punct .bang =>
      if s.typed && !(← onFreshLine) then
        let _ ← advance
        return .inl (.other (← spanFrom start) .typed [node])
      else return .inr node
    | .punct .lt =>
      if s.typed then let _ ← attempt (callTypeArguments g)
      return .inr node
    | .punct .questionDot => failure
    | _ => return .inr node) base

/-- `new` with what it constructs and the arguments. -/
def constructRule (g : Grammar) (s : Scope) : Parse Node := do
  let start ← startPos
  keyword .kwNew
  if ← eatPunct .dot then
    word "target"
    return .other (← spanFrom start) .metaProperty []
  else
    let callee ← constructed g s
    let args ← (do if ← isPunct .lparen then arguments g s else return [])
    return .other (← spanFrom start) .construct (callee :: args)

/-- What follows an operand: accesses, calls and tagged templates. Behind `?.` a call is no plain
call any more. -/
def suffix (g : Grammar) (s : Scope) (start : Nat) :
    Node × Bool → Parse ((Node × Bool) ⊕ Node)
  | (node, chained) => do
    let form : Form := if chained then .optionalAccess else .access
    match ← peekTok with
    | .punct .dot =>
      let _ ← advance
      accessName
      return .inl (.other (← spanFrom start) form [node], chained)
    | .punct .lbracket =>
      let _ ← advance
      let index ← expression g s.inner
      punct .rbracket
      return .inl (.other (← spanFrom start) form [node, index], chained)
    | .punct .lparen =>
      let args ← arguments g s
      let span ← spanFrom start
      return .inl (if chained then .other span .optionalCall (node :: args)
        else .call span node args, chained)
    | .punct .backtick =>
      let holes ← templateHoles g s true
      return .inl (.other (← spanFrom start) .tagged (node :: holes), chained)
    | .punct .questionDot =>
      let _ ← advance
      if s.typed && (← isPunct .lt) then typeArguments g
      match ← peekTok with
      | .punct .lparen =>
        let args ← arguments g s
        return .inl (.other (← spanFrom start) .optionalCall (node :: args), true)
      | .punct .lbracket =>
        let _ ← advance
        let index ← expression g s.inner
        punct .rbracket
        return .inl (.other (← spanFrom start) .optionalAccess [node, index], true)
      | .punct .backtick =>
        let holes ← templateHoles g s true
        return .inl (.other (← spanFrom start) .tagged (node :: holes), true)
      | _ =>
        accessName
        return .inl (.other (← spanFrom start) .optionalAccess [node], true)
    | .punct .bang =>
      if s.typed && !(← onFreshLine) then
        let _ ← advance
        return .inl (.other (← spanFrom start) .typed [node], chained)
      else return .inr node
    | .punct .lt | .punct .shl =>
      if s.typed then
        match ← attempt (callTypeArguments g) with
        | none => return .inr node
        | some _ =>
          match ← peekTok with
          | .punct .lparen | .punct .backtick => return .inl (node, chained)
          | _ => return .inl (.other (← spanFrom start) .typed [node], chained)
      else return .inr node
    | _ => return .inr node

/-- An operand with all that follows it. -/
def operandRule (g : Grammar) (s : Scope) : Parse Node := do
  let start ← startPos
  let base ← (do if ← isKeyword .kwNew then constructRule g s else primary g s)
  repeating (suffix g s start) (base, false)

/-- Whether a value can be assigned to an expression. -/
def isTarget : Node → Bool
  | .name _ _ | .object _ _ => true
  | .other _ .access _ | .other _ .optionalAccess _ | .other _ .array _ => true
  | .other _ .paren [inner] => isTarget inner
  | .other _ .typed [inner] => isTarget inner
  | _ => false

def postfixed (g : Grammar) (s : Scope) : Parse Node := do
  let start ← startPos
  let node ← operandRule g s
  let t ← peek
  if (t.tok == .punct .plusPlus || t.tok == .punct .minusMinus) && !t.freshLine then
    guard (isTarget node)
    let _ ← advance
    return .other (← spanFrom start) .update [node]
  else return node

/-- A type in angle brackets before an operand. -/
def assertedType (g : Grammar) : Parse Unit := do
  punct .lt
  if !(← eatKeyword .kwConst) then g.type true
  closeAngle

/-- Operators before an operand. `await` before a right bracket is a name. -/
def unaryRule (g : Grammar) (s : Scope) : Parse Node := do
  let start ← startPos
  match ← peekTok with
  | .keyword .kwDelete | .keyword .kwVoid | .keyword .kwTypeof | .punct .plus | .punct .minus
  | .punct .tilde | .punct .bang =>
    let _ ← advance
    let operand ← g.unary s
    return .other (← spanFrom start) .unary [operand]
  | .punct .plusPlus | .punct .minusMinus =>
    let _ ← advance
    let operand ← g.unary s
    guard (isTarget operand)
    return .other (← spanFrom start) .update [operand]
  | .keyword .kwAwait =>
    let _ ← advance
    let t ← peekTok
    if t == .punct .rparen || t == .punct .rbracket then
      return .name (← spanFrom start) Keyword.kwAwait.text
    else
      let operand ← g.unary s
      return .other (← spanFrom start) .awaited [operand]
  | .punct .lt =>
    guard s.typed
    assertedType g
    let operand ← g.unary s
    return .other (← spanFrom start) .typed [operand]
  | _ => postfixed g s

/-- How tightly a binary operator binds. -/
def bindingLevel (s : Scope) : Tok → Option Nat
  | .punct p =>
    match p with
    | .questionQuestion => some 1
    | .barBar => some 2
    | .ampAmp => some 3
    | .bar => some 4
    | .caret => some 5
    | .amp => some 6
    | .eqEq | .notEq | .eqEqEq | .notEqEq => some 7
    | .lt | .gt | .le | .ge => some 8
    | .shl | .shr | .ushr => some 9
    | .plus | .minus => some 10
    | .star | .slash | .percent => some 11
    | .starStar => some 12
    | _ => none
  | .keyword .kwInstanceof => some 8
  | .keyword .kwIn => if s.noIn then none else some 8
  | _ => none

/-- The operand of `**` on the left has no operator before it. -/
def isBarePower : Node → Bool
  | .other _ .unary _ | .other _ .awaited _ => false
  | _ => true

/-- The operators after an operand that bind more tightly than `level`. -/
def binaryRest (g : Grammar) (s : Scope) (level start : Nat) (node : Node) :
    Parse (Node ⊕ Node) := do
  let t ← peek
  let cast := t.tok == .name "as".toList || t.tok == .name "satisfies".toList
  if s.typed && cast && !t.freshLine && level < 8 then
    let _ ← advance
    if !(← eatKeyword .kwConst) then g.type true
    return .inl (.other (← spanFrom start) .typed [node])
  else
    match bindingLevel s t.tok with
    | none => return .inr node
    | some l =>
      if level < l then
        let _ ← advance
        guard (l != 12 || isBarePower node)
        let right ← g.binary s (if l = 12 then 11 else l)
        return .inl (.other (← spanFrom start) .binary [node, right])
      else return .inr node

def binaryRule (g : Grammar) (s : Scope) (level : Nat) : Parse Node := do
  let start ← startPos
  let first ← unaryRule g s
  repeating (binaryRest g s level start) first

/-- The body of an arrow function: statements in braces, or an expression. -/
def arrowBody (g : Grammar) (s : Scope) : Parse (List Node) := do
  if ← isPunct .lbrace then block g (s.body false)
  else return [← g.assign { s with generator := false }]

/-- The arrow stands on the line of the parameters. -/
def arrowMark : Parse Unit := do
  guard (!(← onFreshLine))
  punct .arrow

/-- Parameters with types, a type of the result, and the arrow. Between `?` and `:` an arrow
function with such a type has to be followed by the `:`. -/
def typedArrow (g : Grammar) (s : Scope) (start : Nat) : Parse Node := do
  optionalTypeParameters g s
  let params ← parameters g s.inner
  let annotated ← eatPunct .colon
  if annotated then returnedType g
  arrowMark
  let body ← arrowBody g s
  if annotated && s.consequent then guard (← isPunct .colon)
  return .other (← spanFrom start) .arrow (params ++ body)

/-- Parameters read as arguments. A parameter that is no pattern is let pass. -/
def plainArrow (g : Grammar) (s : Scope) (start : Nat) : Parse Node := do
  let params ← arguments g s
  arrowMark
  let body ← arrowBody g s
  return .other (← spanFrom start) .arrow (params ++ body)

/-- An arrow function with one name for its parameters. -/
def nameArrow (g : Grammar) (s : Scope) (start : Nat) : Parse Node := do
  let at_ ← startPos
  let id ← name
  let param := Node.name (← spanFrom at_) id
  arrowMark
  let body ← arrowBody g s
  return .other (← spanFrom start) .arrow (param :: body)

/-- An arrow function with parameters in parentheses, if there is one here. -/
def parenArrow? (g : Grammar) (s : Scope) (start : Nat) : Parse (Option Node) := do
  let after ← peekAfterMatching 0
  if after.tok == .punct .arrow && !after.freshLine then
    if s.typed then
      match ← attempt (typedArrow g s start) with
      | some node => return some node
      | none => return some (← plainArrow g s start)
    else return some (← plainArrow g s start)
  else if s.typed && after.tok == .punct .colon then attempt (typedArrow g s start)
  else return none

/-- An arrow function, if there is one here. -/
def arrow? (g : Grammar) (s : Scope) : Parse (Option Node) := do
  let start ← startPos
  let first ← peekTok
  let second ← peekSecond
  let third ← peekThird
  let sameLine := !second.freshLine
  if (nameOf? first).isSome && second.tok == .punct .arrow && sameLine then
    return some (← nameArrow g s start)
  else if first == .punct .lparen then parenArrow? g s start
  else if first == .punct .lt && s.typed then attempt (typedArrow g s start)
  else if first == .name "async".toList && sameLine then
    if (nameOf? second.tok).isSome && third.tok == .punct .arrow then
      let _ ← advance
      return some (← nameArrow g s start)
    else if second.tok == .punct .lparen then
      let after ← peekAfterMatching 1
      let arrow := after.tok == .punct .arrow && !after.freshLine
      let annotated := after.tok == .punct .colon
      if s.typed && (arrow || annotated) then
        match ← attempt (do let _ ← advance; parenArrow? g s start) with
        | some (some node) => return some node
        | _ => return none
      else if arrow then
        let _ ← advance
        parenArrow? g s start
      else return none
    else if second.tok == .punct .lt && s.typed then
      attempt (do let _ ← advance; typedArrow g s start)
    else return none
  else return none

/-- `yield`, which may stand without an operand. -/
def yieldExpression (g : Grammar) (s : Scope) : Parse Node := do
  let start ← startPos
  keyword .kwYield
  let t ← peek
  let bare := t.freshLine || match t.tok with
    | .punct .rparen | .punct .rbracket | .punct .rbrace | .punct .comma | .punct .semicolon
    | .punct .colon | .eof | .keyword .kwIn => true
    | _ => false
  if bare then return .other (← spanFrom start) .yielded []
  else
    let _ ← eatPunct .star
    let operand ← g.assign s
    return .other (← spanFrom start) .yielded [operand]

def isAssignment : Punct → Bool
  | .eq | .plusEq | .minusEq | .starEq | .slashEq | .percentEq | .starStarEq | .shlEq | .shrEq
  | .ushrEq | .ampEq | .barEq | .caretEq | .ampAmpEq | .barBarEq | .questionQuestionEq => true
  | _ => false

/-- A conditional expression, given its test. -/
def conditional (g : Grammar) (s : Scope) (start : Nat) (test : Node) : Parse Node := do
  if ← eatPunct .question then
    let yes ← g.assign { s with noIn := false, consequent := true }
    punct .colon
    let no ← g.assign s
    return .other (← spanFrom start) .conditional [test, yes, no]
  else return test

/-- An expression without a comma at its top. -/
def assignRule (g : Grammar) (s : Scope) : Parse Node := do
  match ← arrow? g s with
  | some node => return node
  | none =>
    if s.generator && (← isKeyword .kwYield) then yieldExpression g s
    else
      let start ← startPos
      let test ← binaryRule g s 0
      let node ← conditional g s start test
      match ← peekTok with
      | .punct p =>
        if isAssignment p then
          guard (isTarget node)
          let _ ← advance
          let value ← g.assign s
          return .other (← spanFrom start) .assign [node, value]
        else return node
      | _ => return node

end StoryExports.Script
