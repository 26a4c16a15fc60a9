import StoryExports.Script.Parser.Pattern

/-!
# Types

Types are read over: nothing of them enters the tree.
-/
namespace StoryExports.Script

open Parse

/-- The scope in which the parts of types that are not types themselves are read. -/
def typeScope : Scope := Scope.script true

/-- `<type, …>` -/
def typeArguments (g : Grammar) : Parse Unit := do
  punct .lt
  repeating (fun _ => do
    g.type true
    if ← eatPunct .comma then
      if ← atCloseAngle then
        closeAngle
        return .inr ()
      else return .inl ()
    else
      closeAngle
      return .inr ()) ()

def optionalTypeArguments (g : Grammar) : Parse Unit := do
  if (← isPunct .lt) && !(← onFreshLine) then typeArguments g

/-- Words before a type parameter that say how it varies. -/
def skipVariance : Parse Unit :=
  repeating (fun _ => do
    let second := (nameOf? (← peekSecond).tok).isSome
    match ← peekTok with
    | .keyword .kwConst | .keyword .kwIn => let _ ← advance; return .inl ()
    | .name id =>
      if id == "out".toList && second then
        let _ ← advance
        return .inl ()
      else return .inr ()
    | _ => return .inr ()) ()

/-- `<name extends type = type, …>` -/
def typeParameters (g : Grammar) : Parse Unit := do
  punct .lt
  repeating (fun _ => do
    skipVariance
    let _ ← name
    if ← eatKeyword .kwExtends then g.type true
    if ← eatPunct .eq then g.type true
    if ← eatPunct .comma then
      if ← atCloseAngle then
        closeAngle
        return .inr ()
      else return .inl ()
    else
      closeAngle
      return .inr ()) ()

def optionalTypeParameters (g : Grammar) (s : Scope) : Parse Unit := do
  if s.typed && (← isPunct .lt) then typeParameters g

/-- Words joined by dots after a first word. -/
def dottedRest : Parse Unit :=
  repeating (fun _ => do
    if ← eatPunct .dot then
      match ← peekTok with
      | .privateName _ => let _ ← advance
      | _ => let _ ← anyWord
      return .inl ()
    else return .inr ()) ()

/-- The type that a function returns, or what it asserts of its arguments. -/
def returnedType (g : Grammar) : Parse Unit := do
  let second ← peekSecond
  let asserted := (nameOf? second.tok).isSome || second.tok == .keyword .kwThis
  if (← isWord "asserts") && !second.freshLine && asserted then
    let _ ← advance
    let _ ← anyWord
    if ← isWord "is" then
      let _ ← advance
      g.type true
  else g.type true

/-- `(…) => type` after the type parameters. -/
def functionType (g : Grammar) : Parse Unit := do
  let _ ← parameters g typeScope
  punct .arrow
  returnedType g

def tupleElement (g : Grammar) : Parse Unit := do
  let _ ← eatPunct .ellipsis
  let second := (← peekSecond).tok
  let third := (← peekThird).tok
  let labelled := (wordOf? (← peekTok)).isSome &&
    (second == .punct .colon || (second == .punct .question && third == .punct .colon))
  if labelled then
    let _ ← anyWord
    let _ ← eatPunct .question
    punct .colon
  g.type true
  let _ ← eatPunct .question

/-- End a member of an object type. -/
def memberEnd : Parse Unit := do
  if ← eatPunct .comma then return
  semicolon

/-- The rest of a signature after its name. -/
def signatureRest (g : Grammar) : Parse Unit := do
  if (← isPunct .lparen) || (← isPunct .lt) then
    optionalTypeParameters g typeScope
    let _ ← parameters g typeScope
    if ← eatPunct .colon then returnedType g
  else if ← eatPunct .colon then g.type true

/-- A word that a property name has to follow to count as a modifier. -/
def eatModifierWord (w : String) : Parse Unit := do
  if ← isWord w then
    match (← peekSecond).tok with
    | .name _ | .keyword _ | .string _ | .number _ | .punct .lbracket =>
      let _ ← advance
    | _ => return

def eatSign : Parse Unit := do
  if !(← eatPunct .plus) then let _ ← eatPunct .minus

def typeMember (g : Grammar) : Parse Unit := do
  if (← isPunct .lparen) || (← isPunct .lt) then signatureRest g
  else
    let second := (← peekSecond).tok
    if (← isKeyword .kwNew) && (second == .punct .lparen || second == .punct .lt) then
      let _ ← advance
      signatureRest g
    else
      eatSign
      eatModifierWord "readonly"
      eatModifierWord "get"
      eatModifierWord "set"
      let third := (← peekThird).tok
      let indexed := (← isPunct .lbracket) && (nameOf? (← peekSecond).tok).isSome
      if indexed && third == .punct .colon then
        let _ ← advance
        let _ ← advance
        let _ ← advance
        g.type true
        punct .rbracket
        if ← eatPunct .colon then g.type true
      else if indexed && third == .keyword .kwIn then
        let _ ← advance
        let _ ← advance
        let _ ← advance
        g.type true
        if ← eatWord "as" then g.type true
        punct .rbracket
        eatSign
        let _ ← eatPunct .question
        if ← eatPunct .colon then g.type true
      else
        let _ ← propertyKey g typeScope
        let _ ← eatPunct .question
        signatureRest g
  memberEnd

/-- `{ member; … }` -/
def objectType (g : Grammar) : Parse Unit := do
  punct .lbrace
  let _ ← itemsTo .rbrace (typeMember g)

/-- The characters and holes of a template type after its backtick. -/
def templateType (g : Grammar) : Parse Unit :=
  repeating (fun _ => do
    match ← peekTok with
    | .punct .backtick => let _ ← advance; return .inr ()
    | .punct .dollarBrace =>
      let _ ← advance
      g.type true
      punct .rbrace
      return .inl ()
    | .chunk _ => let _ ← advance; return .inl ()
    | _ => failure) ()

/-- `import("…")` and the part of it that is meant. -/
def importType (g : Grammar) : Parse Unit := do
  keyword .kwImport
  punct .lparen
  let _ ← commaList .rparen (g.assign typeScope)
  dottedRest
  optionalTypeArguments g

def namedType (g : Grammar) : Parse Unit := do
  let _ ← name
  let second ← peek
  if second.tok == .name "is".toList && !second.freshLine then
    let _ ← advance
    g.type true
  else
    dottedRest
    optionalTypeArguments g

def primaryType (g : Grammar) : Parse Unit := do
  match ← peekTok with
  | .string _ | .number _ | .bigint => let _ ← advance
  | .keyword .kwVoid | .keyword .kwNull | .keyword .kwTrue | .keyword .kwFalse =>
    let _ ← advance
  | .keyword .kwThis =>
    let _ ← advance
    if (← isWord "is") && !(← onFreshLine) then
      let _ ← advance
      g.type true
  | .punct .minus =>
    let _ ← advance
    match ← peekTok with
    | .number _ | .bigint => let _ ← advance
    | _ => failure
  | .punct .backtick =>
    let _ ← advance
    templateType g
  | .keyword .kwTypeof =>
    let _ ← advance
    if ← isKeyword .kwImport then importType g
    else
      let _ ← anyWord
      dottedRest
      optionalTypeArguments g
  | .keyword .kwImport => importType g
  | .punct .lparen =>
    if (← peekAfterMatching 0).tok == .punct .arrow then functionType g
    else
      let _ ← advance
      g.type true
      punct .rparen
  | .punct .lbracket =>
    let _ ← advance
    let _ ← commaList .rbracket (tupleElement g)
  | .punct .lbrace => objectType g
  | .punct .lt =>
    typeParameters g
    functionType g
  | .keyword .kwNew =>
    let _ ← advance
    optionalTypeParameters g typeScope
    functionType g
  | _ =>
    let second := (← peekSecond).tok
    if (← isWord "abstract") && second == .keyword .kwNew then
      let _ ← advance
      let _ ← advance
      optionalTypeParameters g typeScope
      functionType g
    else namedType g

/-- Array and index suffixes. -/
def typeSuffixes (g : Grammar) : Parse Unit :=
  repeating (fun _ => do
    if (← isPunct .lbracket) && !(← onFreshLine) then
      let _ ← advance
      if !(← eatPunct .rbracket) then
        g.type true
        punct .rbracket
      return .inl ()
    else return .inr ()) ()

/-- Whether a token can start a type after a prefix operator. -/
def startsType : Tok → Bool
  | .name _ | .keyword _ | .string _ | .number _ => true
  | .punct .lparen | .punct .lbracket | .punct .lbrace | .punct .backtick => true
  | _ => false

/-- Whether the next word is a prefix operator on the type after it. -/
def atTypeOperator : Parse Bool := do
  match ← peekTok with
  | .name id =>
    let operator := ["keyof", "unique", "readonly", "infer"].any (·.toList == id)
    return operator && startsType (← peekSecond).tok
  | _ => return false

def operatorType (g : Grammar) (conditional : Bool) : Parse Unit := do
  if ← atTypeOperator then
    if ← eatWord "infer" then
      let _ ← name
      let _ ← attempt (do
        keyword .kwExtends
        g.type false
        guard (!(← isPunct .question)))
    else
      let _ ← advance
      g.type conditional
  else
    primaryType g
    typeSuffixes g

/-- Types joined by `|` and `&`. -/
def unionType (g : Grammar) (conditional : Bool) : Parse Unit := do
  if !(← eatPunct .bar) then let _ ← eatPunct .amp
  repeating (fun _ => do
    operatorType g conditional
    if ← eatPunct .bar then return .inl ()
    if ← eatPunct .amp then return .inl ()
    return .inr ()) ()

def typeRule (g : Grammar) (conditional : Bool) : Parse Unit := do
  unionType g conditional
  if conditional && (← isKeyword .kwExtends) && !(← onFreshLine) then
    let _ ← advance
    g.type false
    punct .question
    g.type true
    punct .colon
    g.type true

end StoryExports.Script
