import StoryExports.Script.Parser.Statement

/-!
# Declarations

Declarations that only TypeScript has, and the rule for statements.
-/
namespace StoryExports.Script

open Parse

/-- What stands in a declaration of types leaves no trace in the tree. -/
def typeDeclaration (start : Nat) : Parse Node := do
  return .other (← spanFrom start) .typeDeclaration []

def interfaceDeclaration (g : Grammar) (start : Nat) : Parse Node := do
  word "interface"
  let _ ← name
  optionalTypeParameters g typeScope
  if ← eatKeyword .kwExtends then let _ ← commaSeparated (g.type true)
  objectType g
  typeDeclaration start

def aliasDeclaration (g : Grammar) (start : Nat) : Parse Node := do
  word "type"
  let _ ← name
  optionalTypeParameters g typeScope
  punct .eq
  g.type true
  semicolon
  typeDeclaration start

def enumMember (g : Grammar) : Parse Unit := do
  let _ ← propertyKey g typeScope
  let _ ← initializer? g typeScope

def enumDeclaration (g : Grammar) (start : Nat) : Parse Node := do
  word "enum"
  let _ ← name
  punct .lbrace
  let _ ← commaList .rbrace (enumMember g)
  typeDeclaration start

/-- The braces of a namespace and what stands in them. The end of the text closes them as well. -/
def namespaceBody (g : Grammar) (s : Scope) : Parse Unit := do
  punct .lbrace
  repeating (fun _ => do
    if (← peekTok) == .eof then return .inr ()
    if ← eatPunct .rbrace then return .inr ()
    let _ ← g.element s
    return .inl ()) ()

/-- A namespace, or a module that is named by a string and may lack a body. -/
def namespaceDeclaration (g : Grammar) (s : Scope) (start : Nat) : Parse Node := do
  let _ ← advance
  match ← peekTok with
  | .string _ =>
    let _ ← advance
    if ← isPunct .lbrace then namespaceBody g s else semicolon
  | _ =>
    let _ ← name
    dottedRest
    namespaceBody g s
  typeDeclaration start

/-- The declarations of types, by the words that start them. -/
inductive Opening
  | interface | typeName | enum | constEnum | namespaceBlock | abstractClass | global | declare

/-- Whether a token can follow `declare`. -/
def isDeclarable : Tok → Bool
  | .keyword .kwFunction | .keyword .kwClass | .keyword .kwConst | .keyword .kwLet
  | .keyword .kwVar => true
  | .name id =>
    ["abstract", "enum", "interface", "type", "namespace", "module", "global", "async"].any
      (·.toList == id)
  | _ => false

/-- The declaration of types that starts here. -/
def opening? (s : Scope) : Parse (Option Opening) := do
  if !s.typed then return none
  let second ← peekSecond
  let named := (nameOf? second.tok).isSome
  let sameLine := !second.freshLine
  let isString := match second.tok with
    | .string _ => true
    | _ => false
  match ← peekTok with
  | .keyword .kwConst =>
    return if second.tok == .name "enum".toList then some .constEnum else none
  | .name id =>
    return match String.ofList id with
      | "interface" => if named && sameLine then some .interface else none
      | "type" => if named && sameLine then some .typeName else none
      | "enum" => if named then some .enum else none
      | "namespace" => if named && sameLine then some .namespaceBlock else none
      | "module" => if (named || isString) && sameLine then some .namespaceBlock else none
      | "abstract" =>
        if second.tok == .keyword .kwClass && sameLine then some .abstractClass else none
      | "global" => if second.tok == .punct .lbrace && sameLine then some .global else none
      | "declare" => if isDeclarable second.tok && sameLine then some .declare else none
      | _ => none
  | _ => return none

/-- A declaration of types, from its first word on. `start` is where the declaration starts, which
may be earlier. -/
def openedDeclaration (g : Grammar) (s : Scope) (start : Nat) : Opening → Parse Node
  | .interface => interfaceDeclaration g start
  | .typeName => aliasDeclaration g start
  | .enum => enumDeclaration g start
  | .constEnum => do
    let _ ← advance
    enumDeclaration g start
  | .namespaceBlock => namespaceDeclaration g s start
  | .abstractClass => do
    let _ ← advance
    classDefinition g s start true
  | .global => do
    let _ ← advance
    namespaceBody g s
    typeDeclaration start
  | .declare => failure

/-- What follows `declare`. -/
def declared (g : Grammar) (s : Scope) (start : Nat) : Parse Node := do
  let s := { s with ambient := true }
  match ← opening? s with
  | some o => openedDeclaration g s start o
  | none =>
    match ← peekTok with
    | .keyword .kwFunction => functionDefinition g s start true
    | .keyword .kwClass => classDefinition g s start true
    | .keyword .kwConst | .keyword .kwLet | .keyword .kwVar => variableStatement g s start
    | _ => failure

/-- A declaration, where one has to stand: a function, a class, variables or types. -/
def declaration? (g : Grammar) (s : Scope) : Parse (Option Node) := do
  let start ← startPos
  match ← opening? s with
  | some .declare =>
    let _ ← advance
    return some (← declared g s start)
  | some .global =>
    if s.ambient then return some (← openedDeclaration g s start .global) else return none
  | some o => return some (← openedDeclaration g s start o)
  | none =>
    let second ← peekSecond
    match ← peekTok with
    | .keyword .kwFunction => return some (← functionDefinition g s start true)
    | .keyword .kwClass => return some (← classDefinition g s start true)
    | .keyword .kwConst | .keyword .kwVar => return some (← variableStatement g s start)
    | .keyword .kwLet =>
      if followsLet second.tok then return some (← variableStatement g s start) else return none
    | _ =>
      if (← isWord "async") && second.tok == .keyword .kwFunction && !second.freshLine then
        let _ ← advance
        return some (← functionDefinition g s start true)
      else return none

/-- A declaration of values that end with their scope. -/
def disposal? (g : Grammar) (s : Scope) : Parse (Option Node) := do
  let start ← startPos
  let second ← peekSecond
  let third ← peekThird
  let plain := (← isWord "using") && (nameOf? second.tok).isSome && !second.freshLine
  let awaited := (← isKeyword .kwAwait) && second.tok == .name "using".toList &&
    (nameOf? third.tok).isSome && !third.freshLine
  if awaited then let _ ← advance
  if plain || awaited then return some (← usingStatement g s start) else return none

def statementRule (g : Grammar) (s : Scope) : Parse Node := do
  let start ← startPos
  match ← peekTok with
  | .punct .semicolon =>
    let _ ← advance
    return .other (← spanFrom start) .empty []
  | .punct .lbrace => blockNode g s
  | .keyword .kwIf => ifStatement g s start
  | .keyword .kwFor => forStatement g s start
  | .keyword .kwWhile | .keyword .kwWith => whileStatement g s start
  | .keyword .kwDo => doStatement g s start
  | .keyword .kwSwitch => switchStatement g s start
  | .keyword .kwTry => tryStatement g s start
  | .keyword .kwBreak | .keyword .kwContinue => jumpStatement start
  | .keyword .kwReturn => returnStatement g s start
  | .keyword .kwThrow => throwStatement g s start
  | .keyword .kwDebugger =>
    let _ ← advance
    semicolon
    return .other (← spanFrom start) .jump []
  | _ =>
    match ← declaration? g s with
    | some node => return node
    | none =>
      match ← disposal? g s with
      | some node => return node
      | none =>
        if (← isName) && (← peekSecond).tok == .punct .colon then labelledStatement g s start
        else expressionStatement g s start

end StoryExports.Script
