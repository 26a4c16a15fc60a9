import StoryExports.Script.Lexer
import StoryExports.Script.Parser.Declaration

/-!
# Modules

Imports, exports and statements.
-/
namespace StoryExports.Script

/-- A name of a module, as imports and exports write it. -/
inductive ModuleName
  | word (id : Text)
  | string (value : Text)
deriving DecidableEq, Repr

def ModuleName.text : ModuleName → Text
  | .word id => id
  | .string value => value

/-- What an import takes from the other module. -/
inductive Imported
  /-- The default: a name outside of braces. -/
  | default
  /-- All of the module at once, after `* as`. -/
  | whole
  /-- A name in braces. Without `as` it is the name that is bound. -/
  | named (name : Option ModuleName)
deriving DecidableEq, Repr

/-- A name that an import binds. -/
structure ImportedName where
  imported : Imported
  binding : Text
  typeOnly : Bool
deriving DecidableEq, Repr

/-- The export that a name in braces stands for. -/
def ImportedName.exported? (n : ImportedName) : Option Text :=
  match n.imported with
  | .named (some name) => some name.text
  | .named none => some n.binding
  | .default | .whole => none

/-- A name that an export lists. -/
inductive ExportedName
  /-- A name of this module or of the source, perhaps under a new name. -/
  | named (name : ModuleName) (renamed : Option ModuleName)
  /-- All of the source at once, after `* as`. -/
  | whole (name : ModuleName)
deriving DecidableEq, Repr

/-- The name under which other modules import it. -/
def ExportedName.outside : ExportedName → ModuleName
  | .named name renamed => renamed.getD name
  | .whole name => name

/-- Whether it can be a name of this module: those are no strings. -/
def ExportedName.isLocal : ExportedName → Bool
  | .named (.word _) _ => true
  | .named (.string _) _ | .whole _ => false

inductive ItemBody
  | importing (source : Text) (typeOnly : Bool) (names : List ImportedName)
  /-- `export` before a declaration. -/
  | exportDeclaration (declaration : Node)
  /-- `export` of names, of this module or of another one. -/
  | exportNames (names : List ExportedName)
  /-- `export default` before a function, a class or an interface. -/
  | exportDefault (declaration : Node)
  | exportDefaultValue (value : Node)
  | exportAll
  /-- Imports and exports that only TypeScript has. -/
  | typedModule
  | statement (node : Node)
deriving Repr

/-- A piece of a module at its top, with the comments before it. -/
structure Item where
  span : Span
  leading : List Comment
  body : ItemBody
deriving Repr

open Parse

/-- The name of an import or an export: a word or a string. -/
def moduleName : Parse ModuleName := do
  match ← peekTok with
  | .string value => let _ ← advance; return .string value
  | _ => return .word (← anyWord)

def sourceString : Parse Text := do
  match ← peekTok with
  | .string value => let _ ← advance; return value
  | _ => failure

/-- What the source of an import is taken for, where types may be written. -/
def importAttributes (g : Grammar) (s : Scope) : Parse Unit := do
  if s.typed && !(← onFreshLine) then
    if (← isKeyword .kwWith) || (← isWord "assert") then
      let _ ← advance
      let _ ← objectLiteral g s

/-- Whether `type` here marks a name as a type: it does unless it is the name itself. -/
def atTypeMark (s : Scope) : Parse Bool := do
  if !(s.typed && (← isWord "type")) then return false
  let endsName (t : Tok) : Bool := t == .punct .comma || t == .punct .rbrace
  let second := (← peekSecond).tok
  let third := (← peekThird).tok
  if endsName second then return false
  if second == .name "as".toList then
    -- `type as` names a type `as`, and so does `type as as x`; `type as x` names `type`
    return endsName third || (third == .name "as".toList && !endsName (← peekFourth).tok)
  return true

/-- A name in the braces of an import. -/
def importSpecifier (s : Scope) : Parse ImportedName := do
  let typeOnly ← atTypeMark s
  if typeOnly then let _ ← advance
  let plain ← isName
  let imported ← moduleName
  if ← eatWord "as" then return ⟨.named (some imported), ← name, typeOnly⟩
  else
    guard plain
    return ⟨.named none, imported.text, typeOnly⟩

/-- The names of an import: the default, the whole module, and those in braces. -/
def importClause (s : Scope) : Parse (List ImportedName) := do
  let first ← (do
    if ← isName then return [⟨.default, ← name, false⟩] else return [])
  if !first.isEmpty then
    if !(← eatPunct .comma) then return first
  if ← eatPunct .star then
    word "as"
    return first ++ [⟨.whole, ← name, false⟩]
  else
    punct .lbrace
    return first ++ (← commaList .rbrace (importSpecifier s))

/-- Whether `import type` imports types: `type` may also be the name of the default. -/
def atTypeImport (s : Scope) : Parse Bool := do
  if !(s.typed && (← isWord "type")) then return false
  let second := (← peekSecond).tok
  let third := (← peekThird).tok
  if second == .name "from".toList then return third == .name "from".toList
  return (nameOf? second).isSome || second == .punct .lbrace || second == .punct .star

/-- `import name = …` -/
def importAlias (g : Grammar) (s : Scope) : Parse ItemBody := do
  let _ ← name
  punct .eq
  let _ ← g.operand s
  semicolon
  return .typedModule

def importItem (g : Grammar) (s : Scope) : Parse ItemBody := do
  keyword .kwImport
  match ← peekTok with
  | .string source =>
    let _ ← advance
    importAttributes g s
    semicolon
    return .importing source false []
  | _ =>
    let typeOnly ← atTypeImport s
    if typeOnly then let _ ← advance
    if s.typed && (← isName) && (← peekSecond).tok == .punct .eq then importAlias g s
    else
      let names ← importClause s
      word "from"
      let source ← sourceString
      importAttributes g s
      semicolon
      return .importing source typeOnly names

/-- A name in the braces of an export. -/
def exportSpecifier (s : Scope) : Parse ExportedName := do
  if ← atTypeMark s then let _ ← advance
  let here ← moduleName
  if ← eatWord "as" then return .named here (some (← moduleName))
  else return .named here none

/-- `export { … }`, perhaps from another module. -/
def exportBraces (g : Grammar) (s : Scope) : Parse ItemBody := do
  punct .lbrace
  let names ← commaList .rbrace (exportSpecifier s)
  if ← eatWord "from" then
    let _ ← sourceString
    importAttributes g s
  else guard (names.all ExportedName.isLocal)
  semicolon
  return .exportNames names

def exportStar (g : Grammar) (s : Scope) : Parse ItemBody := do
  punct .star
  let asName ← (do
    if ← eatWord "as" then return some (← moduleName) else return none)
  word "from"
  let _ ← sourceString
  importAttributes g s
  semicolon
  match asName with
  | some exported => return .exportNames [.whole exported]
  | none => return .exportAll

/-- What follows `export default`. -/
def exportDefaultItem (g : Grammar) (s : Scope) : Parse ItemBody := do
  let start ← startPos
  let second ← peekSecond
  let sameLine := !second.freshLine
  match ← peekTok with
  | .keyword .kwFunction => return .exportDefault (← functionDefinition g s start false)
  | .keyword .kwClass => return .exportDefault (← classDefinition g s start false)
  | t =>
    if t == .name "async".toList && second.tok == .keyword .kwFunction && sameLine then
      let _ ← advance
      return .exportDefault (← functionDefinition g s start false)
    else if s.typed && t == .name "abstract".toList && second.tok == .keyword .kwClass &&
        sameLine then
      let _ ← advance
      return .exportDefault (← classDefinition g s start false)
    else if s.typed && t == .name "interface".toList && (nameOf? second.tok).isSome &&
        sameLine then
      return .exportDefault (← interfaceDeclaration g start)
    else
      let value ← g.assign s
      semicolon
      return .exportDefaultValue value

def exportItem (g : Grammar) (s : Scope) : Parse ItemBody := do
  keyword .kwExport
  match ← peekTok with
  | .keyword .kwDefault =>
    let _ ← advance
    exportDefaultItem g s
  | .punct .star => exportStar g s
  | .punct .lbrace => exportBraces g s
  | t =>
    let second := (← peekSecond).tok
    if s.typed && t == .punct .eq then
      let _ ← advance
      let _ ← expression g s
      semicolon
      return .typedModule
    else if s.typed && t == .name "as".toList && second == .name "namespace".toList then
      let _ ← advance
      let _ ← advance
      let _ ← name
      semicolon
      return .typedModule
    else if s.typed && t == .keyword .kwImport then
      let _ ← advance
      if ← atTypeImport s then let _ ← advance
      importAlias g s
    else if s.typed && t == .name "type".toList && second == .punct .lbrace then
      let _ ← advance
      exportBraces g s
    else if s.typed && t == .name "type".toList && second == .punct .star then
      let _ ← advance
      exportStar g s
    else
      match ← declaration? g s with
      | some node => return .exportDeclaration node
      | none => failure

/-- Whether `import` here starts an expression. -/
def atImportExpression : Parse Bool := do
  let second := (← peekSecond).tok
  return second == .punct .lparen || second == .punct .dot

def item (g : Grammar) (s : Scope) : Parse Item := do
  let first ← peek
  let body ← (do
    if (← isKeyword .kwImport) && !(← atImportExpression) then importItem g s
    else if ← isKeyword .kwExport then exportItem g s
    else return .statement (← g.statement s))
  return ⟨← spanFrom first.span.start, first.leading, body⟩

/-- All rules, on top of a grammar that stands for the constructs inside. -/
def Grammar.step (g : Grammar) : Grammar where
  lenient := g.lenient
  assign := assignRule g
  binary := binaryRule g
  unary := unaryRule g
  operand := operandRule g
  construct := constructRule g
  statement := statementRule g
  binding := bindingRule g
  type := typeRule g
  element s := do let _ ← item g s

/-- The grammar of constructs that are nested at most so deep. -/
def Grammar.nested : Nat → Grammar
  | 0 => .empty
  | depth + 1 => .step (.nested depth)

/-- Whether a script is TypeScript or JavaScript. -/
inductive Language
  | javaScript
  | typeScript
deriving DecidableEq, Repr

/-- The items of a module. -/
def items (g : Grammar) (s : Scope) : Parse (List Item) := do
  let found ← repeating (fun acc => do
    if (← peekTok) == .eof then return .inr acc
    return .inl ((← item g s) :: acc)) []
  return found.reverse

/-- Parse the tokens of a module. Of two rules at most one more goes back without taking a token,
so three levels for each token are enough. -/
def parseTokens (language : Language) (tokens : List Token) : Option (List Item) :=
  let g := Grammar.nested (3 * tokens.length + 3)
  (items g (.script (language == .typeScript)) ⟨tokens, 0⟩).map (·.1)

/-- A byte order mark at the start is no part of the text. -/
def withoutMark : Text → Text
  | c :: cs => if c.toNat = 0xFEFF then cs else c :: cs
  | [] => []

/-- Parse a module. Offsets count from after a byte order mark. -/
def parseModule (language : Language) (t : Text) : Option (List Item) :=
  parseTokens language (lex (withoutMark t))

end StoryExports.Script
