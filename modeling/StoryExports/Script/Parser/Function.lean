import StoryExports.Script.Parser.Types

/-! # Functions, members and classes -/
namespace StoryExports.Script

open Parse

/-- The body of a function. Where types may be written, a semicolon can stand for it, and the
function is only declared. -/
def functionBody (g : Grammar) (s : Scope) (generator : Bool) : Parse (Option (List Node)) := do
  if ← isPunct .lbrace then return some (← block g (s.body generator))
  else
    guard s.typed
    semicolon
    return none

/-- The parameters, the type and the body of a function that starts at `start`. -/
def functionRest (g : Grammar) (s : Scope) (start : Nat) (id : Option Text) (generator : Bool) :
    Parse Node := do
  optionalTypeParameters g s
  let params ← parameters g (s.body generator)
  if s.typed then
    if ← eatPunct .colon then returnedType g
  let body ← functionBody g s generator
  return .function (← spanFrom start) id params body

/-- A function from its keyword on. -/
def functionDefinition (g : Grammar) (s : Scope) (start : Nat) (named : Bool) : Parse Node := do
  keyword .kwFunction
  let generator ← eatPunct .star
  let id ← (do if ← isName then return some (← name) else return none)
  guard (id.isSome || !named)
  functionRest g s start id generator

/-- A method after its modifiers and its key. -/
def method (g : Grammar) (s : Scope) (generator : Bool) : Parse Node := do
  functionRest g s (← startPos) none generator

/-- Whether a word before `t` is a key itself and no modifier. -/
def endsKey (t : Tok) : Bool :=
  match t with
  | .punct .lparen | .punct .comma | .punct .colon | .punct .rbrace | .punct .eq | .punct .lt
  | .punct .semicolon | .punct .question | .punct .bang | .eof => true
  | _ => false

/-- Whether the next word modifies the key after it. -/
def atModifier (words : List String) : Parse Bool := do
  match ← peekTok with
  | .name id => return words.any (·.toList == id) && !endsKey (← peekSecond).tok
  | _ => return false

def objectMember (g : Grammar) (s : Scope) : Parse Node := do
  let start ← startPos
  if ← eatPunct .ellipsis then
    let value ← g.assign s
    return .member (← spanFrom start) .spread none [value]
  else if ← eatPunct .star then
    let key ← propertyKey g s
    let f ← method g s true
    return .member (← spanFrom start) .method key.text (key.computed ++ [f])
  else if ← atModifier ["async", "get", "set"] then
    let asyncWord ← isWord "async"
    let _ ← advance
    guard (!(asyncWord && (← onFreshLine)))
    let generator ← (do if asyncWord then eatPunct .star else return false)
    let key ← propertyKey g s
    let f ← method g s generator
    return .member (← spanFrom start) .method key.text (key.computed ++ [f])
  else
    let isWord := (wordOf? (← peekTok)).isSome
    let key ← propertyKey g s
    match ← peekTok with
    | .punct .colon =>
      let _ ← advance
      let value ← g.assign s
      return .member (← spanFrom start) .pair key.text (key.computed ++ [value])
    | .punct .lparen | .punct .lt =>
      let f ← method g s false
      return .member (← spanFrom start) .method key.text (key.computed ++ [f])
    | _ =>
      guard isWord
      let value ← initializer? g s
      return .member (← spanFrom start) .shorthand key.text value.toList

def objectLiteral (g : Grammar) (s : Scope) : Parse Node := do
  let start ← startPos
  punct .lbrace
  let members ← commaList .rbrace (objectMember g s.inner)
  return .object (← spanFrom start) members

/-- Words that may stand before a class member. Some only count where types may be written. -/
def memberModifiers (typed : Bool) : List String :=
  ["static", "async", "get", "set", "accessor"] ++
    if typed then ["public", "private", "protected", "abstract", "override", "readonly", "declare"]
    else []

/-- Take the modifiers of a class member. -/
def skipMemberModifiers (s : Scope) : Parse Unit :=
  repeating (fun _ => do
    let second ← peekSecond
    let lineBound ← (do
      match ← peekTok with
      | .name id => return ["async", "accessor", "declare", "abstract"].any (·.toList == id)
      | _ => return false)
    let accessor := (← isWord "get") || (← isWord "set")
    let separate := second.freshLine && (lineBound || (accessor && second.tok == .punct .star))
    let staticBlock := (← isWord "static") && second.tok == .punct .lbrace
    if (← atModifier (memberModifiers s.typed)) && !separate && !staticBlock then
      let _ ← advance
      return .inl ()
    else return .inr ()) ()

/-- `[key: type]: type` -/
def atIndexSignature (s : Scope) : Parse Bool := do
  return s.typed && (← isPunct .lbracket) && (nameOf? (← peekSecond).tok).isSome &&
    (← peekThird).tok == .punct .colon

def classKey (g : Grammar) (s : Scope) : Parse Key := do
  match ← peekTok with
  | .privateName id => let _ ← advance; return ⟨some id, []⟩
  | _ => propertyKey g s

def classMember (g : Grammar) (s : Scope) : Parse Node := do
  let start ← startPos
  skipMemberModifiers s
  if (← isWord "static") && (← peekSecond).tok == .punct .lbrace then
    let _ ← advance
    let body ← block g (s.body false)
    return .other (← spanFrom start) .classMember body
  else if ← atIndexSignature s then
    typeMember g
    return .other (← spanFrom start) .classMember []
  else
    let generator ← eatPunct .star
    let key ← classKey g s
    if s.typed then
      if !(← eatPunct .question) then
        if !(← onFreshLine) then let _ ← eatPunct .bang
    if (← isPunct .lparen) || (s.typed && (← isPunct .lt)) then
      let f ← method g s generator
      return .other (← spanFrom start) .classMember (key.computed ++ [f])
    else
      annotation g s
      let value ← initializer? g (s.body false)
      semicolon
      return .other (← spanFrom start) .classMember (key.computed ++ value.toList)

/-- The members of a class after its left brace. -/
def classMembers (g : Grammar) (s : Scope) : Parse (List Node) := do
  let items ← repeating (fun acc => do
    if ← eatPunct .rbrace then return .inr acc
    if ← eatPunct .semicolon then return .inl acc
    return .inl ((← classMember g s) :: acc)) []
  return items.reverse

/-- A class from its keyword on. -/
def classDefinition (g : Grammar) (s : Scope) (start : Nat) (named : Bool) : Parse Node := do
  keyword .kwClass
  let heritage := (← isWord "implements") && (← peekSecond).tok != .punct .lbrace && s.typed
  let id ← (do if (← isName) && !heritage then return some (← name) else return none)
  guard (id.isSome || !named)
  optionalTypeParameters g s
  let parent ← (do
    if ← eatKeyword .kwExtends then
      let parent ← g.operand s.inner
      if s.typed then optionalTypeArguments g
      return some parent
    else return none)
  if s.typed then
    if ← eatWord "implements" then let _ ← commaSeparated (g.type true)
  punct .lbrace
  let members ← classMembers g s.inner
  return .classDef (← spanFrom start) id parent members

end StoryExports.Script
