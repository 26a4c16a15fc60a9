import StoryExports.Script.Parser.Grammar

/-!
# Binding patterns

Patterns that declare names, and the parameters of functions.
-/
namespace StoryExports.Script

open Parse

/-- An initial value `= …`. -/
def initializer? (g : Grammar) (s : Scope) : Parse (Option Node) := do
  if ← eatPunct .eq then return some (← g.assign s) else return none

/-- A pattern with its default, if there is one. -/
def withDefault (start : Nat) (pattern : Node) (g : Grammar) (s : Scope) : Parse Node := do
  match ← initializer? g s with
  | some value => return .other (← spanFrom start) .defaulted [pattern, value]
  | none => return pattern

def bindingElement (g : Grammar) (s : Scope) : Parse Node := do
  let start ← startPos
  let pattern ← g.binding s
  withDefault start pattern g s.inner

/-- The elements of an array pattern after its left bracket. -/
def arrayPatternItems (g : Grammar) (s : Scope) : Parse (List Node) := do
  let items ← repeating (fun acc => do
    if ← eatPunct .rbracket then return .inr acc
    if ← eatPunct .comma then return .inl acc
    let start ← startPos
    let item ← (do
      if ← eatPunct .ellipsis then
        let target ← bindingElement g s
        return .other (← spanFrom start) .rest [target]
      else bindingElement g s)
    if !(← isPunct .rbracket) then punct .comma
    return .inl (item :: acc)) []
  return items.reverse

def objectPatternMember (g : Grammar) (s : Scope) : Parse Node := do
  let start ← startPos
  if ← eatPunct .ellipsis then
    let target ← g.binding s
    return .member (← spanFrom start) .spread none [target]
  else
    let isWord := (wordOf? (← peekTok)).isSome
    let key ← propertyKey g s
    if ← eatPunct .colon then
      let value ← bindingElement g s
      return .member (← spanFrom start) .pair key.text (key.computed ++ [value])
    else
      guard isWord
      let value ← initializer? g s.inner
      return .member (← spanFrom start) .shorthand key.text value.toList

/-- A rest element at the end of an object pattern can only be a name. -/
def restIsName (members : List Node) : Bool :=
  match members.getLast? with
  | some (.member _ .spread _ [.name _ _]) => true
  | some (.member _ .spread _ _) => false
  | _ => true

/-- A name or a pattern. -/
def bindingRule (g : Grammar) (s : Scope) : Parse Node := do
  let start ← startPos
  match ← peekTok with
  | .punct .lbracket =>
    let _ ← advance
    let items ← arrayPatternItems g s
    return .other (← spanFrom start) .arrayPattern items
  | .punct .lbrace =>
    let _ ← advance
    let members ← commaList .rbrace (objectPatternMember g s)
    guard (restIsName members)
    return .objectPattern (← spanFrom start) members
  | _ =>
    let id ← name
    return .name (← spanFrom start) id

/-- Whether a token can start a parameter. -/
def startsParameter (t : Tok) : Bool :=
  (nameOf? t).isSome || t == .punct .lbrace || t == .punct .lbracket || t == .keyword .kwThis

/-- Words before a parameter that make it a property as well. -/
def skipParameterModifiers : Parse Unit :=
  repeating (fun _ => do
    match ← peekTok with
    | .name id =>
      let modifier := ["public", "private", "protected", "readonly", "override"].any
        (·.toList == id)
      if modifier && startsParameter (← peekSecond).tok then
        let _ ← advance
        return .inl ()
      else return .inr ()
    | _ => return .inr ()) ()

/-- A parameter. The receiver `this` may be given a type, but it declares no name. -/
def parameter (g : Grammar) (s : Scope) : Parse Node := do
  let start ← startPos
  if ← eatPunct .ellipsis then
    let target ← g.binding s
    annotation g s
    let value ← withDefault start target g s.inner
    return .other (← spanFrom start) .rest [value]
  else
    if s.typed then skipParameterModifiers
    if s.typed && (← isKeyword .kwThis) then
      let _ ← advance
      annotation g s
      return .other (← spanFrom start) .typed []
    else
      let pattern ← g.binding s
      if s.typed then let _ ← eatPunct .question
      annotation g s
      withDefault start pattern g s.inner

/-- Parameters in parentheses. -/
def parameters (g : Grammar) (s : Scope) : Parse (List Node) := do
  punct .lparen
  commaList .rparen (parameter g s)

end StoryExports.Script
