import StoryExports.Decimal.Shortest
import StoryExports.Script.Parser.Cursor

/-!
# The grammar as a family of parsers

A rule that goes back to a larger construct, as an argument list goes back to expressions, takes
that construct from a `Grammar`. The whole grammar is the rules applied to themselves as deep as
there are tokens, since a rule goes back only after it has taken a token.
-/
namespace StoryExports.Script

/-- What the place of a construct says about it. -/
structure Scope where
  /-- Types may be written: the script is TypeScript. -/
  typed : Bool
  /-- `in` is no operator, as in the head of a `for` loop. -/
  noIn : Bool
  /-- `yield` is an operator. -/
  generator : Bool
  /-- The construct stands between `?` and `:`. -/
  consequent : Bool
  /-- Only declarations stand here, as after `declare`. -/
  ambient : Bool
deriving DecidableEq, Repr

namespace Scope

def script (typed : Bool) : Scope := ⟨typed, false, false, false, false⟩

/-- The scope inside brackets. -/
def inner (s : Scope) : Scope := { s with noIn := false, consequent := false }

/-- The scope of the body of a function. -/
def body (s : Scope) (generator : Bool) : Scope := { s.inner with generator := generator }

end Scope

structure Grammar where
  /-- Whether reading goes on after what is no script: where a declaration does not end, and where
  the text ends in a block. -/
  lenient : Bool
  /-- An expression without a comma at its top. -/
  assign : Scope → Parse Node
  /-- Operands and the operators between them that bind more tightly than a level. -/
  binary : Scope → Nat → Parse Node
  unary : Scope → Parse Node
  /-- An operand with its calls and accesses. -/
  operand : Scope → Parse Node
  /-- `new` and what it constructs. -/
  construct : Scope → Parse Node
  statement : Scope → Parse Node
  /-- A name or a pattern that declares names. -/
  binding : Scope → Parse Node
  /-- A type; with or without conditional types at its top. -/
  type : Bool → Parse Unit
  /-- A statement, an import or an export inside a namespace. -/
  element : Scope → Parse Unit

namespace Grammar

/-- The grammar of nothing. -/
def empty : Grammar where
  lenient := true
  assign _ := failure
  binary _ _ := failure
  unary _ := failure
  operand _ := failure
  construct _ := failure
  statement _ := failure
  binding _ := failure
  type _ := failure
  element _ := failure

end Grammar

open Parse

/-- One or more expressions with commas between them. -/
def expression (g : Grammar) (s : Scope) : Parse Node := do
  let start ← startPos
  match ← commaSeparated (g.assign s) with
  | [e] => return e
  | es => return .other (← spanFrom start) .sequence es

/-- An annotation `: type`, where types may be written. -/
def annotation (g : Grammar) (s : Scope) : Parse Unit := do
  if s.typed then
    if ← eatPunct .colon then g.type true

/-- The key of a property, and the expression in a computed one. -/
structure Key where
  text : Option Text
  computed : List Node

def propertyKey (g : Grammar) (s : Scope) : Parse Key := do
  match ← peekTok with
  | .string value => let _ ← advance; return ⟨some value, []⟩
  | .number value => let _ ← advance; return ⟨some (Decimal.Double.plain value), []⟩
  | .bigint => let _ ← advance; return ⟨none, []⟩
  | .punct .lbracket =>
    let _ ← advance
    let e ← expression g s.inner
    punct .rbracket
    return ⟨none, [e]⟩
  | _ => return ⟨some (← anyWord), []⟩

/-- Statements up to the right brace. The end of the text may stand for it. -/
def statementsToBrace (g : Grammar) (s : Scope) : Parse (List Node) := do
  let items ← repeating (fun acc => do
    if ← eatPunct .rbrace then return .inr acc
    if (← peekTok) == .eof && g.lenient then return .inr acc
    return .inl ((← g.statement s) :: acc)) []
  return items.reverse

def block (g : Grammar) (s : Scope) : Parse (List Node) := do
  punct .lbrace
  statementsToBrace g s

end StoryExports.Script
