import StoryExports.Text.Basic

/-!
# Syntax trees

The trees make the distinctions that reading and changing a module needs. Types and other
annotations leave no trace in them.
-/
namespace StoryExports.Script

/-- The forms of syntax without a constructor of their own. -/
inductive Form
  -- expressions
  | literal | paren | array | template | tagged | access | optionalAccess | optionalCall
  | construct | unary | awaited | update | binary | assign | conditional | sequence | arrow
  | yielded | importCall | metaProperty | thisRef | superRef | privateRef | spread | typed
  -- patterns
  | arrayPattern | defaulted | rest
  -- statements
  | block | empty | expression | variables (disposable : Bool) | branch | loop | doWhile | switch
  | tryCatch | labelled | jump | value | typeDeclaration
  -- parts of statements and classes
  | declarator | case | classBody | classMember
deriving DecidableEq, Repr

/-- How a member of an object literal or of an object pattern is written. -/
inductive MemberForm
  /-- `key: value` -/
  | pair
  /-- `key`, in a pattern also with a default -/
  | shorthand
  /-- A method or an accessor. -/
  | method
  /-- `...value` -/
  | spread
deriving DecidableEq, Repr

/-- A syntax tree. The parts of a node are in the order of the text. -/
inductive Node
  | name (span : Span) (id : Text)
  | string (span : Span) (value : Text)
  | object (span : Span) (members : List Node)
  | objectPattern (span : Span) (members : List Node)
  /-- A member of an object or of an object pattern. The key is absent if it is computed, a big
  integer, or if there is none; a computed key is the first part. -/
  | member (span : Span) (form : MemberForm) (key : Option Text) (parts : List Node)
  | call (span : Span) (callee : Node) (args : List Node)
  /-- A function with a body of statements. Without a body it is only declared. -/
  | function (span : Span) (name : Option Text) (params : List Node) (body : Option (List Node))
  /-- A class: its name, the class it extends and its members. -/
  | classDef (span : Span) (name : Option Text) (parent : Option Node) (members : List Node)
  | other (span : Span) (form : Form) (parts : List Node)
deriving Repr, Inhabited

def Node.span : Node → Span
  | .name s _ | .string s _ | .object s _ | .objectPattern s _ | .member s _ _ _ | .call s _ _
  | .function s _ _ _ | .classDef s _ _ _ | .other s _ _ => s

end StoryExports.Script
