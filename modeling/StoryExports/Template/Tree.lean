import StoryExports.Json.Value

/-!
# Template trees

The tree of a template, as far as it is read here.
-/
namespace StoryExports.Template

/-- A piece of the value of an attribute. -/
inductive ValuePart
  | text (span : Span) (data : Text)
  /-- An expression in braces, as a JSON tree. -/
  | expression (span : Span) (tree : Json)
deriving Repr

inductive AttributeValue
  /-- An attribute without a value. -/
  | flag (value : Bool)
  | sequence (parts : List ValuePart)
  | single (part : ValuePart)
deriving Repr

structure Attribute where
  span : Span
  name : Text
  value : AttributeValue
deriving Repr

/-- An attribute, or something else in its place, such as a directive. -/
inductive AttributeNode
  | plain (attr : Attribute)
  | other
deriving Repr

structure Component where
  span : Span
  name : Text
  attributes : List AttributeNode
  /-- The spans of the children, if the tree tells them. -/
  children : Option (List Span)
deriving Repr

inductive Node
  | comment (span : Span) (data : Text)
  | text (span : Span) (data : Text)
  | component (c : Component)
  | other
deriving Repr

structure Script where
  span : Span
  context : Text
  attributes : List AttributeNode
deriving Repr

structure Root where
  nodes : List Node
  instanceScript : Option Script
  moduleScript : Option Script
deriving Repr

/-- The script with the logic of a stories file: the module script if there is one. -/
def Root.logicScript (r : Root) : Option Script := r.moduleScript <|> r.instanceScript

/-- The plain attributes. -/
def plainAttributes (attributes : List AttributeNode) : List Attribute :=
  attributes.filterMap fun
    | .plain a => some a
    | .other => none

/-- The first attribute of a name. -/
def Component.attribute? (c : Component) (name : Text) : Option Attribute :=
  (plainAttributes c.attributes).find? (·.name == name)

/-- From the start of the first child to the end of the last one. -/
def Component.childrenSpan? (c : Component) : Option Span := do
  let children ← c.children
  return ⟨(← children.head?).start, (← children.getLast?).stop⟩

/-- Whether the element ends in `/>`. -/
def Component.isSelfClosing (c : Component) (source : Text) : Bool :=
  match source.slice? c.span with
  | some element => element.endsWith "/>".toList
  | none => false

/-- The value of a string literal, or of a template literal without holes. -/
def staticText? (tree : Json) : Option Text := do
  let kind ← (← tree.get? "type").text?
  if kind = "Literal".toList then (← tree.get? "value").text?
  else if kind = "TemplateLiteral".toList then
    let holes := ((tree.get? "expressions").bind Json.items?).getD []
    guard holes.isEmpty
    let chunk ← (← (← tree.get? "quasis").items?).head?
    (← (← chunk.get? "value").get? "cooked").text?
  else none

/-- The text of a part that holds no variable. -/
def ValuePart.static? : ValuePart → Option Text
  | .text _ data => some data
  | .expression _ tree => staticText? tree

def ValuePart.span : ValuePart → Span
  | .text s _ | .expression s _ => s

/-- The text of an attribute value that holds no variable. -/
def AttributeValue.static? : AttributeValue → Option Text
  | .flag _ => none
  | .single part => part.static?
  | .sequence parts => (parts.mapM ValuePart.static?).map List.flatten

end StoryExports.Template
