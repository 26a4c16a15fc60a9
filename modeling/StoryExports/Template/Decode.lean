import StoryExports.Json.Decode
import StoryExports.Json.Reader
import StoryExports.Template.Tree

/-! # Template trees in JSON -/
namespace StoryExports.Template

open Json (record? tagged? required defaulted nullable natural? listOf)

private def names (ws : List String) : List Text := ws.map String.toList

/-- A span and one more field. -/
def spanned? {α : Type} (field : String) (decode : Json → Option α) (j : Json) :
    Option (Span × α) := do
  match ← record? (names ["start", "end", field]) false j with
  | [start, stop, value] =>
    return (⟨← required natural? start, ← required natural? stop⟩, ← required decode value)
  | _ => none

def decodePart (j : Json) : Option ValuePart := do
  let (tag, body) ← tagged? j
  if tag = "Text".toList then
    return Function.uncurry ValuePart.text (← spanned? "data" Json.text? body)
  else if tag = "ExpressionTag".toList then
    return Function.uncurry ValuePart.expression (← spanned? "expression" some body)
  else none

def decodeValue : Json → Option AttributeValue
  | .bool b => some (.flag b)
  | j => (listOf decodePart j).map .sequence <|> (decodePart j).map .single

def decodeAttribute (j : Json) : Option AttributeNode := do
  let (tag, body) ← tagged? j
  if tag = "Attribute".toList then
    match ← record? (names ["start", "end", "name", "value"]) false body with
    | [start, stop, name, value] =>
      return .plain ⟨⟨← required natural? start, ← required natural? stop⟩,
        ← required Json.text? name, ← required decodeValue value⟩
    | _ => none
  else return .other

def decodeSpan (j : Json) : Option Span := do
  match ← record? (names ["start", "end"]) false j with
  | [start, stop] => return ⟨← required natural? start, ← required natural? stop⟩
  | _ => none

/-- The children of an element: only their spans are read. -/
def decodeChildren (j : Json) : Option (List Span) := do
  match ← record? (names ["nodes"]) false j with
  | [nodes] => defaulted [] (listOf decodeSpan) nodes
  | _ => none

def decodeComponent (j : Json) : Option Component := do
  match ← record? (names ["start", "end", "name", "attributes", "fragment"]) false j with
  | [start, stop, name, attributes, fragment] =>
    return ⟨⟨← required natural? start, ← required natural? stop⟩, ← required Json.text? name,
      ← defaulted [] (listOf decodeAttribute) attributes, ← nullable decodeChildren fragment⟩
  | _ => none

def decodeNode (j : Json) : Option Node := do
  let (tag, body) ← tagged? j
  if tag = "Comment".toList then
    return Function.uncurry Node.comment (← spanned? "data" Json.text? body)
  else if tag = "Text".toList then
    return Function.uncurry Node.text (← spanned? "data" Json.text? body)
  else if tag = "Component".toList then return .component (← decodeComponent body)
  else return .other

/-- How deep arrays and objects may be nested in a tagged record, which stands below three
others. -/
def recordDepth : Nat := 124

/-- A tagged record is held in memory before it is read. -/
def kept {α : Type} (decode : Json → Option α) (j : Json) : Option α :=
  if j.isKept recordDepth then decode j else none

def decodeScript (j : Json) : Option Script := do
  match ← record? (names ["start", "end", "context", "attributes"]) false j with
  | [start, stop, context, attributes] =>
    return ⟨⟨← required natural? start, ← required natural? stop⟩,
      ← defaulted [] Json.text? context,
      ← defaulted [] (listOf (kept decodeAttribute)) attributes⟩
  | _ => none

def decodeFragment (j : Json) : Option (List Node) := do
  match ← record? (names ["nodes"]) false j with
  | [nodes] => defaulted [] (listOf (kept decodeNode)) nodes
  | _ => none

def decodeRoot (j : Json) : Option Root := do
  match ← record? (names ["fragment", "instance", "module"]) false j with
  | [fragment, inst, mod] =>
    return ⟨← defaulted [] decodeFragment fragment, ← nullable decodeScript inst,
      ← nullable decodeScript mod⟩
  | _ => none

/-- Read a template tree. -/
def Root.ofJson? (t : Text) : Option Root := (Json.read? t).bind decodeRoot

end StoryExports.Template
