import StoryExports.Addon

/-!
# The declaration of the meta

The meta is declared at the top of a module, by a call of `defineMeta`.
-/
namespace StoryExports.Story

open Script (Node Item)

/-- The arguments of a call to a plain name. -/
def callTo? (callee : Text) : Node → Option (Span × List Node)
  | .call span (.name _ id) args => if id = callee then some (span, args) else none
  | _ => none

/-- The declarators of an item that declares variables, exported or not. -/
def declaratorsOf (i : Item) : List Node :=
  match i.body with
  | .statement (.other _ (.variables false) ds) => ds
  | .exportDeclaration (.other _ (.variables false) ds) => ds
  | _ => []

/-- A declarator whose value is a call to a name. -/
structure MetaDeclaration where
  item : Item
  pattern : Node
  callSpan : Span
  args : List Node

def declarator? (callee : Text) (i : Item) : Node → Option MetaDeclaration
  | .other _ .declarator [pattern, value] =>
    (callTo? callee value).map fun (span, args) => ⟨i, pattern, span, args⟩
  | _ => none

/-- The first such declarator of a module. -/
def findMeta? (callee : Text) (m : List Item) : Option MetaDeclaration :=
  m.findSome? fun i => (declaratorsOf i).findSome? (declarator? callee i)

/-- The name that a member of an object pattern gives to a key. A pattern in the place of the name
gives none. -/
def boundName? (key : Text) : Node → Option Text
  | .member _ .pair (some k) [.name _ id] => if k = key then some id else none
  | .member _ .shorthand (some k) _ => if k = key then some key else none
  | _ => none

/-- The name that an object pattern gives to a key. -/
def patternName? (key : Text) : Node → Option Text
  | .objectPattern _ members => members.findSome? (boundName? key)
  | _ => none

/-- The local name of the story component: as the meta is taken apart, or as it is imported. -/
def storyName (aliases : Aliases) (pattern : Node) : Text :=
  (patternName? Api.story.text pattern).getD (aliases.resolve .story)

end StoryExports.Story
