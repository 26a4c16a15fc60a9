import StoryExports.Error
import StoryExports.Outline.Basic
import StoryExports.Story.Declaration

/-!
# Story calls

The calls in a function body that render stories.
-/
namespace StoryExports.Story

open Script (Node)

/-- A story of the compiled module: the name among its properties, if that is a string, and the
properties themselves. -/
structure CompiledStory where
  name : Option Text
  properties : Outline
  span : Span
deriving Repr

/-- Read a call of the story component: its second argument has to be an object literal. -/
def readCall (callee : Text) (span : Span) (args : List Node) :
    Except Unexpected CompiledStory :=
  match args[1]?.bind Outline.ofNode? with
  | some properties => .ok ⟨properties.string? "name".toList, properties, span⟩
  | none => .error (.storyProps callee span.start)

mutual

/-- The story calls of a node, in the order of visit. A loop visits its test before its body if the
body is written first, and a class visits its members before the class it extends. Nothing inside a
story call is visited. -/
def storyCalls (callee : Text) : Node → Except Unexpected (List CompiledStory)
  | .name _ _ | .string _ _ => .ok []
  | .object _ members => storyCallsIn callee members
  | .objectPattern _ members => storyCallsIn callee members
  | .member _ _ _ parts => storyCallsIn callee parts
  | .call span target args =>
    match target with
    | .name _ id =>
      if id = callee then (readCall callee span args).map fun s => [s]
      else storyCallsIn callee args
    | target => do
      let before ← storyCalls callee target
      return before ++ (← storyCallsIn callee args)
  | .function _ _ params body => do
    let before ← storyCallsIn callee params
    match body with
    | some statements => return before ++ (← storyCallsIn callee statements)
    | none => return before
  | .classDef _ _ parent members => do
    let before ← storyCallsIn callee members
    match parent with
    | some p => return before ++ (← storyCalls callee p)
    | none => return before
  | .other _ .doWhile [body, test] => do
    let before ← storyCalls callee test
    return before ++ (← storyCalls callee body)
  | .other _ _ parts => storyCallsIn callee parts

def storyCallsIn (callee : Text) : List Node → Except Unexpected (List CompiledStory)
  | [] => .ok []
  | node :: nodes => do
    let before ← storyCalls callee node
    return before ++ (← storyCallsIn callee nodes)

end

end StoryExports.Story
