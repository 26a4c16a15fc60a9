import StoryExports.Outline.Patch
import StoryExports.Story.Compiled
import StoryExports.Story.Template

/-!
# A module while it is changed

Every change is recorded at an offset of the text as it was compiled, so the order of the steps
does not move any of them.
-/
namespace StoryExports.Transform

open Story (TemplateStory TemplateMeta CompiledStory CompiledMeta DefaultExport metaKey)

/-- The text being changed, and the changes to object literals that are not yet in it. -/
structure Draft where
  buffer : Edit.Buffer
  patches : Patches

def storyDescription : List Text :=
  ["parameters", "docs", "description", "story"].map String.toList

def storySource : List Text := ["parameters", "docs", "source", "code"].map String.toList

def componentDescription : List Text :=
  ["parameters", "docs", "description", "component"].map String.toList

def sourceKey : Text := "source".toList

/-- A failed edit fails the whole file. -/
def edited {α : Type} : Except Edit.Fault α → Except Error α
  | .ok a => .ok a
  | .error e => .error (.edit e)

namespace Draft

def ofCode (code : Text) : Draft := ⟨.ofText code, []⟩

/-- Set a text at a path below an object literal, unless something is there. -/
def setText (d : Draft) (file : Text) (object : Outline) (path : List Text) (text : Text) :
    Except Error Draft :=
  match d.patches.set object path (Json.quote text) with
  | .ok (patches, _) => .ok ⟨d.buffer, patches⟩
  | .error cause => .error (.unexpectedNode file cause)

/-- The comment above a story describes it. -/
def describeStory (file : Text) (d : Draft) (pair : TemplateStory × CompiledStory) :
    Except Error Draft :=
  match pair.1.comment with
  | some comment => d.setText file pair.2.properties storyDescription comment.text
  | none => .ok d

/-- The `source` property of a story moves into its parameters. -/
def moveSource (file : Text) (d : Draft) (pair : TemplateStory × CompiledStory) :
    Except Error Draft :=
  match pair.1.source with
  | some code =>
    let (patches, _) := d.patches.remove pair.2.properties sourceKey
    setText ⟨d.buffer, patches⟩ file pair.2.properties storySource code
  | none => .ok d

/-- What binds the meta in an object pattern. -/
def metaBinding : Story.Joining → Text
  | .empty => ' ' :: metaKey ++ [' ']
  | .afterLast => ", ".toList ++ metaKey
  | .beforeRest => metaKey ++ ", ".toList

/-- Bind the meta to a name, if it has none yet. The result holds the name. -/
def bindMeta (d : Draft) (declared : CompiledMeta) : Except Error (Draft × Text) :=
  match declared.metaName with
  | some name => .ok (d, name)
  | none => do
    let buffer ← edited (d.buffer.insert declared.insertAt (metaBinding declared.joining))
    return (⟨buffer, d.patches⟩, metaKey)

/-- The documentation comment above the meta describes the component. -/
def describeComponent (d : Draft) (file : Text) (template : TemplateMeta)
    (compiled : CompiledMeta) : Except Error Draft :=
  match template.description.filter fun n => !n.text.isEmpty with
  | some note => d.setText file compiled.argument componentDescription note.text
  | none => .ok d

/-- The component function stays, but it is no longer exported. -/
def hideComponent (d : Draft) (component : DefaultExport) : Except Error Draft := do
  let buffer ← edited (d.buffer.remove ⟨component.span.start, component.declarationStart⟩)
  return ⟨buffer, d.patches⟩

/-- Put text after the module. -/
def append (d : Draft) (text : Text) : Except Error Draft := do
  let buffer ← edited (d.buffer.append text)
  return ⟨buffer, d.patches⟩

/-- The module with all changes. -/
def finish (d : Draft) : Except Error Text := do
  let buffer ← edited (d.patches.flush d.buffer)
  edited buffer.finish

end Draft

end StoryExports.Transform
