import StoryExports.Story.Correlation
import StoryExports.Transform.Appendix
import StoryExports.Transform.Draft

/-!
# Exporting the stories of a module

What the template says about the stories goes into their parameters, and the meta takes the place
of the component as the default export.
-/
namespace StoryExports.Transform

open Story

/-- The stories of both sides, paired from the last one to the first. -/
def pairs (file : Text) (template : List TemplateStory) (compiled : List CompiledStory) :
    Except Error (List (TemplateStory × CompiledStory)) :=
  match correlate (·.name) (·.name) template compiled with
  | .ok found => .ok found
  | .error reason => .error (.storyCorrelationMismatch file reason)

/-- Append the exports, unless a story has a name that the module needs itself. -/
def appendExports (file : Text) (a : Appendix) (d : Draft) : Except Error Draft :=
  match a.collision? with
  | some name => .error (.unexpectedNode file (.exportCollision name))
  | none => d.append (a.textAfter d.buffer.text)

/-- The module `code` with its stories exported. `component` names the component function. -/
def exportStories (file code runtimeModule component : Text) (template : TemplateStories)
    (compiled : CompiledStories) : Except Error Text := do
  let stories ← pairs file template.stories compiled.stories
  let d ← stories.foldlM (Draft.describeStory file) (Draft.ofCode code)
  let d ← stories.foldlM (Draft.moveSource file) d
  let (d, metaName) ← d.bindMeta compiled.declared
  let d ← d.describeComponent file template.declared compiled.declared
  let d ← d.hideComponent compiled.component
  let d ← appendExports file
    ⟨runtimeModule, component, metaName, template.stories.map (·.exportName)⟩ d
  d.finish

end StoryExports.Transform
