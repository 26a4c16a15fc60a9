import StoryExports.Name.Derived
import StoryExports.Pattern.Parser
import StoryExports.Transform

/-!
# The plugin

Which modules the plugin handles, and what it makes of them.
-/
namespace StoryExports

structure Plugin where
  options : Options
  /-- What the id of a module has to match. -/
  pattern : Pattern

/-- A module with its stories exported. -/
structure Output where
  code : Text
  /-- The names of the stories, in the order of the template. -/
  storyExports : List Text
deriving DecidableEq, Repr

/-- What is done to the source of a template before it is read. -/
inductive Preprocessor
  | replaceAll (old new : Text)
  | fail (message : Text)
deriving DecidableEq, Repr

/-- A stories file: the module compiled from its template, and the tree of the template. -/
structure Input where
  id : Text
  compiled : Text
  source : Text
  preprocessor : Option Preprocessor
  /-- The tree of the template in JSON, and what its offsets count. -/
  tree : Text
  unit : Template.OffsetUnit
deriving DecidableEq, Repr

namespace Plugin

def ofOptions (options : Options) : Except Error Plugin :=
  match Pattern.read? options.idPattern with
  | some pattern => .ok ⟨options, pattern⟩
  | none => .error .invalidInclude

/-- The plugin with options in JSON. -/
def read (json : Text) : Except Error Plugin := Options.read json >>= ofOptions

/-- Whether the plugin handles a module. -/
def handles (p : Plugin) (id : Text) : Bool := p.pattern.occursIn id

def preprocess (file source : Text) : Option Preprocessor → Except Error Text
  | none => .ok source
  | some (.replaceAll old new) => .ok (source.replaceAll old new)
  | some (.fail message) => .error (.preprocess file message)

/-- The name of the component function, or the name that follows from the file. -/
def componentName (file : Text) (component : Story.DefaultExport) : Text :=
  component.functionName.getD file

/-- Transform a module. Modules that the plugin does not handle have no output. -/
def transform (p : Plugin) (i : Input) : Except Error (Option Output) := do
  if !p.handles i.id then return none
  let name ← match Name.component? i.id with
    | some name => .ok name
    | none => .error (.unresolvableComponentName i.id)
  let m ← match Script.parseModule .javaScript i.compiled with
    | some m => .ok m
    | none => .error (.parse i.id)
  let source ← preprocess i.id i.source i.preprocessor
  let root ← Template.parse i.unit i.tree source i.id
  let template ← Story.ofTemplate p.options root source i.id
  let compiled ← Story.ofCompiled p.options m i.id
  let code ← Transform.exportStories i.id i.compiled p.options.runtimeModule
    (componentName name compiled.component) template compiled
  return some ⟨code, template.stories.map (·.exportName)⟩

end Plugin

end StoryExports
