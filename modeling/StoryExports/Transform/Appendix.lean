import StoryExports.Error
import StoryExports.Json.Quoted

/-!
# The end of the module

It exports the meta as the default, every story by its name, and the order of the stories.
-/
namespace StoryExports.Transform

structure Appendix where
  /-- The module that makes the stories. -/
  runtimeModule : Text
  /-- The name of the component function. -/
  component : Text
  /-- The name that the meta is bound to. -/
  metaName : Text
  /-- The names of the stories, in the order of the template. -/
  stories : List Text
deriving DecidableEq, Repr

namespace Appendix

def runtimeFunction : Text := "createRuntimeStories".toList

def storiesName : Text := "__stories".toList

def orderName : Text := "__namedExportsOrder".toList

/-- The names that no story may take. -/
def taken (a : Appendix) : List Text :=
  [runtimeFunction, storiesName, orderName, a.metaName, a.component]

/-- The first story whose name is taken. -/
def collision? (a : Appendix) : Option Text := a.stories.find? a.taken.contains

def importLine (a : Appendix) : Text :=
  "import \x7b ".toList ++ runtimeFunction ++ " \x7d from ".toList ++
    Json.quote a.runtimeModule ++ [';']

def runtimeLine (a : Appendix) : Text :=
  "const ".toList ++ storiesName ++ " = ".toList ++ runtimeFunction ++ '(' :: a.component ++
    ", ".toList ++ a.metaName ++ ");".toList

def defaultLine (a : Appendix) : Text := "export default ".toList ++ a.metaName ++ [';']

def storyLine (name : Text) : Text :=
  "export const ".toList ++ name ++ " = ".toList ++ storiesName ++ '[' :: Json.quote name ++
    "];".toList

def orderLine (a : Appendix) : Text :=
  "export const ".toList ++ orderName ++ " = [".toList ++
    Text.join ", ".toList (a.stories.map Json.quote) ++ "];".toList

/-- The lines of the appendix. The first one is blank. -/
def lines (a : Appendix) : List Text :=
  [[], a.importLine, a.runtimeLine, a.defaultLine] ++ a.stories.map storyLine ++ [a.orderLine]

/-- What follows `code`: the lines, on lines of their own. -/
def textAfter (a : Appendix) (code : Text) : Text :=
  let text := Text.join ['\n'] a.lines ++ ['\n']
  if code.endsWith ['\n'] then text else '\n' :: text

end Appendix

end StoryExports.Transform
