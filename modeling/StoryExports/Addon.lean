import StoryExports.Options
import StoryExports.Script.Module

/-!
# Local names of the package exports

A module may import the functions of the package under other names.
-/
namespace StoryExports

/-- The exports of the package that are looked for. -/
inductive Api
  | defineMeta
  | setTemplate
  | story
deriving DecidableEq, Repr

namespace Api

def all : List Api := [.defineMeta, .setTemplate, .story]

def text : Api → Text
  | .defineMeta => "defineMeta".toList
  | .setTemplate => "setTemplate".toList
  | .story => "Story".toList

end Api

/-- The local name of each export, where it is imported. -/
structure Aliases where
  defineMeta : Option Text
  setTemplate : Option Text
  story : Option Text
deriving DecidableEq, Repr

namespace Aliases

def none : Aliases := ⟨.none, .none, .none⟩

def get (a : Aliases) : Api → Option Text
  | .defineMeta => a.defineMeta
  | .setTemplate => a.setTemplate
  | .story => a.story

/-- The local name, or the name itself. -/
def resolve (a : Aliases) (api : Api) : Text := (a.get api).getD api.text

def count (a : Aliases) : Nat := (Api.all.filter fun api => (a.get api).isSome).length

def set (a : Aliases) (api : Api) (binding : Text) : Aliases :=
  match api with
  | .defineMeta => { a with defineMeta := some binding }
  | .setTemplate => { a with setTemplate := some binding }
  | .story => { a with story := some binding }

/-- Note an imported name. Only a name in braces stands for an export of the package. A later
one for the same export wins. -/
def note (a : Aliases) (n : Script.ImportedName) : Aliases :=
  if n.typeOnly then a
  else match Api.all.find? fun api => n.exported? == some api.text with
    | some api => a.set api n.binding
    | .none => a

def noteItem (options : Options) (a : Aliases) (i : Script.Item) : Aliases :=
  match i.body with
  | .importing source typeOnly names =>
    if typeOnly || !options.isPackage source then a else names.foldl note a
  | _ => a

/-- The aliases that the imports of a module make. -/
def ofModule (options : Options) (m : List Script.Item) : Aliases :=
  m.foldl (noteItem options) none

end Aliases

end StoryExports
