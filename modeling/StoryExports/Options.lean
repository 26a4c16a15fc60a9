import StoryExports.Error
import StoryExports.Json.Decode
import StoryExports.Json.Reader
import StoryExports.Text.Blank

/-! # Options of the plugin -/
namespace StoryExports

structure Options where
  /-- The pattern that a module id has to match. -/
  idPattern : Text
  /-- The package whose exports make stories. -/
  packageName : Text
  /-- A piece of an import path that stands for the package as well, for its own stories. -/
  selfReference : Option Text
  /-- The module that makes stories at run time. -/
  runtimeModule : Text
deriving DecidableEq, Repr

namespace Options

def standard : Options where
  idPattern := "\\.stories\\.svelte$".toList
  packageName := "@storybook/addon-svelte-csf".toList
  selfReference := some "src/index".toList
  runtimeModule := "@storybook/addon-svelte-csf/internal/create-runtime-stories".toList

/-- Options in JSON; a missing one has its standard value. -/
def decode (j : Json) : Option Options := do
  let names := ["include", "packageName", "selfReference", "runtimeModule"].map String.toList
  match ← Json.record? names true j with
  | [pattern, package, self, runtime] =>
    return ⟨← Json.defaulted standard.idPattern Json.text? pattern,
      ← Json.defaulted standard.packageName Json.text? package,
      ← (match self with
        | none => some standard.selfReference
        | some _ => Json.nullable Json.text? self),
      ← Json.defaulted standard.runtimeModule Json.text? runtime⟩
  | _ => none

/-- Read options. A blank text stands for the standard options. -/
def read (t : Text) : Except Error Options :=
  if t.isAllBlank then .ok standard
  else match (Json.read? t).bind decode with
    | some options => .ok options
    | none => .error .invalidOptions

/-- Whether an import from `source` takes names from the package. -/
def isPackage (o : Options) (source : Text) : Bool :=
  source == o.packageName ||
    match o.selfReference with
    | some piece => !piece.isEmpty && source.contains piece
    | none => false

end Options

end StoryExports
