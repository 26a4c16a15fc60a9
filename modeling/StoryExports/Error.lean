import StoryExports.Edit.Buffer

/-!
# Errors

What can go wrong with a stories file, and how it is worded. Every cause is fatal to the file:
nothing is retried and no half-changed module is produced.
-/
namespace StoryExports

/-- Why the stories of the template and of the compiled module do not pair up. -/
inductive Mismatch
  | count (template compiled : Nat)
  /-- The story at a position, counted from one, has two names. -/
  | name (position : Nat) (template compiled : Text)
deriving DecidableEq, Repr

/-- A part of the template or of the compiled module that is not as it has to be. -/
inductive Unexpected
  | templateOffsets
  | duplicateExport (name : Text)
  | dynamicAttribute (name element : Text) (offset : Nat)
  | unnamedStory (element : Text) (offset : Nat)
  | unbindableExport (name : Text)
  | dynamicSource (story : Text)
  | childrenOutside (element : Text) (span : Span)
  | childrenNotLocated (element : Text) (offset : Nat)
  | defaultNotFunction
  | defaultNotComponent
  | componentWithoutBody
  | metaArgument
  | metaNotDestructured
  | storyProps (callee : Text) (offset : Nat)
  | notAnObject (path : List Text) (offset : Nat)
  | exportCollision (name : Text)
deriving DecidableEq, Repr

inductive Error
  | unresolvableComponentName (file : Text)
  | missingInstanceScript (file : Text)
  | missingDefaultExport (file : Text)
  | multipleDefaultExports (file : Text) (count : Nat)
  | storyCorrelationMismatch (file : Text) (reason : Mismatch)
  | missingMetaDeclaration (file : Text)
  | unexpectedNode (file : Text) (cause : Unexpected)
  | alreadyTransformed (file : Text)
  | preprocess (file : Text) (message : Text)
  | parse (file : Text)
  | invalidOptions
  | invalidInclude
  | json
  | edit (cause : Edit.Fault)
deriving DecidableEq, Repr

private def str (t : Text) : String := String.ofList t

def Span.message (s : Span) : String := s!"{s.start}..{s.stop}"

def Edit.Fault.message : Edit.Fault → String
  | .outOfBounds span length =>
    "edit " ++ span.message ++ " is out of bounds for text of length " ++ toString length
  | .notBoundary span => "edit " ++ span.message ++ " does not fall on a character boundary"
  | .overlap span other => "edit " ++ span.message ++ " overlaps edit " ++ other.message

def Mismatch.message : Mismatch → String
  | .count template compiled =>
    s!"the template declares {template} stories but the compiled output has {compiled}"
  | .name position template compiled =>
    s!"story #{position} is `" ++ str template ++ "` in the template but `" ++ str compiled ++
      "` in the compiled output"

def Unexpected.message : Unexpected → String
  | .templateOffsets => "template offsets don't match the source text"
  | .duplicateExport name => "more than one story is exported as `" ++ str name ++ "`"
  | .dynamicAttribute name element offset =>
    "`" ++ str name ++ "` attribute of <" ++ str element ++
      s!"> at offset {offset} must be static text"
  | .unnamedStory element offset =>
    "<" ++ str element ++ s!"> at offset {offset} needs a `name` or `exportName` attribute"
  | .unbindableExport name =>
    "story export name `" ++ str name ++ "` can't be declared as a module binding"
  | .dynamicSource story =>
    "`source` attribute of story `" ++ str story ++ "` must be static text"
  | .childrenOutside element span =>
    "children of <" ++ str element ++ "> at " ++ span.message ++
      " are outside the element or the source text"
  | .childrenNotLocated element offset =>
    "children of <" ++ str element ++ s!"> at offset {offset} could not be located"
  | .defaultNotFunction => "the default export is expected to be a function declaration"
  | .defaultNotComponent => "the default export is expected to be the compiled component function"
  | .componentWithoutBody => "the compiled component function has no body"
  | .metaArgument => "defineMeta must be called with an object literal"
  | .metaNotDestructured =>
    "the result of defineMeta must be destructured, e.g. `const \x7b Story \x7d = defineMeta(...)`"
  | .storyProps callee offset =>
    "`" ++ str callee ++
      s!"` call at offset {offset} doesn't pass its props as an object literal"
  | .notAnObject path offset =>
    "`" ++ str (Text.join ['.'] path) ++
      s!"` at offset {offset} is expected to be an object literal"
  | .exportCollision name =>
    "story export `" ++ str name ++ "` collides with a binding of the generated module"

def Error.message : Error → String
  | .unresolvableComponentName file =>
    "failed to extract a component name from filename: " ++ str file
  | .missingInstanceScript file =>
    "stories file `" ++ str file ++ "` doesn't have any <script> tag with logic; " ++
      "add a <script module> block that calls defineMeta"
  | .missingDefaultExport file => "compiled output of `" ++ str file ++ "` has no default export"
  | .multipleDefaultExports file count =>
    "compiled output of `" ++ str file ++
      s!"` has {count} default exports, expected exactly one"
  | .storyCorrelationMismatch file reason =>
    "stories in `" ++ str file ++ "` could not be correlated: " ++ reason.message
  | .missingMetaDeclaration file =>
    "`" ++ str file ++ "` doesn't declare its meta with a defineMeta(\x7b ... \x7d) call"
  | .unexpectedNode file cause => "unexpected node in `" ++ str file ++ "`: " ++ cause.message
  | .alreadyTransformed file => "`" ++ str file ++ "` has already been transformed"
  | .preprocess file message => "preprocessing `" ++ str file ++ "` failed: " ++ str message
  | .parse file => "failed to parse `" ++ str file ++ "`"
  | .invalidOptions => "invalid plugin option"
  | .invalidInclude => "invalid plugin option: include"
  | .json => "JSON error"
  | .edit cause => cause.message

end StoryExports
