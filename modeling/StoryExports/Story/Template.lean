import StoryExports.Name.Derived
import StoryExports.Story.Declaration
import StoryExports.Story.Note
import StoryExports.Template.Offsets
import StoryExports.Template.Script
import StoryExports.Text.Dedent

/-!
# Stories of a template

The template has the comments and attributes that do not reach the compiled module.
-/
namespace StoryExports.Story

structure TemplateStory where
  name : Option Text
  exportName : Text
  comment : Option Note
  /-- The code to show for the story. -/
  source : Option Text
  span : Span
deriving DecidableEq, Repr

structure TemplateMeta where
  /-- The name of story elements. -/
  storyName : Text
  description : Option Note
  span : Span
deriving DecidableEq, Repr

structure TemplateStories where
  aliases : Aliases
  declared : TemplateMeta
  stories : List TemplateStory
deriving DecidableEq, Repr

/-- The text of an attribute, which has to be static. -/
def staticAttribute (c : Template.Component) (name : Text) : Except Unexpected (Option Text) :=
  match c.attribute? name with
  | none => .ok none
  | some a =>
    match a.value.static? with
    | some text => .ok (some text)
    | none => .error (.dynamicAttribute name c.name a.span.start)

/-- The markup of the children, without their common indentation. -/
def childrenMarkup (c : Template.Component) (source : Text) : Except Unexpected Text :=
  match c.childrenSpan?, c.children with
  | some span, _ =>
    let inside := c.span.start ≤ span.start && span.stop ≤ c.span.stop
    match (if inside then source.slice? span else none) with
    | some markup => .ok markup.dedent
    | none => .error (.childrenOutside c.name span)
  | none, some _ => .ok []
  | none, none =>
    if c.isSelfClosing source then .ok []
    else .error (.childrenNotLocated c.name c.span.start)

/-- The code that the `source` attribute asks to show. -/
def sourceCode (c : Template.Component) (source exportName : Text) :
    Except Unexpected (Option Text) :=
  match c.attribute? "source".toList with
  | none => .ok none
  | some ⟨_, _, .flag true⟩ => (childrenMarkup c source).map some
  | some a =>
    match a.value.static? with
    | some text => .ok (some text)
    | none => .error (.dynamicSource exportName)

/-- The name under which a story is exported. -/
def exportNameOf (c : Template.Component) (name : Option Text) : Except Unexpected Text := do
  match ← staticAttribute c "exportName".toList with
  | some exportName => return exportName
  | none =>
    match name.bind Name.storyExport? with
    | some exportName => return exportName
    | none => .error (.unnamedStory c.name c.span.start)

def readStory (c : Template.Component) (source : Text) (comment : Option Note) :
    Except Unexpected TemplateStory := do
  let name ← staticAttribute c "name".toList
  let exportName ← exportNameOf c name
  if !Name.isBindable exportName then .error (.unbindableExport exportName)
  let code ← sourceCode c source exportName
  return ⟨name, exportName, comment.filter fun n => !n.text.isEmpty, code, c.span⟩

/-- The comment that still waits for a story after a node: blank text keeps it, a new comment takes
its place, and anything else drops it. -/
def pendingAfter (pending : Option Note) : Template.Node → Option Note
  | .comment span data => some ⟨data.dedent, span⟩
  | .text _ data => if data.isAllBlank then pending else none
  | _ => none

/-- Read the stories among the nodes of a template. `taken` holds the names exported so far. -/
def readStories (storyName source : Text) (pending : Option Note) (taken : List Text) :
    List Template.Node → Except Unexpected (List TemplateStory)
  | [] => .ok []
  | node :: nodes =>
    match node with
    | .component c =>
      if c.name = storyName then do
        let story ← readStory c source pending
        if taken.contains story.exportName then .error (.duplicateExport story.exportName)
        let rest ← readStories storyName source none (story.exportName :: taken) nodes
        return story :: rest
      else readStories storyName source none taken nodes
    | node => readStories storyName source (pendingAfter pending node) taken nodes

/-- The meta and the stories of a template. -/
def ofTemplate (options : Options) (root : Template.Root) (source file : Text) :
    Except Error TemplateStories := do
  let missing : Except Error TemplateStories := .error (.missingInstanceScript file)
  match root.logicScript with
  | none => missing
  | some script =>
    match script.contentSpan? source with
    | none => missing
    | some content =>
      let code := (source.slice? content).getD []
      match Script.parseModule script.language code with
      | none => .error (.parse file)
      | some [] => missing
      | some m =>
        let aliases := Aliases.ofModule options m
        match findMeta? (aliases.resolve .defineMeta) m with
        | none => .error (.missingMetaDeclaration file)
        | some found =>
          let declared : TemplateMeta :=
            ⟨storyName aliases found.pattern, (Note.ofItem? found.item).map (·.shift content.start),
              ⟨found.callSpan.start + content.start, found.callSpan.stop + content.start⟩⟩
          match readStories declared.storyName source none [] root.nodes with
          | .ok stories => return ⟨aliases, declared, stories⟩
          | .error cause => .error (.unexpectedNode file cause)

end StoryExports.Story
