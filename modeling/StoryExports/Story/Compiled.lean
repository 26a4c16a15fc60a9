import StoryExports.Story.Calls

/-!
# Stories of a compiled module

A compiled module holds the meta, the component function and the story calls in it.
-/
namespace StoryExports.Story

open Script (Item Node)

/-- How a new member joins an object pattern. -/
inductive Joining
  /-- The pattern is empty: before its right brace. -/
  | empty
  | afterLast
  | beforeRest
deriving DecidableEq, Repr

structure CompiledMeta where
  callSpan : Span
  patternSpan : Span
  argument : Outline
  /-- The name that the meta has already. -/
  metaName : Option Text
  insertAt : Nat
  joining : Joining
  storyName : Text
deriving Repr

/-- The exported component function. -/
structure DefaultExport where
  span : Span
  /-- Where the function itself starts. -/
  declarationStart : Nat
  functionName : Option Text
deriving DecidableEq, Repr

structure CompiledStories where
  aliases : Aliases
  declared : CompiledMeta
  component : DefaultExport
  stories : List CompiledStory
deriving Repr

/-- Whether a module imports anything, or nothing, from a source. -/
def importsFrom (source : Text) (m : List Item) : Bool :=
  m.any fun i => match i.body with
    | .importing s _ _ => s == source
    | _ => false

/-- How often an item exports a default. -/
def defaultExports (i : Item) : Nat :=
  match i.body with
  | .exportDefault _ | .exportDefaultValue _ => 1
  | .exportNames names => (names.filter (·.outside.text == "default".toList)).length
  | _ => 0

/-- How often a module exports a default. -/
def defaultCount (m : List Item) : Nat := m.foldl (fun n i => n + defaultExports i) 0

/-- The declaration that an item exports as the default. -/
def defaultDeclaration? (i : Item) : Option (Span × Node) :=
  match i.body with
  | .exportDefault declaration => some (i.span, declaration)
  | _ => none

/-- The only default export of a module, which has to be a declaration. -/
def findDefault (file : Text) (m : List Item) : Except Error (Span × Node) :=
  match defaultCount m with
  | 0 => .error (.missingDefaultExport file)
  | 1 =>
    match m.findSome? defaultDeclaration? with
    | some found => .ok found
    | none => .error (.unexpectedNode file .defaultNotFunction)
  | count => .error (.multipleDefaultExports file count)

/-- Where a new member of an object pattern goes. -/
def joiningPoint (span : Span) (members : List Node) : Nat × Joining :=
  match members.getLast? with
  | none => (span.stop - 1, .empty)
  | some (.member s .spread _ _) => (s.start, .beforeRest)
  | some last => (last.span.stop, .afterLast)

def metaKey : Text := "meta".toList

/-- The meta of a compiled module. -/
def readMeta (aliases : Aliases) (file : Text) (m : List Item) : Except Error CompiledMeta :=
  match findMeta? (aliases.resolve .defineMeta) m with
  | none => .error (.missingMetaDeclaration file)
  | some found =>
    match found.args.head?.bind Outline.ofNode? with
    | none => .error (.unexpectedNode file .metaArgument)
    | some argument =>
      match found.pattern with
      | .objectPattern span members =>
        let (insertAt, joining) := joiningPoint span members
        .ok ⟨found.callSpan, span, argument, patternName? metaKey found.pattern, insertAt, joining,
          storyName aliases found.pattern⟩
      | _ => .error (.unexpectedNode file .metaNotDestructured)

/-- The name, the start and the body of the component function. -/
def readComponent (file : Text) (span : Span) (declaration : Node) :
    Except Error (DefaultExport × List Node) :=
  match declaration with
  | .function s name _ (some body) => .ok (⟨span, s.start, name⟩, body)
  | .function _ _ _ none => .error (.unexpectedNode file .componentWithoutBody)
  | _ => .error (.unexpectedNode file .defaultNotComponent)

/-- The meta, the component and the stories of a compiled module. -/
def ofCompiled (options : Options) (m : List Item) (file : Text) :
    Except Error CompiledStories := do
  let aliases := Aliases.ofModule options m
  if importsFrom options.runtimeModule m then .error (.alreadyTransformed file)
  let (span, declaration) ← findDefault file m
  let declared ← readMeta aliases file m
  let (component, body) ← readComponent file span declaration
  match storyCallsIn declared.storyName body with
  | .ok stories => return ⟨aliases, declared, component, stories⟩
  | .error cause => .error (.unexpectedNode file cause)

end StoryExports.Story
