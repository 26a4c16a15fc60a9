import StoryExports.Error
import StoryExports.Template.Decode
import StoryExports.Text.Units

/-!
# Offsets of template trees

A tree whose offsets count UTF-16 units is moved to byte offsets.
-/
namespace StoryExports.Template

/-- Convert both ends of a span. -/
def convertSpan (f : Nat → Option Nat) (s : Span) : Option Span := do
  return ⟨← f s.start, ← f s.stop⟩

def ValuePart.convert (f : Nat → Option Nat) : ValuePart → Option ValuePart
  | .text s data => return .text (← convertSpan f s) data
  | .expression s tree => return .expression (← convertSpan f s) tree

def AttributeValue.convert (f : Nat → Option Nat) : AttributeValue → Option AttributeValue
  | .flag b => some (.flag b)
  | .sequence parts => return .sequence (← parts.mapM (·.convert f))
  | .single part => return .single (← part.convert f)

def AttributeNode.convert (f : Nat → Option Nat) : AttributeNode → Option AttributeNode
  | .plain a => return .plain ⟨← convertSpan f a.span, a.name, ← a.value.convert f⟩
  | .other => some .other

def Component.convert (f : Nat → Option Nat) (c : Component) : Option Component := do
  let span ← convertSpan f c.span
  let attributes ← c.attributes.mapM (·.convert f)
  let children ← match c.children with
    | some spans => (spans.mapM (convertSpan f)).map some
    | none => some none
  return ⟨span, c.name, attributes, children⟩

def Node.convert (f : Nat → Option Nat) : Node → Option Node
  | .comment s data => return .comment (← convertSpan f s) data
  | .text s data => return .text (← convertSpan f s) data
  | .component c => return .component (← c.convert f)
  | .other => some .other

def Script.convert (f : Nat → Option Nat) (s : Script) : Option Script := do
  return ⟨← convertSpan f s.span, s.context, ← s.attributes.mapM (·.convert f)⟩

def convertScript (f : Nat → Option Nat) : Option Script → Option (Option Script)
  | some s => (s.convert f).map some
  | none => some none

/-- Convert all offsets of a tree. One that cannot be converted fails the whole tree. -/
def Root.convert (f : Nat → Option Nat) (r : Root) : Option Root := do
  return ⟨← r.nodes.mapM (·.convert f), ← convertScript f r.instanceScript,
    ← convertScript f r.moduleScript⟩

/-- The tree with all offsets converted, or the failure of a file whose tree has others. -/
def Root.converted (f : Nat → Option Nat) (file : Text) (r : Root) : Except Error Root :=
  match r.convert f with
  | some root => .ok root
  | none => .error (.unexpectedNode file .templateOffsets)

/-- A tree whose offsets count UTF-16 units of `source`, with byte offsets instead. In an ASCII
text the two agree, and the tree stays as it is. -/
def Root.toBytes (source file : Text) (r : Root) : Except Error Root :=
  if source.isAscii then .ok r else r.converted (fun u => source.byteOffset? u) file

/-- How the offsets of a tree count. -/
inductive OffsetUnit
  | utf16
  | byte
deriving DecidableEq, Repr

/-- Read the tree of a template. -/
def parse (unit : OffsetUnit) (tree source file : Text) : Except Error Root :=
  match unit, Root.ofJson? tree with
  | .byte, some root => .ok root
  | .byte, none => .error .json
  | .utf16, none => .error (.parse file)
  | .utf16, some root => root.toBytes source file

end StoryExports.Template
