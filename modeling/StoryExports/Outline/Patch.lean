import StoryExports.Edit.Apply
import StoryExports.Error
import StoryExports.Json.Quoted
import StoryExports.Name.Identifier
import StoryExports.Outline.Basic

/-!
# Changes to object literals

Properties are added to object literals or taken out of them. All changes to one literal are
collected first, so that no key is written twice.
-/
namespace StoryExports

/-- The value of a property to add: written code, or an object. -/
inductive NewValue
  | literal (code : Text)
  | object (entries : List (Text × NewValue))
deriving Repr

namespace NewValue

/-- The first entry of a key. -/
def find? (key : Text) (entries : List (Text × NewValue)) : Option NewValue :=
  (entries.find? fun e => e.1 == key).map (·.2)

/-- Change the value of the first entry of a key. -/
def update (key : Text) (value : NewValue) : List (Text × NewValue) → List (Text × NewValue)
  | [] => []
  | e :: es => if e.1 = key then (key, value) :: es else e :: update key value es

/-- Add `path = code`, and tell whether that changed anything: the first value for a key stays. -/
def insert (entries : List (Text × NewValue)) :
    List Text → Text → List (Text × NewValue) × Bool
  | [], _ => (entries, false)
  | [key], code =>
    match find? key entries with
    | some _ => (entries, false)
    | none => (entries ++ [(key, .literal code)], true)
  | key :: rest, code =>
    match find? key entries with
    | some (.object children) =>
      let (children, changed) := insert children rest code
      (update key (.object children) entries, changed)
    | some (.literal _) => (entries, false)
    | none => (entries ++ [(key, .object (insert [] rest code).1)], true)

/-- A key as it is written in code. -/
def writeKey (key : Text) : Text := if Name.isIdentifier key then key else Json.quote key

mutual

/-- Entries as they are written between braces. -/
def render : List (Text × NewValue) → Text
  | [] => []
  | [e] => renderEntry e
  | e :: es => renderEntry e ++ ", ".toList ++ render es

def renderEntry : Text × NewValue → Text
  | (key, .literal code) => writeKey key ++ ": ".toList ++ code
  | (key, .object entries) =>
    writeKey key ++ ": \x7b ".toList ++ render entries ++ " \x7d".toList

end

end NewValue

/-- The changes to one object literal: positions of properties to take out, and what to add. -/
structure Patch where
  object : Outline
  removed : List Nat
  added : List (Text × NewValue)
deriving Repr

namespace Patch

/-- The span that goes with a property: up to the next property; for the last one, from the end of
the one before it. -/
def removalSpan (properties : List (Property PropertyValue)) (i : Nat) : Option Span :=
  match properties[i]? with
  | none => none
  | some p =>
    match properties[i + 1]? with
    | some next => some ⟨p.span.start, next.span.start⟩
    | none =>
      match i with
      | 0 => some p.span
      | j + 1 => (properties[j]?).map fun before => ⟨before.span.stop, p.span.stop⟩

/-- Join a span with those after it that overlap it; all are sorted by their start. -/
def mergeFrom (current : Span) : List Span → List Span
  | [] => [current]
  | next :: rest =>
    if next.start < current.stop then mergeFrom ⟨current.start, max current.stop next.stop⟩ rest
    else current :: mergeFrom next rest

/-- Join spans, sorted by their start, that overlap. -/
def mergeSpans : List Span → List Span
  | [] => []
  | s :: rest => mergeFrom s rest

/-- The spans to take out, from left to right. -/
def removals (p : Patch) : List Span :=
  mergeSpans <| Edit.sortBy (fun a b => a.start ≤ b.start) <|
    p.removed.filterMap (removalSpan p.object.properties)

/-- The properties that stay. -/
def remaining (p : Patch) : List (Property PropertyValue) :=
  (p.object.properties.zipIdx.filter fun (_, i) => !p.removed.contains i).map (·.1)

/-- Where the added properties go, and their text. -/
def addition (p : Patch) : Option (Nat × Text) :=
  if p.added.isEmpty then none
  else
    let text := NewValue.render p.added
    match p.remaining.getLast?, p.object.properties.head? with
    | some last, _ => some (last.span.stop, ", ".toList ++ text)
    | none, some first => some (first.span.start, text)
    | none, none => some (p.object.span.stop - 1, ' ' :: text ++ [' '])

/-- Write a patch into a buffer. -/
def write (b : Edit.Buffer) (p : Patch) : Except Edit.Fault Edit.Buffer := do
  let b ← p.removals.foldlM (fun b s => b.remove s) b
  match p.addition with
  | some (pos, text) => b.insert pos text
  | none => return b

end Patch

/-- The patches of a module, in the order of the literals they belong to. -/
abbrev Patches := List Patch

namespace Patches

/-- Change the patch of an object literal. Literals are told apart by where they start. -/
def modify (object : Outline) (f : Patch → Patch) : Patches → Patches
  | [] => [f ⟨object, [], []⟩]
  | p :: ps =>
    if object.span.start < p.object.span.start then f ⟨object, [], []⟩ :: p :: ps
    else if object.span.start = p.object.span.start then f p :: ps
    else p :: modify object f ps

/-- The entries that are added to an object literal. -/
def addedTo (object : Outline) (ps : Patches) : List (Text × NewValue) :=
  match ps.find? fun p => p.object.span.start == object.span.start with
  | some p => p.added
  | none => []

/-- Add a path of keys below an object literal. `walked` holds the keys before it, the last one
first. Objects that are there are entered, others are added. -/
def setBelow (ps : Patches) (object : Outline) (walked : List Text) :
    List Text → Text → Except Unexpected (Patches × Bool)
  | [], _ => .ok (ps, false)
  | key :: rest, code =>
    match object.get? key with
    | none =>
      let (entries, changed) := NewValue.insert (ps.addedTo object) (key :: rest) code
      .ok (ps.modify object (fun p => { p with added := entries }), changed)
    | some property =>
      match rest with
      | [] => .ok (ps, false)
      | _ :: _ =>
        match property.value with
        | .object span properties => setBelow ps ⟨span, properties⟩ (key :: walked) rest code
        | _ => .error (.notAnObject (key :: walked).reverse property.span.start)

/-- Set the value at a path below an object literal, unless the author has set it. The result tells
whether a value was added. -/
def set (ps : Patches) (object : Outline) (path : List Text) (code : Text) :
    Except Unexpected (Patches × Bool) :=
  ps.setBelow object [] path code

/-- Take the property of a key out of an object literal. The result tells whether there is one. -/
def remove (ps : Patches) (object : Outline) (key : Text) : Patches × Bool :=
  match object.position? key with
  | none => (ps, false)
  | some i =>
    (ps.modify object fun p =>
      if p.removed.contains i then p else { p with removed := p.removed ++ [i] }, true)

/-- Write all patches into a buffer. -/
def flush (ps : Patches) (b : Edit.Buffer) : Except Edit.Fault Edit.Buffer :=
  ps.foldlM Patch.write b

end Patches

end StoryExports
