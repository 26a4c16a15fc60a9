import StoryExports.Text.Basic

/-!
# Edits to a text

Edits to a text, all of them addressed by offsets into the text as it was before any edit.

A buffer records edits in the order of their issue and applies them together. An edit whose span
is empty is an insertion; any other edit replaces a range.
-/
namespace StoryExports

/-- Put `text` in place of what `span` covers. -/
structure Edit where
  span : Span
  text : Text
deriving DecidableEq, Repr

namespace Edit

def isInsertion (e : Edit) : Bool := e.span.start == e.span.stop

inductive Fault
  | outOfBounds (span : Span) (length : Nat)
  | notBoundary (span : Span)
  | overlap (span other : Span)
deriving DecidableEq, Repr

/-- A text and its recorded edits, the first issued first. -/
structure Buffer where
  text : Text
  edits : List Edit
deriving DecidableEq, Repr

namespace Buffer

def ofText (t : Text) : Buffer := ⟨t, []⟩

def length (b : Buffer) : Nat := b.text.bytes

def isEmpty (b : Buffer) : Bool := b.text.isEmpty

/-- Record an edit. Its span has to lie in the text, its ends between characters. -/
def replace (b : Buffer) (span : Span) (new : Text) : Except Fault Buffer :=
  if span.stop < span.start || b.length < span.stop then .error (.outOfBounds span b.length)
  else if !(b.text.isBoundary span.start && b.text.isBoundary span.stop) then
    .error (.notBoundary span)
  else .ok { b with edits := b.edits ++ [⟨span, new⟩] }

/-- Insert before the byte at `pos`. -/
def insert (b : Buffer) (pos : Nat) (new : Text) : Except Fault Buffer :=
  b.replace ⟨pos, pos⟩ new

/-- Remove a range. An empty range is removed without a record, wherever it is. -/
def remove (b : Buffer) (span : Span) : Except Fault Buffer :=
  if span.start = span.stop then .ok b else b.replace span []

/-- Insert at the end. -/
def append (b : Buffer) (new : Text) : Except Fault Buffer := b.insert b.length new

end Buffer

end Edit

end StoryExports
