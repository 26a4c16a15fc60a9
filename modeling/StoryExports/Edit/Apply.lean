import StoryExports.Edit.Buffer

/-!
# Applying edits

Ranges may not overlap, and no insertion may fall strictly inside a range. Insertions at one
offset keep the order of their issue and come before a range that starts there.
-/
namespace StoryExports.Edit

/-- Insertion sort: each element goes before the first one that it may stand before. -/
def sortBy {α : Type} (le : α → α → Bool) (xs : List α) : List α :=
  xs.foldr (fun x sorted => sorted.takeWhile (!le x ·) ++ x :: sorted.dropWhile (!le x ·)) []

/-- By start, and insertions before ranges. -/
def le (a b : Edit) : Bool :=
  a.span.start < b.span.start ||
    (a.span.start == b.span.start && (a.isInsertion || !b.isInsertion))

namespace Buffer

/-- The edits from left to right; edits with the same place are in the order of their issue. -/
def sorted (b : Buffer) : List Edit := sortBy Edit.le b.edits

/-- The first edit, from the left, that runs into the range before it. -/
def firstOverlap (range : Option Span) : List Edit → Option (Span × Span)
  | [] => none
  | e :: es =>
    let clash := match range with
      | none => none
      | some r =>
        if e.isInsertion then
          if r.start < e.span.start && e.span.start < r.stop then some (e.span, r) else none
        else if e.span.start < r.stop then some (e.span, r) else none
    match clash with
    | some found => some found
    | none => firstOverlap (if e.isInsertion then range else some e.span) es

/-- Apply all edits, from the right to the left, so that none moves the place of another. -/
def finish (b : Buffer) : Except Fault Text :=
  match firstOverlap none b.sorted with
  | some (span, other) => .error (.overlap span other)
  | none => .ok (b.sorted.foldr (fun e t => t.replace e.span e.text) b.text)

end Buffer

end StoryExports.Edit
