import StoryExports.Script.Module
import StoryExports.Template.Tree

/-!
# Script elements

The code of a script element, and its language.
-/
namespace StoryExports.Template

/-- The bytes before the first occurrence of a text. -/
def firstOccurrence? (t part : Text) : Option Nat :=
  if t.startsWith part then some 0
  else match t with
    | [] => none
    | c :: cs => (firstOccurrence? cs part).map (c.utf8Size + ·)

/-- The bytes before the last occurrence of a text. -/
def lastOccurrence? (t part : Text) : Option Nat :=
  match t with
  | [] => if part.isEmpty then some 0 else none
  | c :: cs =>
    match lastOccurrence? cs part with
    | some n => some (c.utf8Size + n)
    | none => if Text.startsWith (c :: cs) part then some 0 else none

/-- Where the last attribute ends, counted from the start of the element. An attribute value may
hold `>`, so the opening tag ends behind it. -/
def Script.attributesEnd (s : Script) : Nat :=
  ((plainAttributes s.attributes).filterMap fun a =>
    if s.span.start ≤ a.span.stop then some (a.span.stop - s.span.start) else none).foldl max 0

/-- The span between the opening and the closing tag. -/
def Script.contentSpan? (s : Script) (source : Text) : Option Span := do
  let element ← source.slice? s.span
  let (_, afterAttributes) ← element.cut? s.attributesEnd
  let opened := s.attributesEnd + (← firstOccurrence? afterAttributes ['>']) + 1
  let closing ← lastOccurrence? element "</".toList
  guard (opened ≤ closing)
  return ⟨s.span.start + opened, s.span.start + closing⟩

/-- The text of the first `lang` attribute that has one. -/
def Script.langText? (s : Script) : Option Text :=
  (plainAttributes s.attributes).findSome? fun a =>
    if a.name = "lang".toList then
      match a.value with
      | .sequence parts => parts.findSome? fun
        | .text _ data => some data
        | .expression _ _ => none
      | _ => none
    else none

def Script.language (s : Script) : Script.Language :=
  match s.langText? with
  | some lang =>
    if lang = "ts".toList || lang = "typescript".toList then .typeScript else .javaScript
  | none => .javaScript

end StoryExports.Template
