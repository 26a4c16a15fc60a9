import StoryExports.Script.Lexer.Escape
import StoryExports.Script.Token

/-!
# Names and keywords

A name may hold `\u` escapes; a keyword may not.
-/
namespace StoryExports.Script

/-- One character of a word, written plainly or as an escape, and whether it is escaped. -/
def scanWordChar (p : Char → Bool) : Text → Option (Scan (Char × Bool))
  | '\\' :: 'u' :: cs =>
    match scanUnicode cs with
    | some ⟨[c], size, rest⟩ => if p c then some ⟨(c, true), 2 + size, rest⟩ else none
    | _ => none
  | '\\' :: _ => none
  | c :: cs => if p c then some ⟨(c, false), c.utf8Size, cs⟩ else none
  | [] => none

/-- The rest of a word and whether it holds an escape. A backslash that starts no escape of a name
character spoils the word. -/
def scanWordRest : Nat → Text → Option (Scan (Text × Bool))
  | 0, _ => none
  | fuel + 1, cs =>
    match scanWordChar isNamePart cs with
    | some first =>
      (scanWordRest fuel first.rest).map fun s =>
        ⟨(first.value.1 :: s.value.1, first.value.2 || s.value.2), first.size + s.size, s.rest⟩
    | none =>
      match cs with
      | '\\' :: _ => none
      | cs => some ⟨([], false), 0, cs⟩

/-- A word and whether it holds an escape. -/
def scanWord (cs : Text) : Option (Scan (Text × Bool)) := do
  let first ← scanWordChar isNameStart cs
  let s ← scanWordRest (cs.length + 1) first.rest
  return ⟨(first.value.1 :: s.value.1, first.value.2 || s.value.2), first.size + s.size, s.rest⟩

/-- A word as a token. -/
def scanName (cs : Text) : Option (Scan Tok) := do
  let s ← scanWord cs
  match Keyword.ofText? s.value.1 with
  | some k => if s.value.2 then none else return s.map fun _ => .keyword k
  | none => return s.map fun (id, _) => .name id

end StoryExports.Script
