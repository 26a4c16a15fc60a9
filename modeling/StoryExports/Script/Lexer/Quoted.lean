import StoryExports.Script.Lexer.Escape
import StoryExports.Script.Token

/-! # Strings, templates and regular expressions -/
namespace StoryExports.Script

/-- The value of a string literal, given the text after the opening quote. The end of the text
closes an open string; a line break does not. -/
def scanStringFrom (quote : Char) : Nat → Text → Option (Scan Text)
  | 0, _ => none
  | _ + 1, [] => some ⟨[], 0, []⟩
  | fuel + 1, c :: cs =>
    if c = quote then some ⟨[], c.utf8Size, cs⟩
    else if c = '\\' then
      match scanEscape cs with
      | none => none
      | some e =>
        (scanStringFrom quote fuel e.rest).map fun s =>
          ⟨e.value ++ s.value, 1 + e.size + s.size, s.rest⟩
    else if c = '\n' || c = '\r' then none
    else
      (scanStringFrom quote fuel cs).map fun s => ⟨c :: s.value, c.utf8Size + s.size, s.rest⟩

def scanString (quote : Char) (cs : Text) : Option (Scan Tok) :=
  (scanStringFrom quote (cs.length + 1) cs).map fun s => (s.map Tok.string).after 1

/-- The characters of a template up to its end or its next hole: whether their escapes are valid.
There is no end of the text inside a template. -/
def scanChunkFrom (valid : Bool) : Text → Option (Scan Bool)
  | [] => none
  | '\x60' :: cs => some ⟨valid, 0, '\x60' :: cs⟩
  | '$' :: '\x7b' :: cs => some ⟨valid, 0, '$' :: '\x7b' :: cs⟩
  | '\\' :: c :: cs =>
    let plain := !(isDigit c) || (c == '0' && !(cs.head?.any isDigit))
    let escape := (scanEscape (c :: cs)).isSome && plain
    (scanChunkFrom (valid && escape) cs).map (·.after (1 + c.utf8Size))
  | c :: cs => (scanChunkFrom valid cs).map (·.after c.utf8Size)

def scanChunk (cs : Text) : Option (Scan Tok) :=
  (scanChunkFrom true cs).map (·.map Tok.chunk)

/-- The body of a regular expression, given the text after the opening slash. A slash in a
character class does not end it. -/
def scanRegexFrom (inClass : Bool) : Text → Option (Scan Unit)
  | [] => none
  | '\\' :: c :: cs =>
    if isLineBreak c then none
    else (scanRegexFrom inClass cs).map (·.after (1 + c.utf8Size))
  | c :: cs =>
    if isLineBreak c then none
    else if c = '/' && !inClass then some ⟨(), 1, cs⟩
    else
      let inClass := if c = '[' then true else if c = ']' then false else inClass
      (scanRegexFrom inClass cs).map (·.after c.utf8Size)

/-- A regular expression and its flags, given the text after the opening slash. -/
def scanRegex (cs : Text) : Option (Scan Tok) :=
  (scanRegexFrom false cs).map fun body =>
    let flags := scanWhile isNamePart body.rest
    ⟨.regex, 1 + body.size + flags.size, flags.rest⟩

end StoryExports.Script
