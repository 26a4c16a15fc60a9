import StoryExports.Script.Lexer.Scan
import StoryExports.Script.Token

/-!
# Punctuators

The longest one wins, except that `?.` before a digit is a question mark.
-/
namespace StoryExports.Script

open Punct

/-- All punctuators, none before one that it starts. -/
def punctuators : List (String × Punct) := [
  (">>>=", ushrEq), ("...", ellipsis), ("===", eqEqEq), ("!==", notEqEq), ("**=", starStarEq),
  ("<<=", shlEq), (">>=", shrEq), (">>>", ushr), ("&&=", ampAmpEq), ("||=", barBarEq),
  ("??=", questionQuestionEq), ("=>", arrow), ("==", eqEq), ("!=", notEq), ("<=", le),
  (">=", ge), ("&&", ampAmp), ("||", barBar), ("??", questionQuestion), ("?.", questionDot),
  ("++", plusPlus), ("--", minusMinus), ("+=", plusEq), ("-=", minusEq), ("*=", starEq),
  ("/=", slashEq), ("%=", percentEq), ("&=", ampEq), ("|=", barEq), ("^=", caretEq),
  ("<<", shl), (">>", shr), ("**", starStar), ("\x7b", lbrace), ("\x7d", rbrace), ("(", lparen),
  (")", rparen), ("[", lbracket), ("]", rbracket), (".", dot), (";", semicolon), (",", comma),
  ("<", lt), (">", gt), ("+", plus), ("-", minus), ("*", star), ("/", slash), ("%", percent),
  ("&", amp), ("|", bar), ("^", caret), ("!", bang), ("~", tilde), ("?", question),
  (":", colon), ("=", eq), ("@", Punct.at), ("\x60", backtick)]

/-- Whether a punctuator can stand where it was found, given the text after it. -/
def Punct.fits (p : Punct) (rest : Text) : Bool :=
  p != questionDot || !(rest.head?.any isDigit)

def findPunct (cs : Text) : List (String × Punct) → Option (Scan Tok)
  | [] => none
  | (spelling, p) :: more =>
    match Text.stripStart? cs spelling.toList with
    | some rest => if p.fits rest then some ⟨.punct p, spelling.length, rest⟩ else findPunct cs more
    | none => findPunct cs more

def scanPunct (cs : Text) : Option (Scan Tok) := findPunct cs punctuators

end StoryExports.Script
