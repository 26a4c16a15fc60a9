import StoryExports.Text.Basic
import StoryExports.Decimal.Double

/-! # Tokens of JavaScript and TypeScript -/
namespace StoryExports.Script

/-- Words that are never plain names. -/
inductive Keyword
  | kwAwait | kwBreak | kwCase | kwCatch | kwClass | kwConst | kwContinue | kwDebugger
  | kwDefault | kwDelete | kwDo | kwElse | kwExport | kwExtends | kwFalse | kwFinally | kwFor
  | kwFunction | kwIf | kwImport | kwIn | kwInstanceof | kwLet | kwNew | kwNull | kwReturn
  | kwSuper | kwSwitch | kwThis | kwThrow | kwTrue | kwTry | kwTypeof | kwVar | kwVoid | kwWhile
  | kwWith | kwYield
deriving DecidableEq, Repr

namespace Keyword

def table : List (Keyword × String) := [
  (kwAwait, "await"), (kwBreak, "break"), (kwCase, "case"), (kwCatch, "catch"),
  (kwClass, "class"), (kwConst, "const"), (kwContinue, "continue"), (kwDebugger, "debugger"),
  (kwDefault, "default"), (kwDelete, "delete"), (kwDo, "do"), (kwElse, "else"),
  (kwExport, "export"), (kwExtends, "extends"), (kwFalse, "false"), (kwFinally, "finally"),
  (kwFor, "for"), (kwFunction, "function"), (kwIf, "if"), (kwImport, "import"), (kwIn, "in"),
  (kwInstanceof, "instanceof"), (kwLet, "let"), (kwNew, "new"), (kwNull, "null"),
  (kwReturn, "return"), (kwSuper, "super"), (kwSwitch, "switch"), (kwThis, "this"),
  (kwThrow, "throw"), (kwTrue, "true"), (kwTry, "try"), (kwTypeof, "typeof"), (kwVar, "var"),
  (kwVoid, "void"), (kwWhile, "while"), (kwWith, "with"), (kwYield, "yield")]

def ofText? (t : Text) : Option Keyword :=
  (table.find? fun entry => entry.2.toList == t).map (·.1)

def text (k : Keyword) : Text :=
  match table.find? fun entry => entry.1 == k with
  | some entry => entry.2.toList
  | none => []

/-- Keywords that no operator can follow: an operand, a statement, a pattern or the head of a
statement does. -/
def beforeOperand : Keyword → Bool
  | kwAwait | kwBreak | kwCase | kwConst | kwContinue | kwDebugger | kwDefault | kwDelete | kwDo
  | kwElse | kwExtends | kwFor | kwIf | kwIn | kwInstanceof | kwNew | kwReturn | kwThrow | kwTypeof
  | kwVar | kwVoid | kwWhile | kwWith | kwYield => true
  | _ => false

end Keyword

inductive Punct
  | lbrace | rbrace | lparen | rparen | lbracket | rbracket | dot | ellipsis | semicolon | comma
  | lt | gt | le | ge | eqEq | notEq | eqEqEq | notEqEq | plus | minus | star | slash | percent
  | starStar | plusPlus | minusMinus | shl | shr | ushr | amp | bar | caret | bang | tilde
  | ampAmp | barBar | question | questionQuestion | questionDot | colon | eq | plusEq | minusEq
  | starEq | slashEq | percentEq | starStarEq | shlEq | shrEq | ushrEq | ampEq | barEq | caretEq
  | ampAmpEq | barBarEq | questionQuestionEq | arrow | at | backtick | dollarBrace
deriving DecidableEq, Repr

inductive Tok
  | name (id : Text)
  | keyword (k : Keyword)
  | privateName (id : Text)
  | number (value : Decimal.Double)
  | bigint
  | string (value : Text)
  | regex
  /-- Characters of a template between its holes; `valid` if all its escapes are. -/
  | chunk (valid : Bool)
  | punct (p : Punct)
  | eof
  /-- Characters that form no token. -/
  | invalid
deriving DecidableEq, Repr, Inhabited

/-- A comment. `text` is what stands between its delimiters. -/
structure Comment where
  block : Bool
  text : Text
  span : Span
deriving DecidableEq, Repr

structure Token where
  tok : Tok
  span : Span
  /-- Whether a line break separates the token from the one before it. -/
  freshLine : Bool
  /-- The comments that belong to this token and not to the one before it. -/
  leading : List Comment
deriving DecidableEq, Repr, Inhabited

end StoryExports.Script
