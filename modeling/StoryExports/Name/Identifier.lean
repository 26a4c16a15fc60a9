import StoryExports.Text.Basic

/-!
# Names in generated code

A name can stand in generated code as it is. Only ASCII names count.
-/
namespace StoryExports.Name

def isAsciiLetter (c : Char) : Bool := ('a' ≤ c && c ≤ 'z') || ('A' ≤ c && c ≤ 'Z')

def isAsciiDigit (c : Char) : Bool := '0' ≤ c && c ≤ '9'

/-- A letter, a digit, `_` or `$`. -/
def isNamePart (c : Char) : Bool := isAsciiLetter c || isAsciiDigit c || c == '_' || c == '$'

/-- A letter, `_` or `$`. -/
def isNameStart (c : Char) : Bool := isAsciiLetter c || c == '_' || c == '$'

def isIdentifier : Text → Bool
  | [] => false
  | c :: cs => isNameStart c && cs.all isNamePart

/-- The words that no module can declare: reserved words, those reserved in strict code, and the
literals. -/
def reservedWords : List Text := [
  "arguments", "await", "break", "case", "catch", "class", "const", "continue", "debugger",
  "default", "delete", "do", "else", "enum", "eval", "export", "extends", "false", "finally",
  "for", "function", "if", "implements", "import", "in", "instanceof", "interface", "let", "new",
  "null", "package", "private", "protected", "public", "return", "static", "super", "switch",
  "this", "throw", "true", "try", "typeof", "var", "void", "while", "with", "yield"].map
  String.toList

/-- Whether a module can hold `export const name = …`. -/
def isBindable (name : Text) : Bool := isIdentifier name && !reservedWords.contains name

end StoryExports.Name
