import StoryExports.Text.Blank

/-!
# Common indentation

The common indentation of a block of markup or comment text, and its removal.
-/
namespace StoryExports.Text

/-- Bytes of leading blanks of a line. -/
def indentation (line : Text) : Nat := bytes line - bytes (trimStart line)

/-- The least indentation of the lines that are not blank. -/
def commonIndentation (ls : List Text) : Nat :=
  match (ls.filter fun l => !l.isAllBlank).map indentation with
  | [] => 0
  | n :: ns => ns.foldl min n

/-- Take `n` bytes off the front of a line, or all its leading blanks if the `n` bytes end inside
a character. A blank line becomes empty. -/
def outdent (n : Nat) (line : Text) : Text :=
  if line.isAllBlank then []
  else match cut? n line with
    | some (_, rest) => rest
    | none => trimStart line

/-- Remove the common indentation of all lines but the first. The first line starts right after
an opening delimiter, so it only loses its leading blanks. -/
def dedent (t : Text) : Text :=
  trim <| join ['\n'] <|
    match lines t with
    | [] => []
    | first :: rest => trimStart first :: rest.map (outdent (commonIndentation rest))

end StoryExports.Text
