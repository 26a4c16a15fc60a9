import StoryExports.Text.Blank

/-!
# Prose of documentation comments

The prose stands without the column of stars at its left edge.
-/
namespace StoryExports.Text

/-- Drop one leading character, if it is `c`. -/
def dropOne (c : Char) : Text → Text
  | [] => []
  | d :: ds => if d = c then ds else d :: ds

/-- One line of a documentation comment: leading blanks, one star, one space and trailing blanks
go. -/
def withoutGutter (line : Text) : Text :=
  trimEnd (dropOne ' ' (dropOne '*' (trimStart line)))

/-- The prose of a documentation comment, given the text between `/*` and `*/`. -/
def docProse (t : Text) : Text :=
  trim (join ['\n'] ((lines (dropOne '*' t)).map withoutGutter))

end StoryExports.Text
