import StoryExports.Script.Module
import StoryExports.Text.DocComment

/-!
# Notes

Comments that describe a story or its component.
-/
namespace StoryExports.Story

/-- The text of a comment, without the signs around it, and the span of the comment. -/
structure Note where
  text : Text
  span : Span
deriving DecidableEq, Repr

namespace Note

/-- The last documentation comment before an item. -/
def ofItem? (i : Script.Item) : Option Note :=
  (i.leading.filter fun c => c.block && c.text.startsWith ['*']).getLast?.map
    fun c => ⟨c.text.docProse, c.span⟩

/-- The note at `n` bytes further on. -/
def shift (n : Nat) (c : Note) : Note := ⟨c.text, ⟨c.span.start + n, c.span.stop + n⟩⟩

end Note

end StoryExports.Story
