import StoryExports.Script.Lexer.Scan
import StoryExports.Script.Token

/-!
# White space and comments

What may stand between two tokens, and which token a comment belongs to.
-/
namespace StoryExports.Script

/-- A comment between two tokens and its place: whether a line break stands between the token
before it and its start, and whether only spaces on its last line, and no line break since the
token before it, stand between it and a semicolon. -/
structure PlacedComment where
  comment : Comment
  onFreshLine : Bool
  beforeSemicolon : Bool
deriving Repr

structure Trivia where
  comments : List PlacedComment
  freshLine : Bool
  /-- Whether a block comment with a line break in it runs to the end of the text. -/
  unclosed : Bool
  size : Nat
  rest : Text
deriving Repr

inductive TriviaMode
  | between
  | line (start : Nat) (reversed : Text)
  | block (start : Nat) (reversed : Text) (breaks : Bool)

/-- Whether a semicolon follows after spaces. -/
def semicolonFollows (cs : Text) : Bool :=
  match cs.dropWhile isSpace with
  | c :: _ => c == ';'
  | [] => false

/-- Read trivia. `pos` is the offset of the text, `fresh` tells whether a line break was read,
and `found` holds the comments read so far, the last one first. -/
def scanTriviaFrom (mode : TriviaMode) (pos : Nat) (fresh : Bool) (found : List PlacedComment)
    (size : Nat) : Text → Trivia
  | [] =>
    match mode with
    | .between => ⟨found.reverse, fresh, false, size, []⟩
    | .line start reversed =>
      let c : PlacedComment := ⟨⟨false, reversed.reverse, ⟨start, pos⟩⟩, fresh, false⟩
      ⟨(c :: found).reverse, fresh, false, size, []⟩
    | .block _ _ breaks => ⟨found.reverse, fresh, breaks, size, []⟩
  | c :: cs =>
    match mode with
    | .between =>
      if isSpace c then
        scanTriviaFrom .between (pos + c.utf8Size) fresh found (size + c.utf8Size) cs
      else if isLineBreak c then
        scanTriviaFrom .between (pos + c.utf8Size) true found (size + c.utf8Size) cs
      else
        match c, cs with
        | '/', '/' :: cs => scanTriviaFrom (.line pos []) (pos + 2) fresh found (size + 2) cs
        | '/', '*' :: cs =>
          scanTriviaFrom (.block pos [] false) (pos + 2) fresh found (size + 2) cs
        | _, _ => ⟨found.reverse, fresh, false, size, c :: cs⟩
    | .line start reversed =>
      if isLineBreak c then
        let placed : PlacedComment := ⟨⟨false, reversed.reverse, ⟨start, pos⟩⟩, fresh, false⟩
        scanTriviaFrom .between (pos + c.utf8Size) true (placed :: found) (size + c.utf8Size) cs
      else
        scanTriviaFrom (.line start (c :: reversed)) (pos + c.utf8Size) fresh found
          (size + c.utf8Size) cs
    | .block start reversed breaks =>
      if c = '/' && reversed.head? == some '*' then
        let placed : PlacedComment :=
          ⟨⟨true, reversed.tail.reverse, ⟨start, pos + 1⟩⟩, fresh,
            !fresh && !breaks && semicolonFollows cs⟩
        scanTriviaFrom .between (pos + 1) (fresh || breaks) (placed :: found) (size + 1) cs
      else
        scanTriviaFrom (.block start (c :: reversed) (breaks || isLineBreak c))
          (pos + c.utf8Size) fresh found (size + c.utf8Size) cs

def scanTrivia (pos : Nat) (cs : Text) : Trivia := scanTriviaFrom .between pos false [] 0 cs

/-- Tokens after which a comment on the same line belongs to them. -/
def Tok.keepsComments : Tok → Bool
  | .name _ | .number _ | .bigint | .string _ | .regex => true
  | .punct .semicolon | .punct .lbrace | .punct .rbrace => true
  | _ => false

/-- Whether a comment belongs to the token after it. At the start of the text it does. -/
def PlacedComment.leads (before : Option Tok) (c : PlacedComment) : Bool :=
  match before with
  | some tok => (c.onFreshLine || !tok.keepsComments) && !c.beforeSemicolon
  | none => true

/-- The comments that belong to the token after them. -/
def Trivia.leading (before : Option Tok) (t : Trivia) : List Comment :=
  (t.comments.filter (·.leads before)).map (·.comment)

end StoryExports.Script
