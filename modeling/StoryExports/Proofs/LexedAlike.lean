import StoryExports.Proofs.LexerRuns
import StoryExports.Proofs.Sequels

/-!
# Lexing somewhere else

The tokens of a text do not depend on where it stands, only on what the lexer knows about the
tokens before it.
-/
namespace StoryExports.Script

/-! ### Trivia -/

/-- What trivia tell about the next token. -/
def Trivia.shape (r : Trivia) : Bool × Bool × Text := (r.freshLine, r.unclosed, r.rest)

/-- Modes that differ in their places only. -/
inductive TriviaMode.Alike : TriviaMode → TriviaMode → Prop
  | between : Alike .between .between
  | line {start start' : Nat} {reversed reversed' : Text} :
      Alike (.line start reversed) (.line start' reversed')
  | block {start start' : Nat} {reversed : Text} {breaks : Bool} :
      Alike (.block start reversed breaks) (.block start' reversed breaks)

theorem scanTriviaFrom_shape {mode mode' : TriviaMode} (h : mode.Alike mode') (pos pos' : Nat)
    (fresh : Bool) (found found' : List PlacedComment) (size size' : Nat) (t : Text) :
    (scanTriviaFrom mode pos fresh found size t).shape =
      (scanTriviaFrom mode' pos' fresh found' size' t).shape := by
  fun_induction scanTriviaFrom mode pos fresh found size t generalizing mode' pos' found' size' with
  | case1 | case2 | case3 =>
    cases h
    rfl
  | case4 _ _ _ _ c cs hspace ih =>
    cases h
    rw [scanTriviaFrom_between_cons, if_pos hspace]
    exact ih .between ..
  | case5 _ _ _ _ c cs hspace hline ih =>
    cases h
    rw [scanTriviaFrom_between_cons, if_neg hspace, if_pos hline]
    exact ih .between ..
  | case6 _ _ _ _ cs _ _ ih =>
    cases h
    exact ih .line ..
  | case7 _ _ _ _ cs _ _ ih =>
    cases h
    exact ih .block ..
  | case8 _ _ _ _ c cs hspace hline hcomment hblock =>
    cases h
    rw [scanTriviaFrom_stop hspace hline fun hc => ?_]
    · rfl
    · cases cs with
      | nil => simp
      | cons d cs =>
        constructor <;> rintro ⟨⟩
        · exact hcomment cs hc rfl
        · exact hblock cs hc rfl
  | case9 =>
    rename_i hline _ ih
    cases h
    rw [scanTriviaFrom_line_cons, if_pos hline]
    exact ih .between ..
  | case10 _ _ _ _ c cs _ _ hline ih =>
    cases h
    rw [scanTriviaFrom_line_cons, if_neg hline]
    exact ih .line ..
  | case11 =>
    rename_i hclose _ ih
    cases h
    rw [scanTriviaFrom_block_cons, if_pos hclose]
    exact ih .between ..
  | case12 _ _ _ _ c cs _ _ _ hclose ih =>
    cases h
    rw [scanTriviaFrom_block_cons, if_neg hclose]
    exact ih .block ..

theorem scanTriviaFrom_freshLine (mode : TriviaMode) (pos : Nat) (found : List PlacedComment)
    (size : Nat) (t : Text) : (scanTriviaFrom mode pos true found size t).freshLine = true := by
  generalize hfresh : true = fresh
  fun_induction scanTriviaFrom mode pos fresh found size t <;> simp_all

/-! ### States -/

namespace LexState

/-- States in which the lexer knows the same about the tokens before. -/
structure SameContext (s s' : LexState) : Prop where
  before : s.before = s'.before
  operand : s.operand = s'.operand
  nest : s.nest = s'.nest

/-- States from which the lexer reads on in the same way, perhaps at another place. -/
structure Alike (s s' : LexState) : Prop extends SameContext s s' where
  trivia : s.trivia.shape = s'.trivia.shape

variable {s s' : LexState}

theorem SameContext.inTemplate (h : SameContext s s') : s.inTemplate = s'.inTemplate := by
  rw [LexState.inTemplate, LexState.inTemplate, h.nest]

/-- What is open and what may follow depends on the context alone. -/
theorem SameContext.track (h : SameContext s s') (fresh : Bool) (tok : Tok) :
    Script.track s fresh tok = Script.track s' fresh tok := by
  obtain ⟨pos, rest, before, operand, nest⟩ := s
  obtain ⟨pos', rest', before', operand', nest'⟩ := s'
  obtain ⟨rfl, rfl, rfl⟩ : before = before' ∧ operand = operand' ∧ nest = nest' :=
    ⟨h.before, h.operand, h.nest⟩
  cases tok <;> rfl

theorem Alike.of_rest (h : SameContext s s') (hrest : s.rest = s'.rest) : Alike s s' := by
  refine ⟨h, ?_⟩
  unfold LexState.trivia
  rw [h.inTemplate, hrest]
  split
  · rfl
  · exact scanTriviaFrom_shape .between ..

theorem Alike.found? (h : Alike s s') : s.found? s.trivia = s'.found? s'.trivia := by
  have hshape := h.trivia
  simp only [Trivia.shape, Prod.mk.injEq] at hshape
  obtain ⟨-, hunclosed, hrest⟩ := hshape
  unfold LexState.found? LexState.scan
  rw [hunclosed, hrest, h.toSameContext.inTemplate, h.operand]

/-- One token is read, the same up to its place, and the states after it are alike again. -/
theorem Alike.lexToken (h : Alike s s') :
    (lexToken s).1.Alike (lexToken s').1 ∧ ((Script.lexToken s).1.tok ≠ .invalid →
      Alike (Script.lexToken s).2 (Script.lexToken s').2) := by
  have hfresh : s.trivia.freshLine = s'.trivia.freshLine := congrArg (·.1) h.trivia
  rw [lexToken_eq, lexToken_eq, ← h.found?]
  cases s.found? s.trivia with
  | none => exact ⟨⟨rfl, hfresh⟩, fun hvalid => absurd rfl hvalid⟩
  | some found =>
    refine ⟨⟨rfl, hfresh⟩, fun _ => .of_rest ⟨rfl, ?_, ?_⟩ rfl⟩
    · simp only [take, hfresh, h.toSameContext.track]
    · simp only [take, hfresh, h.toSameContext.track]

theorem Alike.lexFrom (h : Alike s s') (n : Nat) :
    List.Forall₂ Token.Alike (lexFrom n s) (lexFrom n s') := by
  induction n generalizing s s' with
  | zero => exact .nil
  | succ n ih =>
    obtain ⟨htoken, hnext⟩ := h.lexToken
    rw [lexFrom_succ, lexFrom_succ, ← htoken.1]
    split
    · exact .cons htoken .nil
    · rename_i hvalid
      exact .cons htoken (ih (hnext fun hinvalid => hvalid (.inr hinvalid)))

/-- The state after a token, as far as the tokens tell. -/
def after (s : LexState) (t : Token) : LexState :=
  ⟨s.pos, s.rest, some t.tok, (Script.track s t.freshLine t.tok).1,
    (Script.track s t.freshLine t.tok).2⟩

theorem sameContext_after (hvalid : (lexToken s).1.tok ≠ .invalid) :
    SameContext (lexToken s).2 (s.after (lexToken s).1) := by
  obtain ⟨found, hfound⟩ := exists_found hvalid
  rw [lexToken_of_found hfound]
  exact ⟨rfl, rfl, rfl⟩

theorem SameContext.after (h : SameContext s s') (t : Token) :
    SameContext (s.after t) (s'.after t) :=
  ⟨rfl, by simp only [LexState.after, h.track], by simp only [LexState.after, h.track]⟩

theorem SameContext.trans {s'' : LexState} (h : SameContext s s') (h' : SameContext s' s'') :
    SameContext s s'' :=
  ⟨h.before.trans h'.before, h.operand.trans h'.operand, h.nest.trans h'.nest⟩

theorem SameContext.foldl (h : SameContext s s') (tokens : List Token) :
    SameContext (tokens.foldl LexState.after s) (tokens.foldl LexState.after s') := by
  induction tokens generalizing s s' with
  | nil => exact h
  | cons t tokens ih => exact ih (h.after t)

/-- What the lexer knows after a run. -/
theorem Run.sameContext {tokens : List Token} (h : Run s tokens s') :
    SameContext s' (tokens.foldl after s) := by
  induction h with
  | stay s => exact ⟨rfl, rfl, rfl⟩
  | token hvalid _ ih => exact ih.trans ((sameContext_after hvalid.2).foldl _)

end LexState

end StoryExports.Script
