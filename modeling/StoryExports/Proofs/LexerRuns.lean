import StoryExports.Proofs.QuotedTexts
import StoryExports.Proofs.TokenPlaces

/-!
# Runs of the lexer

A run reads one token after the other and comes to a place in the text, and the tokens of the text
are those of the run and those that are read from there. Where a run comes to the opening quote of a
quoted text, outside of a template, the next token is this text up to its closing quote.
-/
namespace StoryExports.Script

open Json (quote)

/-- Only a comment that takes up the whole text is left open. -/
theorem scanTriviaFrom_rest_of_unclosed (mode : TriviaMode) (pos : Nat) (fresh : Bool)
    (found : List PlacedComment) (size : Nat) (t : Text)
    (h : (scanTriviaFrom mode pos fresh found size t).unclosed = true) :
    (scanTriviaFrom mode pos fresh found size t).rest = [] := by
  fun_induction scanTriviaFrom mode pos fresh found size t <;> simp_all

namespace LexState

variable {code t rest : Text} {s s' : LexState} {tokens : List Token}

/-- A token moves the lexer on in the text. -/
theorem lexToken_step (h : s.In code)
    (hvalid : (lexToken s).1.tok ≠ .eof ∧ (lexToken s).1.tok ≠ .invalid) :
    (lexToken s).2.In code ∧ (lexToken s).2.rest.length < s.rest.length := by
  obtain ⟨htoken, hbehind, hnext⟩ := lexToken_sound h
  obtain ⟨hin, hpos⟩ := hnext hvalid.2
  have hmoved : s.pos < (lexToken s).2.pos :=
    hpos ▸ Nat.lt_of_le_of_lt hbehind (htoken.proper hvalid.1 hvalid.2)
  exact ⟨hin, Text.Leaves.length_lt_length h hin hmoved⟩

theorem Run.in_text (h : Run s tokens s') (hs : s.In code) :
    s'.In code ∧ tokens.length + s'.rest.length ≤ s.rest.length := by
  induction h with
  | stay s => exact ⟨hs, by simp⟩
  | token hvalid _ ih =>
    obtain ⟨hin, hlen⟩ := lexToken_step hs hvalid
    obtain ⟨hin', hle⟩ := ih hin
    refine ⟨hin', ?_⟩
    rw [List.length_cons]
    omega

/-- After a run from its start, a text has the tokens of the run and then those of the state that
the run comes to. -/
theorem Run.lex_eq (h : Run (start code) tokens s) :
    s.In code ∧ ∃ n, s.rest.length < n ∧ lex code = tokens ++ lexFrom n s := by
  obtain ⟨hin, hlen⟩ := h.in_text (skipHashbang_of code)
  have hshort : (start code).rest.length ≤ code.length := skipHashbang_length code
  obtain ⟨n, hn⟩ : ∃ n, code.length + 1 = tokens.length + n :=
    Nat.exists_eq_add_of_le (by omega)
  refine ⟨hin, n, by omega, ?_⟩
  rw [← h.lexFrom_eq n, ← hn]
  rfl

/-! ### Quoted texts -/

/-- Where the next token starts with a quoted text, it is that text, and nothing of what follows is
read with it. -/
theorem lexToken_quote (hout : s.inTemplate = false) (hrest : s.trivia.rest = quote t ++ rest) :
    lexToken s = s.take s.trivia ⟨.string t, (quote t).bytes, rest⟩ := by
  have hclosed : s.trivia.unclosed = false := by
    rw [Bool.eq_false_iff]
    intro hopen
    have hnil : s.trivia.rest = [] := by
      simp only [trivia, hout] at hopen ⊢
      exact scanTriviaFrom_rest_of_unclosed _ _ _ _ _ _ hopen
    rw [hrest, quote_append] at hnil
    cases hnil
  refine lexToken_of_found ?_
  rw [found?, hclosed, scan, hout, hrest]
  exact scanToken_quote s.operand t rest

end LexState

/-- A quoted text is read back as the text, whatever follows it. As JSON it is a string with that
value. In a script a token that starts at its opening quote is a string with that value and ends at
its closing quote: so it is for a single token, and so it is in the whole text, if the lexer comes
to the opening quote after a run of tokens that leads into no template. The tokens after it are
those of the rest. -/
theorem lex_quote (t rest : Text) :
    Json.read? (quote t) = some (.string (some t)) ∧
    (∀ operand, scanToken operand (quote t ++ rest) = some ⟨.string t, (quote t).bytes, rest⟩) ∧
    ∀ code tokens s, LexState.Run (.start code) tokens s → s.inTemplate = false →
      s.trivia.rest = quote t ++ rest →
      ∃ before token n, code = before ++ (quote t ++ rest) ∧ token.tok = .string t ∧
        token.span = ⟨before.bytes, before.bytes + (quote t).bytes⟩ ∧ rest.length < n ∧
        lex code = tokens ++
          token :: lexFrom n ⟨token.span.stop, rest, some (.string t), false, s.nest⟩ := by
  refine ⟨Json.read?_quote t, fun operand => scanToken_quote operand t rest,
    fun code tokens s hrun hout hrest => ?_⟩
  obtain ⟨hin, n, hn, hlex⟩ := hrun.lex_eq
  obtain ⟨k, hsize, htrivia⟩ := s.trivia_of
  rw [Nat.zero_add] at hsize
  rw [hrest] at htrivia
  obtain ⟨before, hcode, hbefore⟩ := (hin.trans htrivia).exists_append
  have hlen := htrivia.suffix.length_le
  simp only [quote_append, List.length_append, List.length_cons] at hlen
  obtain ⟨n, rfl⟩ := Nat.exists_eq_succ_of_ne_zero (Nat.ne_zero_of_lt hn)
  have htoken := LexState.lexToken_quote hout hrest
  refine ⟨before, (s.take s.trivia ⟨.string t, (quote t).bytes, rest⟩).1, n, hcode, rfl, ?_,
    by omega, ?_⟩
  · rw [hbefore, ← hsize]
    rfl
  · rw [hlex, Nat.succ_eq_add_one, LexState.lexFrom_succ, htoken,
      if_neg (by simp [LexState.take])]
    rfl

/-- A text with a quote, an escape that is only spelled, a zero and a line separator. -/
def hardText : Text := ['"', '\\', 'u', '0', '0', '4', '1', '\x00', Char.ofNat 0x2028, '\n']

/-- Code that assigns the text, with a quote in front of it and one behind it. -/
def assigningHardText : Text :=
  ['a', '=', '/', '*', '"', '*', '/'] ++ (quote hardText ++ ['"', ';', '"'])

theorem lex_assigningHardText : ∃ tokens before token n,
    tokens.map (·.tok) = [.name ['a'], .punct .eq] ∧
    assigningHardText = before ++ (quote hardText ++ ['"', ';', '"']) ∧
    token.tok = .string hardText ∧
    token.span = ⟨before.bytes, before.bytes + (quote hardText).bytes⟩ ∧ 3 < n ∧
    lex assigningHardText = tokens ++ token ::
      lexFrom n ⟨token.span.stop, ['"', ';', '"'], some (.string hardText), false, []⟩ := by
  have hrun : LexState.Run (.start assigningHardText) _ _ :=
    .token (by decide) (.token (by decide) (.stay _))
  obtain ⟨before, token, n, h⟩ :=
    (lex_quote hardText ['"', ';', '"']).2.2 _ _ _ hrun (by decide) (by decide)
  exact ⟨_, before, token, n, by decide, h⟩

end StoryExports.Script
