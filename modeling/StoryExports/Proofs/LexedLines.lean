import StoryExports.Proofs.LineEnds

/-!
# Tokens before a line break

The lexer reads a text the same way whatever lines follow it, as long as the text ends between two
tokens. Two line breaks tell whether it does: one may end a comment or a string that the next line
would carry on.
-/
namespace StoryExports.Script

variable {t : Text}

theorem scanName_ne_eof {s : Scan Tok} (h : scanName t = some s) : s.value ≠ .eof := by
  obtain ⟨word, -, h⟩ := Option.bind_eq_some_iff.mp h
  split at h
  · split at h <;> cases h
    simp [Scan.map]
  · cases h
    simp [Scan.map]

/-- Only the end of the text is read as the end. -/
theorem scanToken_ne_eof {operand : Bool} {s : Scan Tok} (hne : t ≠ [])
    (h : scanToken operand t = some s) : s.value ≠ .eof := by
  cases t with
  | nil => exact absurd rfl hne
  | cons c cs =>
    rw [scanToken] at h
    split at h
    · exact scanName_ne_eof h
    split at h
    · exact (scanNumber_reads h).2
    split at h
    · obtain ⟨_, -, rfl⟩ := Option.map_eq_some_iff.mp h
      simp [Scan.map, Scan.after]
    split at h
    · obtain ⟨_, -, rfl⟩ := Option.map_eq_some_iff.mp h
      simp [Scan.map, Scan.after]
    split at h
    · obtain ⟨_, -, rfl⟩ := Option.map_eq_some_iff.mp h
      simp
    · exact (scanPunct_reads h).2

theorem scanTemplate_value {s : Scan Tok} (h : scanTemplate t = some s) :
    s.value = .punct .backtick ∨ s.value = .punct .dollarBrace ∨
      ∃ valid, s.value = .chunk valid := by
  unfold scanTemplate at h
  split at h
  · cases h
    exact .inl rfl
  · cases h
    exact .inr (.inl rfl)
  · obtain ⟨chunk, -, rfl⟩ := Option.map_eq_some_iff.mp h
    exact .inr (.inr ⟨chunk.value, rfl⟩)

theorem scanTriviaFrom_block_unclosed {start pos size : Nat} {reversed : Text} {fresh : Bool}
    {found : List PlacedComment} :
    (scanTriviaFrom (.block start reversed true) pos fresh found size ['\n']).unclosed = true := by
  rw [scanTriviaFrom_block_cons, if_neg (by simp)]
  rfl

namespace LexState

/-- The same state in front of more text. -/
def on (s : LexState) (u : Text) : LexState := { s with rest := s.rest ++ u }

def inTemplate (s : LexState) : Bool := s.nest.head? == some .template

/-- What stands before the next token. -/
def trivia (s : LexState) : Trivia :=
  if s.inTemplate then ⟨[], false, false, 0, s.rest⟩ else scanTrivia s.pos s.rest

/-- Read the next token off a text without trivia. -/
def scan (s : LexState) (t : Text) : Option (Scan Tok) :=
  if s.inTemplate then scanTemplate t else scanToken s.operand t

/-- The next token, given what stands before it. -/
def found? (s : LexState) (r : Trivia) : Option (Scan Tok) :=
  if r.unclosed then none else s.scan r.rest

/-- The token that is found, and the state after it. -/
def take (s : LexState) (r : Trivia) (found : Scan Tok) : Token × LexState :=
  (⟨found.value, ⟨s.pos + r.size, s.pos + r.size + found.size⟩, r.freshLine, r.leading s.before⟩,
    ⟨s.pos + r.size + found.size, found.rest, some found.value,
      (track s r.freshLine found.value).1, (track s r.freshLine found.value).2⟩)

variable {s : LexState} {r : Trivia} {found : Scan Tok}

theorem lexToken_eq (s : LexState) :
    lexToken s =
      match s.found? s.trivia with
      | none =>
        (⟨.invalid, ⟨s.pos + s.trivia.size, s.pos + s.trivia.size⟩, s.trivia.freshLine,
          s.trivia.leading s.before⟩, { s with pos := s.pos + s.trivia.size, rest := [] })
      | some found => s.take s.trivia found := rfl

theorem lexToken_of_found (hfound : s.found? s.trivia = some found) :
    lexToken s = s.take s.trivia found := by
  rw [lexToken_eq, hfound]

theorem exists_found (h : (lexToken s).1.tok ≠ .invalid) :
    ∃ found, s.found? s.trivia = some found := by
  rw [lexToken_eq] at h
  cases hfound : s.found? s.trivia with
  | none =>
    rw [hfound] at h
    exact absurd rfl h
  | some found => exact ⟨found, rfl⟩

/-- A line break stands between the last token and the next one, whatever it is. -/
def AtLineEnd (s : LexState) : Prop :=
  s.inTemplate = false ∧ ∃ pos found size, ∀ u,
    scanTrivia s.pos (s.rest ++ '\n' :: u) = scanTriviaFrom .between pos true found size u

theorem trivia_on (hout : s.inTemplate = false) (u : Text) :
    (s.on u).trivia = scanTrivia s.pos (s.rest ++ u) := by
  simp only [trivia, show (s.on u).inTemplate = false from hout]
  rfl

theorem scan_lineBound (hne : s.inTemplate = false → t ≠ []) : LineBound s.scan t := by
  cases hin : s.inTemplate with
  | true =>
    rw [show s.scan = scanTemplate by funext t; simp [scan, hin]]
    exact scanTemplate_lineBound t
  | false =>
    rw [show s.scan = scanToken s.operand by funext t; simp [scan, hin]]
    exact scanToken_lineBound s.operand (hne hin)

theorem scan_ne_eof (hne : s.inTemplate = false → t ≠ []) (h : s.scan t = some found) :
    found.value ≠ .eof := by
  unfold scan at h
  split at h
  · rcases scanTemplate_value h with hvalue | hvalue | ⟨_, hvalue⟩ <;> simp [hvalue]
  · rename_i hin
    exact scanToken_ne_eof (hne (by simpa using hin)) h

/-- Where the trivia ends before the line does, so does the token, and the lines after it change
nothing. -/
theorem lexToken_before_break (hne : s.inTemplate = false → r.rest ≠ [])
    (hlen : r.rest.length ≤ s.rest.length) (hclosed : r.unclosed = false)
    (hread : ∀ u, (s.on ('\n' :: u)).trivia = r.extend ('\n' :: u))
    (h : (lexToken (s.on ['\n', '\n'])).1.tok ≠ .invalid) :
    ∃ (token : Token) (next : LexState), token.tok ≠ .eof ∧ next.rest.length < s.rest.length ∧
      ∀ u, u ≠ [] → lexToken (s.on ('\n' :: u)) = (token, next.on ('\n' :: u)) := by
  have hfound? : ∀ u, (s.on ('\n' :: u)).found? (s.on ('\n' :: u)).trivia =
      s.scan (r.rest ++ '\n' :: u) := by
    intro u
    rw [hread u, found?, show (r.extend ('\n' :: u)).unclosed = false from hclosed]
    rfl
  obtain ⟨found, hfound⟩ := exists_found h
  rw [hfound?] at hfound
  obtain ⟨found₀, hless, hscan⟩ := scan_lineBound hne found hfound
  refine ⟨(s.take r found₀).1, (s.take r found₀).2, ?_, Nat.lt_of_lt_of_le hless hlen,
    fun u hu => ?_⟩
  · have heof := scan_ne_eof (fun hout => by simp [hne hout]) (hscan ['\n'] (by simp))
    exact heof
  · rw [lexToken_of_found ((hfound? u).trans (hscan u hu)), hread u]
    rfl

/-- Before a line break stands one more token, or the text ends there between two tokens. -/
theorem lexToken_break (h : (lexToken (s.on ['\n', '\n'])).1.tok ≠ .invalid) :
    (s.AtLineEnd ∧ (lexToken (s.on ['\n', '\n'])).1.tok = .eof) ∨
      ∃ (token : Token) (next : LexState), token.tok ≠ .eof ∧ next.rest.length < s.rest.length ∧
        ∀ u, u ≠ [] → lexToken (s.on ('\n' :: u)) = (token, next.on ('\n' :: u)) := by
  cases hin : s.inTemplate with
  | true =>
    refine .inr (lexToken_before_break (r := ⟨[], false, false, 0, s.rest⟩) (by simp [hin])
      (Nat.le_refl _) rfl (fun u => ?_) h)
    simp only [trivia, show (s.on ('\n' :: u)).inTemplate = true from hin]
    rfl
  | false =>
    rcases scanTriviaFrom_breaks .between s.pos false [] 0 s.rest with
      ⟨r, hne, hlen, hclosed, hread⟩ | ⟨pos, found, size, hread⟩ |
      ⟨start, reversed, pos, fresh, found, size, hread⟩
    · exact .inr (lexToken_before_break (fun _ => hne) hlen hclosed
        (fun u => (trivia_on hin _).trans (hread u)) h)
    · refine .inl ⟨⟨hin, pos, found, size, hread⟩, ?_⟩
      have htrivia := (trivia_on hin ['\n', '\n']).trans (hread ['\n'])
      have hfound : (s.on ['\n', '\n']).found? (s.on ['\n', '\n']).trivia = some ⟨.eof, 0, []⟩ := by
        rw [htrivia, found?, scan, show (s.on ['\n', '\n']).inTemplate = false from hin]
        rfl
      rw [lexToken_of_found hfound]
      rfl
    · -- A comment that holds a line break and never ends is no token.
      obtain ⟨found, hfound⟩ := exists_found h
      rw [trivia_on hin, show scanTrivia s.pos (s.rest ++ ['\n', '\n']) = _ from hread ['\n'],
        found?, if_pos scanTriviaFrom_block_unclosed] at hfound
      cases hfound

theorem lexFrom_succ (fuel : Nat) (s : LexState) :
    lexFrom (fuel + 1) s =
      if (lexToken s).1.tok = .eof ∨ (lexToken s).1.tok = .invalid then [(lexToken s).1]
      else (lexToken s).1 :: lexFrom fuel (lexToken s).2 := by
  rw [lexFrom]
  dsimp only
  split <;> simp_all

/-- The state in front of a text. -/
def start (code : Text) : LexState :=
  ⟨(skipHashbang code).size, (skipHashbang code).rest, none, true, []⟩

/-- The lexer reads tokens that do not end the text, and comes to a state. -/
inductive Run : LexState → List Token → LexState → Prop
  | stay (s : LexState) : Run s [] s
  | token {s s' : LexState} {tokens : List Token}
      (hvalid : (lexToken s).1.tok ≠ .eof ∧ (lexToken s).1.tok ≠ .invalid)
      (h : Run (lexToken s).2 tokens s') : Run s ((lexToken s).1 :: tokens) s'

theorem Run.lexFrom_eq {s' : LexState} {tokens : List Token} (h : Run s tokens s') (n : Nat) :
    lexFrom (tokens.length + n) s = tokens ++ lexFrom n s' := by
  induction h with
  | stay s => simp
  | token hvalid _ ih =>
    rw [List.length_cons, Nat.add_right_comm, lexFrom_succ, if_neg (by simp [hvalid]), ih,
      List.cons_append]

theorem lexFrom_break {fuel : Nat} {tokens : List Token} {e : Token} (he : e.tok = .eof)
    (h : lexFrom fuel (s.on ['\n', '\n']) = tokens ++ [e]) :
    tokens.length ≤ s.rest.length ∧ (∀ t ∈ tokens, t.tok ≠ .eof) ∧
      ∃ last : LexState, last.AtLineEnd ∧ ∀ u, u ≠ [] →
        Run (s.on ('\n' :: u)) tokens (last.on ('\n' :: u)) := by
  induction fuel generalizing s tokens with
  | zero => simp [lexFrom] at h
  | succ fuel ih =>
    rw [lexFrom_succ] at h
    have hsingle : ∀ {a : Token}, [a] = tokens ++ [e] → tokens = [] ∧ a = e := by
      intro a ha
      obtain ⟨hnil, ha⟩ := List.append_inj' (show [] ++ [a] = tokens ++ [e] from ha) rfl
      exact ⟨hnil.symm, List.singleton_inj.mp ha⟩
    have hvalid : (lexToken (s.on ['\n', '\n'])).1.tok ≠ .invalid := by
      intro hinvalid
      rw [if_pos (.inr hinvalid)] at h
      rw [(hsingle h).2, he] at hinvalid
      cases hinvalid
    rcases lexToken_break hvalid with ⟨hend, heof⟩ | ⟨token, next, hne, hlen, hread⟩
    · rw [if_pos (.inl heof)] at h
      obtain ⟨rfl, -⟩ := hsingle h
      exact ⟨Nat.zero_le _, by simp, s, hend, fun u _ => .stay _⟩
    · have htoken := hread ['\n'] (by simp)
      rw [htoken] at h hvalid
      rw [if_neg (by simp [hne, hvalid])] at h
      cases tokens with
      | nil =>
        obtain ⟨rfl, -⟩ := List.cons.inj h
        exact absurd he hne
      | cons first tokens =>
        obtain ⟨rfl, hrest⟩ := List.cons.inj h
        obtain ⟨hcount, hinner, last, hend, hafter⟩ := ih hrest
        refine ⟨?_, ?_, last, hend, fun u hu => ?_⟩
        · simp only [List.length_cons]
          omega
        · simpa [hne] using hinner
        · have hrun : Run (s.on ('\n' :: u)) ((lexToken (s.on ('\n' :: u))).1 :: tokens)
              (last.on ('\n' :: u)) :=
            .token (by rw [hread u hu]; exact ⟨hne, hvalid⟩) (by rw [hread u hu]; exact hafter u hu)
          rwa [hread u hu] at hrun

end LexState

theorem skipHashbang_of_ne {c : Char} (hc : c ≠ '#') (t : Text) :
    skipHashbang (c :: t) = ⟨(), 0, c :: t⟩ := by
  unfold skipHashbang
  split
  · rename_i heq
    exact absurd (List.cons.inj heq).1 hc
  · rfl

theorem skipHashbang_append_break (t u : Text) :
    skipHashbang (t ++ '\n' :: u) = (skipHashbang t).extend ('\n' :: u) := by
  match t with
  | [] => rfl
  | [c] =>
    by_cases hc : c = '#'
    · subst hc
      rfl
    · simp [skipHashbang, hc, Scan.extend]
  | c :: d :: cs =>
    by_cases hmark : c = '#' ∧ d = '!'
    · obtain ⟨rfl, rfl⟩ := hmark
      have hline := scanWhile_append_break (p := fun c => !isLineBreak c) rfl cs u
      simp only [List.cons_append, skipHashbang, hline, Scan.extend]
    · have hplain : ∀ cs : Text, skipHashbang (c :: d :: cs) = ⟨(), 0, c :: d :: cs⟩ := by
        intro cs
        unfold skipHashbang
        split
        · rename_i heq
          cases heq
          exact absurd ⟨rfl, rfl⟩ hmark
        · rfl
      rw [List.cons_append, List.cons_append, hplain, hplain]
      rfl

theorem skipHashbang_length (t : Text) : (skipHashbang t).rest.length ≤ t.length := by
  unfold skipHashbang
  split
  · rename_i cs
    have hline := scanWhile_length (fun c => !isLineBreak c) cs
    simp only [List.length_cons]
    omega
  · exact Nat.le_refl _

theorem LexState.start_append_break (t u : Text) :
    start (t ++ '\n' :: u) = (start t).on ('\n' :: u) := by
  simp only [start, skipHashbang_append_break]
  rfl

/-- A text that ends at a line end is read in the same way whatever lines follow. -/
theorem run_break {tokens : List Token} {e : Token} (he : e.tok = .eof)
    (h : lex (t ++ ['\n', '\n']) = tokens ++ [e]) :
    tokens.length ≤ t.length ∧ (∀ t ∈ tokens, t.tok ≠ .eof) ∧
      ∃ last : LexState, last.AtLineEnd ∧ ∀ u, u ≠ [] →
        LexState.Run (.start (t ++ '\n' :: u)) tokens (last.on ('\n' :: u)) := by
  have hlex : lexFrom ((t ++ ['\n', '\n']).length + 1) ((LexState.start t).on ['\n', '\n']) =
      tokens ++ [e] := by
    rw [← LexState.start_append_break]
    exact h
  obtain ⟨hcount, hinner, last, hend, hrun⟩ := LexState.lexFrom_break he hlex
  refine ⟨Nat.le_trans hcount (skipHashbang_length t), hinner, last, hend, fun u hu => ?_⟩
  rw [LexState.start_append_break]
  exact hrun u hu

/-- Lines that follow come after the tokens of a text that ends at a line end. -/
theorem lex_break {tokens : List Token} {e : Token} (he : e.tok = .eof)
    (h : lex (t ++ ['\n', '\n']) = tokens ++ [e]) :
    (∀ t ∈ tokens, t.tok ≠ .eof) ∧ ∃ last : LexState, last.AtLineEnd ∧ ∀ u, u ≠ [] →
      ∃ n, u.length ≤ n ∧ lex (t ++ '\n' :: u) = tokens ++ lexFrom n (last.on ('\n' :: u)) := by
  obtain ⟨hcount, hinner, last, hend, hrun⟩ := run_break he h
  refine ⟨hinner, last, hend, fun u hu => ?_⟩
  obtain ⟨n, hn⟩ : ∃ n, (t ++ '\n' :: u).length + 1 = tokens.length + n :=
    Nat.exists_eq_add_of_le (by simp only [List.length_append, List.length_cons]; omega)
  refine ⟨n, ?_, by rw [← (hrun u hu).lexFrom_eq n, ← hn]; rfl⟩
  simp only [List.length_append, List.length_cons] at hn
  omega

end StoryExports.Script
