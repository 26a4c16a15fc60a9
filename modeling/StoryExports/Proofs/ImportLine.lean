import StoryExports.Proofs.Cuts
import StoryExports.Proofs.LexedLines
import StoryExports.Proofs.QuotedTexts
import StoryExports.Transform.Appendix

/-!
# The line of an import

The import that starts the appendix is read back word by word, whatever stands in the name of the
module. A closing brace can lead back into a template, so it is left open whether the source after
it is read as code; if it is not, no `from` follows.
-/
namespace StoryExports.Script

open Json (quote)
open Transform (Appendix)

/-- Whether a character starts a token, whatever follows. -/
def isSolid (c : Char) : Bool := !isSpace c && !isLineBreak c && c != '/' && c != '\\'

theorem ne_backslash_of_isNamePart {c : Char} (hc : isNamePart c = true) : c ≠ '\\' := by
  rintro rfl
  exact absurd hc (by decide)

/-- Whether no word goes on into a text. -/
def endsWord : Text → Bool
  | c :: _ => !isNamePart c && c != '\\'
  | [] => true

theorem scanWordRest_stop {rest : Text} (hrest : endsWord rest = true) (fuel : Nat) :
    scanWordRest (fuel + 1) rest = some ⟨([], false), 0, rest⟩ := by
  cases rest with
  | nil => rfl
  | cons c rest =>
    simp only [endsWord, Bool.and_eq_true, Bool.not_eq_true', bne_iff_ne] at hrest
    rw [scanWordRest, scanWordChar_cons hrest.2, if_neg (by simp [hrest.1])]
    simp [hrest.2]

theorem scanWordRest_plain {w : Text} (hw : ∀ c ∈ w, isNamePart c = true) {rest : Text}
    (hrest : endsWord rest = true) {fuel : Nat} (hfuel : w.length < fuel) :
    scanWordRest fuel (w ++ rest) = some ⟨(w, false), w.bytes, rest⟩ := by
  obtain ⟨fuel, rfl⟩ := Nat.exists_eq_succ_of_ne_zero (Nat.ne_zero_of_lt hfuel)
  induction w generalizing fuel with
  | nil => exact scanWordRest_stop hrest fuel
  | cons c w ih =>
    obtain ⟨hc, hw⟩ := List.forall_mem_cons.mp hw
    have hfuel : w.length < fuel := by simpa using hfuel
    obtain ⟨fuel, rfl⟩ := Nat.exists_eq_succ_of_ne_zero (Nat.ne_zero_of_lt hfuel)
    have hslash := ne_backslash_of_isNamePart hc
    rw [List.cons_append, scanWordRest, scanWordChar_cons hslash, if_pos hc]
    · simp only [ih hw fuel hfuel, Option.map_some, Bool.or_self, Text.bytes]
    · exact fun tail htail => hslash (List.cons.inj htail).1

/-- Whether a text is a word without escapes. -/
def isPlainWord : Text → Bool
  | c :: w => isNameStart c && isSolid c && w.all isNamePart
  | [] => false

/-- A word as a token. -/
def Tok.ofWord (w : Text) : Tok :=
  match Keyword.ofText? w with
  | some k => .keyword k
  | none => .name w

theorem Tok.ofWord_valid (w : Text) : ofWord w ≠ .eof ∧ ofWord w ≠ .invalid := by
  unfold ofWord
  split <;> simp

theorem scanToken_word (operand : Bool) {w : Text} (hw : isPlainWord w = true) {rest : Text}
    (hrest : endsWord rest = true) :
    scanToken operand (w ++ rest) = some ⟨.ofWord w, w.bytes, rest⟩ := by
  cases w with
  | nil => cases hw
  | cons c w =>
    simp only [isPlainWord, Bool.and_eq_true, List.all_eq_true] at hw
    obtain ⟨⟨hc, hsolid⟩, hw⟩ := hw
    have hslash : c ≠ '\\' := by
      rintro rfl
      cases hsolid
    have hword : scanWord ((c :: w) ++ rest) =
        some ⟨(c :: w, false), Text.bytes (c :: w), rest⟩ := by
      have hparts : scanWordRest (((c :: w) ++ rest).length + 1) (w ++ rest) = _ :=
        scanWordRest_plain hw hrest (by simp only [List.length_append, List.length_cons]; omega)
      rw [scanWord, List.cons_append, scanWordChar_cons hslash, if_pos hc]
      simp only [Option.bind_eq_bind, Option.bind_some]
      rw [← List.cons_append, hparts]
      rfl
    rw [List.cons_append, scanToken, if_pos (by simp [hc]), ← List.cons_append, scanName, hword]
    simp only [Option.bind_eq_bind, Option.bind_some, Tok.ofWord]
    cases Keyword.ofText? (c :: w) <;> rfl

/-- The characters that are punctuators, whatever follows. -/
def Punct.lone : List (Char × Punct) :=
  [('\x7b', .lbrace), ('\x7d', .rbrace), ('(', .lparen), (')', .rparen), ('[', .lbracket),
    (']', .rbracket), (';', .semicolon), (',', .comma), (':', .colon)]

theorem Tok.punct_valid (p : Punct) : Tok.punct p ≠ .eof ∧ Tok.punct p ≠ .invalid := by simp

theorem scanToken_lone (operand : Bool) {c : Char} {p : Punct} (h : (c, p) ∈ Punct.lone)
    (rest : Text) : scanToken operand (c :: rest) = some ⟨.punct p, 1, rest⟩ := by
  simp only [Punct.lone, List.mem_cons, Prod.mk.injEq, List.not_mem_nil, or_false] at h
  rcases h with ⟨rfl, rfl⟩ | ⟨rfl, rfl⟩ | ⟨rfl, rfl⟩ | ⟨rfl, rfl⟩ | ⟨rfl, rfl⟩ | ⟨rfl, rfl⟩ |
    ⟨rfl, rfl⟩ | ⟨rfl, rfl⟩ | ⟨rfl, rfl⟩
  all_goals cases operand <;> cases rest <;> rfl

/-- Whether a text starts with a token, whatever follows. -/
def startsSolid : Text → Bool
  | c :: _ => isSolid c
  | [] => false

theorem startsSolid_word {w : Text} (hw : isPlainWord w = true) (rest : Text) :
    startsSolid (w ++ rest) = true := by
  cases w with
  | nil => cases hw
  | cons c w =>
    simp only [isPlainWord, Bool.and_eq_true] at hw
    exact hw.1.2

theorem scanTriviaFrom_solid {pos size : Nat} {fresh : Bool} {found : List PlacedComment} {t : Text}
    (ht : startsSolid t = true) :
    scanTriviaFrom .between pos fresh found size t = ⟨found.reverse, fresh, false, size, t⟩ := by
  cases t with
  | nil => cases ht
  | cons c cs =>
    simp only [startsSolid, isSolid, Bool.and_eq_true, Bool.not_eq_true', bne_iff_ne] at ht
    obtain ⟨⟨⟨hspace, hline⟩, hslash⟩, -⟩ := ht
    exact scanTriviaFrom_stop (by simp [hspace]) (by simp [hline]) fun h => absurd h hslash

theorem importLine_append (a : Appendix) (rest : Text) :
    a.importLine ++ rest = "import".toList ++ ' ' :: '\x7b' :: ' ' ::
      (Appendix.runtimeFunction ++ ' ' :: '\x7d' :: ' ' ::
        ("from".toList ++ ' ' :: (quote a.runtimeModule ++ ';' :: rest))) := by
  have hopen : "import \x7b ".toList = "import".toList ++ [' ', '\x7b', ' '] := by decide +kernel
  have hclose : " \x7d from ".toList = ' ' :: '\x7d' :: ' ' :: ("from".toList ++ [' ']) := by
    decide +kernel
  have hparts : ∀ x y name opening closing : Text, x = opening ++ [' ', '\x7b', ' '] →
      y = ' ' :: '\x7d' :: ' ' :: (closing ++ [' ']) →
      x ++ name ++ y ++ quote a.runtimeModule ++ [';'] ++ rest =
        opening ++ ' ' :: '\x7b' :: ' ' :: (name ++ ' ' :: '\x7d' :: ' ' ::
          (closing ++ ' ' :: (quote a.runtimeModule ++ ';' :: rest))) := by
    rintro _ _ name opening closing rfl rfl
    simp
  exact hparts _ _ _ _ _ hopen hclose

theorem importLine_length (a : Appendix) (rest : Text) : 6 ≤ (a.importLine ++ rest).length := by
  rw [importLine_append, List.length_append]
  exact Nat.le_add_right 6 _

namespace LexState

variable {s : LexState} {t rest : Text} {tok : Tok} {size : Nat}

/-- One token is read, and the rest is left. -/
structure Reads (s : LexState) (token : Token) (next : LexState) (rest : Text) : Prop where
  valid : token.tok ≠ .eof ∧ token.tok ≠ .invalid
  read : lexToken s = (token, next)
  left : next.rest = rest
  nest : next.nest = (track s token.freshLine token.tok).2

theorem Reads.lexFrom_eq {token : Token} {next : LexState} (h : Reads s token next rest) (n : Nat) :
    lexFrom (n + 1) s = token :: lexFrom n next := by
  rw [lexFrom_succ, h.read, if_neg (by simp [h.valid])]

theorem reads_of_trivia {r : Trivia} (hout : s.inTemplate = false) (htrivia : s.trivia = r)
    (hclosed : r.unclosed = false) (htok : tok ≠ .eof ∧ tok ≠ .invalid)
    (hscan : scanToken s.operand r.rest = some ⟨tok, size, rest⟩) :
    ∃ token next, Reads s token next rest ∧ token.tok = tok ∧ token.freshLine = r.freshLine := by
  have hfound : s.found? s.trivia = some ⟨tok, size, rest⟩ := by
    rw [htrivia, found?, scan, hout, hclosed]
    exact hscan
  have hread : lexToken s = s.take r ⟨tok, size, rest⟩ := by
    rw [lexToken_of_found hfound, htrivia]
  exact ⟨_, _, ⟨htok, hread, rfl, rfl⟩, rfl, rfl⟩

theorem trivia_spaced (hout : s.inTemplate = false) (hrest : s.rest = ' ' :: t)
    (ht : startsSolid t = true) : s.trivia = ⟨[], false, false, 1, t⟩ := by
  rw [trivia, hout, hrest]
  exact scanTriviaFrom_solid ht

/-- A token after one space. -/
theorem reads_spaced (hout : s.inTemplate = false) (hrest : s.rest = ' ' :: t)
    (ht : startsSolid t = true) (htok : tok ≠ .eof ∧ tok ≠ .invalid)
    (hscan : scanToken s.operand t = some ⟨tok, size, rest⟩) :
    ∃ token next, Reads s token next rest ∧ token.tok = tok ∧ token.freshLine = false :=
  reads_of_trivia hout (trivia_spaced hout hrest ht) rfl htok hscan

/-- A word after one space. -/
theorem reads_word {w : Text} (hout : s.inTemplate = false) (hw : isPlainWord w = true)
    (hrest : s.rest = ' ' :: (w ++ rest)) (hend : endsWord rest = true) :
    ∃ token next, Reads s token next rest ∧ token.tok = .ofWord w ∧ token.freshLine = false :=
  reads_spaced hout hrest (startsSolid_word hw _) (Tok.ofWord_valid w)
    (scanToken_word s.operand hw hend)

/-- The trivia before a text that starts a new line. -/
theorem AtLineEnd.trivia_on (h : s.AtLineEnd) (ht : startsSolid t = true) :
    ∃ found size, (s.on ('\n' :: t)).trivia = ⟨found, true, false, size, t⟩ := by
  obtain ⟨hout, pos, found, size, hread⟩ := h
  refine ⟨found.reverse, size, ?_⟩
  rw [LexState.trivia_on hout, hread, scanTriviaFrom_solid ht]

/-- A word at the start of a line. -/
theorem reads_first_word {w : Text} (hs : s.AtLineEnd) (hw : isPlainWord w = true) (rest : Text) :
    ∃ token next, Reads (s.on ('\n' :: (w ++ ' ' :: rest))) token next (' ' :: rest) ∧
      token.tok = .ofWord w ∧ token.freshLine = true := by
  obtain ⟨found, size, htrivia⟩ := hs.trivia_on (startsSolid_word hw (' ' :: rest))
  have hout : (s.on ('\n' :: (w ++ ' ' :: rest))).inTemplate = false := hs.1
  exact reads_of_trivia hout htrivia rfl (Tok.ofWord_valid w) (scanToken_word s.operand hw rfl)

/-- In a template no token is a name. -/
theorem lexToken_template_ne_name (hin : s.inTemplate = true) (id : Text) :
    (lexToken s).1.tok ≠ .name id := by
  rw [lexToken_eq]
  cases hfound : s.found? s.trivia with
  | none => simp
  | some found =>
    simp only [found?, scan, hin, if_true] at hfound
    split at hfound
    · cases hfound
    · rcases scanTemplate_value hfound with hvalue | hvalue | ⟨_, hvalue⟩ <;> simp [take, hvalue]

theorem exists_lexFrom_succ (n : Nat) (s : LexState) :
    ∃ more, lexFrom (n + 1) s = (lexToken s).1 :: more := by
  rw [lexFrom_succ]
  split
  · exact ⟨[], rfl⟩
  · exact ⟨_, rfl⟩

/-- The tokens of an import line after a line end. -/
theorem lexFrom_importLine (hs : s.AtLineEnd) (a : Appendix) (rest : Text) (n : Nat) :
    ∃ w l m r f more, lexFrom (n + 6) (s.on ('\n' :: (a.importLine ++ rest))) =
        w :: l :: m :: r :: f :: more ∧
      w.tok = .keyword .kwImport ∧ w.freshLine = true ∧ l.tok = .punct .lbrace ∧
      l.freshLine = false ∧ m.tok = .name Appendix.runtimeFunction ∧ r.tok = .punct .rbrace ∧
      (f.tok = .name "from".toList → ∃ q more', more = q :: more' ∧
        q.tok = .string a.runtimeModule) := by
  rw [importLine_append]
  obtain ⟨w, s₁, hw, hwtok, hwfresh⟩ := reads_first_word hs (w := "import".toList)
    (by decide +kernel) ('\x7b' :: ' ' :: (Appendix.runtimeFunction ++ ' ' :: '\x7d' :: ' ' ::
      ("from".toList ++ ' ' :: (quote a.runtimeModule ++ ';' :: rest))))
  replace hwtok : w.tok = .keyword .kwImport := hwtok.trans (by decide +kernel)
  have hout₁ : s₁.inTemplate = false := by
    simp only [inTemplate, hw.nest, hwtok, track, trackKeyword]
    split <;> exact hs.1
  obtain ⟨l, s₂, hl, hltok, hlfresh⟩ := reads_spaced hout₁ hw.left rfl (Tok.punct_valid .lbrace)
    (scanToken_lone s₁.operand (by decide) _)
  have hout₂ : s₂.inTemplate = false := by
    simp only [inTemplate, hl.nest, hltok, track, trackPunct]
    split <;> rfl
  obtain ⟨m, s₃, hm, hmtok, -⟩ := reads_word hout₂ (by decide +kernel) hl.left rfl
  replace hmtok : m.tok = .name Appendix.runtimeFunction := hmtok.trans (by decide +kernel)
  have hout₃ : s₃.inTemplate = false := by
    rw [inTemplate, hm.nest, hmtok]
    exact hout₂
  obtain ⟨r, s₄, hr, hrtok, -⟩ := reads_spaced hout₃ hm.left rfl (Tok.punct_valid .rbrace)
    (scanToken_lone s₃.operand (by decide) _)
  cases hin : s₄.inTemplate with
  | true =>
    obtain ⟨more, hmore⟩ := exists_lexFrom_succ (n + 1) s₄
    refine ⟨w, l, m, r, _, more, ?_, hwtok, hwfresh, hltok, hlfresh, hmtok, hrtok,
      fun hf => absurd hf (lexToken_template_ne_name hin _)⟩
    rw [hw.lexFrom_eq, hl.lexFrom_eq, hm.lexFrom_eq, hr.lexFrom_eq, hmore]
  | false =>
    obtain ⟨f, s₅, hf, hftok, -⟩ := reads_word hin (by decide +kernel) hr.left rfl
    replace hftok : f.tok = .name "from".toList := hftok.trans (by decide +kernel)
    have hout₅ : s₅.inTemplate = false := by
      rw [inTemplate, hf.nest, hftok]
      exact hin
    obtain ⟨q, s₆, hq, hqtok, -⟩ := reads_spaced hout₅ hf.left rfl (by simp)
      (scanToken_quote s₅.operand a.runtimeModule (';' :: rest))
    refine ⟨w, l, m, r, f, q :: lexFrom n s₆, ?_, hwtok, hwfresh, hltok, hlfresh, hmtok, hrtok,
      fun _ => ⟨q, lexFrom n s₆, rfl, hqtok⟩⟩
    rw [hw.lexFrom_eq, hl.lexFrom_eq, hm.lexFrom_eq, hr.lexFrom_eq, hf.lexFrom_eq, hq.lexFrom_eq]

end LexState

end StoryExports.Script
