import StoryExports.Proofs.ImportLine
import StoryExports.Proofs.StoryNames

/-!
# Texts written token by token

A text that is put together from the spellings of tokens, with blanks between them, is read as
those tokens. Which spelling a token has may depend on what follows it: a word goes on as long as
it can. What stands before it does not matter, as long as no template is open.
-/
namespace StoryExports.Script

open Json (quote)

/-- Characters that separate tokens. -/
def isGap (c : Char) : Bool := isSpace c || isLineBreak c

/-- A text in front of another one is the spelling of a token. -/
structure Spells (w : Text) (tok : Tok) (rest : Text) : Prop where
  solid : startsSolid w = true
  scan : ∀ operand, scanToken operand (w ++ rest) = some ⟨tok, w.bytes, rest⟩
  valid : tok ≠ .eof ∧ tok ≠ .invalid
  plain : tok ≠ .punct .backtick

/-- A text is made of spellings of tokens and the gaps between them. -/
inductive Written : Text → List Tok → Prop
  | stop {gap : Text} (hgap : gap.all isGap = true) : Written gap []
  | token (gap : Text) {w rest : Text} {tok : Tok} {toks : List Tok} (hgap : gap.all isGap = true)
      (hw : Spells w tok rest) (hrest : Written rest toks) :
      Written (gap ++ (w ++ rest)) (tok :: toks)

/-! ### Reading what is written -/

theorem scanTriviaFrom_gap {gap : Text} (hgap : gap.all isGap = true) (pos size : Nat)
    (fresh : Bool) (found : List PlacedComment) :
    ∃ pos' size' fresh', ∀ t, scanTriviaFrom .between pos fresh found size (gap ++ t) =
      scanTriviaFrom .between pos' fresh' found size' t := by
  induction gap generalizing pos size fresh with
  | nil => exact ⟨pos, size, fresh, fun t => rfl⟩
  | cons c gap ih =>
    obtain ⟨hc, hgap⟩ : isGap c = true ∧ gap.all isGap = true := by simpa using hgap
    cases hspace : isSpace c with
    | true =>
      obtain ⟨pos', size', fresh', h⟩ := ih hgap (pos + c.utf8Size) (size + c.utf8Size) fresh
      refine ⟨pos', size', fresh', fun t => ?_⟩
      rw [List.cons_append, scanTriviaFrom_between_cons, if_pos hspace, h]
    | false =>
      have hline : isLineBreak c = true := by simpa [isGap, hspace] using hc
      obtain ⟨pos', size', fresh', h⟩ := ih hgap (pos + c.utf8Size) (size + c.utf8Size) true
      refine ⟨pos', size', fresh', fun t => ?_⟩
      rw [List.cons_append, scanTriviaFrom_between_cons, if_neg (by simp [hspace]), if_pos hline, h]

theorem LexState.unmarked_subset (s : LexState) : s.unmarked ⊆ s.nest :=
  (List.dropWhile_suffix _).subset

theorem LexState.openAt_subset (s : LexState) (p : Punct) : s.openAt p ⊆ s.nest := by
  intro n hn
  apply s.unmarked_subset
  unfold openAt at hn
  split at hn
  · rename_i hunmarked
    rw [hunmarked]
    split at hn
    · exact List.mem_cons_of_mem _ hn
    · exact hn
  · rename_i hunmarked
    rw [hunmarked]
    split at hn
    · exact List.mem_cons_of_mem _ hn
    · exact hn
  · exact hn

theorem closeNest_subset (nest : List Nest) : (closeNest nest).2 ⊆ nest := by
  intro n hn
  have hsuffix : nest.dropWhile (!·.isBracket) <:+ nest := List.dropWhile_suffix _
  unfold closeNest at hn
  split at hn <;> rename_i heq <;> rw [heq] at hsuffix
  · cases hn
  · exact hsuffix.subset (by simp [hn])
  · exact hsuffix.subset (by simp [hn])

/-- Only a backtick opens a template. -/
theorem track_nest {s : LexState} {tok : Tok} (hs : .template ∉ s.nest)
    (htok : tok ≠ .punct .backtick) (fresh : Bool) : .template ∉ (track s fresh tok).2 := by
  cases tok with
  | name id =>
    simp only [track, trackName]
    split
    · have hunmarked : .template ∉ s.unmarked := fun h => hs (s.unmarked_subset h)
      split <;> simp [hunmarked]
    · exact hs
  | keyword k =>
    simp only [track, trackKeyword]
    split
    · exact hs
    split
    · simp [hs]
    split <;> simp [hs]
  | punct p =>
    have hopen : .template ∉ s.openAt p := fun h => hs (s.openAt_subset p h)
    simp only [track, trackPunct]
    split
    · split <;> simp [hopen]
    · simp [hopen]
    · split <;> simp [hopen]
    · exact fun h => hopen (closeNest_subset _ h)
    · exact fun h => hopen (closeNest_subset _ h)
    · exact absurd rfl htok
    · simp [hopen]
    · split <;> simp_all
    · exact fun h => hopen ((List.dropWhile_suffix _).subset h)
    all_goals exact hopen
  | _ => exact hs

namespace LexState

variable {s : LexState} {gap t : Text}

theorem trivia_gap (hs : .template ∉ s.nest) (hgap : gap.all isGap = true)
    (hrest : s.rest = gap ++ t) :
    s.inTemplate = false ∧ ∃ pos size fresh,
      s.trivia = scanTriviaFrom .between pos fresh [] size t := by
  have hout : s.inTemplate = false := by
    simp only [inTemplate, beq_eq_false_iff_ne]
    exact fun h => hs (List.mem_of_mem_head? h)
  obtain ⟨pos, size, fresh, h⟩ := scanTriviaFrom_gap hgap s.pos 0 false []
  refine ⟨hout, pos, size, fresh, ?_⟩
  rw [trivia, hout, hrest]
  exact h t

end LexState

theorem startsSolid_append {w : Text} (hw : startsSolid w = true) (rest : Text) :
    startsSolid (w ++ rest) = true := by
  cases w with
  | nil => cases hw
  | cons c w => exact hw

/-- The lexer reads the tokens that are written, and then the end. -/
theorem Written.lexFrom_map {t : Text} {toks : List Tok} (h : Written t toks) {s : LexState}
    (hrest : s.rest = t) (hs : .template ∉ s.nest) {n : Nat} (hn : t.length < n) :
    (lexFrom n s).map (·.tok) = toks ++ [.eof] := by
  induction h generalizing s n with
  | stop hgap =>
    obtain ⟨n, rfl⟩ := Nat.exists_eq_succ_of_ne_zero (Nat.ne_zero_of_lt hn)
    obtain ⟨hout, pos, size, fresh, htrivia⟩ :=
      LexState.trivia_gap (t := []) hs hgap (hrest.trans (List.append_nil _).symm)
    have hfound : s.found? s.trivia = some ⟨.eof, 0, []⟩ := by
      rw [htrivia, LexState.found?, LexState.scan, hout]
      rfl
    have htok : (lexToken s).1.tok = .eof := by rw [LexState.lexToken_of_found hfound]; rfl
    rw [Nat.succ_eq_add_one, LexState.lexFrom_succ, if_pos (.inl htok), List.map_singleton, htok]
    rfl
  | @token gap w rest tok toks hgap hw hwritten ih =>
    obtain ⟨n, rfl⟩ := Nat.exists_eq_succ_of_ne_zero (Nat.ne_zero_of_lt hn)
    obtain ⟨hout, pos, size, fresh, htrivia⟩ := LexState.trivia_gap hs hgap hrest
    rw [scanTriviaFrom_solid (startsSolid_append hw.solid rest)] at htrivia
    obtain ⟨token, next, hread, htok, -⟩ :=
      LexState.reads_of_trivia hout htrivia rfl hw.valid (hw.scan s.operand)
    have hshort : rest.length < n := by
      have hpos : 0 < w.length := by
        rw [List.length_pos_iff]
        rintro rfl
        exact absurd hw.solid (by decide)
      simp only [List.length_append] at hn
      omega
    have hnest : .template ∉ next.nest := by
      rw [hread.nest]
      exact track_nest hs (htok ▸ hw.plain) _
    rw [Nat.succ_eq_add_one, hread.lexFrom_eq, List.map_cons, htok, ih hread.left hnest hshort]
    rfl

/-- A module that is written token by token, and does not start with a mark, is parsed from those
tokens. -/
theorem parseModule_of_written {c : Char} {u : Text} {toks : List Tok} (hhash : c ≠ '#')
    (hmark : c.toNat ≠ 0xFEFF) (h : Written (c :: u) toks) (language : Language) :
    ∃ tokens, tokens.map (·.tok) = toks ++ [.eof] ∧
      parseModule language (c :: u) = parseTokens language tokens := by
  refine ⟨lex (c :: u), ?_, ?_⟩
  · simp only [lex, skipHashbang_of_ne hhash]
    exact h.lexFrom_map rfl (by simp) (Nat.lt_succ_self _)
  · rw [parseModule, withoutMark, if_neg hmark]

/-! ### Names -/

theorem isSolid_of_isNameStart {c : Char} (hc : c.toNat < 128) (h : Name.isNameStart c = true) :
    isSolid c = true := by
  have hascii : ∀ n < 128, Name.isNameStart (Char.ofNat n) = true →
      isSolid (Char.ofNat n) = true := by
    decide +kernel
  rw [← Char.ofNat_toNat c] at h ⊢
  exact hascii c.toNat hc h

theorem isPlainWord_of_isIdentifier {w : Text} (h : Name.isIdentifier w = true) :
    isPlainWord w = true := by
  have hparts := Name.isNamePart_of_isIdentifier h
  cases w with
  | nil => cases h
  | cons c w =>
    obtain ⟨hc, hw⟩ := List.forall_mem_cons.mp hparts
    have hascii := Name.toNat_lt_of_isNamePart hc
    have hstart : Name.isNameStart c = true := (Bool.and_eq_true_iff.mp h).1
    simp only [isPlainWord, Bool.and_eq_true, List.all_eq_true]
    refine ⟨⟨by rwa [isNameStart, if_pos hascii], isSolid_of_isNameStart hascii hstart⟩,
      fun d hd => ?_⟩
    rw [isNamePart, if_pos (Name.toNat_lt_of_isNamePart (hw d hd))]
    exact hw d hd

theorem Keyword.mem_table_of_ofText? {w : Text} {k : Keyword} (h : ofText? w = some k) :
    ∃ entry ∈ table, entry.1 = k ∧ entry.2.toList = w := by
  obtain ⟨entry, hfind, rfl⟩ := Option.map_eq_some_iff.mp h
  exact ⟨entry, List.mem_of_find?_eq_some hfind, rfl, by simpa using List.find?_some hfind⟩

/-- A word that can be declared is no keyword. -/
theorem Tok.ofWord_of_isBindable {w : Text} (h : Name.isBindable w = true) :
    Tok.ofWord w = .name w := by
  have hreserved : ∀ entry ∈ Keyword.table, entry.2.toList ∈ Name.reservedWords := by
    decide +kernel
  unfold Tok.ofWord
  split
  · rename_i k hk
    obtain ⟨entry, hentry, -, rfl⟩ := Keyword.mem_table_of_ofText? hk
    simp only [Name.isBindable, Bool.and_eq_true, Bool.not_eq_true', List.contains_eq_mem,
      decide_eq_false_iff_not] at h
    exact absurd (hreserved entry hentry) h.2
  · rfl

/-- Each word is the name of a property, also a keyword. -/
theorem wordOf?_ofWord (w : Text) : Parse.wordOf? (.ofWord w) = some w := by
  have htext : ∀ entry ∈ Keyword.table, entry.1.text = entry.2.toList := by decide +kernel
  unfold Tok.ofWord
  split
  · rename_i k hk
    obtain ⟨entry, hentry, rfl, rfl⟩ := Keyword.mem_table_of_ofText? hk
    exact congrArg some (htext entry hentry)
  · rfl

/-! ### Spellings -/

namespace Written

variable {t w : Text} {toks : List Tok}

theorem gap {c : Char} (hc : isGap c = true) (h : Written t toks) : Written (c :: t) toks := by
  cases h with
  | stop hgap => exact .stop (by simp [hc, hgap])
  | @token gap w rest tok toks hgap hw hrest =>
    exact .token (c :: gap) (by simp [hc, hgap]) hw hrest

theorem word {tok : Tok} (hw : isPlainWord w = true) (htok : Tok.ofWord w = tok)
    (ht : endsWord t = true) (h : Written t toks) : Written (w ++ t) (tok :: toks) := by
  subst htok
  have hsolid : startsSolid w = true := by simpa using startsSolid_word hw []
  have hplain : Tok.ofWord w ≠ .punct .backtick := by
    unfold Tok.ofWord
    split <;> simp
  exact .token [] rfl
    ⟨hsolid, fun operand => scanToken_word operand hw ht, Tok.ofWord_valid w, hplain⟩ h

theorem name (hw : Name.isBindable w = true) (ht : endsWord t = true) (h : Written t toks) :
    Written (w ++ t) (.name w :: toks) :=
  h.word (isPlainWord_of_isIdentifier (Bool.and_eq_true_iff.mp hw).1) (Tok.ofWord_of_isBindable hw)
    ht

theorem quoted (u : Text) (h : Written t toks) : Written (quote u ++ t) (.string u :: toks) :=
  .token [] rfl
    ⟨rfl, fun operand => scanToken_quote operand u t, by simp, by simp⟩ h

theorem lone {c : Char} {p : Punct} (hp : (c, p) ∈ Punct.lone) (h : Written t toks) :
    Written (c :: t) (.punct p :: toks) := by
  have hlone : ∀ entry ∈ Punct.lone,
      startsSolid [entry.1] = true ∧ Text.bytes [entry.1] = 1 ∧ entry.2 ≠ .backtick := by decide
  obtain ⟨hsolid, hbytes, hplain⟩ := hlone _ hp
  have hscan : ∀ operand, scanToken operand ([c] ++ t) = some ⟨.punct p, Text.bytes [c], t⟩ := by
    intro operand
    rw [hbytes]
    exact scanToken_lone operand hp t
  exact .token [] rfl ⟨hsolid, hscan, Tok.punct_valid p, by simpa using hplain⟩ h

/-- An equals sign that a space keeps apart from what follows. -/
theorem equals (h : Written t toks) : Written ('=' :: ' ' :: t) (.punct .eq :: toks) := by
  have hspells : Spells ['='] (.punct .eq) (' ' :: t) :=
    ⟨rfl, fun operand => by cases operand <;> rfl, Tok.punct_valid .eq, by decide⟩
  exact .token [] rfl hspells (h.gap rfl)

end Written

/-- A text is made of tokens, whatever follows it. -/
def Writes (t : Text) (toks : List Tok) : Prop :=
  ∀ rest more, Written rest more → Written (t ++ rest) (toks ++ more)

/-! ### Lists -/

section List

variable {α : Type} (f : α → List Tok) (close : Punct)

/-- The tokens of a list: commas between its items, then what closes it. -/
def listed : List α → List Tok
  | [] => [.punct close]
  | [x] => f x ++ [.punct close]
  | x :: y :: xs => f x ++ .punct .comma :: listed (y :: xs)

theorem length_le_listed (xs : List α) :
    xs.length ≤ (listed f close xs).length := by
  fun_induction listed f close xs with
  | case1 => simp
  | case2 x => simp
  | case3 x y xs ih =>
    simp only [List.length_append, List.length_cons] at ih ⊢
    omega

theorem length_le_listed_of_mem {x : α} {xs : List α} (hx : x ∈ xs) :
    (f x).length ≤ (listed f close xs).length := by
  fun_induction listed f close xs with
  | case1 => cases hx
  | case2 y =>
    rw [List.mem_singleton.mp hx, List.length_append]
    exact Nat.le_add_right _ _
  | case3 y z xs ih =>
    simp only [List.length_append, List.length_cons]
    rcases List.mem_cons.mp hx with rfl | hx
    · exact Nat.le_add_right _ _
    · have := ih hx
      omega

theorem written_listed {render : α → Text} {xs : List α} (h : ∀ x ∈ xs, Writes (render x) (f x))
    {t : Text} {toks : List Tok} (hclose : Written t (.punct close :: toks)) :
    Written (Text.join ", ".toList (xs.map render) ++ t) (listed f close xs ++ toks) := by
  have hcomma : ", ".toList = [',', ' '] := rfl
  rw [hcomma]
  fun_induction listed f close xs with
  | case1 => exact hclose
  | case2 x => simpa [Text.join] using h x List.mem_cons_self _ _ hclose
  | case3 x y xs ih =>
    obtain ⟨hx, hrest⟩ := List.forall_mem_cons.mp h
    have hnext := ((ih hrest).gap (c := ' ') rfl).lone (c := ',') (p := .comma) (by decide)
    simpa [Text.join] using hx _ _ hnext

end List

end StoryExports.Script
