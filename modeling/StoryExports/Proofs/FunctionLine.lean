import StoryExports.Proofs.TextsAlone

/-!
# A function at the start of a line

A function is read in the same way behind `export default` and without it, but there it may have no
name.
-/
namespace StoryExports

theorem Text.Leaves.eq_bytes {a b : Text} {n : Nat} (h : Leaves (a ++ b) n b) : n = a.bytes := by
  have hsize := h.size
  rw [bytes_append] at hsize
  omega

namespace Script

open Parse

/-- A function, up to and with its first parenthesis, and the text behind it. -/
def plainFunction (name rest : Text) : Text := "function".toList ++ ' ' :: (name ++ '(' :: rest)

/-- The same function as the default of a module. -/
def defaultFunction (name rest : Text) : Text := "export default ".toList ++ plainFunction name rest

theorem defaultFunction_eq (name rest : Text) :
    defaultFunction name rest =
      "export".toList ++ ' ' :: ("default".toList ++ ' ' :: plainFunction name rest) := by
  have hexport : "export default ".toList = "export".toList ++ ' ' :: ("default".toList ++ [' ']) :=
    rfl
  unfold defaultFunction
  rw [hexport]
  simp only [List.append_assoc, List.cons_append, List.nil_append]

theorem plainFunction_append (name rest u : Text) :
    plainFunction name rest ++ u = plainFunction name (rest ++ u) := by
  unfold plainFunction
  rw [List.append_assoc, List.cons_append, List.append_assoc, List.cons_append]

theorem defaultFunction_append (name rest u : Text) :
    defaultFunction name rest ++ u = defaultFunction name (rest ++ u) := by
  unfold defaultFunction
  rw [List.append_assoc, plainFunction_append]

theorem startsSolid_plainFunction (name rest : Text) :
    startsSolid (plainFunction name rest) = true := by
  unfold plainFunction
  exact startsSolid_word rfl _

theorem startsSolid_defaultFunction (name rest : Text) :
    startsSolid (defaultFunction name rest) = true := by
  rw [defaultFunction_eq]
  exact startsSolid_word rfl _

/-! ### Tokens -/

namespace LexState

variable {s s' : LexState} {w t : Text}

theorem Reads.run {token : Token} (h : Reads s token s' t) : Run s [token] s' := by
  have hvalid := h.valid
  rw [show token = (lexToken s).1 by rw [h.read]] at hvalid ⊢
  rw [show s' = (lexToken s).2 by rw [h.read]]
  exact .token hvalid (.stay _)

/-- A token starts behind the trivia. -/
theorem Reads.place {token : Token} {code : Text} (h : Reads s token s' t) (hs : s.In code) :
    code.Leaves token.span.start s.trivia.rest := by
  obtain ⟨found, hfound⟩ := exists_found (by rw [h.read]; exact h.valid.2)
  obtain ⟨rfl, -⟩ := Prod.mk.inj (h.read.symm.trans (lexToken_of_found hfound))
  obtain ⟨n, hsize, hleaves⟩ := s.trivia_of
  rw [Nat.zero_add] at hsize
  exact (hs.trans hleaves).of_eq (by rw [← hsize])

/-- A word behind any trivia. -/
theorem reads_word_of_trivia (hout : s.inTemplate = false) (hclosed : s.trivia.unclosed = false)
    (hw : isPlainWord w = true) (hrest : s.trivia.rest = w ++ t) (hend : endsWord t = true) :
    ∃ token next, Reads s token next t ∧ token.tok = .ofWord w ∧
      token.freshLine = s.trivia.freshLine := by
  have hscan := scanToken_word s.operand hw hend
  rw [← hrest] at hscan
  exact reads_of_trivia hout rfl hclosed (Tok.ofWord_valid w) hscan

theorem nest_of_isSettled (h : s.isSettled = true) : s.nest = [] := by
  simp only [isSettled, Bool.and_eq_true, List.isEmpty_iff] at h
  exact h.1.1

theorem inTemplate_of_nest (h : s.nest = []) : s.inTemplate = false := by
  rw [inTemplate, h]
  rfl

theorem exists_eq_on {u : Text} (h : s.rest = t ++ u) :
    ∃ s₀ : LexState, s₀.rest = t ∧ s = s₀.on u := by
  refine ⟨{ s with rest := t }, rfl, ?_⟩
  cases s
  cases h
  rfl

theorem isSettled_start (t : Text) : (start t).isSettled = true := rfl

theorem trivia_start {c : Char} (hc : c ≠ '#') (ht : startsSolid (c :: t) = true) :
    (start (c :: t)).trivia = ⟨[], false, false, 0, c :: t⟩ := by
  rw [start, skipHashbang_of_ne hc]
  exact scanTriviaFrom_solid ht

/-- Behind the word `function` of a declaration that nothing else surrounds. -/
def inFunction : LexState := ⟨0, [], some (.keyword .kwFunction), false, [.definition false]⟩

theorem after_function (h : s.isSettled = true) {f : Token} (hf : f.tok = .keyword .kwFunction)
    (hfresh : f.freshLine = true) : SameContext (s.after f) inFunction := by
  simp only [isSettled, Bool.and_eq_true, List.isEmpty_iff, Bool.not_eq_true'] at h
  obtain ⟨⟨hnest, hoperand⟩, hproperty⟩ := h
  refine ⟨congrArg some hf, ?_, ?_⟩ <;>
    simp [after, track, hf, trackKeyword, hproperty, hoperand, hfresh, hnest, inFunction]

theorem after_defaultFunction (h : s.isSettled = true) {w d f : Token}
    (hw : w.tok = .keyword .kwExport) (hd : d.tok = .keyword .kwDefault)
    (hf : f.tok = .keyword .kwFunction) :
    (s.after w).nest = [] ∧ ((s.after w).after d).nest = [] ∧
      SameContext (((s.after w).after d).after f) inFunction := by
  simp only [isSettled, Bool.and_eq_true, List.isEmpty_iff, Bool.not_eq_true'] at h
  obtain ⟨⟨hnest, -⟩, hproperty⟩ := h
  have hexport : (s.after w).nest = [] := by simp [after, track, hw, trackKeyword, hproperty, hnest]
  have hdefault : ((s.after w).after d).nest = [] := by
    rw [after, hd, track, trackKeyword]
    simp [namesProperty, hexport, show (s.after w).before = some _ from congrArg some hw]
  refine ⟨hexport, hdefault, congrArg some hf, ?_, ?_⟩ <;>
  · rw [after, hf, track, trackKeyword]
    simp [namesProperty, startsOperand, hdefault, inFunction,
      show ((s.after w).after d).before = some _ from congrArg some hd]

section Lines

variable {name rest : Text}

/-- The keywords of a default function are read where a statement may start. -/
theorem exists_run_defaultFunction (hs : s.isSettled = true) (hclosed : s.trivia.unclosed = false)
    (hrest : s.trivia.rest = defaultFunction name rest) :
    ∃ w d f next, Run s [w, d, f] next ∧ w.tok = .keyword .kwExport ∧
      d.tok = .keyword .kwDefault ∧ f.tok = .keyword .kwFunction ∧
      w.freshLine = s.trivia.freshLine ∧ next.rest = ' ' :: (name ++ '(' :: rest) ∧
      SameContext next inFunction ∧
      ∀ code, s.In code → code.Leaves w.span.start (defaultFunction name rest) ∧
        code.Leaves f.span.start (plainFunction name rest) := by
  rw [defaultFunction_eq] at hrest
  obtain ⟨w, s₁, hw, hexport, hfresh⟩ := reads_word_of_trivia
    (inTemplate_of_nest (nest_of_isSettled hs)) hclosed rfl hrest rfl
  replace hexport : w.tok = .keyword .kwExport := hexport
  have hnest : s₁.nest = [] := by
    rw [hw.run.sameContext.nest]
    exact (after_defaultFunction (d := ⟨_, default, false, []⟩) (f := ⟨_, default, false, []⟩) hs
      hexport rfl rfl).1
  obtain ⟨d, s₂, hd, hdefault, -⟩ := reads_word (inTemplate_of_nest hnest) rfl hw.left rfl
  replace hdefault : d.tok = .keyword .kwDefault := hdefault
  have hrun := hw.run.append hd.run
  have hnest' : s₂.nest = [] := by
    rw [hrun.sameContext.nest]
    exact (after_defaultFunction (f := ⟨_, default, false, []⟩) hs hexport hdefault rfl).2.1
  have htrivia := trivia_spaced (inTemplate_of_nest hnest') hd.left
    (startsSolid_plainFunction name rest)
  obtain ⟨f, next, hf, hfunction, -⟩ := reads_word (inTemplate_of_nest hnest') rfl hd.left rfl
  replace hfunction : f.tok = .keyword .kwFunction := hfunction
  have hall := hrun.append hf.run
  refine ⟨w, d, f, next, hall, hexport, hdefault, hfunction, hfresh, hf.left,
    hall.sameContext.trans (after_defaultFunction hs hexport hdefault hfunction).2.2,
    fun code hcode => ⟨?_, ?_⟩⟩
  · rw [defaultFunction_eq, ← hrest]
    exact hw.place hcode
  · have hplace := hf.place (hrun.in_text hcode).1
    rwa [htrivia] at hplace

/-- So is the keyword of a function on a new line, and what follows it is read in the same way. -/
theorem exists_run_plainFunction (hs : s.isSettled = true) (hclosed : s.trivia.unclosed = false)
    (hfresh : s.trivia.freshLine = true) (hrest : s.trivia.rest = plainFunction name rest) :
    ∃ f next, Run s [f] next ∧ f.tok = .keyword .kwFunction ∧ f.freshLine = true ∧
      next.rest = ' ' :: (name ++ '(' :: rest) ∧ SameContext next inFunction := by
  obtain ⟨f, next, hf, hfunction, hline⟩ := reads_word_of_trivia
    (inTemplate_of_nest (nest_of_isSettled hs)) hclosed rfl hrest rfl
  replace hfunction : f.tok = .keyword .kwFunction := hfunction
  rw [hfresh] at hline
  exact ⟨f, next, hf.run, hfunction, hline, hf.left,
    hf.run.sameContext.trans (after_function hs hfunction hline)⟩

theorem SameContext.inFunction_inTemplate (h : SameContext s inFunction) :
    s.inTemplate = false := by
  rw [h.inTemplate]
  rfl

/-- The name of the function. -/
theorem exists_run_name (hs : SameContext s inFunction) (hname : Name.isBindable name = true)
    (hrest : s.rest = ' ' :: (name ++ '(' :: rest)) :
    ∃ n next, Run s [n] next ∧ n.tok = .name name ∧ n.freshLine = false ∧
      next.rest = '(' :: rest ∧ SameContext next (inFunction.after n) := by
  obtain ⟨n, next, hn, htok, hfresh⟩ := reads_word hs.inFunction_inTemplate
    (isPlainWord_of_isIdentifier (Bool.and_eq_true_iff.mp hname).1) hrest rfl
  exact ⟨n, next, hn.run, htok.trans (Tok.ofWord_of_isBindable hname), hfresh, hn.left,
    hn.run.sameContext.trans (hs.after n)⟩

end Lines

end LexState

/-! ### Texts -/

section Texts

variable {before name rest : Text} {tokens : List Token} {e : Token}

/-- The line behind a text that stands alone starts where a statement may start. -/
theorem StandsAlone.run_line (h : StandsAlone before tokens e) {t : Text}
    (ht : startsSolid t = true) :
    (∀ token ∈ tokens, token.tok ≠ .eof) ∧
      ∃ s, LexState.Run (.start (before ++ '\n' :: t)) tokens s ∧ s.isSettled = true ∧
        s.trivia.unclosed = false ∧ s.trivia.freshLine = true ∧ s.trivia.rest = t := by
  obtain ⟨hinner, last, hend, hsettled, hrun⟩ := h.run
  have hne : t ≠ [] := by
    rintro rfl
    cases ht
  obtain ⟨found, size, htrivia⟩ := hend.trivia_on ht
  refine ⟨hinner, last.on ('\n' :: t), hrun t hne, hsettled, ?_, ?_, ?_⟩ <;> rw [htrivia]

/-- The keywords of a default function behind a text that stands alone. -/
theorem StandsAlone.run_defaultFunction (h : StandsAlone before tokens e) (name rest : Text) :
    (∀ t ∈ tokens, t.tok ≠ .eof) ∧ ∃ w d f next,
      LexState.Run (.start (before ++ '\n' :: defaultFunction name rest)) (tokens ++ [w, d, f])
        next ∧
      w.tok = .keyword .kwExport ∧ d.tok = .keyword .kwDefault ∧ f.tok = .keyword .kwFunction ∧
      w.freshLine = true ∧ next.rest = ' ' :: (name ++ '(' :: rest) ∧
      next.SameContext .inFunction ∧
      w.span.start = (before ++ ['\n']).bytes ∧
      f.span.start = (before ++ '\n' :: "export default ".toList).bytes := by
  obtain ⟨hinner, s, hrun, hsettled, hclosed, hline, hrest⟩ :=
    h.run_line (startsSolid_defaultFunction name rest)
  obtain ⟨w, d, f, next, hkeywords, hw, hd, hf, hfresh, hleft, hcontext, hplace⟩ :=
    LexState.exists_run_defaultFunction hsettled hclosed hrest
  obtain ⟨hstart, hkeyword⟩ := hplace _ (hrun.in_text (skipHashbang_of _)).1
  refine ⟨hinner, w, d, f, next, hrun.append hkeywords, hw, hd, hf, hfresh.trans hline, hleft,
    hcontext, ?_, ?_⟩
  · exact Text.Leaves.eq_bytes (b := defaultFunction name rest) (by simpa using hstart)
  · refine Text.Leaves.eq_bytes (b := plainFunction name rest) ?_
    rw [List.append_assoc, List.cons_append]
    exact hkeyword

/-- The keyword of a function behind a text that stands alone. -/
theorem StandsAlone.run_plainFunction (h : StandsAlone before tokens e) (name rest : Text) :
    (∀ t ∈ tokens, t.tok ≠ .eof) ∧ ∃ f next,
      LexState.Run (.start (before ++ '\n' :: plainFunction name rest)) (tokens ++ [f]) next ∧
      f.tok = .keyword .kwFunction ∧ f.freshLine = true ∧
      next.rest = ' ' :: (name ++ '(' :: rest) ∧ next.SameContext .inFunction := by
  obtain ⟨hinner, s, hrun, hsettled, hclosed, hline, hrest⟩ :=
    h.run_line (startsSolid_plainFunction name rest)
  obtain ⟨f, next, hkeyword, hf, hfresh, hleft, hcontext⟩ :=
    LexState.exists_run_plainFunction hsettled hclosed hline hrest
  exact ⟨hinner, f, next, hrun.append hkeyword, hf, hfresh, hleft, hcontext⟩

theorem exists_defaultFunction_eq_cons (name rest : Text) :
    ∃ u, defaultFunction name rest = 'e' :: u := by
  have hexport : "export".toList = 'e' :: "xport".toList := rfl
  rw [defaultFunction_eq, hexport]
  exact ⟨_, List.cons_append⟩

/-- A default function that stands alone, behind its name. -/
structure BehindName (name rest : Text) (n : Token) (more : List Token) (s last : LexState) :
    Prop where
  tok : n.tok = .name name
  fresh : n.freshLine = false
  context : s.SameContext (LexState.inFunction.after n)
  left : s.rest = '(' :: rest
  inner : ∀ t ∈ more, t.tok ≠ .eof
  count : more.length ≤ s.rest.length
  ends : last.AtLineEnd
  closed : last.nest = []
  run : ∀ u, u ≠ [] → LexState.Run (s.on ('\n' :: u)) more (last.on ('\n' :: u))

/-- The tokens of a default function that stands alone. -/
theorem StandsAlone.functionTokens (h : StandsAlone (defaultFunction name rest) tokens e)
    (hname : Name.isBindable name = true) :
    ∃ w d f n more s last, tokens = w :: d :: f :: n :: more ∧ w.tok = .keyword .kwExport ∧
      d.tok = .keyword .kwDefault ∧ f.tok = .keyword .kwFunction ∧
      BehindName name rest n more s last := by
  have hlexed := h.lexed
  rw [defaultFunction_append] at hlexed
  have hsolid := startsSolid_defaultFunction name (rest ++ ['\n', '\n'])
  have htrivia : (LexState.start (defaultFunction name (rest ++ ['\n', '\n']))).trivia =
      ⟨[], false, false, 0, defaultFunction name (rest ++ ['\n', '\n'])⟩ := by
    obtain ⟨u, hu⟩ := exists_defaultFunction_eq_cons name (rest ++ ['\n', '\n'])
    rw [hu] at hsolid ⊢
    exact LexState.trivia_start (by decide) hsolid
  obtain ⟨w, d, f, s₁, hkeywords, hw, hd, hf, -, hleft, hcontext, -⟩ :=
    LexState.exists_run_defaultFunction (s := .start (defaultFunction name (rest ++ ['\n', '\n'])))
      (LexState.isSettled_start _) (by rw [htrivia]) (by rw [htrivia])
  obtain ⟨n, s₂, hrun, hn, hfresh, hleft₂, hcontext₂⟩ :=
    LexState.exists_run_name hcontext hname hleft
  have hall := hkeywords.append hrun
  obtain ⟨-, k, hk, hlex⟩ := hall.lex_eq
  -- The rest of the tokens, with the end behind them.
  obtain ⟨more, e', hmore⟩ : ∃ more e', lexFrom k s₂ = more ++ [e'] := by
    obtain ⟨k, rfl⟩ := Nat.exists_eq_succ_of_ne_zero (Nat.ne_zero_of_lt hk)
    obtain ⟨after, hafter⟩ := LexState.exists_lexFrom_succ k s₂
    rcases List.eq_nil_or_concat (lexFrom (k + 1) s₂) with hnil | ⟨more, e', hmore⟩
    · rw [hafter] at hnil
      cases hnil
    · exact ⟨more, e', by rw [hmore, List.concat_eq_append]⟩
  rw [hlexed, hmore, ← List.append_assoc] at hlex
  obtain ⟨rfl, hlast⟩ := List.append_inj' hlex rfl
  obtain rfl := List.singleton_inj.mp hlast
  obtain ⟨s, hs, rfl⟩ := LexState.exists_eq_on (t := '(' :: rest) hleft₂
  obtain ⟨hcount, hinner, last, hend, hafter⟩ := LexState.lexFrom_break h.eof hmore
  refine ⟨w, d, f, n, more, s, last, rfl, hw, hd, hf, hn, hfresh,
    ⟨hcontext₂.before, hcontext₂.operand, hcontext₂.nest⟩, hs, hinner, hcount, hend, ?_, hafter⟩
  have hwhole := (hall.append (hafter ['\n'] (by simp))).sameContext
  have hsettled := h.settled
  rw [← ((LexState.start_sameContext _ _).foldl _).isSettled, ← hwhole.isSettled] at hsettled
  exact LexState.nest_of_isSettled (s := last.on ['\n', '\n']) hsettled

end Texts

end Script

end StoryExports
