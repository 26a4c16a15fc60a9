import StoryExports.Proofs.FunctionLine

/-!
# A script with lines behind it

The keywords `export default` are taken away from a function, and lines are appended. Where the text
before the function and the function itself stand alone, the items before, the function, the items
behind it and the items of the lines are read one after the other.
-/
namespace StoryExports.Script

open Parse

/-! ### Tokens -/

theorem map_tok_of_alike {ts ts' : List Token} (h : List.Forall₂ Token.Alike ts ts') :
    ts.map (·.tok) = ts'.map (·.tok) := by
  induction h with
  | nil => rfl
  | cons ht _ ih => rw [List.map_cons, List.map_cons, ht.1, ih]

namespace LexState

variable {s : LexState}

theorem lexToken_freshLine (s : LexState) : (lexToken s).1.freshLine = s.trivia.freshLine := by
  rw [lexToken_eq]
  split <;> rfl

/-- At the end of a line, the lexer reads on as at the start of the lines that follow. -/
theorem AtLineEnd.alike (h : s.AtLineEnd) (u : Text) :
    Alike (s.on ('\n' :: u)) ⟨0, '\n' :: u, s.before, s.operand, s.nest⟩ := by
  obtain ⟨hout, pos, found, size, hread⟩ := h
  refine ⟨⟨rfl, rfl, rfl⟩, ?_⟩
  have hout' : LexState.inTemplate ⟨0, '\n' :: u, s.before, s.operand, s.nest⟩ = false := hout
  rw [LexState.trivia_on hout, hread, LexState.trivia, hout']
  exact scanTriviaFrom_shape .between ..

theorem AtLineEnd.freshLine (h : s.AtLineEnd) (u : Text) :
    (lexToken (s.on ('\n' :: u))).1.freshLine = true := by
  obtain ⟨hout, pos, found, size, hread⟩ := h
  rw [lexToken_freshLine, LexState.trivia_on hout, hread, scanTriviaFrom_freshLine]

/-- Lines that are written token by token, behind the end of a line. -/
theorem AtLineEnd.lexFrom_written (h : s.AtLineEnd) (hnest : s.nest = []) {u : Text}
    {toks : List Tok} (hwritten : Written ('\n' :: u) toks) {k : Nat} (hk : u.length + 1 < k) :
    ∃ first others, lexFrom k (s.on ('\n' :: u)) = first :: others ∧ first.freshLine = true ∧
      (first :: others).map (·.tok) = toks ++ [.eof] := by
  have hmap : (lexFrom k (s.on ('\n' :: u))).map (·.tok) = toks ++ [.eof] := by
    rw [map_tok_of_alike ((h.alike u).lexFrom k)]
    exact hwritten.lexFrom_map rfl (by simp [hnest]) (by simpa using hk)
  obtain ⟨k, rfl⟩ := Nat.exists_eq_succ_of_ne_zero (Nat.ne_zero_of_lt hk)
  obtain ⟨others, hfirst⟩ := exists_lexFrom_succ k (s.on ('\n' :: u))
  rw [Nat.succ_eq_add_one, hfirst] at hmap
  exact ⟨_, others, hfirst, h.freshLine u, hmap⟩

end LexState

section Texts

variable {before name rest u : Text} {tokens : List Token} {e n : Token} {more : List Token}
  {s last : LexState} {toks : List Tok}

/-- Behind its name a function has the same tokens as the default that stands alone. -/
theorem BehindName.lexFrom (h : BehindName name rest n more s last)
    (hwritten : Written ('\n' :: u) toks) (hu : u ≠ []) {n' : Token} (hn' : n.Alike n')
    {s' : LexState} (hcontext : s'.SameContext (LexState.inFunction.after n'))
    (hleft : s'.rest = '(' :: (rest ++ '\n' :: u)) {k : Nat} (hk : s'.rest.length < k) :
    ∃ more' first others, lexFrom k s' = more' ++ first :: others ∧
      List.Forall₂ Token.Alike more more' ∧ first.freshLine = true ∧
      (first :: others).map (·.tok) = toks ++ [.eof] := by
  have halike : (s.on ('\n' :: u)).Alike s' := by
    refine .of_rest ((s.sameContext_on _).trans ((h.context.trans
      (LexState.after_alike _ hn')).trans hcontext.symm)) ?_
    rw [hleft, LexState.on, h.left, List.cons_append]
  have hcount := h.count
  rw [h.left, List.length_cons] at hcount
  obtain ⟨j, rfl⟩ : ∃ j, k = more.length + j := Nat.exists_eq_add_of_le (by
    simp only [hleft, List.length_cons, List.length_append] at hk
    omega)
  have htokens := halike.lexFrom (more.length + j)
  rw [(h.run u hu).lexFrom_eq j] at htokens
  obtain ⟨first, others, hfirst, hfresh, hmap⟩ := h.ends.lexFrom_written h.closed hwritten
    (k := j) (by
      simp only [hleft, List.length_cons, List.length_append] at hk
      omega)
  rw [hfirst] at htokens
  have hmore := List.forall₂_take more.length htokens
  have hend := List.forall₂_drop more.length htokens
  rw [List.take_left] at hmore
  rw [List.drop_left] at hend
  obtain ⟨first', others', hfirst', hothers, happ⟩ := List.forall₂_cons_left_iff.mp hend
  refine ⟨_, first', others', by rw [← happ, List.take_append_drop], hmore,
    hfirst'.2 ▸ hfresh, ?_⟩
  rw [← map_tok_of_alike (.cons hfirst' hothers), hmap]

/-- The tokens of a function without its keywords, with a text before it and lines behind it. -/
theorem StandsAlone.lex_plainFunction (h : StandsAlone before tokens e)
    (hname : BehindName name rest n more s last) (hbindable : Name.isBindable name = true)
    (hwritten : Written ('\n' :: u) toks) (hu : u ≠ []) :
    ∃ f n' more' first others,
      lex (before ++ '\n' :: plainFunction name (rest ++ '\n' :: u)) =
        tokens ++ f :: n' :: (more' ++ first :: others) ∧
      f.tok = .keyword .kwFunction ∧ f.freshLine = true ∧ n'.tok = .name name ∧
      List.Forall₂ Token.Alike more more' ∧ first.freshLine = true ∧
      (first :: others).map (·.tok) = toks ++ [.eof] := by
  obtain ⟨-, f, s₁, hkeyword, hf, hfresh, hleft, hcontext⟩ :=
    h.run_plainFunction name (rest ++ '\n' :: u)
  obtain ⟨n', s₂, hrun₂, hn', hfresh', hleft₂, hcontext₂⟩ :=
    LexState.exists_run_name hcontext hbindable hleft
  obtain ⟨-, k, hk, hlex⟩ := (hkeyword.append hrun₂).lex_eq
  have hsame : n.Alike n' := ⟨hname.tok.trans hn'.symm, hname.fresh.trans hfresh'.symm⟩
  obtain ⟨more', first, others, hmore, halike, hfirst, hmap⟩ :=
    hname.lexFrom hwritten hu hsame hcontext₂ hleft₂ hk
  exact ⟨f, n', more', first, others, by simpa [hmore] using hlex, hf, hfresh, hn', halike, hfirst,
    hmap⟩

end Texts

/-! ### Items -/

section Items

variable {g g' : Grammar} {s : Scope} {w d f n : Token} {more : List Token} {e : Nat} {name : Text}

theorem functionDefinition_named (hf : f.tok = .keyword .kwFunction) (hn : n.tok = .name name)
    (start : Nat) (named : Bool) :
    functionDefinition g s start named ⟨f :: n :: more, e⟩ =
      functionRest g s start (some name) false ⟨more, n.span.stop⟩ := by
  simp [functionDefinition, keyword, eatPunct, isName, Parse.name, nameOf?, advance, hf, hn, guard]

/-- A function that is no default has a name. -/
theorem functionDefinition_unnamed (hf : f.tok = .keyword .kwFunction)
    (hn : n.tok = .punct .lparen) (start : Nat) :
    functionDefinition g s start true ⟨f :: n :: more, e⟩ = none := by
  simp [functionDefinition, keyword, eatPunct, isName, nameOf?, advance, hf, hn, guard]

theorem exportDefaultItem_function (hs : s.typed = false) (hf : f.tok = .keyword .kwFunction) :
    exportDefaultItem g s ⟨f :: more, e⟩ =
      (functionDefinition g s f.span.start false ⟨f :: more, e⟩).map fun r =>
        (.exportDefault r.1, r.2) := by
  obtain ⟨v, hv⟩ := exists_peekSecond ⟨f :: more, e⟩
  cases hdefinition : functionDefinition g s f.span.start false ⟨f :: more, e⟩ <;>
    simp [exportDefaultItem, hs, hf, hv, hdefinition]

theorem exportItem_default (hs : s.typed = false) (hw : w.tok = .keyword .kwExport)
    (hd : d.tok = .keyword .kwDefault) :
    exportItem g s ⟨w :: d :: more, e⟩ = exportDefaultItem g s ⟨more, d.span.stop⟩ := by
  simp [exportItem, keyword, advance, hs, hw, hd]

theorem item_defaultFunction (hs : s.typed = false) (hw : w.tok = .keyword .kwExport)
    (hd : d.tok = .keyword .kwDefault) (hf : f.tok = .keyword .kwFunction) :
    item g s ⟨w :: d :: f :: more, e⟩ =
      (functionDefinition g s f.span.start false ⟨f :: more, d.span.stop⟩).map fun r =>
        (⟨⟨w.span.start, r.2.lastEnd⟩, w.leading, .exportDefault r.1⟩, r.2) := by
  obtain ⟨v, hv⟩ := exists_peekSecond ⟨w :: d :: f :: more, e⟩
  have hexport : exportItem g s ⟨w :: d :: f :: more, e⟩ = _ :=
    (exportItem_default hs hw hd).trans (exportDefaultItem_function hs hf)
  cases hdefinition : functionDefinition g s f.span.start false ⟨f :: more, d.span.stop⟩ <;>
    simp [item, atImportExpression, hw, hv, hexport, hdefinition]

theorem declaration?_function (hs : s.typed = false) (hf : f.tok = .keyword .kwFunction) :
    declaration? g s ⟨f :: more, e⟩ =
      (functionDefinition g s f.span.start true ⟨f :: more, e⟩).map fun r => (some r.1, r.2) := by
  obtain ⟨v, hv⟩ := exists_peekSecond ⟨f :: more, e⟩
  cases hdefinition : functionDefinition g s f.span.start true ⟨f :: more, e⟩ <;>
    simp [declaration?, opening?, hs, hf, hv, hdefinition]

theorem statementRule_function (hs : s.typed = false) (hf : f.tok = .keyword .kwFunction) :
    statementRule g s ⟨f :: more, e⟩ =
      functionDefinition g s f.span.start true ⟨f :: more, e⟩ := by
  cases hdefinition : functionDefinition g s f.span.start true ⟨f :: more, e⟩ <;>
    simp [statementRule, hf, declaration?_function hs hf, hdefinition]

theorem item_plainFunction (hs : s.typed = false) (hf : f.tok = .keyword .kwFunction) :
    item g.step s ⟨f :: more, e⟩ =
      (functionDefinition g s f.span.start true ⟨f :: more, e⟩).map fun r =>
        (⟨⟨f.span.start, r.2.lastEnd⟩, f.leading, .statement r.1⟩, r.2) := by
  obtain ⟨v, hv⟩ := exists_peekSecond ⟨f :: more, e⟩
  have hstatement : g.step.statement s ⟨f :: more, e⟩ = _ := statementRule_function hs hf
  cases hdefinition : functionDefinition g s f.span.start true ⟨f :: more, e⟩ <;>
    simp [item, atImportExpression, hf, hv, hstatement, hdefinition]

theorem functionRest_eq_some (hs : s.typed = false) {start : Nat} {id : Option Text}
    {generator : Bool} {c c' : Cursor} {node : Node}
    (h : functionRest g s start id generator c = some (node, c')) :
    ∃ span params body, node = .function span id params body ∧ span.start = start := by
  unfold functionRest at h
  simp only [hs, Bool.false_eq_true, if_false] at h
  obtain ⟨⟨_, c₁⟩, -, h⟩ := Option.bind_eq_some_iff.mp h
  obtain ⟨⟨params, c₂⟩, -, h⟩ := Option.bind_eq_some_iff.mp h
  obtain ⟨⟨body, c₃⟩, -, h⟩ := Option.bind_eq_some_iff.mp h
  cases h
  exact ⟨_, params, body, rfl, rfl⟩

theorem functionDefinition_eq_some (hs : s.typed = false) {start : Nat} {named : Bool}
    {c c' : Cursor} {node : Node}
    (h : functionDefinition g s start named c = some (node, c')) :
    ∃ span id params body, node = .function span id params body ∧ span.start = start := by
  unfold functionDefinition at h
  obtain ⟨⟨_, c₁⟩, -, h⟩ := Option.bind_eq_some_iff.mp h
  obtain ⟨⟨_, c₂⟩, -, h⟩ := Option.bind_eq_some_iff.mp h
  obtain ⟨⟨id, c₃⟩, -, h⟩ := Option.bind_eq_some_iff.mp h
  obtain ⟨⟨_, c₄⟩, -, h⟩ := Option.bind_eq_some_iff.mp h
  obtain ⟨span, params, body, rfl, hstart⟩ := functionRest_eq_some hs h
  exact ⟨span, id, params, body, rfl, hstart⟩

/-- What the items before a place leave to the loop over the items. -/
theorem ReadsTo.items_eq {c c' : Cursor} {k : Nat} (h : ReadsTo g s k c c')
    (hk : k ≤ c.tokens.length + 1) :
    ∃ fuel found, k + fuel = c.tokens.length + 1 ∧
      items g s c = (iterate (itemStep g s) fuel found c').map fun r => (r.1.reverse, r.2) := by
  obtain ⟨fuel, hfuel⟩ := Nat.exists_eq_add_of_le hk
  obtain ⟨found, hfound⟩ := h.iterate_eq []
  refine ⟨fuel, found, hfuel.symm, ?_⟩
  change (repeating (itemStep g s) [] >>= fun found => pure found.reverse) c = _
  rw [bind_apply, repeating, hfuel, hfound]
  cases iterate (itemStep g s) fuel found c' <;> rfl

end Items

/-! ### Modules -/

section Modules

variable {before name rest t u : Text} {tokens : List Token} {e : Token} {m : List Item}

/-- A module is read from the tokens behind the text that stands alone. -/
theorem StandsAlone.parse_eq (h : StandsAlone before tokens e) (hne : ∀ t ∈ tokens, t.tok ≠ .eof)
    (q : Sequel) (hlex : lex (before ++ '\n' :: u) = tokens ++ q.word :: q.more) :
    ∃ n fuel found lastEnd, tokens.length + q.more.length < n ∧ q.more.length < fuel ∧
      parseModule .javaScript (before ++ '\n' :: u) =
        (iterate (itemStep (.nested (3 * n + 3)) (.script false)) fuel found
          ⟨q.word :: q.more, lastEnd⟩).map (·.1.reverse) := by
  have hlength : (tokens ++ q.word :: q.more).length = tokens.length + q.more.length + 1 := by
    rw [List.length_append, List.length_cons, Nat.add_assoc]
  obtain ⟨k, hk, lastEnd, hreads⟩ := h.readsTo hne q
    (m := 3 * (tokens ++ q.word :: q.more).length + 3) (by omega) 0
  obtain ⟨fuel, found, hfuel, hitems⟩ := hreads.items_eq (by rw [hlength]; omega)
  rw [show (⟨tokens ++ q.word :: q.more, 0⟩ : Cursor).tokens.length = _ from hlength] at hfuel
  refine ⟨(tokens ++ q.word :: q.more).length, fuel, found, lastEnd, by omega, by omega, ?_⟩
  have hlanguage : (Language.javaScript == .typeScript) = false := rfl
  simp only [parseModule, withoutMark_append_break, h.unmarked, hlex, parseTokens, hlanguage,
    hitems, Option.map_map, Function.comp_def]

/-- Without `export default`, a function that has no name cannot be read. -/
theorem StandsAlone.parse_unnamed (h : StandsAlone before tokens e) (rest : Text) :
    parseModule .javaScript (before ++ '\n' :: plainFunction [] rest) = none := by
  obtain ⟨hne, f, s, hkeyword, hf, hfresh, hleft, hcontext⟩ := h.run_plainFunction [] rest
  obtain ⟨-, k, hk, hlex⟩ := hkeyword.lex_eq
  obtain ⟨k, rfl⟩ := Nat.exists_eq_succ_of_ne_zero (Nat.ne_zero_of_lt hk)
  obtain ⟨l, next, hread, hl, -⟩ := LexState.reads_spaced hcontext.inFunction_inTemplate hleft
    rfl (Tok.punct_valid .lparen) (scanToken_lone s.operand (by decide) rest)
  rw [Nat.succ_eq_add_one, hread.lexFrom_eq, List.append_assoc] at hlex
  obtain ⟨n, fuel, found, lastEnd, -, -, hparse⟩ :=
    h.parse_eq hne ⟨f, l :: lexFrom k next, hfresh, .inr (.inr hf)⟩ hlex
  have hitem : item (.nested (3 * n + 3)) (.script false) ⟨f :: l :: lexFrom k next, lastEnd⟩ =
      none := by
    refine (item_plainFunction (g := .nested (3 * n + 2)) rfl hf).trans ?_
    rw [functionDefinition_unnamed hf hl]
    rfl
  rw [hparse]
  cases fuel with
  | zero => rfl
  | succ fuel =>
    rw [iterate_itemStep_succ, if_neg (by simp [front, hf]), hitem]
    rfl

/-- The default function is among the items of a module, at its place. -/
theorem StandsAlone.exists_defaultFunction (h : StandsAlone before tokens e)
    (hparse : parseModule .javaScript (before ++ '\n' :: defaultFunction name rest) = some m) :
    ∃ i ∈ m, ∃ span id params body, i.body = .exportDefault (.function span id params body) ∧
      i.span.start = (before ++ ['\n']).bytes ∧
      span.start = (before ++ '\n' :: "export default ".toList).bytes ∧
      (Name.isBindable name = true → id = some name) := by
  obtain ⟨hne, w, d, f, s, hkeywords, hw, hd, hf, hfresh, hleft, hcontext, hstart, hkeyword⟩ :=
    h.run_defaultFunction name rest
  obtain ⟨-, k, hk, hlex⟩ := hkeywords.lex_eq
  rw [List.append_assoc] at hlex
  obtain ⟨n, fuel, found, lastEnd, -, -, heq⟩ :=
    h.parse_eq hne ⟨w, d :: f :: lexFrom k s, hfresh, .inr (.inl hw)⟩ hlex
  rw [heq] at hparse
  obtain ⟨⟨all, c'⟩, hiterate, rfl⟩ := Option.map_eq_some_iff.mp hparse
  cases fuel with
  | zero => cases hiterate
  | succ fuel =>
    rw [iterate_itemStep_succ, if_neg (by simp [front, hw])] at hiterate
    obtain ⟨⟨i, c₁⟩, hitem, hiterate⟩ := Option.bind_eq_some_iff.mp hiterate
    have hmem : i ∈ all.reverse :=
      List.mem_reverse.mpr ((suffix_of_iterate hiterate).subset List.mem_cons_self)
    rw [item_defaultFunction rfl hw hd hf] at hitem
    obtain ⟨⟨node, c₂⟩, hfunction, hi⟩ := Option.map_eq_some_iff.mp hitem
    cases hi
    obtain ⟨span, id, params, body, rfl, hspan⟩ := functionDefinition_eq_some rfl hfunction
    refine ⟨_, hmem, span, id, params, body, rfl, hstart, hspan.trans hkeyword, fun hname => ?_⟩
    obtain ⟨k, rfl⟩ := Nat.exists_eq_succ_of_ne_zero (Nat.ne_zero_of_lt hk)
    obtain ⟨t, next, hrun, ht, -⟩ := LexState.exists_run_name hcontext hname hleft
    have htokens : lexFrom (k + 1) s = t :: lexFrom k next := by
      have := hrun.lexFrom_eq k
      rwa [Nat.add_comm] at this
    rw [Nat.succ_eq_add_one, htokens, functionDefinition_named hf ht] at hfunction
    obtain ⟨_, _, _, hnode, -⟩ := functionRest_eq_some rfl hfunction
    cases hnode
    rfl

/-- The items of a default function that stands alone: the function, and those behind it. -/
theorem StandsAlone.function_items {w d f n : Token} {more : List Token}
    (h : StandsAlone t (w :: d :: f :: n :: more) e) (hw : w.tok = .keyword .kwExport)
    (hd : d.tok = .keyword .kwDefault) (hf : f.tok = .keyword .kwFunction)
    (hn : n.tok = .name name) :
    ∃ node c₁ c' k, functionRest (.strict (3 * (more.length + 5) + 3)) (.script false) f.span.start
        (some name) false ⟨more ++ [e], n.span.stop⟩ = some (node, c₁) ∧
      k + 1 ≤ more.length + 5 ∧
      ReadsTo (.strict (3 * (more.length + 5) + 3)) (.script false) k c₁ c' ∧
      (front c').tok = .eof := by
  obtain ⟨⟨found, c'⟩, hitems⟩ := h.readable
  obtain ⟨heof, k, hk, hrun⟩ := ReadsTo.of_items hitems
  simp only [List.length_cons, List.length_append, List.length_nil] at hk
  cases hrun with
  | stay => simp [front, hw] at heof
  | @next _ c₁ _ k x _ hitem hrest =>
    obtain ⟨⟨node, c₂⟩, hfunction, hx⟩ := Option.map_eq_some_iff.mp
      ((item_defaultFunction (s := .script false) rfl hw hd hf).symm.trans hitem)
    cases hx
    have hnamed : functionDefinition (.strict (3 * (more.length + 5) + 3)) (.script false)
        f.span.start false ⟨f :: n :: (more ++ [e]), d.span.stop⟩ = some (node, c₂) := hfunction
    rw [functionDefinition_named hf hn] at hnamed
    exact ⟨node, c₂, c', k, hnamed, hk, hrest, heof⟩

/-- Without its keywords, the function and the items behind it are read as well, with a sequel in
place of the end. -/
theorem StandsAlone.function_readsTo {w d f n : Token} {more : List Token}
    (h : StandsAlone t (w :: d :: f :: n :: more) e) (hw : w.tok = .keyword .kwExport)
    (hd : d.tok = .keyword .kwDefault) (hf : f.tok = .keyword .kwFunction)
    (hn : n.tok = .name name) (hne : ∀ t ∈ more, t.tok ≠ .eof) (q : Sequel) {f' n' : Token}
    {more' : List Token} (hf' : f'.tok = .keyword .kwFunction) (hn' : n'.tok = .name name)
    (halike : List.Forall₂ Token.Alike more more') {m : Nat}
    (hm : 3 * (more.length + 5) + 3 ≤ m) (lastEnd : Nat) :
    ∃ k ≤ more.length + 5, ∃ lastEnd', ReadsTo (.nested (m + 1)) (.script false) k
      ⟨f' :: n' :: (more' ++ q.word :: q.more), lastEnd⟩ ⟨q.word :: q.more, lastEnd'⟩ := by
  obtain ⟨node, c₁, c', k, hfunction, hk, hrest, heof⟩ := h.function_items hw hd hf hn
  have hfollows : q.Follows (more ++ [e]) (more' ++ q.word :: q.more) :=
    .of_bracketsClose q h.eof hne halike
      (bracketsClose_tail (bracketsClose_tail (bracketsClose_tail (bracketsClose_tail h.closed))))
  have hlocal : Local q Node.Alike (functionRest (.strict (3 * (more.length + 5) + 3))
      (.script false) f.span.start (some name) false)
      (functionRest (.nested m) (.script false) f'.span.start (some name) false) :=
    functionRest_local (Grammar.strict_local hm) rfl false
  obtain ⟨node', d₁, hfunction', -, hcd₁⟩ := hlocal ⟨more ++ [e], n.span.stop⟩
    ⟨more' ++ q.word :: q.more, n'.span.stop⟩ hfollows node c₁ hfunction
  have hitem : item (.nested (m + 1)) (.script false)
      ⟨f' :: n' :: (more' ++ q.word :: q.more), lastEnd⟩ =
        some (⟨⟨f'.span.start, d₁.lastEnd⟩, f'.leading, .statement node'⟩, d₁) := by
    refine (item_plainFunction (g := .nested m) rfl hf').trans ?_
    rw [functionDefinition_named hf' hn', hfunction']
    rfl
  obtain ⟨⟨ts, lastEnd'⟩, hreads, hcd₂⟩ :=
    hrest.follows (Grammar.strict_local (Nat.le_succ_of_le hm)) rfl hcd₁
  obtain rfl : ts = q.word :: q.more := hcd₂.tokens_eq heof
  exact ⟨k + 1, hk, lastEnd', .next (by simp [front, hf']) hitem hreads⟩

/-- A function with a name is read, and so are the items behind it and those of the lines. -/
theorem StandsAlone.parse_named (h : StandsAlone before tokens e) {tokens' : List Token}
    {e' : Token} (h' : StandsAlone (defaultFunction name rest) tokens' e')
    (hname : Name.isBindable name = true) {lines : List (List Tok)}
    {posts : List (ItemBody → Prop)} (hwritten : Written ('\n' :: u) lines.flatten)
    (hstart : ∃ toks, lines.flatten = .keyword .kwImport :: toks)
    (hcount : lines.length + 3 ≤ lines.flatten.length)
    (hlines : ∀ n, ReadsItems (.nested (3 * n + 3)) (.script false) lines posts) :
    ∃ items is, parseModule .javaScript (before ++ '\n' :: plainFunction name (rest ++ '\n' :: u)) =
      some (items ++ is) ∧ List.Forall₂ (fun post i => post i.body) posts is := by
  obtain ⟨toks, htoks⟩ := hstart
  have hu : u ≠ [] := by
    rintro rfl
    have hmap := hwritten.lexFrom_map (s := .start ['\n']) rfl (by simp [LexState.start])
      (Nat.lt_succ_self _)
    rw [htoks] at hmap
    cases hmap
  obtain ⟨w, d, f₀, n, more, s, last, rfl, hw, hd, hf₀, hbehind⟩ := h'.functionTokens hname
  obtain ⟨f, n', more', first, others, hlex, hf, hfresh, hn', halike, hfirst, hmap⟩ :=
    h.lex_plainFunction hbehind hname hwritten hu
  obtain ⟨hne, -⟩ := h.run
  have himport : first.tok = .keyword .kwImport := by
    rw [htoks] at hmap
    exact (List.cons.inj hmap).1
  have hothers : others.length = lines.flatten.length := by simpa using congrArg List.length hmap
  have hmore : more.length = more'.length := halike.length_eq
  obtain ⟨size, fuel, found, lastEnd, hsize, hfuel, hparse⟩ := h.parse_eq hne
    ⟨f, n' :: (more' ++ first :: others), hfresh, .inr (.inr hf)⟩ hlex
  simp only [List.length_cons, List.length_append] at hsize hfuel
  obtain ⟨k, hk, lastEnd', hreads⟩ := h'.function_readsTo hw hd hf₀ hbehind.tok hbehind.inner
    ⟨first, others, hfirst, .inl himport⟩ hf hn' halike (m := 3 * size + 2) (by omega) lastEnd
  obtain ⟨found', hfound'⟩ := hreads.iterate_eq found
  obtain ⟨left, rfl⟩ : ∃ left, fuel = k + left := Nat.exists_eq_add_of_le (by omega)
  obtain ⟨_, c', hiterate, -, is, rfl, his⟩ := (hlines size).takes_iterate (n := left) (by omega)
    found' ⟨first :: others, lastEnd'⟩ hmap
  refine ⟨found'.reverse, is, ?_, his⟩
  rw [hparse, hfound', hiterate]
  simp

end Modules

end StoryExports.Script
