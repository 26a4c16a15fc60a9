import StoryExports.Proofs.ParsedOperands

/-!
# Parsing items

Imports of one name, constants and exports, each as it is read at the top of a script.
-/
namespace StoryExports.Script

namespace Parse

variable {g : Grammar} {s : Scope} {toks after : List Tok} {post : Node → Prop} {t : Token}
  {rest : List Token} {e : Nat}

theorem semicolon_cons (ht : t.tok = .punct .semicolon) :
    semicolon ⟨t :: rest, e⟩ = some ((), ⟨rest, t.span.stop⟩) := by
  simp [semicolon, eatSemicolon, eatPunct, advance, ht, guard]

theorem importAttributes_cons (hs : s.typed = false) :
    importAttributes g s ⟨t :: rest, e⟩ = some ((), ⟨t :: rest, e⟩) := by
  simp [importAttributes, onFreshLine, hs]

/-- A constant and its value, as a syntax tree. -/
def IsConstant (id : Text) (post : Node → Prop) (node : Node) : Prop :=
  ∃ span part place value, node = .other span (.variables false)
    [.other part .declarator [.name place id, value]] ∧ post value

theorem takes_declarator (id : Text) (hs : s.typed = false)
    (h : ReadsAs (assignRule g s) toks post) :
    Takes (declarator g.step s false) (.name id :: .punct .eq :: toks)
      (.punct .semicolon :: after) fun node => ∃ span place value,
        node = .other span .declarator [.name place id, value] ∧ post value := by
  intro c hc
  obtain ⟨n, more, e, rfl, hn, hmore⟩ := Cursor.toks_eq_cons.mp hc
  obtain ⟨u, mid, rfl, hu, hmid⟩ := List.map_eq_cons_iff.mp hmore
  have hbinding : g.step.binding s ⟨n :: u :: mid, e⟩ =
      some (.name ⟨n.span.start, n.span.stop⟩ id, ⟨u :: mid, n.span.stop⟩) := by
    simp [Grammar.step, bindingRule, hn, name, nameOf?, advance]
  obtain ⟨value, c', hassign, hc', hvalue⟩ :=
    h.takes (.punct .semicolon) after rfl ⟨mid, u.span.stop⟩ hmid
  have hassign : g.step.assign s ⟨mid, u.span.stop⟩ = some (value, c') := hassign
  refine ⟨_, c', ?_, hc', ⟨n.span.start, c'.lastEnd⟩, ⟨n.span.start, n.span.stop⟩, value, rfl,
    hvalue⟩
  simp [declarator, hbinding, hs, annotation, initializer?, eatPunct, advance, hu, hassign]

theorem takes_constant (id : Text) (hs : s.typed = false)
    (h : ReadsAs (assignRule g s) toks post) (start : Nat) :
    Takes (variableStatement g.step s start)
      (.keyword .kwConst :: .name id :: .punct .eq :: (toks ++ [.punct .semicolon])) after
      (IsConstant id post) := by
  intro c hc
  obtain ⟨w, more, e, rfl, hw, hmore⟩ := Cursor.toks_eq_cons.mp hc
  obtain ⟨node, c₁, hdeclarator, hc₁, part, place, value, rfl, hvalue⟩ :=
    takes_declarator id hs h ⟨more, w.span.stop⟩
      (show more.map (·.tok) = .name id :: .punct .eq :: toks ++ .punct .semicolon :: after by
        simpa using hmore)
  obtain ⟨t, rest, e₁, rfl, ht, hrest⟩ := Cursor.toks_eq_cons.mp hc₁
  refine ⟨_, ⟨rest, t.span.stop⟩, ?_, hrest, ⟨start, t.span.stop⟩, part, place, value, rfl, hvalue⟩
  simp [variableStatement, advance, hw, commaSeparated, hdeclarator, repeating, iterate, eatPunct,
    eatSemicolon, ht]

/-! ### Items -/

theorem takes_importItem (hs : s.typed = false) (id source : Text) :
    Takes (importItem g s) [.keyword .kwImport, .punct .lbrace, .name id, .punct .rbrace,
      .name "from".toList, .string source, .punct .semicolon] after
      (· = .importing source false [⟨.named none, id, false⟩]) := by
  rintro ⟨tokens, e⟩ hc
  simp only [Cursor.toks, List.cons_append, List.nil_append, List.map_eq_cons_iff] at hc
  obtain ⟨w, _, rfl, hw, l, _, rfl, hl, n, _, rfl, hn, r, _, rfl, hr, f, _, rfl, hf, q, _, rfl, hq,
    t, rest, rfl, ht, hrest⟩ := hc
  refine ⟨_, ⟨rest, t.span.stop⟩, ?_, hrest, rfl⟩
  simp [importItem, atTypeImport, importClause_name hs hl hn hr, keyword, word, advance, hs, hw, hl,
    sourceString, hf, hq, importAttributes_cons hs, semicolon_cons ht]

theorem takes_exportDefault (hs : s.typed = false) (id : Text) :
    Takes (exportItem g.step s)
      [.keyword .kwExport, .keyword .kwDefault, .name id, .punct .semicolon] after
      fun body => ∃ span, body = .exportDefaultValue (.name span id) := by
  rintro ⟨tokens, e⟩ hc
  simp only [Cursor.toks, List.cons_append, List.nil_append, List.map_eq_cons_iff] at hc
  obtain ⟨w, _, rfl, hw, d, _, rfl, hd, n, _, rfl, hn, t, rest, rfl, ht, hrest⟩ := hc
  obtain ⟨_, c', hassign, hc', span, rfl⟩ := (readsAs_name g s id).takes (.punct .semicolon) after
    rfl ⟨n :: t :: rest, d.span.stop⟩ (by simp [Cursor.toks, hn, ht, hrest])
  obtain ⟨u, rest', e', rfl, hu, hrest'⟩ := Cursor.toks_eq_cons.mp hc'
  have hassign : g.step.assign s ⟨n :: t :: rest, d.span.stop⟩ = _ := hassign
  refine ⟨_, ⟨rest', u.span.stop⟩, ?_, hrest', span, rfl⟩
  simp [exportItem, exportDefaultItem, keyword, advance, hw, hd, hn, ht, hs, hassign,
    semicolon_cons hu]

theorem takes_exportConstant (id : Text) (hs : s.typed = false)
    (h : ReadsAs (assignRule g s) toks post) :
    Takes (exportItem g.step s) (.keyword .kwExport :: .keyword .kwConst :: .name id ::
      .punct .eq :: (toks ++ [.punct .semicolon])) after
      fun body => ∃ node, body = .exportDeclaration node ∧ IsConstant id post node := by
  rintro c hc
  obtain ⟨w, more, e, rfl, hw, hmore⟩ := Cursor.toks_eq_cons.mp hc
  obtain ⟨u, mid, rfl, hu, hmid⟩ := List.map_eq_cons_iff.mp hmore
  obtain ⟨node, c', hconstant, hc', hnode⟩ :=
    takes_constant id hs h u.span.start ⟨u :: mid, w.span.stop⟩ hmore
  obtain ⟨v, hv⟩ := exists_peekSecond ⟨u :: mid, w.span.stop⟩
  refine ⟨_, c', ?_, hc', node, rfl, hnode⟩
  simp [exportItem, keyword, advance, hw, hu, hs, hv, declaration?, opening?, hconstant]

theorem takes_constantStatement (id : Text) (hs : s.typed = false)
    (h : ReadsAs (assignRule g s) toks post) :
    Takes (statementRule g.step s) (.keyword .kwConst :: .name id ::
      .punct .eq :: (toks ++ [.punct .semicolon])) after (IsConstant id post) := by
  rintro c hc
  obtain ⟨u, mid, e, rfl, hu, hmid⟩ := Cursor.toks_eq_cons.mp hc
  obtain ⟨node, c', hconstant, hc', hnode⟩ :=
    takes_constant id hs h u.span.start ⟨u :: mid, e⟩ hc
  obtain ⟨v, hv⟩ := exists_peekSecond ⟨u :: mid, e⟩
  refine ⟨_, c', ?_, hc', hnode⟩
  simp [statementRule, hu, hs, hv, declaration?, opening?, hconstant]

section Item

variable {post : ItemBody → Prop}

theorem Takes.item_import
    (h : Takes (importItem g s) (.keyword .kwImport :: .punct .lbrace :: toks) after post) :
    Takes (item g s) (.keyword .kwImport :: .punct .lbrace :: toks) after
      fun i => post i.body := by
  intro c hc
  obtain ⟨body, c', hbody, hc', hpost⟩ := h c hc
  obtain ⟨w, more, e, rfl, hw, hmore⟩ := Cursor.toks_eq_cons.mp hc
  obtain ⟨l, rest, rfl, hl, -⟩ := List.map_eq_cons_iff.mp hmore
  refine ⟨⟨⟨w.span.start, c'.lastEnd⟩, w.leading, body⟩, c', ?_, hc', hpost⟩
  simp [item, atImportExpression, hw, hl, hbody]

theorem Takes.item_export (h : Takes (exportItem g s) (.keyword .kwExport :: toks) after post) :
    Takes (item g s) (.keyword .kwExport :: toks) after fun i => post i.body := by
  intro c hc
  obtain ⟨body, c', hbody, hc', hpost⟩ := h c hc
  obtain ⟨w, more, e, rfl, hw, hmore⟩ := Cursor.toks_eq_cons.mp hc
  obtain ⟨u, hu⟩ := exists_peekSecond ⟨w :: more, e⟩
  refine ⟨⟨⟨w.span.start, c'.lastEnd⟩, w.leading, body⟩, c', ?_, hc', hpost⟩
  simp [item, atImportExpression, hu, hw, hbody]

theorem Takes.item_statement {k : Tok} (hk : k ≠ .keyword .kwImport ∧ k ≠ .keyword .kwExport)
    (h : Takes (g.statement s) (k :: toks) after fun node => post (.statement node)) :
    Takes (item g s) (k :: toks) after fun i => post i.body := by
  intro c hc
  obtain ⟨node, c', hnode, hc', hpost⟩ := h c hc
  obtain ⟨w, more, e, rfl, rfl, hmore⟩ := Cursor.toks_eq_cons.mp hc
  obtain ⟨u, hu⟩ := exists_peekSecond ⟨w :: more, e⟩
  refine ⟨⟨⟨w.span.start, c'.lastEnd⟩, w.leading, .statement node⟩, c', ?_, hc', hpost⟩
  simp [item, atImportExpression, hu, hk, hnode]

end Item

/-- Tokens of these kinds are items up to the end of the text, and the content of each has its
property. -/
inductive ReadsItems (g : Grammar) (s : Scope) : List (List Tok) → List (ItemBody → Prop) → Prop
  | nil : ReadsItems g s [] []
  | cons {toks : List Tok} {lines : List (List Tok)} {post : ItemBody → Prop}
      {posts : List (ItemBody → Prop)} (starts : ∃ k ks, toks = k :: ks ∧ k ≠ .eof)
      (takes : Takes (item g s) toks (lines.flatten ++ [.eof]) fun i => post i.body)
      (rest : ReadsItems g s lines posts) : ReadsItems g s (toks :: lines) (post :: posts)

/-- Tokens of these kinds are an item whose content has a property, whatever follows. -/
structure ReadsItem (g : Grammar) (s : Scope) (toks : List Tok) (post : ItemBody → Prop) :
    Prop where
  starts : ∃ k ks, toks = k :: ks ∧ k ≠ .eof
  takes : ∀ after, Takes (item g s) toks after fun i => post i.body

theorem ReadsItems.of_forall₂ {lines : List (List Tok)} {posts : List (ItemBody → Prop)}
    (h : List.Forall₂ (ReadsItem g s) lines posts) : ReadsItems g s lines posts := by
  induction h with
  | nil => exact .nil
  | cons hline _ ih => exact .cons hline.starts (hline.takes _) ih

/-- One more item, or the end of the text. -/
def itemStep (g : Grammar) (s : Scope) (found : List Item) : Parse (List Item ⊕ List Item) := do
  if (← peekTok) == .eof then return .inr found
  return .inl ((← item g s) :: found)

namespace ReadsItems

variable {lines : List (List Tok)} {posts : List (ItemBody → Prop)}

theorem takes_iterate (h : ReadsItems g s lines posts) {n : Nat} (hn : lines.length < n)
    (found : List Item) :
    Takes (iterate (itemStep g s) n found) lines.flatten [.eof] fun all =>
      ∃ is, all = is.reverse ++ found ∧ List.Forall₂ (fun post i => post i.body) posts is := by
  induction h generalizing n found with
  | nil =>
    intro c hc
    obtain ⟨n, rfl⟩ : ∃ m, n = m + 1 := Nat.exists_eq_add_of_le' (Nat.one_le_of_lt hn)
    obtain ⟨t, rest, e, rfl, ht, -⟩ := Cursor.toks_eq_cons.mp hc
    have hstep : itemStep g s found ⟨t :: rest, e⟩ = some (.inr found, ⟨t :: rest, e⟩) := by
      simp [itemStep, ht]
    exact ⟨found, _, iterate_inr hstep n, hc, [], rfl, .nil⟩
  | @cons toks lines post posts starts takes _ ih =>
    intro c hc
    obtain ⟨n, rfl⟩ : ∃ m, n = m + 1 := Nat.exists_eq_add_of_le' (Nat.one_le_of_lt hn)
    obtain ⟨i, c₁, hitem, hc₁, hpost⟩ :=
      takes c (by rw [hc, List.flatten_cons, List.append_assoc])
    obtain ⟨k, ks, rfl, hk⟩ := starts
    obtain ⟨t, rest, e, rfl, rfl, -⟩ := Cursor.toks_eq_cons.mp hc
    have hstep : itemStep g s found ⟨t :: rest, e⟩ = some (.inl (i :: found), c₁) := by
      simp [itemStep, hk, hitem]
    obtain ⟨_, c', hiterate, hc', is, rfl, his⟩ :=
      ih (Nat.lt_of_succ_lt_succ hn) (i :: found) c₁ hc₁
    refine ⟨_, c', ?_, hc', i :: is, rfl, .cons hpost his⟩
    rw [iterate_inl hstep, hiterate, List.reverse_cons, List.append_assoc, List.singleton_append]

theorem length_le_flatten (h : ReadsItems g s lines posts) :
    lines.length ≤ lines.flatten.length := by
  induction h with
  | nil => exact Nat.le_refl 0
  | cons starts _ _ ih =>
    obtain ⟨k, ks, rfl, -⟩ := starts
    simp only [List.flatten_cons, List.length_append, List.length_cons]
    omega

theorem takes_items (h : ReadsItems g s lines posts) :
    Takes (items g s) lines.flatten [.eof]
      (List.Forall₂ (fun post i => post i.body) posts) := by
  intro c hc
  have hn : lines.length < c.tokens.length + 1 := by
    have hlen := congrArg List.length hc
    have hlines := h.length_le_flatten
    simp only [Cursor.toks, List.length_map, List.length_append] at hlen
    omega
  obtain ⟨_, c', hiterate, hc', is, rfl, his⟩ := h.takes_iterate hn [] c hc
  have hloop : repeating (itemStep g s) [] c = some (is.reverse ++ [], c') := hiterate
  refine ⟨is, c', ?_, hc', his⟩
  change (repeating (itemStep g s) [] >>= fun found => pure found.reverse) c = _
  simp [hloop]

end ReadsItems

/-- A module whose text is made of the tokens of items is parsed into those items. -/
theorem parseModule_of_readsItems {c : Char} {u : Text} {lines : List (List Tok)}
    {posts : List (ItemBody → Prop)} (hhash : c ≠ '#') (hmark : c.toNat ≠ 0xFEFF)
    (hwritten : Written (c :: u) lines.flatten) (language : Language)
    (h : ∀ n, lines.flatten.length < n →
      ReadsItems (.nested (3 * n + 3)) (.script (language == .typeScript)) lines posts) :
    ∃ m, parseModule language (c :: u) = some m ∧
      List.Forall₂ (fun post i => post i.body) posts m := by
  obtain ⟨tokens, htokens, hparse⟩ := parseModule_of_written hhash hmark hwritten language
  have hn : lines.flatten.length < tokens.length := by
    have hlen := congrArg List.length htokens
    simp only [List.length_map, List.length_append, List.length_singleton] at hlen
    omega
  obtain ⟨m, c', hitems, -, hm⟩ := (h tokens.length hn).takes_items ⟨tokens, 0⟩ htokens
  refine ⟨m, ?_, hm⟩
  rw [hparse, parseTokens, hitems]
  rfl

end Parse

end StoryExports.Script
