import StoryExports.Proofs.ParsedTokens

/-!
# Parsing operands

An operand that is followed by the end of an expression goes up through all levels of an
expression unchanged.
-/
namespace StoryExports.Script

open Parse

variable {g : Grammar} {s : Scope} {n t : Token} {more rest : List Token} {e e' start level : Nat}
  {node : Node} {chained : Bool}

theorem endsOperand_cases {k : Tok} (h : endsOperand k = true) :
    k = .punct .rparen ∨ k = .punct .rbracket ∨ k = .punct .rbrace ∨ k = .punct .comma ∨
      k = .punct .semicolon ∨ k = .eof := by
  unfold endsOperand at h
  split at h <;> simp_all

/-- Kinds of tokens that an operand starts with, and no operator. -/
def opensOperand : Tok → Bool
  | .name _ | .string _ | .punct .lbrace | .punct .lbracket | .punct .lparen => true
  | _ => false

theorem opensOperand_cases {k : Tok} (h : opensOperand k = true) :
    (∃ id, k = .name id) ∨ (∃ v, k = .string v) ∨ k = .punct .lbrace ∨ k = .punct .lbracket ∨
      k = .punct .lparen := by
  unfold opensOperand at h
  split at h <;> simp_all

theorem ne_punct_of_endsOperand {k : Tok} {u : Punct} (hk : endsOperand k = true)
    (hu : endsOperand (.punct u) = false) : k ≠ .punct u := by
  rintro rfl
  rw [hk] at hu
  cases hu

theorem suffix_ends (ht : endsOperand t.tok = true) :
    suffix g s start (node, chained) ⟨t :: rest, e⟩ = some (.inr node, ⟨t :: rest, e⟩) := by
  rcases endsOperand_cases ht with h | h | h | h | h | h <;>
    simp only [suffix, bind_apply, peekTok_cons, Option.bind_some, h, pure_apply]

theorem postfixed_of_operand (h : operandRule g s ⟨n :: more, e⟩ = some (node, ⟨t :: rest, e'⟩))
    (ht : endsOperand t.tok = true) :
    postfixed g s ⟨n :: more, e⟩ = some (node, ⟨t :: rest, e'⟩) := by
  have hplus : t.tok ≠ .punct .plusPlus := ne_punct_of_endsOperand ht rfl
  have hminus : t.tok ≠ .punct .minusMinus := ne_punct_of_endsOperand ht rfl
  simp [postfixed, h, hplus, hminus]

theorem unaryRule_of_operand (hn : opensOperand n.tok = true)
    (h : operandRule g s ⟨n :: more, e⟩ = some (node, ⟨t :: rest, e'⟩))
    (ht : endsOperand t.tok = true) :
    unaryRule g s ⟨n :: more, e⟩ = some (node, ⟨t :: rest, e'⟩) := by
  have hpostfixed := postfixed_of_operand h ht
  rcases opensOperand_cases hn with ⟨_, hn⟩ | ⟨_, hn⟩ | hn | hn | hn <;>
    simp only [unaryRule, bind_apply, startPos_cons, peekTok_cons, Option.bind_some, hn, hpostfixed]

theorem binaryRest_ends (ht : endsOperand t.tok = true) :
    binaryRest g s level start node ⟨t :: rest, e⟩ = some (.inr node, ⟨t :: rest, e⟩) := by
  have hname : ∀ id, (t.tok == .name id) = false := by
    rcases endsOperand_cases ht with h | h | h | h | h | h <;> simp [h]
  have hlevel : bindingLevel s t.tok = none := by
    rcases endsOperand_cases ht with h | h | h | h | h | h <;> rw [h] <;> rfl
  unfold binaryRest
  simp only [bind_apply, peek_cons, Option.bind_some, hname, Bool.or_self, Bool.and_false,
    Bool.false_and, Bool.false_eq_true, if_false, hlevel, pure_apply]

theorem binaryRule_of_operand (hn : opensOperand n.tok = true)
    (h : operandRule g s ⟨n :: more, e⟩ = some (node, ⟨t :: rest, e'⟩))
    (ht : endsOperand t.tok = true) :
    binaryRule g s level ⟨n :: more, e⟩ = some (node, ⟨t :: rest, e'⟩) := by
  simp [binaryRule, unaryRule_of_operand hn h ht, repeating, iterate_inr (binaryRest_ends ht)]

theorem conditional_ends (ht : endsOperand t.tok = true) :
    conditional g s start node ⟨t :: rest, e⟩ = some (node, ⟨t :: rest, e⟩) := by
  have hquestion : t.tok ≠ .punct .question := ne_punct_of_endsOperand ht rfl
  simp [conditional, eatPunct, hquestion]

/-- An operand that ends an expression is the whole of it, unless it starts an arrow function. -/
theorem assignRule_of_operand (hn : opensOperand n.tok = true)
    (harrow : arrow? g s ⟨n :: more, e⟩ = some (none, ⟨n :: more, e⟩))
    (h : operandRule g s ⟨n :: more, e⟩ = some (node, ⟨t :: rest, e'⟩))
    (ht : endsOperand t.tok = true) :
    assignRule g s ⟨n :: more, e⟩ = some (node, ⟨t :: rest, e'⟩) := by
  have hyield : (n.tok == .keyword .kwYield) = false := by
    rcases opensOperand_cases hn with ⟨_, hn⟩ | ⟨_, hn⟩ | hn | hn | hn <;> simp [hn]
  unfold assignRule
  simp only [bind_apply, harrow, Option.bind_some, isKeyword_cons, hyield, Bool.and_false,
    Bool.false_eq_true, if_false, startPos_cons, binaryRule_of_operand hn h ht,
    conditional_ends ht, peekTok_cons]
  rcases endsOperand_cases ht with ht | ht | ht | ht | ht | ht <;> rw [ht] <;> rfl

/-! ### What starts no arrow function -/

theorem exists_peekSecond (c : Cursor) : ∃ u, peekSecond c = some (u, c) := by
  unfold peekSecond
  split <;> exact ⟨_, rfl⟩

theorem exists_peekThird (c : Cursor) : ∃ u, peekThird c = some (u, c) := by
  unfold peekThird
  split <;> exact ⟨_, rfl⟩

theorem arrow?_eq_none {u : Token} (hu : peekSecond ⟨n :: more, e⟩ = some (u, ⟨n :: more, e⟩))
    (hname : (nameOf? n.tok).isSome = true → u.tok ≠ .punct .arrow)
    (hparen : n.tok ≠ .punct .lparen) (hangle : n.tok ≠ .punct .lt)
    (hasync : n.tok ≠ .name "async".toList ∨ endsOperand u.tok = true) :
    arrow? g s ⟨n :: more, e⟩ = some (none, ⟨n :: more, e⟩) := by
  obtain ⟨v, hv⟩ := exists_peekThird ⟨n :: more, e⟩
  have hfirst : ((nameOf? n.tok).isSome && u.tok == .punct .arrow) = false := by
    cases hn : (nameOf? n.tok).isSome with
    | true => simpa using hname hn
    | false => rfl
  unfold arrow?
  simp only [bind_apply, startPos_cons, peekTok_cons, Option.bind_some, hu, hv, hfirst,
    Bool.false_and, Bool.false_eq_true, if_false, beq_eq_false_iff_ne.mpr hparen,
    beq_eq_false_iff_ne.mpr hangle]
  rcases hasync with hasync | hends
  · rw [beq_eq_false_iff_ne.mpr hasync]
    rfl
  · have hnot : nameOf? u.tok = none ∧ u.tok ≠ .punct .lparen ∧ u.tok ≠ .punct .lt := by
      rcases endsOperand_cases hends with h | h | h | h | h | h <;> simp [h, nameOf?]
    simp only [hnot.1, Option.isSome_none, Bool.false_and, Bool.false_eq_true, if_false,
      beq_eq_false_iff_ne.mpr hnot.2.1, beq_eq_false_iff_ne.mpr hnot.2.2, ite_self, pure_apply]

theorem arrow?_name {id : Text} (hn : n.tok = .name id) (ht : t.tok ≠ .punct .arrow)
    (hasync : id ≠ "async".toList ∨ endsOperand t.tok = true) :
    arrow? g s ⟨n :: t :: rest, e⟩ = some (none, ⟨n :: t :: rest, e⟩) :=
  arrow?_eq_none rfl (fun _ => ht) (by simp [hn]) (by simp [hn])
    (hasync.imp_left fun h => by simpa [hn] using h)

theorem arrow?_of_nameOf? (hname : nameOf? n.tok = none) (hparen : n.tok ≠ .punct .lparen)
    (hangle : n.tok ≠ .punct .lt) :
    arrow? g s ⟨n :: more, e⟩ = some (none, ⟨n :: more, e⟩) := by
  obtain ⟨u, hu⟩ := exists_peekSecond ⟨n :: more, e⟩
  refine arrow?_eq_none hu (by simp [hname]) hparen hangle (.inl ?_)
  intro h
  rw [h] at hname
  cases hname

/-! ### Operands -/

theorem primary_name {id : Text} (hn : n.tok = .name id) (ht : t.tok ≠ .keyword .kwFunction) :
    primary g s ⟨n :: t :: rest, e⟩ =
      some (.name ⟨n.span.start, n.span.stop⟩ id, ⟨t :: rest, n.span.stop⟩) := by
  simp [primary, hn, peekSecond, ht, name, nameOf?, advance]

theorem primary_string {v : Text} (hn : n.tok = .string v) :
    primary g s ⟨n :: more, e⟩ =
      some (.string ⟨n.span.start, n.span.stop⟩ v, ⟨more, n.span.stop⟩) := by
  simp [primary, hn, advance]

theorem operandRule_of_primary (hn : n.tok ≠ .keyword .kwNew)
    (h : primary g s ⟨n :: more, e⟩ = some (node, ⟨t :: rest, e'⟩))
    (ht : endsOperand t.tok = true) :
    operandRule g s ⟨n :: more, e⟩ = some (node, ⟨t :: rest, e'⟩) := by
  simp [operandRule, hn, h, repeating, iterate_inr (suffix_ends ht)]

/-- An operand with one thing after it: an access or a call. -/
theorem operandRule_of_suffix {base : Node} {u : Token} {mid : List Token} {e₁ : Nat}
    (hn : n.tok ≠ .keyword .kwNew)
    (h : primary g s ⟨n :: more, e⟩ = some (base, ⟨u :: mid, e₁⟩))
    (hsuffix : suffix g s n.span.start (base, false) ⟨u :: mid, e₁⟩ =
      some (.inl (node, chained), ⟨t :: rest, e'⟩)) (ht : endsOperand t.tok = true) :
    operandRule g s ⟨n :: more, e⟩ = some (node, ⟨t :: rest, e'⟩) := by
  simp [operandRule, hn, h, repeating, iterate_inl hsuffix, iterate_inr (suffix_ends ht)]

namespace Parse

variable {β : Type} {toks : List Tok} {post : Node → Prop} {f : β → List Tok}
  {posts : β → Node → Prop} {xs : List β} {id : Text}

theorem ReadsAs.of_operand (hopens : ∃ k ks, toks = k :: ks ∧ opensOperand k = true)
    (harrow : ∀ c k after, endsOperand k = true → c.toks = toks ++ k :: after →
      arrow? g s c = some (none, c))
    (h : ∀ k after, endsOperand k = true → Takes (operandRule g s) toks (k :: after) post) :
    ReadsAs (assignRule g s) toks post := by
  obtain ⟨k₀, ks, rfl, hk₀⟩ := hopens
  refine ⟨⟨k₀, ks, rfl, ?_⟩, fun k after hk c hc => ?_⟩
  · rcases opensOperand_cases hk₀ with ⟨_, rfl⟩ | ⟨_, rfl⟩ | rfl | rfl | rfl <;> rfl
  · have hnone := harrow c k after hk hc
    obtain ⟨node, c', hoperand, hc', hnode⟩ := h k after hk c hc
    obtain ⟨n, more, e, rfl, rfl, -⟩ := Cursor.toks_eq_cons.mp hc
    obtain ⟨t, rest, e', rfl, rfl, -⟩ := Cursor.toks_eq_cons.mp hc'
    exact ⟨node, _, assignRule_of_operand hk₀ hnone hoperand hk, hc', hnode⟩

/-- An operand with nothing after it. -/
theorem ReadsAs.of_primary (hopens : ∃ k ks, toks = k :: ks ∧ opensOperand k = true)
    (harrow : ∀ c k after, endsOperand k = true → c.toks = toks ++ k :: after →
      arrow? g s c = some (none, c))
    (h : ∀ k after, endsOperand k = true → Takes (primary g s) toks (k :: after) post) :
    ReadsAs (assignRule g s) toks post := by
  refine .of_operand hopens harrow fun k after hk c hc => ?_
  obtain ⟨k₀, ks, rfl, hk₀⟩ := hopens
  obtain ⟨node, c', hprimary, hc', hnode⟩ := h k after hk c hc
  obtain ⟨n, more, e, rfl, rfl, -⟩ := Cursor.toks_eq_cons.mp hc
  obtain ⟨t, rest, e', rfl, rfl, -⟩ := Cursor.toks_eq_cons.mp hc'
  have hnew : n.tok ≠ .keyword .kwNew := by
    rcases opensOperand_cases hk₀ with ⟨_, h⟩ | ⟨_, h⟩ | h | h | h <;> simp [h]
  exact ⟨node, _, operandRule_of_primary hnew hprimary hk, hc', hnode⟩

/-- An operand that starts with neither a name nor a parenthesis, so with no arrow function. -/
theorem ReadsAs.of_literal {k₀ : Tok} (hopens : opensOperand k₀ = true)
    (hname : nameOf? k₀ = none) (hparen : k₀ ≠ .punct .lparen)
    (h : ∀ after, Takes (primary g s) (k₀ :: toks) after post) :
    ReadsAs (assignRule g s) (k₀ :: toks) post := by
  refine .of_primary ⟨_, _, rfl, hopens⟩ (fun c k after _ hc => ?_) fun k after _ => h (k :: after)
  obtain ⟨n, more, e, rfl, rfl, -⟩ := Cursor.toks_eq_cons.mp hc
  have hangle : n.tok ≠ .punct .lt := fun hlt => by simp [hlt, opensOperand] at hopens
  exact arrow?_of_nameOf? hname hparen hangle

theorem readsAs_name (g : Grammar) (s : Scope) (id : Text) :
    ReadsAs (assignRule g s) [.name id] fun node => ∃ span, node = .name span id := by
  refine .of_primary ⟨_, _, rfl, rfl⟩ (fun c k after hk hc => ?_) fun k after hk c hc => ?_
  all_goals
    obtain ⟨n, more, e, rfl, hn, hmore⟩ := Cursor.toks_eq_cons.mp hc
    obtain ⟨t, rest, rfl, rfl, hrest⟩ := List.map_eq_cons_iff.mp hmore
  · exact arrow?_name hn (ne_punct_of_endsOperand hk rfl) (.inr hk)
  · have hfunction : t.tok ≠ .keyword .kwFunction := by
      rcases endsOperand_cases hk with h | h | h | h | h | h <;> simp [h]
    exact ⟨_, _, primary_name hn hfunction, hmore, _, rfl⟩

theorem readsAs_string (g : Grammar) (s : Scope) (v : Text) :
    ReadsAs (assignRule g s) [.string v] fun node => ∃ span, node = .string span v := by
  refine .of_literal rfl rfl (by simp) fun after c hc => ?_
  obtain ⟨n, more, e, rfl, hn, hmore⟩ := Cursor.toks_eq_cons.mp hc
  exact ⟨_, _, primary_string hn, hmore, _, rfl⟩

theorem ReadsAs.spreadable (h : ReadsAs (g.assign s) toks post) :
    ReadsAs (spreadable g s) toks post := by
  refine ⟨h.starts, fun k after hk c hc => ?_⟩
  obtain ⟨node, c', hassign, hc', hnode⟩ := h.takes k after hk c hc
  obtain ⟨k₀, ks, rfl, hk₀⟩ := h.starts
  obtain ⟨n, more, e, rfl, rfl, hmore⟩ := Cursor.toks_eq_cons.mp hc
  have hspread : n.tok ≠ .punct .ellipsis := ne_punct_of_startsItem hk₀ rfl
  exact ⟨node, c', by simp [Script.spreadable, eatPunct, hspread, hassign], hc', hnode⟩

theorem takes_arguments {after : List Tok}
    (h : ∀ x ∈ xs, ReadsAs (g.assign s.inner) (f x) (posts x)) :
    Takes (arguments g s) (.punct .lparen :: listed f .rparen xs) after (List.Forall₂ posts xs) :=
  takes_punct.bind fun _ _ =>
    Takes.commaList rfl (by decide) rfl fun x hx => (h x hx).spreadable

/-- An expression in brackets or parentheses. -/
theorem ReadsAs.expression {k : Tok} {after : List Tok} (h : ReadsAs (g.assign s) toks post)
    (hk : endsOperand k = true) (hcomma : k ≠ .punct .comma) :
    Takes (expression g s) toks (k :: after) post := by
  intro c hc
  obtain ⟨node, c', hassign, hc', hnode⟩ := h.takes k after hk c hc
  obtain ⟨k₀, ks, rfl, hk₀⟩ := h.starts
  obtain ⟨n, more, e, rfl, rfl, hmore⟩ := Cursor.toks_eq_cons.mp hc
  obtain ⟨t, rest, e', rfl, rfl, hrest⟩ := Cursor.toks_eq_cons.mp hc'
  refine ⟨node, _, ?_, hc', hnode⟩
  simp [Script.expression, commaSeparated, hassign, repeating, iterate, eatPunct, hcomma]

/-- A function called by its name. -/
theorem readsAs_call (hid : id ≠ "async".toList)
    (h : ∀ x ∈ xs, ReadsAs (g.assign s.inner) (f x) (posts x)) :
    ReadsAs (assignRule g s) (.name id :: .punct .lparen :: listed f .rparen xs) fun node =>
      ∃ span place args, node = .call span (.name place id) args ∧ List.Forall₂ posts xs args := by
  refine .of_operand ⟨_, _, rfl, rfl⟩ (fun c k after hk hc => ?_) fun k after hk c hc => ?_
  all_goals
    obtain ⟨n, more, e, rfl, hn, hmore⟩ := Cursor.toks_eq_cons.mp hc
    obtain ⟨u, mid, rfl, hu, hmid⟩ := List.map_eq_cons_iff.mp hmore
  · exact arrow?_name hn (by simp [hu]) (.inl hid)
  · obtain ⟨args, c', hargs, hc', hpost⟩ := takes_arguments h ⟨u :: mid, n.span.stop⟩ hmore
    obtain ⟨t, rest, e', rfl, rfl, -⟩ := Cursor.toks_eq_cons.mp hc'
    have hsuffix : suffix g s n.span.start (.name ⟨n.span.start, n.span.stop⟩ id, false)
        ⟨u :: mid, n.span.stop⟩ = some (.inl (.call ⟨n.span.start, e'⟩
          (.name ⟨n.span.start, n.span.stop⟩ id) args, false), ⟨t :: rest, e'⟩) := by
      simp [suffix, hu, hargs]
    exact ⟨_, _, operandRule_of_suffix (by simp [hn]) (primary_name hn (by simp [hu])) hsuffix hk,
      hc', _, _, args, rfl, hpost⟩

/-- A value of a named object, picked by an expression in brackets. -/
theorem readsAs_access (hid : id ≠ "async".toList) (h : ReadsAs (g.assign s.inner) toks post) :
    ReadsAs (assignRule g s) (.name id :: .punct .lbracket :: (toks ++ [.punct .rbracket]))
      fun node => ∃ span place index,
        node = .other span .access [.name place id, index] ∧ post index := by
  refine .of_operand ⟨_, _, rfl, rfl⟩ (fun c k after hk hc => ?_) fun k after hk c hc => ?_
  all_goals
    obtain ⟨n, more, e, rfl, hn, hmore⟩ := Cursor.toks_eq_cons.mp hc
    obtain ⟨u, mid, rfl, hu, hmid⟩ := List.map_eq_cons_iff.mp hmore
  · exact arrow?_name hn (by simp [hu]) (.inl hid)
  · obtain ⟨index, c₁, hindex, hc₁, hpost⟩ :=
      h.expression (k := .punct .rbracket) rfl (by decide) ⟨mid, u.span.stop⟩
        (show mid.map (·.tok) = toks ++ .punct .rbracket :: k :: after by simpa using hmid)
    obtain ⟨r, more, e₁, rfl, hr, hmore'⟩ := Cursor.toks_eq_cons.mp hc₁
    obtain ⟨t, rest, rfl, rfl, -⟩ := List.map_eq_cons_iff.mp hmore'
    have hsuffix : suffix g s n.span.start (.name ⟨n.span.start, n.span.stop⟩ id, false)
        ⟨u :: mid, n.span.stop⟩ = some (.inl (.other ⟨n.span.start, r.span.stop⟩ .access
          [.name ⟨n.span.start, n.span.stop⟩ id, index], false), ⟨t :: rest, r.span.stop⟩) := by
      simp [suffix, hu, hindex, advance, punct, hr]
    exact ⟨_, _, operandRule_of_suffix (by simp [hn]) (primary_name hn (by simp [hu])) hsuffix hk,
      hmore', _, _, index, rfl, hpost⟩

theorem takes_arrayLiteral {after : List Tok}
    (h : ∀ x ∈ xs, ReadsAs (g.assign s.inner) (f x) (posts x)) :
    Takes (arrayLiteral g s) (.punct .lbracket :: listed f .rbracket xs) after fun node =>
      ∃ span items, node = .other span .array items ∧ List.Forall₂ posts xs items := by
  unfold arrayLiteral
  refine takes_startPos.bind fun start _ => takes_punct.bind fun _ _ => ?_
  refine (ListStep.takes_repeating (.of_items .rbracket (spreadable g s.inner) rfl (by decide)
    ?_ ?_ fun x hx => (h x hx).spreadable)).finish fun items hitems => ?_
  · exact fun found after => takes_eatPunct.bind fun _ hb => by
      subst hb
      exact takes_pure rfl
  · intro found c k ks hc hk
    obtain ⟨t, rest, e, rfl, rfl, -⟩ := Cursor.toks_eq_cons.mp hc
    have hclose : t.tok ≠ .punct .rbracket := ne_punct_of_startsItem hk rfl
    have hcomma : t.tok ≠ .punct .comma := ne_punct_of_startsItem hk rfl
    simp [eatPunct, itemAndComma, hclose, hcomma]
  · exact (takes_spanFrom start).bind fun span _ => takes_pure ⟨span, _, rfl, hitems⟩

theorem readsAs_array (h : ∀ x ∈ xs, ReadsAs (g.assign s.inner) (f x) (posts x)) :
    ReadsAs (assignRule g s) (.punct .lbracket :: listed f .rbracket xs) fun node =>
      ∃ span items, node = .other span .array items ∧ List.Forall₂ posts xs items := by
  refine .of_literal rfl rfl (by simp) fun after => (takes_arrayLiteral h).of_head ?_
  intro n more e hn
  simp [primary, hn]

end Parse

end StoryExports.Script
