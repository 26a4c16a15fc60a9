import StoryExports.Proofs.ParsedItems

/-!
# Parsing object literals

Object literals whose members are keys with values, and expressions in parentheses. Parentheses
start an arrow function if an arrow follows the one that closes them, so the brackets between them
have to match.
-/
namespace StoryExports.Script.Parse

variable {β : Type} {g : Grammar} {s : Scope} {toks after : List Tok} {post : Node → Prop}
  {t : Token} {rest : List Token} {e : Nat} {key : Text}

/-! ### Members -/

/-- Kinds of tokens that stand for a key: a word, or a string. -/
def IsKey (key : Text) (k : Tok) : Prop := k = .ofWord key ∨ k = .string key

theorem IsKey.cases {k : Tok} (h : IsKey key k) :
    (∃ id, k = .name id) ∨ (∃ w, k = .keyword w) ∨ k = .string key := by
  rcases h with rfl | rfl
  · unfold Tok.ofWord
    split <;> simp
  · simp

theorem IsKey.startsItem {k : Tok} (h : IsKey key k) : startsItem k = true := by
  rcases h.cases with ⟨_, rfl⟩ | ⟨_, rfl⟩ | rfl <;> rfl

theorem propertyKey_cons (h : IsKey key t.tok) :
    propertyKey g s ⟨t :: rest, e⟩ = some (⟨some key, []⟩, ⟨rest, t.span.stop⟩) := by
  rcases h with h | h
  · have hword : wordOf? t.tok = some key := h ▸ wordOf?_ofWord key
    have hadvance : advance ⟨t :: rest, e⟩ = some (t, ⟨rest, t.span.stop⟩) := by
      cases ht : t.tok <;> simp [ht, wordOf?] at hword <;> simp [advance, ht]
    cases ht : t.tok <;> simp [ht, wordOf?] at hword <;>
      simp [propertyKey, anyWord, ht, wordOf?, hword, hadvance]
  · simp [propertyKey, h, advance]

/-- Before a colon no word modifies a key. -/
theorem atModifier_colon {u : Token} (hu : u.tok = .punct .colon) (words : List String) :
    atModifier words ⟨t :: u :: rest, e⟩ = some (false, ⟨t :: u :: rest, e⟩) := by
  unfold atModifier
  simp only [bind_apply, peekTok_cons, Option.bind_some]
  cases ht : t.tok <;> simp [hu, endsKey]

theorem readsAs_member {k : Tok} (hk : IsKey key k) (h : ReadsAs (g.assign s) toks post) :
    ReadsAs (objectMember g s) (k :: .punct .colon :: toks) fun node =>
      ∃ span value, node = .member span .pair (some key) [value] ∧ post value := by
  refine ⟨⟨k, _, rfl, hk.startsItem⟩, fun last after hlast c hc => ?_⟩
  obtain ⟨n, more, e, rfl, rfl, hmore⟩ := Cursor.toks_eq_cons.mp hc
  obtain ⟨u, mid, rfl, hu, hmid⟩ := List.map_eq_cons_iff.mp hmore
  obtain ⟨value, c', hassign, hc', hvalue⟩ := h.takes last after hlast ⟨mid, u.span.stop⟩ hmid
  have hspread : n.tok ≠ .punct .ellipsis := ne_punct_of_startsItem hk.startsItem rfl
  have hstar : n.tok ≠ .punct .star := ne_punct_of_startsItem hk.startsItem rfl
  refine ⟨_, c', ?_, hc', ⟨n.span.start, c'.lastEnd⟩, value, rfl, hvalue⟩
  unfold objectMember
  simp [eatPunct, hspread, hstar, atModifier_colon hu, propertyKey_cons hk, hu, advance, hassign]

/-! ### Objects -/

theorem takes_objectLiteral {f : β → List Tok} {posts : β → Node → Prop} {xs : List β}
    (h : ∀ x ∈ xs, ReadsAs (objectMember g s.inner) (f x) (posts x)) :
    Takes (objectLiteral g s) (.punct .lbrace :: listed f .rbrace xs) after fun node =>
      ∃ span members, node = .object span members ∧ List.Forall₂ posts xs members := by
  unfold objectLiteral
  refine takes_startPos.bind fun start _ => takes_punct.bind fun _ _ => ?_
  refine Takes.finish (Takes.commaList rfl (by decide) rfl h) fun members hmembers => ?_
  exact (takes_spanFrom start).bind fun span _ => takes_pure ⟨span, members, rfl, hmembers⟩

theorem readsAs_object {f : β → List Tok} {posts : β → Node → Prop} {xs : List β}
    (h : ∀ x ∈ xs, ReadsAs (objectMember g s.inner) (f x) (posts x)) :
    ReadsAs (assignRule g s) (.punct .lbrace :: listed f .rbrace xs) fun node =>
      ∃ span members, node = .object span members ∧ List.Forall₂ posts xs members := by
  refine .of_literal rfl rfl (by simp) fun after => (takes_objectLiteral h).of_head ?_
  intro n more e hn
  simp [primary, hn]

/-! ### Matching brackets -/

/-- The brackets among these tokens match. -/
def Balanced (toks : List Tok) : Prop :=
  ∀ (ts rest : List Token) (depth : Nat), ts.map (·.tok) = toks →
    afterMatching (depth + 1) (ts ++ rest) = afterMatching (depth + 1) rest

theorem balanced_nil : Balanced [] := by
  intro ts rest depth hts
  rw [List.map_eq_nil_iff.mp hts, List.nil_append]

theorem Balanced.append {toks' : List Tok} (h : Balanced toks) (h' : Balanced toks') :
    Balanced (toks ++ toks') := by
  intro ts rest depth hts
  obtain ⟨us, vs, rfl, hus, hvs⟩ := List.map_eq_append_iff.mp hts
  rw [List.append_assoc, h us _ depth hus, h' vs rest depth hvs]

/-- Kinds of tokens that are no brackets. -/
def isPlain : Tok → Bool
  | .name _ | .keyword _ | .string _ | .punct .colon | .punct .comma => true
  | _ => false

theorem IsKey.isPlain {k : Tok} (h : IsKey key k) : isPlain k = true := by
  rcases h.cases with ⟨_, rfl⟩ | ⟨_, rfl⟩ | rfl <;> rfl

theorem Balanced.cons {k : Tok} (hk : isPlain k = true) (h : Balanced toks) :
    Balanced (k :: toks) := by
  intro ts rest depth hts
  obtain ⟨t, us, rfl, ht, hus⟩ := List.map_eq_cons_iff.mp hts
  have hrest := h us rest depth hus
  rw [List.cons_append, afterMatching, ht]
  unfold isPlain at hk
  split at hk <;> first | exact hrest | cases hk

theorem Balanced.braces (h : Balanced toks) :
    Balanced (.punct .lbrace :: (toks ++ [.punct .rbrace])) := by
  intro ts rest depth hts
  obtain ⟨l, ts, rfl, hl, hts⟩ := List.map_eq_cons_iff.mp hts
  obtain ⟨us, rs, rfl, hus, hrs⟩ := List.map_eq_append_iff.mp hts
  obtain ⟨r, _, rfl, hr, hnil⟩ := List.map_eq_cons_iff.mp hrs
  rw [List.map_eq_nil_iff.mp hnil, List.cons_append, afterMatching, hl]
  dsimp only
  rw [List.append_assoc, h us _ (depth + 1) hus, List.cons_append, List.nil_append, afterMatching,
    hr]
  simp

theorem Balanced.listed {f : β → List Tok} {xs : List β} (h : ∀ x ∈ xs, Balanced (f x)) :
    Balanced (.punct .lbrace :: listed f .rbrace xs) := by
  have hinner : ∃ toks, Balanced toks ∧ Script.listed f .rbrace xs = toks ++ [.punct .rbrace] := by
    fun_induction Script.listed f .rbrace xs with
    | case1 => exact ⟨[], balanced_nil, rfl⟩
    | case2 x => exact ⟨f x, h x List.mem_cons_self, rfl⟩
    | case3 x y xs ih =>
      obtain ⟨hx, hrest⟩ := List.forall_mem_cons.mp h
      obtain ⟨toks, htoks, heq⟩ := ih hrest
      exact ⟨f x ++ .punct .comma :: toks, hx.append (htoks.cons rfl), by simp [heq]⟩
  obtain ⟨toks, htoks, heq⟩ := hinner
  rw [heq]
  exact htoks.braces

/-! ### Parentheses -/

theorem afterMatching_paren {ts : List Token} (h : Balanced toks)
    (hts : ts.map (·.tok) = .punct .lparen :: (toks ++ [.punct .rparen])) (rest : List Token) :
    afterMatching 0 (ts ++ rest) = some rest := by
  obtain ⟨l, us, rfl, hl, hus⟩ := List.map_eq_cons_iff.mp hts
  obtain ⟨inner, rs, rfl, hinner, hrs⟩ := List.map_eq_append_iff.mp hus
  obtain ⟨r, _, rfl, hr, hnil⟩ := List.map_eq_cons_iff.mp hrs
  rw [List.map_eq_nil_iff.mp hnil, List.cons_append, afterMatching, hl]
  dsimp only
  rw [List.append_assoc, h inner _ 0 hinner, List.cons_append, List.nil_append, afterMatching, hr]
  rfl

/-- Parentheses at the end of an expression start no arrow function. -/
theorem arrow?_paren {k : Tok} (h : Balanced toks) (hk : endsOperand k = true) {c : Cursor}
    (hc : c.toks = .punct .lparen :: (toks ++ [.punct .rparen]) ++ k :: after) :
    arrow? g s c = some (none, c) := by
  obtain ⟨tokens, e⟩ := c
  obtain ⟨ts, more, rfl, hts, hmore⟩ := List.map_eq_append_iff.mp hc
  obtain ⟨u, rest, rfl, rfl, -⟩ := List.map_eq_cons_iff.mp hmore
  have hafter : peekAfterMatching 0 ⟨ts ++ u :: rest, e⟩ = some (u, ⟨ts ++ u :: rest, e⟩) := by
    simp [peekAfterMatching, afterMatching_paren h hts]
  obtain ⟨n, inner, rfl, hn, -⟩ := List.map_eq_cons_iff.mp hts
  obtain ⟨v, hv⟩ := exists_peekSecond ⟨n :: (inner ++ u :: rest), e⟩
  obtain ⟨w, hw⟩ := exists_peekThird ⟨n :: (inner ++ u :: rest), e⟩
  have harrow : u.tok ≠ .punct .arrow := ne_punct_of_endsOperand hk rfl
  have hcolon : u.tok ≠ .punct .colon := ne_punct_of_endsOperand hk rfl
  rw [List.cons_append] at hafter ⊢
  unfold arrow?
  simp [hn, hv, hw, nameOf?, parenArrow?, hafter, harrow, hcolon]

theorem takes_parenthesized (h : ReadsAs (g.assign s.inner) toks post) :
    Takes (parenthesized g s) (.punct .lparen :: (toks ++ [.punct .rparen])) after fun node =>
      ∃ span inner, node = .other span .paren [inner] ∧ post inner := by
  unfold parenthesized
  refine takes_startPos.bind fun start _ => takes_punct.bind fun _ _ => ?_
  refine (h.expression rfl (by decide)).bind fun inner hinner => ?_
  refine takes_punct.finish fun _ _ => ?_
  exact (takes_spanFrom start).bind fun span _ => takes_pure ⟨span, inner, rfl, hinner⟩

theorem readsAs_paren (hbalanced : Balanced toks) (h : ReadsAs (g.assign s.inner) toks post) :
    ReadsAs (assignRule g s) (.punct .lparen :: (toks ++ [.punct .rparen])) fun node =>
      ∃ span inner, node = .other span .paren [inner] ∧ post inner := by
  refine .of_primary ⟨_, _, rfl, rfl⟩ (fun c k after hk hc => arrow?_paren hbalanced hk hc)
    fun k after _ => (takes_parenthesized h).of_head ?_
  intro n more e hn
  simp [primary, hn]

theorem declaration?_paren (ht : t.tok = .punct .lparen) :
    declaration? g s ⟨t :: rest, e⟩ = some (none, ⟨t :: rest, e⟩) := by
  obtain ⟨u, hu⟩ := exists_peekSecond ⟨t :: rest, e⟩
  have hopening : opening? s ⟨t :: rest, e⟩ = some (none, ⟨t :: rest, e⟩) := by
    unfold opening?
    cases s.typed <;> simp [ht, hu]
  unfold declaration?
  simp [hopening, hu, ht]

theorem disposal?_paren (ht : t.tok = .punct .lparen) :
    disposal? g s ⟨t :: rest, e⟩ = some (none, ⟨t :: rest, e⟩) := by
  obtain ⟨u, hu⟩ := exists_peekSecond ⟨t :: rest, e⟩
  obtain ⟨v, hv⟩ := exists_peekThird ⟨t :: rest, e⟩
  unfold disposal?
  simp [hu, hv, ht]

/-- An expression in parentheses that is the rest of the text. -/
theorem takes_parenStatement (h : ReadsAs (g.assign s.inner) (.punct .lparen :: toks) post) :
    Takes (statementRule g s) (.punct .lparen :: toks) [.eof] fun node =>
      ∃ span inner, node = .other span .expression [inner] ∧ post inner := by
  intro c hc
  obtain ⟨inner, c', hexpression, hc', hinner⟩ := h.expression (k := .eof) rfl (by simp) c hc
  obtain ⟨n, more, e, rfl, hn, hmore⟩ := Cursor.toks_eq_cons.mp hc
  obtain ⟨t, rest, e', rfl, ht, -⟩ := Cursor.toks_eq_cons.mp hc'
  obtain ⟨u, hu⟩ := exists_peekSecond ⟨n :: more, e⟩
  have hend : semicolon ⟨t :: rest, e'⟩ = some ((), ⟨t :: rest, e'⟩) := by
    simp [semicolon, eatSemicolon, eatPunct, atStatementEnd, ht, guard]
  refine ⟨_, ⟨t :: rest, e'⟩, ?_, hc', ⟨n.span.start, e'⟩, inner, rfl, hinner⟩
  unfold statementRule
  simp [hn, declaration?_paren hn, disposal?_paren hn, nameOf?, hu, expressionStatement,
    hexpression, hend]

end StoryExports.Script.Parse
