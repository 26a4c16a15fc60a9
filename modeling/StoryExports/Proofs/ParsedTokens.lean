import StoryExports.Proofs.AppendedImport
import StoryExports.Proofs.WrittenTokens

/-!
# Parsing tokens of known kinds

What a parser does in front of tokens whose kinds are known, wherever they stand: which of them it
takes, and what it makes of them. Lists and the levels of an expression are read here once, for
all that is put together from them.
-/
namespace StoryExports.Script

variable {α β : Type} {g : Grammar} {s : Scope} {t : Token} {rest : List Token} {e : Nat}

/-- The kinds of the tokens to come. -/
def Cursor.toks (c : Cursor) : List Tok := c.tokens.map (·.tok)

theorem Cursor.toks_eq_cons {c : Cursor} {k : Tok} {ks : List Tok} :
    c.toks = k :: ks ↔
      ∃ t rest e, c = ⟨t :: rest, e⟩ ∧ t.tok = k ∧ rest.map (·.tok) = ks := by
  obtain ⟨tokens, e⟩ := c
  simp only [toks, List.map_eq_cons_iff]
  constructor
  · rintro ⟨t, rest, rfl, ht, hrest⟩
    exact ⟨t, rest, e, rfl, ht, hrest⟩
  · rintro ⟨t, rest, e, h, ht, hrest⟩
    cases h
    exact ⟨t, rest, rfl, ht, hrest⟩

namespace Parse

/-- In front of tokens of the first kinds, with the second ones after them, a parser takes the
first and gives a result with a property. -/
def Takes (p : Parse α) (toks after : List Tok) (post : α → Prop) : Prop :=
  ∀ c : Cursor, c.toks = toks ++ after → ∃ a c', p c = some (a, c') ∧ c'.toks = after ∧ post a

variable {p : Parse α} {toks after : List Tok} {post : α → Prop}

theorem Takes.mono {post' : α → Prop} (h : Takes p toks after post)
    (hpost : ∀ a, post a → post' a) : Takes p toks after post' := by
  intro c hc
  obtain ⟨a, c', hp, hc', ha⟩ := h c hc
  exact ⟨a, c', hp, hc', hpost a ha⟩

theorem Takes.bind {f : α → Parse β} {toks' : List Tok} {post' : β → Prop}
    (h : Takes p toks (toks' ++ after) post) (hf : ∀ a, post a → Takes (f a) toks' after post') :
    Takes (p >>= f) (toks ++ toks') after post' := by
  intro c hc
  obtain ⟨a, c₁, hp, hc₁, ha⟩ := h c (by rw [hc, List.append_assoc])
  obtain ⟨b, c₂, hfa, hc₂, hb⟩ := hf a ha c₁ hc₁
  exact ⟨b, c₂, by simp [hp, hfa], hc₂, hb⟩

/-- What comes after the last token taken. -/
theorem Takes.finish {f : α → Parse β} {post' : β → Prop} (h : Takes p toks after post)
    (hf : ∀ a, post a → Takes (f a) [] after post') : Takes (p >>= f) toks after post' := by
  rw [← List.append_nil toks]
  exact Takes.bind h hf

/-- A parser that does the same in front of the first token. -/
theorem Takes.of_head {q : Parse α} {k : Tok} (h : Takes p (k :: toks) after post)
    (hq : ∀ n more e, n.tok = k → q ⟨n :: more, e⟩ = p ⟨n :: more, e⟩) :
    Takes q (k :: toks) after post := by
  intro c hc
  obtain ⟨n, more, e, rfl, hn, -⟩ := Cursor.toks_eq_cons.mp hc
  rw [hq n more e hn]
  exact h _ hc

theorem takes_pure {a : α} (h : post a) : Takes (pure a : Parse α) [] after post :=
  fun c hc => ⟨a, c, rfl, hc, h⟩

@[simp] theorem startPos_cons :
    startPos ⟨t :: rest, e⟩ = some (t.span.start, ⟨t :: rest, e⟩) := rfl

@[simp] theorem peekSecond_cons {u : Token} :
    peekSecond ⟨t :: u :: rest, e⟩ = some (u, ⟨t :: u :: rest, e⟩) := rfl

@[simp] theorem spanFrom_apply (start : Nat) (c : Cursor) :
    spanFrom start c = some (⟨start, c.lastEnd⟩, c) := rfl

theorem takes_startPos {k : Tok} : Takes startPos [] (k :: after) fun _ => True := by
  intro c hc
  obtain ⟨t, rest, e, rfl, -, -⟩ := Cursor.toks_eq_cons.mp hc
  exact ⟨t.span.start, _, rfl, hc, trivial⟩

theorem takes_spanFrom (start : Nat) : Takes (spanFrom start) [] after fun _ => True :=
  fun c hc => ⟨⟨start, c.lastEnd⟩, c, rfl, hc, trivial⟩

theorem takes_punct {u : Punct} : Takes (punct u) [.punct u] after fun _ => True := by
  intro c hc
  obtain ⟨t, rest, e, rfl, ht, hrest⟩ := Cursor.toks_eq_cons.mp hc
  exact ⟨(), ⟨rest, t.span.stop⟩, by simp [punct, advance, ht], hrest, trivial⟩

theorem takes_eatPunct {u : Punct} : Takes (eatPunct u) [.punct u] after (· = true) := by
  intro c hc
  obtain ⟨t, rest, e, rfl, ht, hrest⟩ := Cursor.toks_eq_cons.mp hc
  exact ⟨true, ⟨rest, t.span.stop⟩, by simp [eatPunct, advance, ht], hrest, rfl⟩

/-! ### Loops -/

theorem iterate_inl {step : α → Parse (α ⊕ β)} {a a' : α} {c c' : Cursor}
    (h : step a c = some (.inl a', c')) (n : Nat) :
    iterate step (n + 1) a c = iterate step n a' c' := by
  simp [iterate, h]

theorem iterate_inr {step : α → Parse (α ⊕ β)} {a : α} {b : β} {c c' : Cursor}
    (h : step a c = some (.inr b, c')) (n : Nat) :
    iterate step (n + 1) a c = some (b, c') := by
  simp [iterate, h]

/-- A step of a loop reads the end of a list, or one item and the comma after it. -/
structure ListStep (step : List α → Parse (List α ⊕ List α)) (f : β → List Tok) (close : Punct)
    (post : β → α → Prop) (xs : List β) : Prop where
  ends : ∀ found after, Takes (step found) [.punct close] after (· = .inr found)
  last : ∀ x ∈ xs, ∀ found after, Takes (step found) (f x) (.punct close :: after)
    fun r => ∃ a, r = .inl (a :: found) ∧ post x a
  more : ∀ x ∈ xs, ∀ found after, Takes (step found) (f x ++ [.punct .comma]) after
    fun r => ∃ a, r = .inl (a :: found) ∧ post x a

section List

variable {step : List α → Parse (List α ⊕ List α)} {f : β → List Tok} {close : Punct}
  {post : β → α → Prop} {xs : List β}

theorem ListStep.takes_iterate (h : ListStep step f close post xs) {n : Nat} (hn : xs.length < n)
    (found : List α) :
    Takes (iterate step n found) (listed f close xs) after
      fun all => ∃ as, all = as.reverse ++ found ∧ List.Forall₂ post xs as := by
  obtain ⟨hclose, hlast, hmore⟩ := h
  obtain ⟨n, rfl⟩ : ∃ m, n = m + 1 := Nat.exists_eq_add_of_le' (Nat.one_le_of_lt hn)
  fun_induction listed f close xs generalizing n found with
  | case1 =>
    intro c hc
    obtain ⟨_, c', hstep, hc', rfl⟩ := hclose found after c hc
    exact ⟨found, c', iterate_inr hstep n, hc', [], rfl, .nil⟩
  | case2 x =>
    intro c hc
    obtain ⟨_, c₁, hstep, hc₁, a, rfl, ha⟩ :=
      hlast x List.mem_cons_self found after c (by simpa using hc)
    obtain ⟨_, c', hend, hc', rfl⟩ := hclose (a :: found) after c₁ hc₁
    obtain ⟨n, rfl⟩ : ∃ m, n = m + 1 := Nat.exists_eq_add_of_le' (Nat.lt_of_succ_lt_succ hn)
    refine ⟨a :: found, c', ?_, hc', [a], rfl, .cons ha .nil⟩
    rw [iterate_inl hstep, iterate_inr hend]
  | case3 x y xs ih =>
    intro c hc
    obtain ⟨hx, hrest⟩ := List.forall_mem_cons.mp hmore
    obtain ⟨_, c₁, hstep, hc₁, a, rfl, ha⟩ :=
      hx found (listed f close (y :: xs) ++ after) c (by simpa using hc)
    have hn : (y :: xs).length < n := Nat.lt_of_succ_lt_succ hn
    obtain ⟨n, rfl⟩ : ∃ m, n = m + 1 := Nat.exists_eq_add_of_le' (Nat.one_le_of_lt hn)
    obtain ⟨_, c', hiterate, hc', as, rfl, has⟩ :=
      ih (a :: found) (List.forall_mem_cons.mp hlast).2 hrest n hn c₁ hc₁
    refine ⟨_, c', ?_, hc', a :: as, rfl, .cons ha has⟩
    rw [iterate_inl hstep, hiterate, List.reverse_cons, List.append_assoc, List.singleton_append]

/-- A loop of such steps reads the whole list. -/
theorem ListStep.takes_repeating (h : ListStep step f close post xs) :
    Takes (repeating step []) (listed f close xs) after
      fun all => List.Forall₂ post xs all.reverse := by
  intro c hc
  have hn : xs.length < c.tokens.length + 1 := by
    have hlen := congrArg List.length hc
    have hlisted := length_le_listed f close xs
    simp only [Cursor.toks, List.length_map, List.length_append] at hlen
    omega
  obtain ⟨_, c', hiterate, hc', as, rfl, has⟩ := h.takes_iterate hn [] c hc
  exact ⟨_, c', hiterate, hc', by simpa using has⟩

end List

/-- Kinds of tokens before which an expression ends. -/
def endsOperand : Tok → Bool
  | .punct .rparen | .punct .rbracket | .punct .rbrace | .punct .comma | .punct .semicolon
  | .eof => true
  | _ => false

/-- Kinds of tokens that an item of a list may start with. -/
def startsItem : Tok → Bool
  | .name _ | .keyword _ | .string _ | .punct .lbrace | .punct .lbracket | .punct .lparen => true
  | _ => false

/-- A parser reads tokens of these kinds as something with a property, wherever an expression may
end after them. -/
structure ReadsAs (p : Parse α) (toks : List Tok) (post : α → Prop) : Prop where
  starts : ∃ k ks, toks = k :: ks ∧ startsItem k = true
  takes : ∀ k after, endsOperand k = true → Takes p toks (k :: after) post

theorem ReadsAs.mono {post' : α → Prop} (h : ReadsAs p toks post) (hpost : ∀ a, post a → post' a) :
    ReadsAs p toks post' :=
  ⟨h.starts, fun k after hk => (h.takes k after hk).mono hpost⟩

/-- An item of a list, and the comma after it unless the list ends there. -/
def itemAndComma (close : Punct) (item : Parse α) (found : List α) : Parse (List α ⊕ List α) := do
  let x ← item
  if !(← isPunct close) then punct .comma
  return .inl (x :: found)

theorem takes_itemAndComma_last {item : Parse α} {close : Punct} (found : List α)
    (h : Takes item toks (.punct close :: after) post) :
    Takes (itemAndComma close item found) toks (.punct close :: after)
      fun r => ∃ a, r = .inl (a :: found) ∧ post a := by
  intro c hc
  obtain ⟨a, c₁, hitem, hc₁, ha⟩ := h c hc
  obtain ⟨t, rest, e, rfl, ht, hrest⟩ := Cursor.toks_eq_cons.mp hc₁
  exact ⟨_, _, by simp [itemAndComma, hitem, ht], hc₁, a, rfl, ha⟩

theorem takes_itemAndComma_more {item : Parse α} {close : Punct} (hclose : close ≠ .comma)
    (found : List α) (h : Takes item toks (.punct .comma :: after) post) :
    Takes (itemAndComma close item found) (toks ++ [.punct .comma]) after
      fun r => ∃ a, r = .inl (a :: found) ∧ post a := by
  intro c hc
  obtain ⟨a, c₁, hitem, hc₁, ha⟩ := h c (by simpa using hc)
  obtain ⟨t, rest, e, rfl, ht, hrest⟩ := Cursor.toks_eq_cons.mp hc₁
  refine ⟨_, ⟨rest, t.span.stop⟩, ?_, hrest, a, rfl, ha⟩
  simp [itemAndComma, hitem, ht, punct, advance, hclose.symm]

theorem ne_punct_of_startsItem {k : Tok} {u : Punct} (hk : startsItem k = true)
    (hu : startsItem (.punct u) = false) : k ≠ .punct u := by
  rintro rfl
  rw [hk] at hu
  cases hu

/-- A step that reads items, and commas between them, reads a list of items that it can read. -/
theorem ListStep.of_items (close : Punct) (item : Parse α)
    {step : List α → Parse (List α ⊕ List α)} {f : β → List Tok} {post : β → α → Prop}
    {xs : List β} (hclose : endsOperand (.punct close) = true) (hcomma : close ≠ .comma)
    (hends : ∀ found after, Takes (step found) [.punct close] after (· = .inr found))
    (hstep : ∀ found c k ks, c.toks = k :: ks → startsItem k = true →
      step found c = itemAndComma close item found c)
    (h : ∀ x ∈ xs, ReadsAs item (f x) (post x)) : ListStep step f close post xs := by
  refine ⟨hends, fun x hx found after c hc => ?_, fun x hx found after c hc => ?_⟩
  · obtain ⟨k, ks, hf, hk⟩ := (h x hx).starts
    rw [hstep found c k (ks ++ .punct close :: after) (by rw [hc, hf]; rfl) hk]
    exact takes_itemAndComma_last found ((h x hx).takes _ _ hclose) c hc
  · obtain ⟨k, ks, hf, hk⟩ := (h x hx).starts
    rw [hstep found c k (ks ++ [.punct .comma] ++ after) (by rw [hc, hf]; rfl) hk]
    exact takes_itemAndComma_more hcomma found ((h x hx).takes _ _ rfl) c hc

theorem Takes.commaList {item : Parse α} {f : β → List Tok} {close : Punct} {post : β → α → Prop}
    {xs : List β} (hclose : endsOperand (.punct close) = true) (hcomma : close ≠ .comma)
    (hstart : startsItem (.punct close) = false) (h : ∀ x ∈ xs, ReadsAs item (f x) (post x)) :
    Takes (commaList close item) (listed f close xs) after (List.Forall₂ post xs) := by
  unfold Parse.commaList
  refine (ListStep.takes_repeating (.of_items close item hclose hcomma ?_ ?_ h)).finish
    fun found hfound => takes_pure hfound
  · exact fun found after => takes_eatPunct.bind fun _ hb => by
      subst hb
      exact takes_pure rfl
  · intro found c k ks hc hk
    obtain ⟨t, rest, e, rfl, rfl, -⟩ := Cursor.toks_eq_cons.mp hc
    simp [eatPunct, itemAndComma, ne_punct_of_startsItem hk hstart]

end Parse

end StoryExports.Script
