import StoryExports.Proofs.ImportBounds
import StoryExports.Proofs.ImportLine
import StoryExports.Story.Compiled

/-!
# Reading an appended import

A module is read item by item, and no item goes across an import that starts a line. So if a text
ends between two tokens, an import line after it is an item of the whole, whenever the whole can be
parsed.
-/
namespace StoryExports.Script

open Parse Std.Do
open Transform (Appendix)

set_option mvcgen.warning false

variable {α β : Type} {i : ImportStart} {g : Grammar} {s : Scope} {w l n r f t : Token}
  {rest : List Token} {e : Nat} {id : Text}

namespace Parse

@[simp] theorem bind_apply (p : Parse α) (f : α → Parse β) (c : Cursor) :
    (p >>= f) c = (p c).bind fun r => f r.1 r.2 := rfl

@[simp] theorem pure_apply (a : α) (c : Cursor) : (pure a : Parse α) c = some (a, c) := rfl

@[simp] theorem map_apply (f : α → β) (p : Parse α) (c : Cursor) :
    (f <$> p) c = (p c).map fun r => (f r.1, r.2) := by
  cases h : p c <;> simp [Functor.map, StateT.map, h]

@[simp] theorem failure_apply (c : Cursor) : (failure : Parse α) c = none := rfl

@[simp] theorem peek_cons : peek ⟨t :: rest, e⟩ = some (t, ⟨t :: rest, e⟩) := rfl

@[simp] theorem peekTok_cons : peekTok ⟨t :: rest, e⟩ = some (t.tok, ⟨t :: rest, e⟩) := rfl

@[simp] theorem isPunct_cons (p : Punct) :
    isPunct p ⟨t :: rest, e⟩ = some (t.tok == .punct p, ⟨t :: rest, e⟩) := rfl

@[simp] theorem isKeyword_cons (k : Keyword) :
    isKeyword k ⟨t :: rest, e⟩ = some (t.tok == .keyword k, ⟨t :: rest, e⟩) := rfl

@[simp] theorem isName_cons :
    isName ⟨t :: rest, e⟩ = some ((nameOf? t.tok).isSome, ⟨t :: rest, e⟩) := rfl

@[simp] theorem isWord_cons (u : String) :
    isWord u ⟨t :: rest, e⟩ = some (t.tok == .name u.toList, ⟨t :: rest, e⟩) := rfl

@[simp] theorem eatTok_cons (u : Tok) :
    eatTok u ⟨t :: rest, e⟩ =
      if t.tok = u then (advance ⟨t :: rest, e⟩).map fun r => (true, r.2)
      else some (false, ⟨t :: rest, e⟩) := by
  by_cases h : t.tok = u
  all_goals simp [eatTok, h]

@[simp] theorem tok_cons (u : Tok) :
    tok u ⟨t :: rest, e⟩ =
      if t.tok = u then (advance ⟨t :: rest, e⟩).map fun r => ((), r.2) else none := by
  by_cases h : t.tok = u
  all_goals simp [tok, takeIf, h, Option.map_eq_bind]

end Parse

theorem commaList_single {item : Parse α} {close : Punct} {a : α} {e' : Nat}
    (hn : n.tok ≠ .punct close) (hr : r.tok = .punct close)
    (h : item ⟨n :: r :: rest, e⟩ = some (a, ⟨r :: rest, e'⟩)) :
    commaList close item ⟨n :: r :: rest, e⟩ = some ([a], ⟨rest, r.span.stop⟩) := by
  simp [commaList, repeating, iterate, eatPunct, advance, hn, hr, h]

theorem importSpecifier_name (hs : s.typed = false) (hn : n.tok = .name id)
    (hr : r.tok = .punct .rbrace) :
    importSpecifier s ⟨n :: r :: rest, e⟩ =
      some (⟨.named none, id, false⟩, ⟨r :: rest, n.span.stop⟩) := by
  simp [importSpecifier, atTypeMark, nameOf?, moduleName, ModuleName.text, anyWord, wordOf?,
    advance, eatWord, hs, hn, hr, guard]

theorem importClause_name (hs : s.typed = false) (hl : l.tok = .punct .lbrace)
    (hn : n.tok = .name id) (hr : r.tok = .punct .rbrace) :
    importClause s ⟨l :: n :: r :: rest, e⟩ =
      some ([⟨.named none, id, false⟩], ⟨rest, r.span.stop⟩) := by
  have hlist : commaList .rbrace (importSpecifier s) ⟨n :: r :: rest, l.span.stop⟩ =
      some ([⟨.named none, id, false⟩], ⟨rest, r.span.stop⟩) :=
    commaList_single (by simp [hn]) hr (importSpecifier_name hs hn hr)
  unfold importClause
  simp only [bind_apply, isName_cons, hl, nameOf?, Option.bind_some, Option.isSome_none,
    Bool.false_eq_true, if_false, pure_apply, List.isEmpty_nil, Bool.not_true]
  simp [hlist, eatPunct, punct, advance, hl]

/-- An import of one name is read only if a source follows. -/
theorem importItem_name (hs : s.typed = false) (hw : w.tok = .keyword .kwImport)
    (hl : l.tok = .punct .lbrace) (hn : n.tok = .name id) (hr : r.tok = .punct .rbrace)
    {body : ItemBody} {c' : Cursor}
    (h : importItem g s ⟨w :: l :: n :: r :: f :: rest, e⟩ = some (body, c')) :
    f.tok = .name "from".toList ∧ ∃ q rest' source, rest = q :: rest' ∧ q.tok = .string source ∧
      body = .importing source false [⟨.named none, id, false⟩] := by
  obtain ⟨c, ⟨hf, _, hrest⟩, source, c₁, hsource, -, -, -, -, rfl⟩ :
      ∃ c, (f.tok = .name "from".toList ∧ ∃ t, advance ⟨f :: rest, r.span.stop⟩ = some (t, c)) ∧
        ∃ source c₁, sourceString c = some (source, c₁) ∧
          ∃ attributes c₂, importAttributes g s c₁ = some (attributes, c₂) ∧
            (∃ u, semicolon c₂ = some (u, c')) ∧
            .importing source false [⟨.named none, id, false⟩] = body := by
    simpa [importItem, atTypeImport, importClause_name hs hl hn hr, keyword, word, peekSecond,
      advance, hs, hw, hl, Option.bind_eq_some_iff] using h
  obtain ⟨-, rfl⟩ := advance_eq_some hrest
  cases rest with
  | nil => cases hsource
  | cons q rest =>
    refine ⟨hf, q, rest, source, rfl, ?_, rfl⟩
    change sourceString ⟨q :: rest, f.span.stop⟩ = some (source, c₁) at hsource
    cases hq : q.tok with
    | string value =>
      obtain ⟨rfl, -⟩ : value = source ∧ _ := by simpa [sourceString, hq, advance] using hsource
      rfl
    | _ => simp [sourceString, hq] at hsource

/-- What is read where an import of one name stands is that import, if its source follows. -/
theorem item_name (hs : s.typed = false) (hw : w.tok = .keyword .kwImport)
    (hl : l.tok = .punct .lbrace) (hn : n.tok = .name id) (hr : r.tok = .punct .rbrace) {x : Item}
    {c' : Cursor} (h : item g s ⟨w :: l :: n :: r :: f :: rest, e⟩ = some (x, c')) :
    f.tok = .name "from".toList ∧ ∃ q rest' source, rest = q :: rest' ∧ q.tok = .string source ∧
      x.body = .importing source false [⟨.named none, id, false⟩] := by
  obtain ⟨body, c₁, hbody, span, -, rfl⟩ :
      ∃ body c₁, importItem g s ⟨w :: l :: n :: r :: f :: rest, e⟩ = some (body, c₁) ∧
        ∃ span, spanFrom w.span.start c₁ = some (span, c') ∧ ⟨span, w.leading, body⟩ = x := by
    simpa [item, atImportExpression, peekSecond, hw, hl, Option.bind_eq_some_iff] using h
  exact importItem_name hs hw hl hn hr hbody

namespace ImportStart

/-- An item is read where the import starts. -/
def Read (i : ImportStart) (g : Grammar) (s : Scope) (x : Item) : Prop :=
  ∃ c c', c.tokens = i.rest ∧ item g s c = some (x, c')

/-- The import stands ahead, or one of the items was read where it starts. -/
def Pending (i : ImportStart) (g : Grammar) (s : Scope) (found : List Item) (c : Cursor) : Prop :=
  i.At false c ∨ ∃ x ∈ found, i.Read g s x

/-- One more item ends before the import, or it is read where the import starts. -/
theorem item_pending (hg : g.Keeps i) (hs : s.typed = false) (found : List Item) :
    ⦃fun c => ⌜i.Pending g s found c⌝⦄ item g s ⦃⇓? x c => ⌜i.Pending g s (x :: found) c⌝⦄ := by
  refine triple_iff.mpr fun c x c' hc hrun => ?_
  rcases hc with hc | ⟨y, hy, hread⟩
  · obtain ⟨u, htokens, hu⟩ := at_false.mp hc
    cases u with
    | nil => exact .inr ⟨x, List.mem_cons_self, c, c', htokens, hrun⟩
    | cons t u => exact .inl (triple_iff.mp (item_spec hg hs) c x c' ⟨t, u, htokens, hu⟩ hrun)
  · exact .inr ⟨y, List.mem_cons_of_mem x hy, hread⟩

theorem Pending.read_of_eof {found : List Item} {c : Cursor} (h : i.Pending g s found c)
    (hinner : ∀ t ∈ i.before, t.tok ≠ .eof) (heof : (front c).tok = .eof) :
    ∃ x ∈ found, i.Read g s x := by
  rcases h with hc | hread
  · obtain ⟨u, htokens, hu⟩ := at_false.mp hc
    cases u with
    | nil => simp [front, htokens, rest, i.opens] at heof
    | cons t u =>
      rw [show front c = t by simp [front, htokens]] at heof
      exact absurd heof (hinner t (hu.subset List.mem_cons_self))
  · exact hread

/-- The items of a module are read one after the other up to the end, so one of them is read where
the import starts. -/
theorem read_of_items (hg : g.Keeps i) (hs : s.typed = false)
    (hinner : ∀ t ∈ i.before, t.tok ≠ .eof) {c c' : Cursor} {found : List Item}
    (hc : c.tokens = i.before ++ i.rest) (h : items g s c = some (found, c')) :
    ∃ x ∈ found, i.Read g s x := by
  have hitem := item_pending hg hs
  unfold items at h
  obtain ⟨⟨reversed, c₁⟩, hloop, h⟩ := Option.bind_eq_some_iff.mp h
  cases h
  have hstart : i.Pending g s [] c := .inl (at_false.mpr ⟨i.before, hc, List.suffix_refl _⟩)
  have hread := triple_iff.mp (keeps_of_steps (I := i.Pending g s)
    (Q := fun found _ => ∃ x ∈ found, i.Read g s x) (fun found => ?_) []) c reversed c' hstart hloop
  · simpa using hread
  · mvcgen [hitem]
    all_goals simp_all
    exact Pending.read_of_eof ‹_› hinner ‹_›

end ImportStart

theorem withoutMark_append_break (t u : Text) :
    withoutMark (t ++ '\n' :: u) = withoutMark t ++ '\n' :: u := by
  cases t with
  | nil => rfl
  | cons c t =>
    simp only [List.cons_append, withoutMark]
    split <;> rfl

/-- Whether a text ends between two tokens, and not after a dot. -/
def endsApart (t : Text) : Bool :=
  match (lex (withoutMark t ++ ['\n', '\n'])).reverse with
  | e :: before => e.tok == .eof && before.head?.all fun t => !t.tok.asksName
  | [] => false

theorem tokens_of_endsApart {t : Text} (h : endsApart t = true) :
    ∃ tokens e, lex (withoutMark t ++ ['\n', '\n']) = tokens ++ [e] ∧ e.tok = .eof ∧
      ∀ t ∈ tokens.getLast?, t.tok.asksName = false := by
  unfold endsApart at h
  split at h
  · rename_i e before heq
    rw [Bool.and_eq_true, beq_iff_eq] at h
    have hlex := congrArg List.reverse heq
    rw [List.reverse_reverse, List.reverse_cons] at hlex
    refine ⟨before.reverse, e, hlex, h.1, ?_⟩
    simpa [Option.all_eq_true] using h.2
  · cases h

/-- An import line that follows a text which ends apart is read as an import, whatever follows. -/
theorem exists_import_of_parse {a : Appendix} {body rest : Text} {m : List Item}
    (hbody : endsApart body = true)
    (h : parseModule .javaScript (body ++ '\n' :: (a.importLine ++ rest)) = some m) :
    ∃ x ∈ m, x.body = .importing a.runtimeModule false
      [⟨.named none, Appendix.runtimeFunction, false⟩] := by
  obtain ⟨tokens, e, hlex, he, hapart⟩ := tokens_of_endsApart hbody
  obtain ⟨hinner, last, hend, hafter⟩ := lex_break he hlex
  have hlength := importLine_length a rest
  obtain ⟨n, hn, hlex⟩ := hafter (a.importLine ++ rest)
    (List.ne_nil_of_length_pos (Nat.lt_of_lt_of_le (by decide) hlength))
  obtain ⟨n, rfl⟩ : ∃ k, n = k + 6 := Nat.exists_eq_add_of_le' (Nat.le_trans hlength hn)
  obtain ⟨w, l, name, r, f, more, htokens, hw, hfresh, hl, hjoined, hname, hr, hsource⟩ :=
    LexState.lexFrom_importLine hend a rest n
  let i : ImportStart := ⟨tokens, w, l, name :: r :: f :: more, hw, hfresh, hl, hjoined, hapart⟩
  rw [parseModule, withoutMark_append_break, hlex, htokens] at h
  obtain ⟨⟨found, c'⟩, hitems, rfl⟩ := Option.map_eq_some_iff.mp h
  obtain ⟨x, hx, ⟨restTokens, e⟩, c', hc, hitem⟩ :=
    ImportStart.read_of_items (i := i) (Grammar.nested_keeps i _) rfl hinner rfl hitems
  obtain rfl : restTokens = _ := hc
  obtain ⟨hf, q, rest', source, hmore, hq, hxbody⟩ := item_name rfl hw hl hname hr hitem
  obtain ⟨q', rest'', hmore', hq'⟩ := hsource hf
  rw [hmore] at hmore'
  cases hmore'
  rw [hq] at hq'
  cases hq'
  exact ⟨x, hx, hxbody⟩

end StoryExports.Script

namespace StoryExports.Story

open Script (endsApart parseModule Item)

theorem importsFrom_of_parse {a : Transform.Appendix} {body rest : Text} {m : List Item}
    (hbody : endsApart body = true)
    (h : parseModule .javaScript (body ++ '\n' :: (a.importLine ++ rest)) = some m) :
    importsFrom a.runtimeModule m = true := by
  obtain ⟨x, hx, hbody⟩ := Script.exists_import_of_parse hbody h
  exact List.any_eq_true.mpr ⟨x, hx, by simp [hbody]⟩

end StoryExports.Story
