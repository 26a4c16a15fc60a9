import StoryExports.Proofs.ParsedItems
import StoryExports.Proofs.SequelStatements

/-!
# Modules with a sequel

The grammar that stops where a script has to stop reads a module item by item. If it reads all of a
text, the items of the text are read in the same way when a sequel follows.
-/
namespace StoryExports.Script

open Parse

variable {q : Sequel} {g g' : Grammar} {s : Scope}

/-! ### Imports and exports -/

theorem moduleName_local : Local q Eq moduleName moduleName := by
  unfold moduleName
  refine .of_peekTok (fun c d hcd => (anyWord_asks.bind _).localAt hcd) fun t _ => ?_
  split
  · exact advance_local.bind fun _ _ _ => .pure rfl
  · exact anyWord_local.then fun _ => .pure rfl

theorem sourceString_local : Local q (fun _ _ => True) sourceString sourceString := by
  unfold sourceString
  refine .of_peekTok (fun _ _ _ => .of_none rfl) fun t _ => ?_
  split
  · exact advance_local.bind fun _ _ _ => .pure trivial
  · exact .failure

section Untyped

variable (hs : s.typed = false)
include hs

theorem importAttributes_local : Local q Eq (importAttributes g s) (importAttributes g' s) := by
  unfold importAttributes
  simp only [hs, Bool.false_and, Bool.false_eq_true, if_false]
  exact onFreshLine_local.bind fun _ _ _ => .pure rfl

theorem atTypeMark_eq : atTypeMark s = pure false := by
  unfold atTypeMark
  funext c
  simp [hs, isWord_apply]

theorem atTypeImport_eq : atTypeImport s = pure false := by
  unfold atTypeImport
  funext c
  simp [hs, isWord_apply]

theorem importSpecifier_local :
    Local q (fun _ _ => True) (importSpecifier s) (importSpecifier s) := by
  unfold importSpecifier
  simp only [atTypeMark_eq hs, pure_bind, Bool.false_eq_true, if_false]
  refine isName_local.then fun _ => moduleName_local.then fun _ =>
    (eatWord_local _).then fun _ => ?_
  exact .ite (name_local.then fun _ => .pure trivial)
    ((guard_local _).then fun _ => .pure trivial)

theorem importClause_local :
    Local q (fun _ _ => True) (importClause s) (importClause s) := by
  unfold importClause
  refine Local.then (isName_local.then fun _ =>
    .ite (name_local.then fun _ => .pure rfl) (.pure rfl)) fun first => ?_
  have hrest : Local q (fun _ _ => True)
      (do
        if ← eatPunct .star then
          word "as"
          return first ++ [⟨.whole, ← name, false⟩]
        else
          punct .lbrace
          return first ++ (← commaList .rbrace (importSpecifier s)))
      (do
        if ← eatPunct .star then
          word "as"
          return first ++ [⟨.whole, ← name, false⟩]
        else
          punct .lbrace
          return first ++ (← commaList .rbrace (importSpecifier s))) :=
    (eatPunct_local _).then fun _ => .ite
      ((word_local _).then fun _ => name_local.then fun _ => .pure trivial)
      ((punct_local _).then fun _ => (commaList_local (importSpecifier_local hs).inside).bind
        fun _ _ _ => .pure trivial)
  exact .ite ((eatPunct_local _).then fun _ => .ite (.pure trivial) hrest) hrest

theorem importItem_local :
    Local q (fun _ _ => True) (importItem g s) (importItem g' s) := by
  unfold importItem
  simp only [hs, atTypeImport_eq hs, pure_bind, Bool.false_and, Bool.false_eq_true, if_false]
  refine (keyword_local _).then fun _ => .of_peekTok_eq ⟨rfl, rfl, rfl⟩ fun t => ?_
  split
  · exact advance_local.bind fun _ _ _ => (importAttributes_local hs).then fun _ =>
      semicolon_local.then fun _ => .pure trivial
  · exact isName_local.then fun _ => peekSecond_local.bind fun _ _ _ =>
      (importClause_local hs).bind fun _ _ _ => (word_local _).then fun _ =>
      sourceString_local.bind fun _ _ _ => (importAttributes_local hs).then fun _ =>
      semicolon_local.then fun _ => .pure trivial

theorem exportSpecifier_local : Local q Eq (exportSpecifier s) (exportSpecifier s) := by
  unfold exportSpecifier
  simp only [atTypeMark_eq hs, pure_bind, Bool.false_eq_true, if_false]
  exact moduleName_local.then fun _ => (eatWord_local _).then fun _ =>
    .ite (moduleName_local.then fun _ => .pure rfl) (.pure rfl)

theorem exportBraces_local :
    Local q (fun _ _ => True) (exportBraces g s) (exportBraces g' s) := by
  unfold exportBraces
  refine (punct_local _).then fun _ => (commaList_local (exportSpecifier_local hs).inside).bind
    fun names names' hnames => (eatWord_local _).then fun _ => ?_
  obtain rfl : names = names' := List.forall₂_eq_eq_eq ▸ hnames
  refine .ite ?_ ((guard_local _).then fun _ => semicolon_local.then fun _ => .pure trivial)
  exact sourceString_local.bind fun _ _ _ => (importAttributes_local hs).then fun _ =>
    semicolon_local.then fun _ => .pure trivial

theorem exportStar_local :
    Local q (fun _ _ => True) (exportStar g s) (exportStar g' s) := by
  unfold exportStar
  refine (punct_local _).then fun _ => Local.then ((eatWord_local _).then fun _ =>
    .ite (moduleName_local.then fun _ => .pure rfl) (.pure rfl)) fun exported => ?_
  refine (word_local _).then fun _ => sourceString_local.bind fun _ _ _ =>
    (importAttributes_local hs).then fun _ => semicolon_local.then fun _ => ?_
  cases exported with
  | some _ => exact .pure trivial
  | none => exact .pure trivial

end Untyped

section Items

variable (hg : g.Local q g') (hs : s.typed = false)
include hg hs

theorem exportDefaultItem_local :
    Local q (fun _ _ => True) (exportDefaultItem g s) (exportDefaultItem g' s) := by
  unfold exportDefaultItem
  simp only [hs, Bool.false_and, Bool.false_eq_true, if_false]
  intro c d hcd
  refine .look (startPos_apply c) (startPos_apply d) (.look (peekSecond_apply c)
    (peekSecond_apply d) (.look (peekTok_apply c) (peekTok_apply d) ?_))
  rcases hcd.front with ⟨⟨htok, -⟩, hne⟩ | ⟨heof, -⟩
  · rw [← htok]
    split
    · exact ((functionDefinition_local hg hs _).bind fun _ _ _ => .pure trivial) c d hcd
    · exact ((classDefinition_local hg hs _).bind fun _ _ _ => .pure trivial) c d hcd
    · rw [Bool.and_assoc, Bool.and_assoc, (hcd.second hne).asyncFunction]
      refine Local.ite ?_ ?_ c d hcd
      · exact advance_local.bind fun _ _ _ => (functionDefinition_local hg hs _).bind fun _ _ _ =>
          .pure trivial
      · exact (hg.assign hs).bind fun _ _ _ => semicolon_local.then fun _ => .pure trivial
  · rw [heof]
    exact .of_none ((hg.asks.assign hs).bind _ c heof)

theorem exportItem_local :
    Local q (fun _ _ => True) (exportItem g s) (exportItem g' s) := by
  unfold exportItem
  simp only [hs, Bool.false_and, Bool.false_eq_true, if_false]
  refine (keyword_local _).then fun _ c d hcd => ?_
  refine .look (peekTok_apply c) (peekTok_apply d) ?_
  rcases hcd.front with ⟨⟨htok, -⟩, hne⟩ | ⟨heof, -⟩
  · rw [← htok]
    split
    · exact (advance_local c d hcd).bind fun _ _ _ => exportDefaultItem_local hg hs
    · exact exportStar_local hs c d hcd
    · exact exportBraces_local hs c d hcd
    · refine .look (peekSecond_apply c) (peekSecond_apply d)
        ((declaration?_localAt hg hs hcd hne).bind ?_)
      rintro _ _ (⟨h⟩ | _)
      · exact .pure trivial
      · exact .failure
  · rw [heof]
    exact .of_none (AsksToken.look (fun c => ⟨_, peekSecond_apply c⟩)
      (fun _ => .stays (fun _ => declaration?_atEnd hs) fun _ _ => rfl) c heof)

omit hg hs in
theorem atImportExpression_apply (c : Cursor) : atImportExpression c =
    some ((second c).tok == .punct .lparen || (second c).tok == .punct .dot, c) := by
  rw [atImportExpression, bind_apply, peekSecond_apply]
  rfl

omit hg hs in
theorem item_asks (h : AsksToken (g.statement s)) : AsksToken (item g s) :=
  .look (fun c => ⟨_, peek_apply c⟩) fun _ => AsksToken.bind (.isKeyword
    (.look (fun c => ⟨_, atImportExpression_apply c⟩) fun _ => .isKeyword (h.bind _))) _

theorem item_local : Local q (fun _ _ => True) (item g s) (item g' s) := by
  intro c d hcd
  rcases hcd.front with ⟨⟨htok, -⟩, hne⟩ | ⟨heof, -⟩
  · unfold item
    refine .look (peek_apply c) (peek_apply d) ?_
    refine LocalAt.bind (R := fun _ _ => True) (.look (isKeyword_apply _ c) (isKeyword_apply _ d)
      (.look (atImportExpression_apply c) (atImportExpression_apply d) ?_)) fun _ _ _ =>
      (spanFrom_local _ _).bind fun _ _ _ => .pure trivial
    rw [← htok, (hcd.second hne).beq_punct, (hcd.second hne).beq_punct]
    refine .ite (fun _ => importItem_local hs c d hcd) fun _ =>
      .look (isKeyword_apply _ c) (isKeyword_apply _ d) ?_
    rw [← htok]
    exact .ite (fun _ => exportItem_local hg hs c d hcd) fun _ =>
      ((hg.statement hs).bind fun _ _ _ => .pure trivial) c d hcd
  · exact .of_none (item_asks (hg.asks.statement hs) c heof)

end Items

/-! ### The strict grammar -/

theorem arrow?_atEnd (hs : s.typed = false) {c : Cursor} (hc : AtEnd c) :
    arrow? g s c = some (none, c) := by
  have heof : (front c).tok = .eof := hc
  unfold arrow?
  simp [hs, startPos_apply, peekTok_apply, peekSecond_apply, peekThird_apply, heof, nameOf?]

theorem unaryRule_asks : AsksToken (unaryRule g s) :=
  .startPos fun _ => .of_peekTok postfixed_asks

theorem binaryRule_asks (level : Nat) : AsksToken (binaryRule g s level) :=
  .startPos fun _ => unaryRule_asks.bind _

theorem assignRule_asks (hs : s.typed = false) : AsksToken (assignRule g s) := by
  refine .stays (fun _ => arrow?_atEnd hs) (.look (fun c => ⟨_, isKeyword_apply _ c⟩) fun _ =>
    .ite ?_ (.startPos fun _ => (binaryRule_asks _).bind _))
  exact .startPos fun _ => (keyword_asks _).bind _

theorem bindingRule_asks : AsksToken (bindingRule g s) :=
  .startPos fun _ => .of_peekTok (name_asks.bind _)

theorem Grammar.Asks.step (h : g.Asks) : g.step.Asks where
  assign hs := assignRule_asks hs
  binary _ level := binaryRule_asks level
  unary _ := unaryRule_asks
  operand _ := operandRule_asks
  construct _ := constructRule_asks
  statement hs := statementRule_asks h hs
  binding _ := bindingRule_asks

theorem Grammar.Local.step (h : g.Local q g') : g.step.Local q g'.step where
  strict := h.strict
  asks := h.asks.step
  assign hs := assignRule_local h hs
  binary hs level := binaryRule_local h hs level
  unary hs := unaryRule_local h hs
  operand hs := operandRule_local h hs
  construct hs := constructRule_local h hs
  statement hs := statementRule_local h hs
  binding hs := bindingRule_local h hs

/-- The grammar of nested constructs that stops where a script has to stop. -/
def Grammar.strict : Nat → Grammar
  | 0 => { Grammar.empty with lenient := false }
  | depth + 1 => .step (.strict depth)

theorem Grammar.strict_local {n m : Nat} (h : n ≤ m) :
    (Grammar.strict n).Local q (Grammar.nested m) := by
  induction n generalizing m with
  | zero =>
    exact {
      strict := rfl
      asks := ⟨fun _ _ _ => rfl, fun _ _ _ _ => rfl, fun _ _ _ => rfl, fun _ _ _ => rfl,
        fun _ _ _ => rfl, fun _ _ _ => rfl, fun _ _ _ => rfl⟩
      assign := fun _ => .failure
      binary := fun _ _ => .failure
      unary := fun _ => .failure
      operand := fun _ => .failure
      construct := fun _ => .failure
      statement := fun _ => .failure
      binding := fun _ => .failure }
  | succ n ih =>
    obtain ⟨m, rfl⟩ : ∃ k, m = k + 1 := Nat.exists_eq_succ_of_ne_zero (by omega)
    exact (ih (by omega)).step

/-! ### Items one after the other -/

/-- One round of the loop over the items. -/
theorem iterate_itemStep_succ (fuel : Nat) (found : List Item) (c : Cursor) :
    iterate (itemStep g s) (fuel + 1) found c =
      if (front c).tok = .eof then some (found, c)
      else (item g s c).bind fun r => iterate (itemStep g s) fuel (r.1 :: found) r.2 := by
  split
  · rename_i heof
    exact iterate_inr (by simp [itemStep, peekTok_apply, heof]) fuel
  · rename_i hne
    cases hitem : item g s c with
    | none =>
      have hstep : itemStep g s found c = none := by simp [itemStep, peekTok_apply, hne, hitem]
      rw [iterate, bind_apply, hstep]
      rfl
    | some r => exact iterate_inl (by simp [itemStep, peekTok_apply, hne, hitem]) fuel

/-- The items that are found stay in the result. -/
theorem suffix_of_iterate {c c' : Cursor} {fuel : Nat} {found all : List Item}
    (h : iterate (itemStep g s) fuel found c = some (all, c')) : found <:+ all := by
  induction fuel generalizing found c with
  | zero => cases h
  | succ fuel ih =>
    rw [iterate_itemStep_succ] at h
    split at h
    · cases h
      exact List.suffix_rfl
    · obtain ⟨⟨x, c₁⟩, -, h⟩ := Option.bind_eq_some_iff.mp h
      exact (List.suffix_cons x found).trans (ih h)

/-- Items are read from one place to another. -/
inductive ReadsTo (g : Grammar) (s : Scope) : Nat → Cursor → Cursor → Prop
  | stay (c : Cursor) : ReadsTo g s 0 c c
  | next {c c₁ c' : Cursor} {n : Nat} {x : Item} (hne : (front c).tok ≠ .eof)
      (hitem : item g s c = some (x, c₁)) (h : ReadsTo g s n c₁ c') : ReadsTo g s (n + 1) c c'

namespace ReadsTo

variable {c c' d : Cursor} {n : Nat}

/-- The loop over the items goes on where it has come to. -/
theorem iterate_eq (h : ReadsTo g s n c c') (found : List Item) :
    ∃ found', ∀ fuel, iterate (itemStep g s) (n + fuel) found c =
      iterate (itemStep g s) fuel found' c' := by
  induction h generalizing found with
  | stay c => exact ⟨found, fun fuel => by rw [Nat.zero_add]⟩
  | @next c c₁ c' n x hne hitem _ ih =>
    obtain ⟨found', hfound⟩ := ih (x :: found)
    refine ⟨found', fun fuel => ?_⟩
    rw [Nat.add_right_comm, iterate_itemStep_succ, if_neg hne, hitem, Option.bind_some, hfound]

theorem of_iterate {fuel : Nat} {found all : List Item}
    (h : iterate (itemStep g s) fuel found c = some (all, c')) :
    (front c').tok = .eof ∧ ∃ n, n < fuel ∧ ReadsTo g s n c c' := by
  induction fuel generalizing found c with
  | zero => cases h
  | succ fuel ih =>
    rw [iterate_itemStep_succ] at h
    split at h
    · rename_i heof
      cases h
      exact ⟨heof, 0, Nat.succ_pos _, .stay _⟩
    · rename_i hne
      obtain ⟨⟨x, c₁⟩, hitem, h⟩ := Option.bind_eq_some_iff.mp h
      obtain ⟨hend, n, hn, hreads⟩ := ih h
      exact ⟨hend, n + 1, by omega, .next hne hitem hreads⟩

theorem trans {c₁ : Cursor} {m : Nat} (h : ReadsTo g s n c c₁) (h' : ReadsTo g s m c₁ c') :
    ReadsTo g s (n + m) c c' := by
  induction h with
  | stay c => rwa [Nat.zero_add]
  | next hne hitem _ ih =>
    rw [Nat.add_right_comm]
    exact .next hne hitem (ih h')

/-- The items of a text are read as well when a sequel follows. -/
theorem follows (h : ReadsTo g s n c c') (hg : g.Local q g') (hs : s.typed = false)
    (hcd : q.Follows c.tokens d.tokens) :
    ∃ d', ReadsTo g' s n d d' ∧ q.Follows c'.tokens d'.tokens := by
  induction h generalizing d with
  | stay c => exact ⟨d, .stay d, hcd⟩
  | @next c c₁ c' n x hne hitem _ ih =>
    obtain ⟨y, d₁, hy, -, hcd₁⟩ := item_local hg hs c d hcd x c₁ hitem
    obtain ⟨d', hreads, hcd'⟩ := ih hcd₁
    refine ⟨d', .next ?_ hy hreads, hcd'⟩
    rcases hcd.front with ⟨⟨htok, -⟩, -⟩ | ⟨heof, -⟩
    · exact htok ▸ hne
    · exact absurd heof hne

end ReadsTo

end StoryExports.Script
