import StoryExports.Proofs.SequelRules

/-!
# Expressions with a sequel
-/
namespace StoryExports.Script

open Parse

variable {q : Sequel} {g g' : Grammar} {s : Scope}

/-- An access behind `?.` or not is a target all the same. -/
theorem Node.alike_access (chained : Bool) (span span' : Span) (parts parts' : List Node) :
    (Node.other span (if chained then .optionalAccess else .access) parts).Alike
      (.other span' (if chained then .optionalAccess else .access) parts') := by
  cases chained <;> rfl

theorem accessName_local : Local q (fun _ _ => True) accessName accessName := by
  unfold accessName
  refine .of_peekTok (fun c d hcd => (anyWord_asks.bind _).localAt hcd) fun t _ => ?_
  split
  · exact advance_local.bind fun _ _ _ => .pure trivial
  · exact anyWord_local.then fun _ => .pure trivial

section Operands

variable (hg : g.Local q g') (hs : s.typed = false)
include hg hs

theorem spreadable_local : Local q Node.Alike (spreadable g s) (spreadable g' s) :=
  startPos_local.bind fun _ _ _ => (eatPunct_local _).then fun _ =>
    .ite ((hg.assign hs).bind fun _ _ _ => (spanFrom_local _ _).bind fun _ _ _ => .pure rfl)
      (hg.assign hs)

theorem arguments_local :
    Local q (List.Forall₂ Node.Alike) (arguments g s) (arguments g' s) :=
  (punct_local _).then fun _ => commaList_local (spreadable_local (s := s.inner) hg hs).inside

theorem templateHoles_local (tagged : Bool) :
    Local q (fun _ _ => True) (templateHoles g s tagged) (templateHoles g' s tagged) := by
  unfold templateHoles
  refine (punct_local _).then fun _ => (repeating_local (R := fun _ _ => True)
    (S := fun _ _ => True) (fun _ _ _ => ?_) trivial).bind fun _ _ _ => .pure trivial
  refine .of_peekTok (fun _ _ _ => .of_none rfl) fun t _ => ?_
  split
  · exact advance_local.bind fun _ _ _ => .pure (.inr trivial)
  · exact advance_local.bind fun _ _ _ => (expression_local (s := s.inner) hg hs).bind fun _ _ _ =>
      (punct_local _).then fun _ => .pure (.inl trivial)
  · exact (guard_local _).then fun _ => advance_local.bind fun _ _ _ => .pure (.inl trivial)
  · exact .failure

theorem arrayLiteral_local : Local q Node.Alike (arrayLiteral g s) (arrayLiteral g' s) := by
  unfold arrayLiteral
  refine startPos_local.bind fun _ _ _ => (punct_local _).then fun _ =>
    (repeating_local (R := fun _ _ => True) (S := fun _ _ => True) (fun _ _ _ => ?_) trivial).bind
      fun _ _ _ => (spanFrom_local _ _).bind fun _ _ _ => .pure rfl
  refine (eatPunct_local _).then fun _ => .ite (.pure (.inr trivial)) ?_
  refine (eatPunct_local _).then fun _ => .ite (.pure (.inl trivial)) ?_
  refine (spreadable_local (s := s.inner) hg hs).bind fun _ _ _ =>
    (isPunct_local _).then fun _ => ?_
  exact .ite ((punct_local _).then fun _ => .pure (.inl trivial)) (.pure (.inl trivial))

theorem importExpression_local :
    Local q Node.Alike (importExpression g s) (importExpression g' s) := by
  unfold importExpression
  refine startPos_local.bind fun _ _ _ => (keyword_local _).then fun _ =>
    (eatPunct_local _).then fun _ => .ite ?_ ?_
  · exact (word_local _).then fun _ => (spanFrom_local _ _).bind fun _ _ _ => .pure rfl
  · refine (arguments_local hg hs).bind fun args args' hargs => ?_
    have hempty : args.isEmpty = args'.isEmpty := by cases hargs <;> rfl
    rw [hempty]
    exact (guard_local _).then fun _ => (spanFrom_local _ _).bind fun _ _ _ => .pure rfl

theorem parenthesized_local : Local q Node.Alike (parenthesized g s) (parenthesized g' s) :=
  startPos_local.bind fun _ _ _ => (punct_local _).then fun _ =>
    (expression_local (s := s.inner) hg hs).bind fun _ _ h => (punct_local _).then fun _ =>
    (spanFrom_local _ _).bind fun _ _ _ => .pure (h.paren _ _)

omit hg hs in
theorem primary_asks : AsksToken (primary g s) := by
  refine .startPos fun _ => .of_peekTok ?_
  exact .look (fun c => ⟨_, peekSecond_apply c⟩) fun _ => .look (fun c => ⟨_, isWord_apply _ c⟩)
    fun _ => .ite (advance_asks.bind _) (name_asks.bind _)

theorem primary_local : Local q Node.Alike (primary g s) (primary g' s) := by
  unfold primary
  refine startPos_local.bind fun start start' _ => ?_
  refine .of_peekTok (fun c d hcd => AsksToken.localAt ?_ hcd) fun t _ => ?_
  · exact .look (fun c => ⟨_, peekSecond_apply c⟩) fun _ => .look (fun c => ⟨_, isWord_apply _ c⟩)
      fun _ => .ite (advance_asks.bind _) (name_asks.bind _)
  split
  · exact advance_local.bind fun _ _ _ => (spanFrom_local _ _).bind fun _ _ _ => .pure rfl
  · exact advance_local.bind fun _ _ _ => (spanFrom_local _ _).bind fun _ _ _ => .pure rfl
  · exact advance_local.bind fun _ _ _ => (spanFrom_local _ _).bind fun _ _ _ => .pure rfl
  · exact advance_local.bind fun _ _ _ => (spanFrom_local _ _).bind fun _ _ _ => .pure rfl
  · exact advance_local.bind fun _ _ _ => (spanFrom_local _ _).bind fun _ _ _ => .pure rfl
  · exact advance_local.bind fun _ _ _ => (spanFrom_local _ _).bind fun _ _ _ => .pure rfl
  · exact advance_local.bind fun _ _ _ => (spanFrom_local _ _).bind fun _ _ _ => .pure rfl
  · exact advance_local.bind fun _ _ _ => (spanFrom_local _ _).bind fun _ _ _ => .pure rfl
  · exact advance_local.bind fun _ _ _ => .of_peekTok_eq ⟨rfl, rfl, rfl⟩ fun _ =>
      (guard_local _).then fun _ => (spanFrom_local _ _).bind fun _ _ _ => .pure rfl
  · exact advance_local.bind fun _ _ _ => (isKeyword_local (by decide)).then fun _ =>
      (guard_local _).then fun _ => (spanFrom_local _ _).bind fun _ _ _ => .pure rfl
  · exact (templateHoles_local hg hs _).bind fun _ _ _ => (spanFrom_local _ _).bind fun _ _ _ =>
      .pure rfl
  · exact arrayLiteral_local hg hs
  · exact objectLiteral_local hg hs
  · exact parenthesized_local hg hs
  · exact functionDefinition_local hg hs _
  · exact classDefinition_local hg hs _
  · exact importExpression_local hg hs
  · intro c d hcd
    refine .look (peekSecond_apply c) (peekSecond_apply d)
      (.look (isWord_apply _ c) (isWord_apply _ d) ?_)
    rw [Bool.and_assoc, Bool.and_assoc, hcd.and_second (P := (· == .name "async".toList))
      (Q := fun t => t.tok == .keyword .kwFunction && !t.freshLine) rfl ⟨rfl, rfl, rfl⟩
      fun _ _ h => h.sameLine (P := (· == .keyword .kwFunction)) rfl]
    refine Local.ite ?_ ?_ c d hcd
    · exact advance_local.bind fun _ _ _ => functionDefinition_local hg hs _
    · exact name_local.then fun _ => (spanFrom_local _ _).bind fun _ _ _ => .pure rfl

theorem constructed_local : Local q Node.Alike (constructed g s) (constructed g' s) := by
  unfold constructed
  simp only [hs, Bool.false_and, Bool.false_eq_true, if_false]
  refine startPos_local.bind fun _ _ _ => ?_
  refine Local.bind (R := Node.Alike) ((isKeyword_local (by decide)).then fun _ =>
    .ite (hg.construct hs) (primary_local hg hs)) fun _ _ h => repeating_local (fun n n' hn => ?_) h
  refine .of_peekTok_eq ⟨rfl, rfl, rfl⟩ fun t => ?_
  split
  · exact advance_local.bind fun _ _ _ => accessName_local.bind fun _ _ _ =>
      (spanFrom_local _ _).bind fun _ _ _ => .pure (.inl rfl)
  · exact advance_local.bind fun _ _ _ => (expression_local (s := s.inner) hg hs).bind fun _ _ _ =>
      (punct_local _).then fun _ => (spanFrom_local _ _).bind fun _ _ _ => .pure (.inl rfl)
  · exact (templateHoles_local hg hs _).bind fun _ _ _ => (spanFrom_local _ _).bind fun _ _ _ =>
      .pure (.inl rfl)
  · exact onFreshLine_local.bind fun _ _ _ => .pure (.inr hn)
  · exact .pure (.inr hn)
  · exact .failure
  · exact .pure (.inr hn)

omit hg hs in
theorem constructRule_asks : AsksToken (constructRule g s) :=
  .startPos fun _ => (keyword_asks _).bind _

theorem constructRule_local : Local q Node.Alike (constructRule g s) (constructRule g' s) := by
  unfold constructRule
  refine startPos_local.bind fun _ _ _ => (keyword_local _).then fun _ =>
    (eatPunct_local _).then fun _ => .ite ?_ ?_
  · exact (word_local _).then fun _ => (spanFrom_local _ _).bind fun _ _ _ => .pure rfl
  · refine (constructed_local hg hs).bind fun _ _ _ => ?_
    refine Local.bind (R := fun _ _ => True) ((isPunct_local _).then fun _ =>
      .ite ((arguments_local hg hs).mono fun _ _ _ => trivial) (.pure trivial)) fun _ _ _ => ?_
    exact (spanFrom_local _ _).bind fun _ _ _ => .pure rfl

theorem suffix_local {start start' : Nat} {n n' : Node} (hn : n.Alike n') (chained : Bool) :
    Local q (Sum.LiftRel (fun x x' => x.1.Alike x'.1 ∧ x.2 = x'.2) Node.Alike)
      (suffix g s start (n, chained)) (suffix g' s start' (n', chained)) := by
  unfold suffix
  simp only [hs, Bool.false_and, Bool.false_eq_true, if_false]
  refine .of_peekTok_eq ⟨rfl, rfl, rfl⟩ fun t => ?_
  split
  · exact advance_local.bind fun _ _ _ => accessName_local.bind fun _ _ _ =>
      (spanFrom_local _ _).bind fun _ _ _ => .pure (.inl ⟨Node.alike_access _ _ _ _ _, rfl⟩)
  · exact advance_local.bind fun _ _ _ => (expression_local (s := s.inner) hg hs).bind fun _ _ _ =>
      (punct_local _).then fun _ => (spanFrom_local _ _).bind fun _ _ _ =>
      .pure (.inl ⟨Node.alike_access _ _ _ _ _, rfl⟩)
  · refine (arguments_local hg hs).bind fun _ _ _ => (spanFrom_local _ _).bind fun _ _ _ =>
      .pure (.inl ⟨?_, rfl⟩)
    cases chained <;> rfl
  · exact (templateHoles_local hg hs _).bind fun _ _ _ => (spanFrom_local _ _).bind fun _ _ _ =>
      .pure (.inl ⟨rfl, rfl⟩)
  · refine advance_local.bind fun _ _ _ => (isPunct_local _).then fun _ => ?_
    refine .of_peekTok (fun c d hcd => AsksToken.localAt ?_ hcd) fun t _ => ?_
    · exact (AsksToken.of_peekTok (anyWord_asks.bind _)).bind _
    split
    · exact (arguments_local hg hs).bind fun _ _ _ => (spanFrom_local _ _).bind fun _ _ _ =>
        .pure (.inl ⟨rfl, rfl⟩)
    · exact advance_local.bind fun _ _ _ => (expression_local (s := s.inner) hg hs).bind
        fun _ _ _ => (punct_local _).then fun _ => (spanFrom_local _ _).bind fun _ _ _ =>
        .pure (.inl ⟨rfl, rfl⟩)
    · exact (templateHoles_local hg hs _).bind fun _ _ _ => (spanFrom_local _ _).bind fun _ _ _ =>
        .pure (.inl ⟨rfl, rfl⟩)
    · exact accessName_local.bind fun _ _ _ => (spanFrom_local _ _).bind fun _ _ _ =>
        .pure (.inl ⟨rfl, rfl⟩)
  · exact onFreshLine_local.bind fun _ _ _ => .pure (.inr hn)
  · exact .pure (.inr hn)
  · exact .pure (.inr hn)
  · exact .pure (.inr hn)

theorem operandRule_local : Local q Node.Alike (operandRule g s) (operandRule g' s) := by
  unfold operandRule
  refine startPos_local.bind fun _ _ _ => ?_
  refine Local.bind (R := Node.Alike) ((isKeyword_local (by decide)).then fun _ =>
    .ite (constructRule_local hg hs) (primary_local hg hs)) fun _ _ h => ?_
  refine repeating_local (R := fun x x' => x.1.Alike x'.1 ∧ x.2 = x'.2) ?_ ⟨h, rfl⟩
  rintro ⟨n, chained⟩ ⟨n', _⟩ ⟨hn, rfl⟩
  exact suffix_local hg hs hn chained

theorem postfixed_local : Local q Node.Alike (postfixed g s) (postfixed g' s) := by
  unfold postfixed
  refine startPos_local.bind fun _ _ _ => (operandRule_local hg hs).bind fun _ _ hn => ?_
  intro c d hcd
  refine .look (peek_apply c) (peek_apply d) ?_
  rw [hcd.front.sameLine (P := fun t => t == .punct .plusPlus || t == .punct .minusMinus) rfl]
  refine Local.ite ?_ (.pure hn) c d hcd
  rw [hn.isTarget]
  exact (guard_local _).then fun _ => advance_local.bind fun _ _ _ =>
    (spanFrom_local _ _).bind fun _ _ _ => .pure rfl

end Operands

/-! ### Operators -/

section Operators

variable (hg : g.Local q g') (hs : s.typed = false)
include hg hs

omit hg hs in
theorem operandRule_asks : AsksToken (operandRule g s) :=
  .startPos fun _ => AsksToken.bind (.look (fun c => ⟨_, isKeyword_apply _ c⟩) fun _ =>
    .ite constructRule_asks primary_asks) _

omit hg hs in
theorem postfixed_asks : AsksToken (postfixed g s) := .startPos fun _ => operandRule_asks.bind _

theorem unaryRule_local : Local q Node.Alike (unaryRule g s) (unaryRule g' s) := by
  unfold unaryRule
  simp only [hs]
  refine startPos_local.bind fun _ _ _ => ?_
  refine .of_peekTok (fun c d hcd => postfixed_asks.localAt hcd) fun t _ => ?_
  split
  case h_8 | h_9 =>
    refine advance_local.bind fun _ _ _ => (hg.unary hs).bind fun _ _ h => ?_
    rw [h.isTarget]
    exact (guard_local _).then fun _ => (spanFrom_local _ _).bind fun _ _ _ => .pure rfl
  case h_10 =>
    refine advance_local.bind fun _ _ _ => .of_peekTok_eq ⟨rfl, rfl, rfl⟩ fun _ => .ite ?_ ?_
    · exact (spanFrom_local _ _).bind fun _ _ _ => .pure rfl
    · exact (hg.unary hs).bind fun _ _ _ => (spanFrom_local _ _).bind fun _ _ _ => .pure rfl
  case h_11 => exact .failure
  case h_12 => exact postfixed_local hg hs
  all_goals
    exact advance_local.bind fun _ _ _ => (hg.unary hs).bind fun _ _ _ =>
      (spanFrom_local _ _).bind fun _ _ _ => .pure rfl

theorem binaryRest_local {start start' : Nat} {n n' : Node} (hn : n.Alike n') (level : Nat) :
    Local q (Sum.LiftRel Node.Alike Node.Alike) (binaryRest g s level start n)
      (binaryRest g' s level start' n') := by
  unfold binaryRest
  simp only [hs, Bool.false_and, Bool.false_eq_true, if_false]
  intro c d hcd
  refine .look (peek_apply c) (peek_apply d) ?_
  have hlevel : bindingLevel s (front c).tok = bindingLevel s (front d).tok := by
    rcases hcd.front with ⟨⟨htok, -⟩, -⟩ | ⟨heof, hword⟩
    · rw [htok]
    · rw [heof, hword]
      exact (q.apply_word (f := bindingLevel s) ⟨rfl, rfl, rfl⟩).symm
  rw [hlevel]
  cases bindingLevel s (front d).tok with
  | none => exact LocalAt.pure hcd (.inr hn)
  | some l =>
    simp only
    split
    · rw [hn.isBarePower]
      exact (advance_local.bind fun _ _ _ => (guard_local _).then fun _ =>
        (hg.binary hs _).bind fun _ _ _ => (spanFrom_local _ _).bind fun _ _ _ =>
        .pure (.inl rfl)) c d hcd
    · exact LocalAt.pure hcd (.inr hn)

theorem binaryRule_local (level : Nat) :
    Local q Node.Alike (binaryRule g s level) (binaryRule g' s level) :=
  startPos_local.bind fun _ _ _ => (unaryRule_local hg hs).bind fun _ _ h =>
    repeating_local (fun _ _ hn => binaryRest_local hg hs hn level) h

end Operators

/-! ### Arrow functions -/

section Arrows

variable (hg : g.Local q g') (hs : s.typed = false)
include hg hs

theorem arrowBody_local :
    Local q (fun _ _ => True) (arrowBody g s) (arrowBody g' s) :=
  (isPunct_local _).then fun _ => .ite (block_local (s := s.body false) hg hs)
    ((hg.assign (s := { s with generator := false }) hs).bind fun _ _ _ => .pure trivial)

omit hg hs in
theorem arrowMark_local : Local q Eq arrowMark arrowMark :=
  .of_onFreshLine (fun _ => .guard (punct_asks _)) fun _ => (guard_local _).then fun _ =>
    punct_local _

theorem plainArrow_local {start start' : Nat} :
    Local q Node.Alike (plainArrow g s start) (plainArrow g' s start') :=
  (arguments_local hg hs).bind fun _ _ _ => arrowMark_local.then fun _ =>
    (arrowBody_local hg hs).bind fun _ _ _ => (spanFrom_local _ _).bind fun _ _ _ => .pure rfl

theorem nameArrow_local {start start' : Nat} :
    Local q Node.Alike (nameArrow g s start) (nameArrow g' s start') :=
  startPos_local.bind fun _ _ _ => name_local.then fun _ => (spanFrom_local _ _).bind fun _ _ _ =>
    arrowMark_local.then fun _ => (arrowBody_local hg hs).bind fun _ _ _ =>
    (spanFrom_local _ _).bind fun _ _ _ => .pure rfl

theorem parenArrow?_localAt {start start' : Nat} {c d : Cursor}
    (hcd : q.Follows c.tokens d.tokens) (hopens : (front c).tok = .punct .lparen) :
    LocalAt q (Option.Rel Node.Alike) c d (parenArrow? g s start) (parenArrow? g' s start') := by
  unfold parenArrow?
  simp only [hs, Bool.false_and, Bool.false_eq_true, if_false]
  refine .look (peekAfterMatching_apply 0 c) (peekAfterMatching_apply 0 d) ?_
  have hbehind : q.Sees (behindMatching 0 c) (behindMatching 0 d) :=
    Sequel.Follows.behindMatching (n := 0) hcd (hcd.closes (by rw [hopens]; rfl))
  rw [hbehind.sameLine (P := (· == .punct .arrow)) rfl]
  exact Local.ite ((plainArrow_local hg hs).bind fun _ _ h => .pure (.some h)) (.pure .none) c d hcd

omit hg hs in
theorem front_next {c : Cursor} (h : (second c).tok ≠ .eof) : front (next c) = second c := by
  obtain ⟨_ | ⟨_, _ | ⟨_, _⟩⟩, n⟩ := c
  · exact absurd rfl h
  · exact absurd rfl h
  · rfl

theorem asyncArrow_localAt {start start' : Nat} {c d : Cursor}
    (hcd : q.Follows c.tokens d.tokens) (hopens : (second c).tok = .punct .lparen) :
    LocalAt q (Option.Rel Node.Alike) c d (do let _ ← advance; parenArrow? g s start)
      (do let _ ← advance; parenArrow? g' s start') := by
  intro a c' hrun
  obtain ⟨⟨t, c₁⟩, ht, hrun⟩ := Option.bind_eq_some_iff.mp hrun
  obtain ⟨t', d₁, ht', -, hcd₁⟩ := advance_local c d hcd t c₁ ht
  obtain ⟨-, rfl⟩ := advance_eq_some ht
  obtain ⟨b, d', hb, h⟩ := parenArrow?_localAt hg hs hcd₁
    (by rw [front_next (by simp [hopens]), hopens]) a c' hrun
  exact ⟨b, d', by rw [bind_apply, ht']; exact hb, h⟩

theorem arrow?_local : Local q (Option.Rel Node.Alike) (arrow? g s) (arrow? g' s) := by
  unfold arrow?
  simp only [hs, Bool.false_and, Bool.and_false, Bool.false_eq_true, if_false]
  refine startPos_local.bind fun _ _ _ => ?_
  intro c d hcd
  refine .look (peekTok_apply c) (peekTok_apply d) (.look (peekSecond_apply c) (peekSecond_apply d)
    (.look (peekThird_apply c) (peekThird_apply d) ?_))
  rcases hcd.front with ⟨⟨htok, -⟩, hne⟩ | ⟨heof, hword⟩
  · have hsecond := hcd.second hne
    rw [← htok, Bool.and_assoc, Bool.and_assoc, hsecond.sameLine (P := (· == .punct .arrow)) rfl]
    refine .ite (fun _ => ?_) fun _ => .ite (fun hparen => ?_) fun _ => ?_
    · exact ((nameArrow_local hg hs).bind fun _ _ h => .pure (.some h)) c d hcd
    · exact parenArrow?_localAt hg hs hcd (by simpa using hparen)
    rcases hsecond with ⟨⟨hsecond, hfresh⟩, hne'⟩ | ⟨hsecond, hword⟩
    · rw [← hsecond, ← hfresh, (hcd.third hne hne').beq_punct]
      refine .ite (fun _ => .ite (fun _ => ?_) fun _ => .ite (fun hparen => ?_) fun _ => ?_)
        fun _ => .pure hcd .none
      · exact (advance_local.bind fun _ _ _ => (nameArrow_local hg hs).bind fun _ _ h =>
          .pure (.some h)) c d hcd
      · have hopens : (second c).tok = .punct .lparen := by simpa using hparen
        have hbehind : q.Sees (behindMatching 1 c) (behindMatching 1 d) := by
          refine Sequel.Follows.behindMatching (n := 1) ?_ ?_
          · rw [List.drop_one, List.drop_one]
            exact hcd.tail hne
          · rw [List.drop_one]
            exact (hcd.tail hne).closes (c := next c) (d := next d) (by
              rw [front_next hne', hopens]
              rfl)
        refine .look (peekAfterMatching_apply 1 c) (peekAfterMatching_apply 1 d) ?_
        rw [hbehind.sameLine (P := (· == .punct .arrow)) rfl]
        exact .ite (fun _ => asyncArrow_localAt hg hs hcd hopens) fun _ => .pure hcd .none
      · exact .pure hcd .none
    · rw [hsecond, hword, q.fresh, Bool.not_true, Bool.and_false]
      cases (front c).tok == .name "async".toList && !(second c).freshLine <;>
        exact LocalAt.pure hcd .none
  · rw [heof, hword]
    rcases q.starts with hw | hw | hw <;> rw [hw] <;> exact LocalAt.pure hcd .none

end Arrows

/-! ### Assignments -/

section Assignments

variable (hg : g.Local q g') (hs : s.typed = false)
include hg hs

theorem yieldExpression_local :
    Local q Node.Alike (yieldExpression g s) (yieldExpression g' s) := by
  unfold yieldExpression
  refine startPos_local.bind fun start start' _ => (keyword_local _).then fun _ => ?_
  have hbare : Local q Node.Alike (do return .other (← spanFrom start) .yielded [])
      (do return .other (← spanFrom start') .yielded []) :=
    (spanFrom_local _ _).bind fun _ _ _ => .pure rfl
  refine .of_peek (fun e c d he hcd => ?_) fun t t' ht _ => ?_
  · rw [he, q.fresh]
    cases e.freshLine <;> exact hbare c d hcd.follows
  · rw [ht.1, ht.2]
    refine .ite hbare ?_
    exact (eatPunct_local _).then fun _ => (hg.assign hs).bind fun _ _ _ =>
      (spanFrom_local _ _).bind fun _ _ _ => .pure rfl

theorem conditional_local {start start' : Nat} {n n' : Node} (hn : n.Alike n') :
    Local q Node.Alike (conditional g s start n) (conditional g' s start' n') :=
  (eatPunct_local _).then fun _ => .ite
    ((hg.assign (s := { s with noIn := false, consequent := true }) hs).bind fun _ _ _ =>
      (punct_local _).then fun _ => (hg.assign hs).bind fun _ _ _ =>
      (spanFrom_local _ _).bind fun _ _ _ => .pure rfl)
    (.pure hn)

theorem assignRule_local : Local q Node.Alike (assignRule g s) (assignRule g' s) := by
  unfold assignRule
  refine (arrow?_local hg hs).bind ?_
  rintro _ _ (⟨h⟩ | _)
  · exact .pure h
  refine (isKeyword_local (by decide)).then fun _ => .ite (yieldExpression_local hg hs) ?_
  refine startPos_local.bind fun _ _ _ => (binaryRule_local hg hs 0).bind fun _ _ htest =>
    (conditional_local hg hs htest).bind fun _ _ hn => .of_peekTok_eq ⟨rfl, rfl, rfl⟩ fun t => ?_
  split
  · rw [hn.isTarget]
    refine .ite ?_ (.pure hn)
    exact (guard_local _).then fun _ => advance_local.bind fun _ _ _ => (hg.assign hs).bind
      fun _ _ _ => (spanFrom_local _ _).bind fun _ _ _ => .pure rfl
  · exact .pure hn

end Assignments

end StoryExports.Script
