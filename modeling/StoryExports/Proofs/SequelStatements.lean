import StoryExports.Proofs.SequelExpressions

/-!
# Statements with a sequel
-/
namespace StoryExports.Script

open Parse

variable {q : Sequel} {g g' : Grammar} {s : Scope}

/-- No word that starts a sequel is declared by `let`. -/
theorem Sequel.Sees.followsLet {t t' : Token} (h : q.Sees t t') :
    Script.followsLet t.tok = Script.followsLet t'.tok := by
  rcases h with ⟨⟨htok, -⟩, -⟩ | ⟨heof, rfl⟩
  · rw [htok]
  · rw [heof]
    exact (q.apply_word (f := Script.followsLet) ⟨rfl, rfl, rfl⟩).symm

section Statements

variable (hg : g.Local q g') (hs : s.typed = false)
include hg hs

theorem declarator_local (inHead : Bool) :
    Local q Node.Alike (declarator g s inHead) (declarator g' s inHead) := by
  unfold declarator
  simp only [hs, Bool.false_eq_true, if_false]
  refine startPos_local.bind fun _ _ _ => (hg.binding hs).bind fun n n' hn =>
    (annotation_local hs).then fun _ => (initializer?_local hg hs).bind ?_
  rintro _ _ (⟨-⟩ | _)
  · exact (spanFrom_local _ _).bind fun _ _ _ => .pure rfl
  · have hguard : Local q Eq (guard (n.isName || inHead || s.ambient) : Parse Unit)
        (guard (n'.isName || inHead || s.ambient)) := by
      rw [hn.isName]
      exact guard_local _
    exact hguard.then fun _ => (spanFrom_local _ _).bind fun _ _ _ => .pure rfl

theorem variableStatement_local {start start' : Nat} :
    Local q Node.Alike (variableStatement g s start) (variableStatement g' s start') := by
  unfold variableStatement
  refine advance_local.bind fun _ _ _ => (commaSeparated_local (declarator_local hg hs false)).bind
    fun _ _ _ => eatSemicolon_local.then fun b => ?_
  cases b with
  | true => exact (spanFrom_local _ _).bind fun _ _ _ => .pure rfl
  | false =>
    rw [hg.strict]
    exact .failure

theorem usingStatement_local {start start' : Nat} :
    Local q Node.Alike (usingStatement g s start) (usingStatement g' s start') :=
  (word_local _).then fun _ => (commaSeparated_local (declarator_local hg hs false)).bind
    fun _ _ _ => (spanFrom_local _ _).bind fun _ _ _ => .pure rfl

theorem condition_local : Local q Node.Alike (condition g s) (condition g' s) :=
  (punct_local _).then fun _ => (expression_local (s := s.inner) hg hs).bind fun _ _ h =>
    (punct_local _).then fun _ => .pure h

theorem bodyStatement_local : Local q Node.Alike (bodyStatement g s) (bodyStatement g' s) := by
  unfold bodyStatement
  intro c d hcd
  refine .look (peekSecond_apply c) (peekSecond_apply d)
    (.look (peekTok_apply c) (peekTok_apply d) ?_)
  rcases hcd.front with ⟨⟨htok, -⟩, hne⟩ | ⟨heof, -⟩
  · have hsecond := hcd.second hne
    rw [← htok]
    split
    · exact .of_none rfl
    · rw [hsecond.followsLet]
      exact ((guard_local _).then fun _ => hg.statement hs) c d hcd
    · rename_i id _
      rw [Bool.and_assoc, Bool.and_assoc, hsecond.sameLine (P := fun t => (nameOf? t).isSome) rfl]
      exact ((guard_local _).then fun _ => hg.statement hs) c d hcd
    · exact hg.statement hs c d hcd
  · rw [heof]
    exact .of_none (hg.asks.statement hs c heof)

theorem ifStatement_local {start start' : Nat} :
    Local q Node.Alike (ifStatement g s start) (ifStatement g' s start') := by
  refine (keyword_local _).then fun _ => (condition_local hg hs).bind fun _ _ _ =>
    (bodyStatement_local hg hs).bind fun _ _ _ => ?_
  refine Local.bind (R := fun _ _ => True) ((eatKeyword_local (by decide)).then fun _ =>
    .ite ((bodyStatement_local hg hs).bind fun _ _ _ => .pure trivial) (.pure trivial))
    fun _ _ _ => ?_
  exact (spanFrom_local _ _).bind fun _ _ _ => .pure rfl

theorem whileStatement_local {start start' : Nat} :
    Local q Node.Alike (whileStatement g s start) (whileStatement g' s start') :=
  advance_local.bind fun _ _ _ => (condition_local hg hs).bind fun _ _ _ =>
    (bodyStatement_local hg hs).bind fun _ _ _ => (spanFrom_local _ _).bind fun _ _ _ => .pure rfl

theorem doStatement_local {start start' : Nat} :
    Local q Node.Alike (doStatement g s start) (doStatement g' s start') :=
  (keyword_local _).then fun _ => (bodyStatement_local hg hs).bind fun _ _ _ =>
    (keyword_local _).then fun _ => (condition_local hg hs).bind fun _ _ _ =>
    (eatPunct_local _).then fun _ => (spanFrom_local _ _).bind fun _ _ _ => .pure rfl

end Statements

/-! ### Loops -/

theorem atDisposingLoop_eq (hs : s.typed = false) : atDisposingLoop s = pure false := by
  funext c
  rw [atDisposingLoop]
  simp [hs, peekTok_apply, peekSecond_apply, peekThird_apply, isKeyword_apply]

theorem isLoopTarget_eq (n : Node) : isLoopTarget n = (n.declares || isTarget n) := by
  cases n with
  | other span form parts => cases form <;> rfl
  | _ => rfl

theorem all_isLoopTarget_congr {ns ns' : List Node} (h : List.Forall₂ Node.Alike ns ns') :
    (ns.all isLoopTarget && !ns.isEmpty) = (ns'.all isLoopTarget && !ns'.isEmpty) := by
  have hall : ns.all isLoopTarget = ns'.all isLoopTarget := by
    induction h with
    | nil => rfl
    | cons hn _ ih =>
      rw [List.all_cons, List.all_cons, ih, isLoopTarget_eq, isLoopTarget_eq, hn.declares,
        hn.isTarget]
  have hempty : ns.isEmpty = ns'.isEmpty := by cases h <;> rfl
  rw [hall, hempty]

section Loops

variable (hg : g.Local q g') (hs : s.typed = false)
include hg hs

theorem forStart_local :
    Local q (List.Forall₂ Node.Alike) (forStart g s) (forStart g' s) := by
  unfold forStart
  simp only [atDisposingLoop_eq hs, pure_bind, Bool.false_eq_true, if_false]
  refine startPos_local.bind fun _ _ _ c d hcd => ?_
  refine .look (peekTok_apply c) (peekTok_apply d)
    (.look (peekSecond_apply c) (peekSecond_apply d) ?_)
  rcases hcd.front with ⟨⟨htok, -⟩, hne⟩ | ⟨heof, -⟩
  · rw [← htok, (hcd.second hne).followsLet]
    refine Local.ite ?_ (.ite (.pure .nil) ?_) c d hcd
    · exact advance_local.bind fun _ _ _ => (commaSeparated_local (declarator_local
        (s := { s.inner with noIn := true }) hg hs true)).bind fun _ _ _ =>
        (spanFrom_local _ _).bind fun _ _ _ => .pure (.cons rfl .nil)
    · exact (expression_local (s := { s.inner with noIn := true }) hg hs).bind fun _ _ h =>
        .pure (.cons h .nil)
  · rw [heof]
    exact .of_none ((expression_asks (s := { s.inner with noIn := true }) hg.asks hs).bind _ c heof)

theorem forRest_local {first first' : List Node} (h : List.Forall₂ Node.Alike first first') :
    Local q (fun _ _ => True) (forRest g s first) (forRest g' s first') := by
  unfold forRest
  rw [all_isLoopTarget_congr h]
  refine .of_peekTok_eq ⟨rfl, rfl, rfl⟩ fun t => .ite ?_ (.ite ?_ ?_)
  · exact advance_local.bind fun _ _ _ => (guard_local _).then fun _ =>
      (hg.assign (s := s.inner) hs).bind fun _ _ _ => .pure trivial
  · exact advance_local.bind fun _ _ _ => (guard_local _).then fun _ =>
      (expression_local (s := s.inner) hg hs).bind fun _ _ _ => .pure trivial
  have hpart : ∀ p, Local q (fun _ _ => True)
      (do if ← isPunct p then return [] else return [← expression g s.inner])
      (do if ← isPunct p then return [] else return [← expression g' s.inner]) := fun p =>
    (isPunct_local p).then fun _ => .ite (.pure trivial)
      ((expression_local (s := s.inner) hg hs).bind fun _ _ _ => .pure trivial)
  exact (punct_local _).then fun _ => (hpart _).bind fun _ _ _ => (punct_local _).then fun _ =>
    (hpart _).bind fun _ _ _ => .pure trivial

theorem forStatement_local {start start' : Nat} :
    Local q Node.Alike (forStatement g s start) (forStatement g' s start') :=
  (keyword_local _).then fun _ => (eatKeyword_local (by decide)).then fun _ =>
    (punct_local _).then fun _ => (forStart_local hg hs).bind fun _ _ h =>
    (forRest_local hg hs h).bind fun _ _ _ => (punct_local _).then fun _ =>
    (bodyStatement_local hg hs).bind fun _ _ _ => (spanFrom_local _ _).bind fun _ _ _ => .pure rfl

end Loops

/-! ### Other statements -/

section Others

variable (hg : g.Local q g') (hs : s.typed = false)
include hg hs

theorem switchCase_local : Local q Node.Alike (switchCase g s) (switchCase g' s) := by
  unfold switchCase
  refine startPos_local.bind fun _ _ _ => ?_
  refine Local.bind (R := fun _ _ => True) ((eatKeyword_local (by decide)).then fun _ =>
    .ite (.pure trivial) ((keyword_local _).then fun _ =>
      (expression_local (s := s.inner) hg hs).bind fun _ _ _ => .pure trivial)) fun _ _ _ => ?_
  refine (punct_local _).then fun _ => (repeating_local (R := fun _ _ => True)
    (S := fun _ _ => True) (fun _ _ _ => ?_) trivial).bind fun _ _ _ =>
    (spanFrom_local _ _).bind fun _ _ _ => .pure rfl
  refine .of_peekTok (fun c d hcd => ((hg.asks.statement hs).bind _).localAt hcd) fun t _ => ?_
  split
  · exact .pure (.inr trivial)
  · exact .pure (.inr trivial)
  · exact .pure (.inr trivial)
  · exact (hg.statement hs).bind fun _ _ _ => .pure (.inl trivial)

theorem switchStatement_local {start start' : Nat} :
    Local q Node.Alike (switchStatement g s start) (switchStatement g' s start') :=
  (keyword_local _).then fun _ => (condition_local hg hs).bind fun _ _ _ =>
    (punct_local _).then fun _ => (itemsTo_local (switchCase_local hg hs)).bind fun _ _ _ =>
    (spanFrom_local _ _).bind fun _ _ _ => .pure rfl

theorem blockNode_local : Local q Node.Alike (blockNode g s) (blockNode g' s) :=
  startPos_local.bind fun _ _ _ => (block_local hg hs).bind fun _ _ _ =>
    (spanFrom_local _ _).bind fun _ _ _ => .pure rfl

theorem catchBinding_local :
    Local q (fun _ _ => True) (catchBinding g s) (catchBinding g' s) :=
  (eatPunct_local _).then fun _ => .ite ((hg.binding hs).bind fun _ _ _ =>
    (annotation_local hs).then fun _ => (punct_local _).then fun _ => .pure trivial) (.pure trivial)

theorem tryStatement_local {start start' : Nat} :
    Local q Node.Alike (tryStatement g s start) (tryStatement g' s start') := by
  refine (keyword_local _).then fun _ => (blockNode_local hg hs).bind fun _ _ _ => ?_
  refine Local.bind (R := fun _ _ => True) ((eatKeyword_local (by decide)).then fun _ =>
    .ite ((catchBinding_local hg hs).bind fun _ _ _ => (blockNode_local hg hs).bind fun _ _ _ =>
      .pure trivial) (.pure trivial)) fun _ _ _ => ?_
  refine Local.bind (R := fun _ _ => True) ((eatKeyword_local (by decide)).then fun _ =>
    .ite ((blockNode_local hg hs).bind fun _ _ _ => .pure trivial) (.pure trivial)) fun _ _ _ => ?_
  exact (spanFrom_local _ _).bind fun _ _ _ => .pure rfl

omit hg hs in
theorem jumpStatement_local {start start' : Nat} :
    Local q Node.Alike (jumpStatement start) (jumpStatement start') := by
  refine advance_local.bind fun _ _ _ => eatSemicolon_local.then fun _ => .ite ?_ ?_
  · exact name_local.then fun _ => semicolon_local.then fun _ =>
      (spanFrom_local _ _).bind fun _ _ _ => .pure rfl
  · exact (spanFrom_local _ _).bind fun _ _ _ => .pure rfl

theorem returnStatement_local {start start' : Nat} :
    Local q Node.Alike (returnStatement g s start) (returnStatement g' s start') := by
  refine (keyword_local _).then fun _ => ?_
  refine Local.bind (R := fun _ _ => True) (atStatementEnd_local.then fun _ =>
    .ite (.pure trivial) ((expression_local (s := s.inner) hg hs).bind fun _ _ _ =>
      .pure trivial)) fun _ _ _ => ?_
  exact semicolon_local.then fun _ => (spanFrom_local _ _).bind fun _ _ _ => .pure rfl

theorem throwStatement_local {start start' : Nat} :
    Local q Node.Alike (throwStatement g s start) (throwStatement g' s start') := by
  refine (keyword_local _).then fun _ => .of_onFreshLine (fun _ => .guard ?_) fun _ => ?_
  · exact (expression_asks (s := s.inner) hg.asks hs).bind _
  · exact (guard_local _).then fun _ => (expression_local (s := s.inner) hg hs).bind fun _ _ _ =>
      semicolon_local.then fun _ => (spanFrom_local _ _).bind fun _ _ _ => .pure rfl

theorem expressionStatement_local {start start' : Nat} :
    Local q Node.Alike (expressionStatement g s start) (expressionStatement g' s start') :=
  (expression_local (s := s.inner) hg hs).bind fun _ _ _ => semicolon_local.then fun _ =>
    (spanFrom_local _ _).bind fun _ _ _ => .pure rfl

theorem labelledStatement_local {start start' : Nat} :
    Local q Node.Alike (labelledStatement g s start) (labelledStatement g' s start') :=
  name_local.then fun _ => (punct_local _).then fun _ => (bodyStatement_local hg hs).bind
    fun _ _ _ => (spanFrom_local _ _).bind fun _ _ _ => .pure rfl

end Others

/-! ### Declarations

Where a text ends, no declaration stands, but the sequel may be one. -/

theorem opening?_eq (hs : s.typed = false) : opening? s = pure none := by
  unfold opening?
  simp [hs]

theorem Sequel.Sees.asyncFunction {t t' : Token} (h : q.Sees t t') :
    (t.tok == .keyword .kwFunction && !t.freshLine) =
      (t'.tok == .keyword .kwFunction && !t'.freshLine) :=
  h.sameLine (P := (· == .keyword .kwFunction)) rfl

theorem declaration?_atEnd (hs : s.typed = false) {c : Cursor} (hc : AtEnd c) :
    declaration? g s c = some (none, c) := by
  have heof : (front c).tok = .eof := hc
  unfold declaration?
  simp [opening?_eq hs, startPos, peek_apply, peekTok_apply, peekSecond_apply, isWord_apply, heof]

theorem disposal?_atEnd {c : Cursor} (hc : AtEnd c) : disposal? g s c = some (none, c) := by
  have heof : (front c).tok = .eof := hc
  unfold disposal?
  simp [startPos, peek_apply, peekThird_apply, peekSecond_apply, isWord_apply, isKeyword_apply,
    heof]

theorem statementRule_asks (hasks : g.Asks) (hs : s.typed = false) :
    AsksToken (statementRule g s) := by
  refine .startPos fun _ => .of_peekTok (.stays (fun _ => declaration?_atEnd hs)
    (.stays (fun _ => disposal?_atEnd) (.look (fun c => ⟨_, isName_apply c⟩) fun _ =>
    .look (fun c => ⟨_, peekSecond_apply c⟩) fun _ => .ite (name_asks.bind _) ?_)))
  exact (expression_asks (s := s.inner) hasks hs).bind _

section Declarations

variable (hg : g.Local q g') (hs : s.typed = false)
include hg hs

theorem declaration?_localAt {c d : Cursor} (hcd : q.Follows c.tokens d.tokens)
    (hne : (front c).tok ≠ .eof) :
    LocalAt q (Option.Rel Node.Alike) c d (declaration? g s) (declaration? g' s) := by
  unfold declaration?
  simp only [opening?_eq hs, pure_bind]
  refine .look (startPos_apply c) (startPos_apply d) (.look (peekSecond_apply c)
    (peekSecond_apply d) (.look (peekTok_apply c) (peekTok_apply d) ?_))
  obtain ⟨⟨htok, -⟩, -⟩ | ⟨heof, -⟩ := hcd.front
  · have hsecond := hcd.second hne
    have hvariables : Local q (Option.Rel Node.Alike)
        (do return some (← variableStatement g s (front c).span.start))
        (do return some (← variableStatement g' s (front d).span.start)) :=
      (variableStatement_local hg hs).bind fun _ _ h => .pure (.some h)
    rw [← htok]
    split
    · exact ((functionDefinition_local hg hs _).bind fun _ _ h => .pure (.some h)) c d hcd
    · exact ((classDefinition_local hg hs _).bind fun _ _ h => .pure (.some h)) c d hcd
    · exact hvariables c d hcd
    · exact hvariables c d hcd
    · rw [hsecond.followsLet]
      exact Local.ite hvariables (.pure .none) c d hcd
    · refine .look (isWord_apply _ c) (isWord_apply _ d) ?_
      rw [← htok, Bool.and_assoc, Bool.and_assoc, hsecond.asyncFunction]
      exact Local.ite (advance_local.bind fun _ _ _ => (functionDefinition_local hg hs _).bind
        fun _ _ h => .pure (.some h)) (.pure .none) c d hcd
  · exact absurd heof hne

theorem disposal?_local : Local q (Option.Rel Node.Alike) (disposal? g s) (disposal? g' s) := by
  unfold disposal?
  refine startPos_local.bind fun start start' _ c d hcd => ?_
  refine .look (peekSecond_apply c) (peekSecond_apply d) (.look (peekThird_apply c)
    (peekThird_apply d) (.look (isWord_apply _ c) (isWord_apply _ d)
    (.look (isKeyword_apply _ c) (isKeyword_apply _ d) ?_)))
  have husing : Local q (Option.Rel Node.Alike) (do return some (← usingStatement g s start))
      (do return some (← usingStatement g' s start')) :=
    (usingStatement_local hg hs).bind fun _ _ h => .pure (.some h)
  rcases hcd.front with ⟨⟨htok, -⟩, hne⟩ | ⟨heof, hword⟩
  · have hawaited : ((front c).tok == .keyword .kwAwait && (second c).tok == .name "using".toList &&
        (nameOf? (third c).tok).isSome && !(third c).freshLine) =
        ((front c).tok == .keyword .kwAwait && (second d).tok == .name "using".toList &&
          (nameOf? (third d).tok).isSome && !(third d).freshLine) := by
      rcases hcd.second hne with ⟨⟨hsecond, -⟩, hne'⟩ | ⟨hsecond, hword⟩
      · rw [← hsecond, Bool.and_assoc, Bool.and_assoc _ (nameOf? (third d).tok).isSome,
          (hcd.third hne hne').sameLine (P := fun t => (nameOf? t).isSome) rfl]
      · have hother : (q.word.tok == .name "using".toList) = false :=
          beq_false_of_ne (q.word_ne (by simp))
        rw [hsecond, hword, hother]
        simp
    have hplain : ((front c).tok == .name "using".toList && (nameOf? (second c).tok).isSome &&
        !(second c).freshLine) = ((front c).tok == .name "using".toList &&
          (nameOf? (second d).tok).isSome && !(second d).freshLine) := by
      rw [Bool.and_assoc, Bool.and_assoc,
        (hcd.second hne).sameLine (P := fun t => (nameOf? t).isSome) rfl]
    rw [← htok, hplain, hawaited]
    refine Local.ite (advance_local.bind fun _ _ _ => ?_) ?_ c d hcd
    · exact .ite husing (.pure .none)
    · exact .ite husing (.pure .none)
  · rw [heof, hword]
    rcases q.starts with hw | hw | hw <;> rw [hw] <;> exact LocalAt.pure hcd .none

theorem statementRule_local : Local q Node.Alike (statementRule g s) (statementRule g' s) := by
  intro c d hcd
  rcases hcd.front with ⟨⟨htok, -⟩, hne⟩ | ⟨heof, -⟩
  · unfold statementRule
    refine .look (startPos_apply c) (startPos_apply d)
      (.look (peekTok_apply c) (peekTok_apply d) ?_)
    rw [← htok]
    split
    · exact (advance_local c d hcd).bind fun _ _ _ =>
        (spanFrom_local _ _).bind fun _ _ _ => .pure rfl
    · exact blockNode_local hg hs c d hcd
    · exact ifStatement_local hg hs c d hcd
    · exact forStatement_local hg hs c d hcd
    · exact whileStatement_local hg hs c d hcd
    · exact whileStatement_local hg hs c d hcd
    · exact doStatement_local hg hs c d hcd
    · exact switchStatement_local hg hs c d hcd
    · exact tryStatement_local hg hs c d hcd
    · exact jumpStatement_local c d hcd
    · exact jumpStatement_local c d hcd
    · exact returnStatement_local hg hs c d hcd
    · exact throwStatement_local hg hs c d hcd
    · exact (advance_local c d hcd).bind fun _ _ _ => semicolon_local.then fun _ =>
        (spanFrom_local _ _).bind fun _ _ _ => .pure rfl
    refine (declaration?_localAt hg hs hcd hne).bind ?_
    rintro _ _ (⟨h⟩ | _)
    · exact .pure h
    refine (disposal?_local hg hs).bind ?_
    rintro _ _ (⟨h⟩ | _)
    · exact .pure h
    intro c d hcd
    refine .look (isName_apply c) (isName_apply d)
      (.look (peekSecond_apply c) (peekSecond_apply d) ?_)
    rw [hcd.and_second (P := fun t => (nameOf? t).isSome) (Q := (·.tok == .punct .colon)) rfl
      ⟨rfl, rfl, rfl⟩ fun _ _ h => h.beq_punct _]
    exact Local.ite (labelledStatement_local hg hs) (expressionStatement_local hg hs) c d hcd
  · exact .of_none (statementRule_asks hg.asks hs c heof)

end Declarations

end StoryExports.Script
